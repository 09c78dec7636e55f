import SocksGateway.Config.Basic

/-!
Which configurations are valid. Every check is passed exactly under the condition that it asks for, and
the whole by those configurations that meet all conditions.
-/

set_option autoImplicit false

namespace SocksGateway

/-! ## Checks in sequence -/

namespace Check

variable {ε α β : Type}

theorem throw_eq_error (failure : ε) : (throw failure : Except ε α) = .error failure := rfl

theorem error_bind (failure : ε) (next : α → Except ε β) :
    (Except.error failure >>= next) = .error failure := rfl

theorem bind_eq_ok_iff {first : Except ε α} {next : α → Except ε β} {result : β} :
    (first >>= next) = .ok result ↔ ∃ value, first = .ok value ∧ next value = .ok result := by
  cases first with
  | error failure =>
    refine iff_of_false nofun ?_
    rintro ⟨_, ⟨⟩, _⟩
  | ok value =>
    constructor
    · intro passed
      exact ⟨value, rfl, passed⟩
    · rintro ⟨_, ⟨⟩, passed⟩
      exact passed

/-- A step without a value, and what comes behind it. -/
theorem then_eq_ok_iff {first : Except ε Unit} {next : Unit → Except ε β} {result : β} :
    (first >>= next) = .ok result ↔ first = .ok () ∧ next () = .ok result := by
  rw [bind_eq_ok_iff]
  exact ⟨fun ⟨_, passed⟩ => passed, fun passed => ⟨(), passed⟩⟩

/-- A condition that is refused. -/
theorem ite_error_eq_ok_iff {condition : Prop} [Decidable condition] {failure : ε}
    {rest : Except ε α} {result : α} :
    (if condition then .error failure else rest) = .ok result ↔
      ¬ condition ∧ rest = .ok result := by
  split
  · rename_i held
    exact iff_of_false nofun fun passed => passed.1 held
  · rename_i unmet
    exact (and_iff_right unmet).symm

theorem pure_eq_ok_iff {value result : α} :
    (pure value : Except ε α) = .ok result ↔ value = result :=
  ⟨Except.ok.inj, congrArg Except.ok⟩

theorem mapError_eq_ok_iff {given : Except ε α} {change : ε → β} {result : α} :
    given.mapError change = .ok result ↔ given = .ok result := by
  cases given with
  | error failure => exact iff_of_false nofun nofun
  | ok value =>
    unfold Except.mapError
    rw [Except.ok.injEq, Except.ok.injEq]

end Check

open Check

/-! ## Servers and listeners -/

theorem ServerOptions.validate_eq_ok_iff {options : ServerOptions} :
    options.validate = .ok () ↔
      0 < options.idleTimeout ∧ 0 < options.connectTimeout ∧ 0 < options.handshakeTimeout := by
  simp only [validate, throw_eq_error, error_bind, ite_error_eq_ok_iff, pure_eq_ok_iff,
    Nat.pos_iff_ne_zero, and_true, ne_eq]

theorem TlsOptions.validate_eq_ok_iff {options : TlsOptions} :
    options.validate = .ok () ↔
      (options.isEnabled = true → options.certificatePath.isSome ∧ options.keyPath.isSome) := by
  unfold validate
  split
  · rename_i enabled
    simp only [throw_eq_error, error_bind, ite_error_eq_ok_iff, Option.isNone_iff_eq_none,
      Option.isSome_iff_ne_none, pure_eq_ok_iff, and_true, enabled, forall_const, ne_eq]
  · rename_i disabled
    exact iff_of_true rfl fun enabled => absurd enabled disabled

namespace ListenerOptions

/-- The conditions on a listener. -/
structure IsValid (options : ListenerOptions) : Prop where
  isNamed : Text.isBlank options.name = false
  isAddressed : ∃ ip, options.bindIp = .ok ip
  hasMethod : options.methods ≠ []
  knowsMethods : ∀ method ∈ options.methods, method ≤ 2
  hasPorts : options.mode = .split →
    ∃ ports, options.splitPorts = some ports ∧ ports.read ≠ ports.write
  hasKeys : options.tls.isEnabled = true →
    options.tls.certificatePath.isSome ∧ options.tls.keyPath.isSome

variable {options : ListenerOptions}

theorem validateMethods_eq_ok_iff :
    options.validateMethods = .ok () ↔
      options.methods ≠ [] ∧ ∀ method ∈ options.methods, method ≤ 2 := by
  simp only [validateMethods, throw_eq_error, error_bind, ite_error_eq_ok_iff]
  apply and_congr_right
  intro _
  split
  · rename_i method found
    refine iff_of_false nofun ?_
    intro allKnown
    have unknown := List.find?_some found
    rw [decide_eq_true_eq] at unknown
    exact UInt8.not_le.mpr unknown (allKnown method (List.mem_of_find?_eq_some found))
  · rename_i missing
    refine iff_of_true rfl ?_
    intro method member
    have known := List.find?_eq_none.mp missing method member
    rw [decide_eq_true_eq] at known
    exact UInt8.not_lt.mp known

theorem validatePorts_eq_ok_iff :
    options.validatePorts = .ok () ↔ (options.mode = .split →
      ∃ ports, options.splitPorts = some ports ∧ ports.read ≠ ports.write) := by
  unfold validatePorts
  split
  · rename_i standard
    exact iff_of_true rfl fun split => absurd (standard.symm.trans split) nofun
  · rename_i split missing
    refine iff_of_false nofun ?_
    intro given
    obtain ⟨ports, present, _⟩ := given split
    exact absurd (missing.symm.trans present) nofun
  · rename_i ports split given
    rw [ite_error_eq_ok_iff]
    constructor
    · rintro ⟨differ, _⟩ _
      exact ⟨ports, given, differ⟩
    · intro held
      obtain ⟨others, present, differ⟩ := held split
      cases given.symm.trans present
      exact ⟨differ, rfl⟩

theorem validate_eq_ok_iff : options.validate = .ok () ↔ options.IsValid := by
  -- before the lemma on steps with a value, which matches the others too
  simp only [validate, throw_eq_error, error_bind, ite_error_eq_ok_iff, ↓then_eq_ok_iff,
    bind_eq_ok_iff, mapError_eq_ok_iff, Bool.not_eq_true, exists_and_right,
    validateMethods_eq_ok_iff, validatePorts_eq_ok_iff, TlsOptions.validate_eq_ok_iff]
  constructor
  · rintro ⟨isNamed, isAddressed, ⟨hasMethod, knowsMethods⟩, hasPorts, hasKeys⟩
    exact ⟨isNamed, isAddressed, hasMethod, knowsMethods, hasPorts, hasKeys⟩
  · rintro ⟨isNamed, isAddressed, hasMethod, knowsMethods, hasPorts, hasKeys⟩
    exact ⟨isNamed, isAddressed, ⟨hasMethod, knowsMethods⟩, hasPorts, hasKeys⟩

end ListenerOptions

/-! ## Whole configurations -/

namespace Configuration

/-- No name is that of an earlier listener or one that was seen before. -/
theorem validateListeners_eq_ok_iff {listeners : List ListenerOptions} {seen : List String} :
    validateListeners seen listeners = .ok () ↔
      (∀ options ∈ listeners, options.IsValid) ∧
        (listeners.map fun options => Text.lower options.name).Nodup ∧
          ∀ options ∈ listeners, Text.lower options.name ∉ seen := by
  induction listeners generalizing seen with
  | nil => exact iff_of_true rfl ⟨nofun, .nil, nofun⟩
  | cons first rest ih =>
    unfold validateListeners
    simp only [then_eq_ok_iff, throw_eq_error, error_bind, ite_error_eq_ok_iff, ih,
      ListenerOptions.validate_eq_ok_iff, List.contains_iff_mem, List.mem_cons,
      forall_eq_or_imp, List.map_cons, List.nodup_cons, List.mem_map, not_or]
    constructor
    · rintro ⟨valid, unseen, others, distinct, apart⟩
      refine ⟨⟨valid, others⟩, ⟨?_, distinct⟩, unseen, fun options member => (apart options member).2⟩
      rintro ⟨options, member, same⟩
      exact (apart options member).1 same
    · rintro ⟨⟨valid, others⟩, ⟨fresh, distinct⟩, unseen, apart⟩
      refine ⟨valid, unseen, others, distinct, fun options member => ⟨?_, apart options member⟩⟩
      intro same
      exact fresh ⟨options, member, same⟩

theorem validate_eq_ok_iff {config : Configuration} :
    config.validate = .ok () ↔
      (0 < config.server.idleTimeout ∧ 0 < config.server.connectTimeout ∧
        0 < config.server.handshakeTimeout) ∧
      config.listeners ≠ [] ∧ (∀ options ∈ config.listeners, options.IsValid) ∧
        (config.listeners.map fun options => Text.lower options.name).Nodup := by
  simp only [validate, then_eq_ok_iff, throw_eq_error, error_bind, ite_error_eq_ok_iff,
    ServerOptions.validate_eq_ok_iff, validateListeners_eq_ok_iff, List.not_mem_nil,
    not_false_eq_true, implies_true, and_true]

/-- The text has the form of this configuration, valid or not. -/
def IsWritten (text : String) (config : Configuration) : Prop :=
  (Document.Toml.parse? text).bind (ofValue? Document.Toml.dialect) = some config

instance (text : String) (config : Configuration) : Decidable (IsWritten text config) :=
  inferInstanceAs (Decidable (_ = some config))

theorem parse_eq_ok_iff {text : String} {config : Configuration} :
    parse text = .ok config ↔ IsWritten text config ∧ config.validate = .ok () := by
  unfold parse IsWritten
  cases (Document.Toml.parse? text).bind (ofValue? Document.Toml.dialect) with
  | none => exact iff_of_false nofun fun held => absurd held.1 nofun
  | some given =>
    dsimp only
    cases checked : given.validate with
    | error reason =>
      refine iff_of_false nofun ?_
      rintro ⟨⟨⟩, passed⟩
      exact absurd (checked.symm.trans passed) nofun
    | ok _ =>
      constructor
      · rintro ⟨⟩
        exact ⟨rfl, checked⟩
      · rintro ⟨⟨⟩, _⟩
        rfl

end Configuration

end SocksGateway
