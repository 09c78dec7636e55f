import SocksGateway.Proofs.Config.Validity
import SocksGateway.Proofs.Socks5.Selection
import SocksGateway.Server.Services

/-!
What the gateway relies on when it brings its listeners up. A configuration is accepted exactly if it
has all of this. Only the limits on connections are not looked at: with one that no limiter counts, the
gateway breaks off.
-/

set_option autoImplicit false

namespace SocksGateway

open Check

/-! ## One listener -/

theorem Text.isBlank_eq_false_iff {text : String} :
    isBlank text = false ↔ ∃ char ∈ text.toList, blank.contains char = false := by
  rw [isBlank, List.all_eq_false]
  simp only [Bool.not_eq_true]

namespace Socks5.Authenticator

/-- Each of the three methods is registered. -/
def IsComplete (registered : List Authenticator) : Prop :=
  ∀ number ≤ 2, number ∈ registered.map method

/-- One authenticator for each method. -/
def three : List Authenticator := [.none, .gss .refused, .password fun _ _ => false]

theorem mem_three_iff {number : UInt8} : number ∈ three.map method ↔ number ≤ 2 := by
  have listed : number ∈ three.map method ↔ number = 0 ∨ number = 1 ∨ number = 2 := by
    simp only [three, List.map_cons, List.map_nil, method, List.mem_cons, List.not_mem_nil, or_false]
  simp only [listed, UInt8.le_iff_toNat_le, ← UInt8.toNat_inj, UInt8.reduceToNat]
  omega

end Socks5.Authenticator

namespace ListenerOptions

/-- What bringing a listener up relies on. -/
structure IsReady (options : ListenerOptions) : Prop where
  isNamed : ∃ char ∈ options.name.toList, Text.blank.contains char = false
  hasEndpoints : ∃ ip, ∀ port, options.endpoint port = .ok ⟨ip, port⟩
  hasDoors : ∃ doors, options.doors = .ok doors
  isApart : ∀ ports, options.mode = .split → options.splitPorts = some ports →
    ports.read ≠ ports.write
  hasKeys : options.tls.isEnabled = true →
    options.tls.certificatePath.isSome ∧ options.tls.keyPath.isSome
  /-- Where every method is registered, those of the options are offered, each once. -/
  hasMethods : ∀ registered, Socks5.Authenticator.IsComplete registered → ∀ chain,
    let methods := (Socks5.Service.ofRegistered registered options.methods chain).methods
    methods ≠ [] ∧ methods.Pairwise (· < ·) ∧ ∀ number, number ∈ methods ↔ number ∈ options.methods

variable {options : ListenerOptions}

theorem endpoint_eq_ok_iff {port : UInt16} {endpoint : Endpoint} :
    options.endpoint port = .ok endpoint ↔ ∃ ip, options.bindIp = .ok ip ∧ ⟨ip, port⟩ = endpoint := by
  simp only [ListenerOptions.endpoint, bind_eq_ok_iff, pure_eq_ok_iff]

theorem endpointOrFailure_of_bindIp {ip : Ip} (found : options.bindIp = .ok ip) (port : UInt16) :
    options.endpointOrFailure port = .ok ⟨ip, port⟩ :=
  mapError_eq_ok_iff.mpr (endpoint_eq_ok_iff.mpr ⟨ip, found, rfl⟩)

/-- No door is missing where there is an address, and a port for each. -/
theorem exists_doors {ip : Ip} (found : options.bindIp = .ok ip)
    (hasPorts : options.mode = .split → ∃ ports, options.splitPorts = some ports) :
    ∃ doors, options.doors = .ok doors := by
  unfold doors
  split
  · rw [endpointOrFailure_of_bindIp found]
    exact ⟨_, rfl⟩
  · rw [endpointOrFailure_of_bindIp found, endpointOrFailure_of_bindIp found]
    exact ⟨_, rfl⟩
  · rename_i split missing
    obtain ⟨ports, present⟩ := hasPorts split
    exact absurd (missing.symm.trans present) nofun

theorem exists_ports {doors : Doors} (opened : options.doors = .ok doors)
    (split : options.mode = .split) : ∃ ports, options.splitPorts = some ports := by
  cases given : options.splitPorts with
  | some ports => exact ⟨ports, rfl⟩
  | none =>
    rw [ListenerOptions.doors, split, given] at opened
    exact absurd opened nofun

/-- The methods that a complete registration offers, for any that are known. -/
theorem IsValid.hasMethods (valid : options.IsValid) {registered : List Socks5.Authenticator}
    (complete : Socks5.Authenticator.IsComplete registered) (chain : Socks5.Chain) :
    let methods := (Socks5.Service.ofRegistered registered options.methods chain).methods
    methods ≠ [] ∧ methods.Pairwise (· < ·) ∧
      ∀ number, number ∈ methods ↔ number ∈ options.methods := by
  intro methods
  have same (number : UInt8) : number ∈ methods ↔ number ∈ options.methods :=
    Socks5.Authenticator.mem_map_offering_iff.trans
      (and_iff_right_of_imp fun isAllowed => complete number (valid.knowsMethods number isAllowed))
  refine ⟨?_, Socks5.Authenticator.ascending_offering registered options.methods, same⟩
  intro empty
  obtain ⟨number, isAllowed⟩ := List.exists_mem_of_ne_nil _ valid.hasMethod
  exact absurd ((same number).mpr isAllowed) (empty ▸ List.not_mem_nil)

theorem isReady_iff_isValid : options.IsReady ↔ options.IsValid := by
  constructor
  · intro ready
    obtain ⟨notEmpty, _, same⟩ := ready.hasMethods Socks5.Authenticator.three
      (fun _ => Socks5.Authenticator.mem_three_iff.mpr) default
    exact {
      isNamed := Text.isBlank_eq_false_iff.mpr ready.isNamed
      isAddressed := by
        obtain ⟨ip, endpoints⟩ := ready.hasEndpoints
        obtain ⟨given, found, _⟩ := endpoint_eq_ok_iff.mp (endpoints 0)
        exact ⟨given, found⟩
      hasMethod := by
        intro none
        obtain ⟨number, member⟩ := List.exists_mem_of_ne_nil _ notEmpty
        exact absurd ((same number).mp member) (none ▸ List.not_mem_nil)
      knowsMethods := by
        intro number isAllowed
        have member := (same number).mpr isAllowed
        have registered := (Socks5.Authenticator.mem_map_offering_iff.mp member).1
        exact Socks5.Authenticator.mem_three_iff.mp registered
      hasPorts := by
        intro split
        obtain ⟨doors, opened⟩ := ready.hasDoors
        obtain ⟨ports, given⟩ := exists_ports opened split
        exact ⟨ports, given, ready.isApart ports split given⟩
      hasKeys := ready.hasKeys }
  · intro valid
    obtain ⟨ip, found⟩ := valid.isAddressed
    exact {
      isNamed := Text.isBlank_eq_false_iff.mp valid.isNamed
      hasEndpoints := ⟨ip, fun port => endpoint_eq_ok_iff.mpr ⟨ip, found, rfl⟩⟩
      hasDoors := exists_doors found fun split => (valid.hasPorts split).imp fun _ => And.left
      isApart := by
        intro ports split given
        obtain ⟨others, present, differ⟩ := valid.hasPorts split
        cases given.symm.trans present
        exact differ
      hasKeys := valid.hasKeys
      hasMethods := fun _ => valid.hasMethods }

/-- There is a limiter for the listener's limit. -/
def HasLimiter (options : ListenerOptions) : Prop :=
  (Limiter.ofLimit? options.maxConnections).isSome

theorem hasLimiter_iff : options.HasLimiter ↔ options.maxConnections ≤ Limiter.largest := by
  unfold HasLimiter Limiter.ofLimit?
  split
  · rename_i counted
    exact iff_of_true rfl counted
  · rename_i uncounted
    exact iff_of_false nofun uncounted

/-- Without encryption a listener is described, unless the gateway breaks off at its limit. -/
theorem IsReady.exists_listener (ready : options.IsReady) (plain : options.tls.isEnabled = false)
    (services : Services) (server : ServerOptions) :
    ∃ outcome, (Listener.ofOptions services server options).run = .ok outcome ∧
      (outcome.isSome ↔ options.HasLimiter) := by
  obtain ⟨doors, opened⟩ := ready.hasDoors
  have unencrypted : options.checkTls = .ok () := by
    rw [checkTls, plain]
    rfl
  unfold Listener.ofOptions HasLimiter
  rw [unencrypted, opened]
  cases Limiter.ofLimit? options.maxConnections with
  | none => exact ⟨_, rfl, iff_of_false nofun nofun⟩
  | some limiter => exact ⟨_, rfl, iff_of_true rfl rfl⟩

end ListenerOptions

/-! ## All listeners -/

/-- Steps that do not fail come through all items, or break off at the first that does not pass. -/
theorem Check.exists_mapM {ε α β : Type} {step : α → OptionT (Except ε) β} {passes : α → Prop}
    {items : List α}
    (each : ∀ item ∈ items, ∃ outcome, (step item).run = .ok outcome ∧
      (outcome.isSome ↔ passes item)) :
    ∃ outcome, (items.mapM step).run = .ok outcome ∧
      (outcome.isSome ↔ ∀ item ∈ items, passes item) := by
  induction items with
  | nil => exact ⟨some [], rfl, iff_of_true rfl nofun⟩
  | cons first rest ih =>
    obtain ⟨here, ran, passed⟩ := each first List.mem_cons_self
    obtain ⟨others, followed, continued⟩ := ih fun item member =>
      each item (List.mem_cons_of_mem _ member)
    rw [List.mapM_cons, OptionT.run_bind, ran]
    cases here with
    | none =>
      refine ⟨none, rfl, iff_of_false nofun ?_⟩
      intro all
      exact absurd (passed.mpr (all first List.mem_cons_self)) nofun
    | some result =>
      refine ⟨others.map (result :: ·), ?_, ?_⟩
      · change (rest.mapM step >>= fun others => pure (result :: others)).run = _
        rw [OptionT.run_bind, followed]
        cases others <;> rfl
      · rw [Option.isSome_map, continued, List.forall_mem_cons]
        exact (and_iff_right (passed.mp rfl)).symm

namespace Configuration

/-- What bringing the whole gateway up relies on. -/
structure IsReady (config : Configuration) : Prop where
  hasTimeouts : 0 < config.server.idleTimeout ∧ 0 < config.server.connectTimeout ∧
    0 < config.server.handshakeTimeout
  hasListeners : config.listeners ≠ []
  areReady : ∀ options ∈ config.listeners, options.IsReady
  areDistinct : (config.listeners.map fun options => Text.lower options.name).Nodup

variable {config : Configuration}

theorem validate_eq_ok_iff_isReady : config.validate = .ok () ↔ config.IsReady := by
  rw [validate_eq_ok_iff]
  constructor
  · rintro ⟨hasTimeouts, hasListeners, areValid, areDistinct⟩
    exact ⟨hasTimeouts, hasListeners,
      fun options member => ListenerOptions.isReady_iff_isValid.mpr (areValid options member),
      areDistinct⟩
  · rintro ⟨hasTimeouts, hasListeners, areReady, areDistinct⟩
    exact ⟨hasTimeouts, hasListeners,
      fun options member => ListenerOptions.isReady_iff_isValid.mp (areReady options member),
      areDistinct⟩

/-- Accepted is what is written and ready. It has a limiter for each listener exactly if no limit is
larger than the largest; unless one of them is encrypted, all listeners are then described, and the
gateway breaks off otherwise. -/
theorem parse_eq_ok_iff_isReady (text : String) (config : Configuration) :
    (parse text = .ok config ↔ IsWritten text config ∧ config.IsReady) ∧
      (parse text = .ok config →
        ((∀ options ∈ config.listeners, options.HasLimiter) ↔
          ∀ options ∈ config.listeners, options.maxConnections ≤ Limiter.largest) ∧
        ∀ services, (∀ options ∈ config.listeners, options.tls.isEnabled = false) →
          ∃ outcome, (config.listeners.mapM (Listener.ofOptions services config.server)).run =
              .ok outcome ∧
            (outcome.isSome ↔ ∀ options ∈ config.listeners, options.HasLimiter)) := by
  have accepted : parse text = .ok config ↔ IsWritten text config ∧ config.IsReady := by
    rw [parse_eq_ok_iff, validate_eq_ok_iff_isReady]
  refine ⟨accepted, fun parsed => ⟨?_, fun services arePlain => ?_⟩⟩
  · simp only [ListenerOptions.hasLimiter_iff]
  · have ready := (accepted.mp parsed).2
    apply exists_mapM
    intro options member
    exact (ready.areReady options member).exists_listener (arePlain options member) services _

/-- One listener with this limit, in writing. -/
def doorText (limit : String) : String :=
  "[[listeners]]\nname = \"main\"\nport = 0\nmax_connections = " ++ limit ++ "\n"

/-- One listener with this limit. -/
def door (limit : Nat) : Configuration :=
  { listeners := [{ name := "main", port := 0, maxConnections := limit }] }

theorem validate_door (limit : Nat) : (door limit).validate = .ok () := by
  cbv

theorem parse_doorText {text : String} {limit : Nat}
    (written : IsWritten (doorText text) (door limit)) :
    parse (doorText text) = .ok (door limit) :=
  parse_eq_ok_iff.mpr ⟨written, validate_door limit⟩

/-- With the largest limit a gateway comes up. -/
theorem parse_eq_ok_iff_isReady_largest :
    parse (doorText "2305843009213693951") = .ok (door Limiter.largest) ∧
      (door Limiter.largest).IsReady ∧
      (∀ options ∈ (door Limiter.largest).listeners, options.tls.isEnabled = false) ∧
      (∀ options ∈ (door Limiter.largest).listeners, options.HasLimiter) ∧
      ∀ services, ∃ listeners,
        ((door Limiter.largest).listeners.mapM
          (Listener.ofOptions services (door Limiter.largest).server)).run = .ok (some listeners) := by
  obtain ⟨accepted, broughtUp⟩ :=
    parse_eq_ok_iff_isReady (doorText "2305843009213693951") (door Limiter.largest)
  have parsed : parse (doorText "2305843009213693951") = .ok (door Limiter.largest) :=
    parse_doorText (by decide +kernel)
  have plain : ∀ options ∈ (door Limiter.largest).listeners, options.tls.isEnabled = false := by
    decide
  obtain ⟨limits, comesUp⟩ := broughtUp parsed
  have hasLimiters := limits.mpr (by decide)
  refine ⟨parsed, (accepted.mp parsed).2, plain, hasLimiters, fun services => ?_⟩
  obtain ⟨outcome, ran, passed⟩ := comesUp services plain
  obtain ⟨listeners, rfl⟩ := Option.isSome_iff_exists.mp (passed.mpr hasLimiters)
  exact ⟨listeners, ran⟩

/-- With the limit behind it the configuration is accepted, and there is no listener. -/
theorem not_hasLimiter_vast :
    parse (doorText "2305843009213693952") = .ok (door 2305843009213693952) ∧
      (∃ options ∈ (door 2305843009213693952).listeners, ¬ options.HasLimiter) ∧
      ∀ services, ((door 2305843009213693952).listeners.mapM
        (Listener.ofOptions services (door 2305843009213693952).server)).run = .ok none := by
  refine ⟨parse_doorText (by decide +kernel), ⟨_, List.mem_cons_self, ?_⟩, fun _ => rfl⟩
  rw [ListenerOptions.hasLimiter_iff]
  decide

end Configuration

end SocksGateway
