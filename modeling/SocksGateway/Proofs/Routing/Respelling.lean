import SocksGateway.Proofs.Routing.Mapped
import SocksGateway.Proofs.Store.Hosts

/-!
Spellings of one host name before a policy. The case of ASCII letters makes no difference, and the private
hosts do not look at dots at the end of a name. Rules do: one takes two spellings for the same exactly
when it matches neither, or is open at its end, or asks for nothing but dots there.
-/

set_option autoImplicit false

namespace SocksGateway

/-! ## Dots at the end of a name -/

/-- How many dots a name has at its end. -/
def rootDots (name : String) : Nat := (name.toList.reverse.takeWhile (· == '.')).length

def dots (count : Nat) : List Char := List.replicate count '.'

theorem dots_append (count more : Nat) : dots count ++ dots more = dots (count + more) :=
  List.replicate_append_replicate

theorem eq_dots_of_forall {chars : List Char} (all : ∀ char ∈ chars, char = '.') :
    chars = dots chars.length :=
  List.eq_replicate_of_mem all

theorem asciiLower_eq_dot_iff {char : Char} : Text.asciiLower char = '.' ↔ char = '.' := by
  constructor
  · intro lowered
    unfold Text.asciiLower at lowered
    split at lowered
    · rename_i capital
      have letters : ∀ code < 91, 65 ≤ code → Char.ofNat (code + 32) ≠ '.' := by decide
      exact absurd lowered (letters _ (Nat.lt_succ_of_le capital.2) capital.1)
    · exact lowered
  · rintro rfl
    decide

/-- A name is its key, and the dots behind it. -/
theorem lowerAscii_eq (name : String) :
    Text.lowerAscii name = hostKey name ++ dots (rootDots name) := by
  have front : name.toList.reverse.takeWhile (· == '.') = dots (rootDots name) := by
    apply eq_dots_of_forall
    intro char member
    exact beq_iff_eq.mp (List.all_eq_true.mp List.all_takeWhile char member)
  have whole : name.toList =
      (name.toList.reverse.dropWhile (· == '.')).reverse ++ dots (rootDots name) := by
    have split := congrArg List.reverse
      (List.takeWhile_append_dropWhile (p := (· == '.')) (l := name.toList.reverse))
    rw [List.reverse_append, List.reverse_reverse, front, dots, List.reverse_replicate] at split
    exact split.symm
  have kept : (dots (rootDots name)).map Text.asciiLower = dots (rootDots name) :=
    List.map_replicate
  rw [Text.lowerAscii, hostKey]
  conv_lhs => rw [whole]
  rw [List.map_append, kept]

theorem not_dot_suffix_hostKey (name : String) : ¬ ['.'] <:+ hostKey name := by
  intro ended
  rw [hostKey, List.map_reverse, ← List.reverse_prefix, List.reverse_reverse] at ended
  obtain ⟨rest, same⟩ := ended
  cases kept : name.toList.reverse.dropWhile (· == '.') with
  | nil =>
    rw [kept] at same
    cases same
  | cons first others =>
    rw [kept, List.map_cons] at same
    have dot := asciiLower_eq_dot_iff.mp (List.cons_eq_cons.mp same).1.symm
    have passed := List.head?_dropWhile_not (· == '.') name.toList.reverse
    rw [kept] at passed
    exact absurd dot (beq_eq_false_iff_ne.mp passed)

/-! ## Patterns -/

namespace Pattern

/-- Parts that do not tell how many dots stand at the end of what they match: these are open at their end,
or ask for nothing but dots behind an open head. -/
def Parts.IsRootBlind (asked : Parts) : Prop :=
  asked.openEnd = true ∨ asked.openHead = true ∧ ∀ char ∈ asked.core, char = '.'

section

variable {asked : Parts} {text key : List Char} {count more : Nat}

/-- What does not tell how many dots there are goes on to match when there are more. -/
theorem Parts.admits_append_dots (blind : asked.IsRootBlind) (admitted : asked.admits text = true)
    (more : Nat) : asked.admits (text ++ dots more) = true := by
  obtain ⟨front, back, same, closedHead, closedEnd⟩ := Parts.admits_iff.mp admitted
  rw [Parts.admits_iff]
  cases openEnd : asked.openEnd with
  | true =>
    refine ⟨front, back ++ dots more, ?_, closedHead, nofun⟩
    rw [same, List.append_assoc]
  | false =>
    obtain ⟨openHead, onlyDots⟩ := blind.resolve_left (by rw [openEnd]; exact Bool.false_ne_true)
    have core := eq_dots_of_forall onlyDots
    refine ⟨front ++ dots more, [], ?_, ?_, fun _ => rfl⟩
    · rw [same, closedEnd openEnd, core, List.append_nil, List.append_nil, List.append_assoc,
        List.append_assoc, dots_append, dots_append, Nat.add_comm]
    · rw [openHead]
      exact nofun

/-- A core that is at the end of a name and also of the name with more dots is of dots only. -/
theorem forall_dot_of_suffix {core : List Char} (named : ¬ ['.'] <:+ key)
    (fewer : core <:+ key ++ dots count) (longer : core <:+ key ++ dots (more + 1 + count)) :
    ∀ char ∈ core, char = '.' := by
  have dotted : dots count <:+ key ++ dots count := List.suffix_append _ _
  have length : (dots count).length = count := List.length_replicate
  rcases Nat.lt_or_ge count core.length with long | short
  · -- Before its last dots the core has the last character of the name, which is no dot.
    obtain ⟨front, rfl⟩ := List.suffix_of_suffix_length_le dotted fewer (by omega)
    rw [← dots_append, ← List.append_assoc] at longer
    have atName : front <:+ key := List.suffix_append_self_iff.mp fewer
    have atDots : front <:+ key ++ dots (more + 1) := List.suffix_append_self_iff.mp longer
    rw [dots, List.replicate_succ', ← List.append_assoc, List.suffix_concat_iff] at atDots
    rcases atDots with rfl | ⟨others, rfl, -⟩
    · rw [List.nil_append, length] at long
      exact absurd long (Nat.lt_irrefl count)
    · exact absurd ((List.suffix_append others ['.']).trans atName) named
  · have within := List.suffix_of_suffix_length_le fewer dotted (by omega)
    intro char member
    exact List.eq_of_mem_replicate (within.subset member)

/-- Only what does not tell how many dots there are matches a name with two numbers of them. -/
theorem Parts.isRootBlind_of_admits (named : ¬ ['.'] <:+ key)
    (fewer : asked.admits (key ++ dots count) = true)
    (longer : asked.admits (key ++ dots (more + 1 + count)) = true) : asked.IsRootBlind := by
  obtain ⟨front, back, same, closedHead, closedEnd⟩ := Parts.admits_iff.mp fewer
  obtain ⟨others, rest, same', closedHead', closedEnd'⟩ := Parts.admits_iff.mp longer
  cases openEnd : asked.openEnd with
  | true => exact .inl openEnd
  | false =>
    rw [closedEnd openEnd, List.append_nil] at same
    rw [closedEnd' openEnd, List.append_nil] at same'
    cases openHead : asked.openHead with
    | true => exact .inr ⟨openHead, forall_dot_of_suffix named ⟨front, same.symm⟩ ⟨others, same'.symm⟩⟩
    | false =>
      rw [closedHead openHead, List.nil_append] at same
      rw [closedHead' openHead, List.nil_append, ← same] at same'
      have lengths := congrArg List.length (List.append_cancel_left same')
      rw [dots, dots, List.length_replicate, List.length_replicate] at lengths
      omega

/-- Two numbers of dots at the end of a name make no difference exactly when neither name matches, or the
one with fewer does and the number is not told. -/
theorem Parts.admits_dots_iff (named : ¬ ['.'] <:+ key) :
    asked.admits (key ++ dots count) = asked.admits (key ++ dots (more + 1 + count)) ↔
      (asked.admits (key ++ dots count) = true ∨
        asked.admits (key ++ dots (more + 1 + count)) = true →
          asked.IsRootBlind ∧ asked.admits (key ++ dots count) = true) := by
  have further (blind : asked.IsRootBlind) (admitted : asked.admits (key ++ dots count) = true) :
      asked.admits (key ++ dots (more + 1 + count)) = true := by
    rw [Nat.add_comm, ← dots_append, ← List.append_assoc]
    exact Parts.admits_append_dots blind admitted _
  constructor
  · intro same matched
    rw [← same, or_self] at matched
    exact ⟨Parts.isRootBlind_of_admits named matched (same ▸ matched), matched⟩
  · intro blind
    rw [Bool.eq_iff_iff]
    constructor
    · intro admitted
      exact further (blind (.inl admitted)).1 admitted
    · intro admitted
      exact (blind (.inr admitted)).2

end

end Pattern

/-! ## Rules -/

namespace AccessRule

/-- A rule that does not tell two spellings of a name, of which the second has more dots: if it matches
one of them, it matches the first, and does not tell how many dots there are. -/
def IsSteady (name other : String) (rule : AccessRule) : Prop :=
  (Pattern.admits rule.pattern name = true ∨ Pattern.admits rule.pattern other = true) →
    (Pattern.parts (Text.lowerAscii rule.pattern)).IsRootBlind ∧
      Pattern.admits rule.pattern name = true

theorem isSteady_iff {name other : String} {rule : AccessRule} (same : sameHost name other = true)
    (fewer : rootDots name < rootDots other) : rule.IsSteady name other ↔
      Pattern.admits rule.pattern name = Pattern.admits rule.pattern other := by
  obtain ⟨more, count⟩ := Nat.exists_eq_add_of_lt fewer
  have spelled : Text.lowerAscii other = hostKey name ++ dots (more + 1 + rootDots name) := by
    rw [lowerAscii_eq, sameHost_iff.mp same, count]
    congr 2
    omega
  rw [IsSteady, Pattern.admits, Pattern.admits, spelled, lowerAscii_eq name]
  exact (Pattern.Parts.admits_dots_iff (not_dot_suffix_hostKey name)).symm

end AccessRule

/-! ## Policies -/

namespace RoutePolicy

/-- What is decided about a name: a private host's address stands in its place. -/
def decision (policy : RoutePolicy) (name : String) (port : UInt16) (user : Option String) : Decision :=
  policy.authorize (policy.resolvePrivate (.domain name port)) user

variable {name other : String}

theorem lookup_of_sameHost (same : sameHost name other = true) (hosts : List HostRecord) :
    HostRecord.lookup hosts other = HostRecord.lookup hosts name := by
  simp only [HostRecord.lookup, sameHost, sameHost_iff.mp same]

/-- Private hosts do not tell spellings, and other names are told by the rules alone. -/
theorem decision_eq_iff (policy : RoutePolicy) (same : sameHost name other = true) (port : UInt16)
    (user : Option String) : policy.decision name port user = policy.decision other port user ↔
      HostRecord.lookup policy.hosts name ≠ [] ∨
        policy.rules.allowsDestination name = policy.rules.allowsDestination other := by
  unfold decision resolvePrivate
  dsimp only
  rw [lookup_of_sameHost same]
  cases HostRecord.lookup policy.hosts name with
  | cons ip others => exact iff_of_true rfl (.inl (List.cons_ne_nil ip others))
  | nil =>
    rw [or_iff_right (not_not_intro rfl)]
    exact policy.authorizeHost_inj

/-- Two spellings of a host get one decision if only the case of letters differs, and if it is a private
host. Where one has more dots, and the host is not private, they get one decision in every selection of
rules exactly when each of the rules about destinations is steady for them. -/
theorem decision_respelled_iff (same : sameHost name other = true) (rules : List AccessRule)
    (hosts : List HostRecord) :
    (rootDots name = rootDots other → ∀ (policy : RoutePolicy) (port : UInt16)
      (user : Option String), policy.decision name port user = policy.decision other port user) ∧
    (∀ (policy : RoutePolicy) (port : UInt16) (user : Option String),
      HostRecord.lookup policy.hosts name ≠ [] →
        policy.decision name port user = policy.decision other port user) ∧
    (rootDots name < rootDots other → HostRecord.lookup hosts name = [] →
      ((∀ policy : RoutePolicy, policy.hosts = hosts →
        policy.rules.rules ⊆ .everything .destination :: rules →
          ∀ (port : UInt16) (user : Option String),
            policy.decision name port user = policy.decision other port user) ↔
        ∀ rule ∈ rules, rule.subject = .destination → rule.IsSteady name other)) := by
  refine ⟨?_, ?_, ?_⟩
  · intro count policy port user
    have spelled : Text.sameIgnoringCase name other = true := by
      rw [Text.sameIgnoringCase, beq_iff_eq, lowerAscii_eq, lowerAscii_eq, sameHost_iff.mp same,
        count]
    exact (policy.decision_eq_iff same port user).mpr
      (.inr (AccessRules.allows_of_sameIgnoringCase spelled))
  · intro policy port user known
    exact (policy.decision_eq_iff same port user).mpr (.inl known)
  · intro fewer unknown
    have steady : (∀ rule ∈ rules, rule.subject = .destination → rule.IsSteady name other) ↔
        ∀ chosen : AccessRules, chosen.rules ⊆ .everything .destination :: rules →
          chosen.allowsDestination name = chosen.allowsDestination other := by
      simp only [AccessRule.isSteady_iff same fewer]
      exact (AccessRules.allows_eq_iff rules .destination name other).symm
    rw [steady]
    constructor
    · intro alike chosen subset
      have decided := (decision_eq_iff ⟨chosen, [], hosts⟩ same 0 none).mp
        (alike ⟨chosen, [], hosts⟩ rfl subset 0 none)
      exact decided.resolve_left (not_not_intro unknown)
    · intro alike policy _ subset port user
      exact (policy.decision_eq_iff same port user).mpr (.inr (alike policy.rules subset))

/-- A rule with an open end bars a host in every spelling. -/
theorem decision_respelled_iff_openEnd :
    let barring : List AccessRule := [⟨.deny, .destination, "Blocked.*"⟩]
    sameHost "blocked.example" "BLOCKED.example.." = true ∧
      rootDots "blocked.example" < rootDots "BLOCKED.example.." ∧
      HostRecord.lookup [] "blocked.example" = [] ∧
      ∀ policy : RoutePolicy, policy.hosts = [] →
        policy.rules.rules ⊆ .everything .destination :: barring →
          ∀ (port : UInt16) (user : Option String),
            policy.decision "blocked.example" port user =
              policy.decision "BLOCKED.example.." port user := by
  intro barring
  have same : sameHost "blocked.example" "BLOCKED.example.." = true := by decide
  have fewer : rootDots "blocked.example" < rootDots "BLOCKED.example.." := by decide
  obtain ⟨-, -, selections⟩ := decision_respelled_iff same barring []
  refine ⟨same, fewer, rfl, (selections fewer rfl).mpr ?_⟩
  intro rule member _ _
  obtain rfl := List.mem_singleton.mp member
  exact ⟨.inl (by decide), by decide⟩

/-- A host that a rule bars by its name is let pass with a dot behind the name. -/
theorem decision_rootDot :
    let policy : RoutePolicy := { permissive with
      rules := ⟨[.everything .destination, ⟨.deny, .destination, "blocked.example"⟩]⟩ }
    sameHost "blocked.example" "blocked.example." = true ∧
      Ip.parse? "blocked.example" = none ∧ Ip.parse? "blocked.example." = none ∧
      policy.decision "blocked.example" 80 none = .denied .rules ∧
      policy.decision "blocked.example." 80 none = .allowed := by
  decide

end RoutePolicy

end SocksGateway
