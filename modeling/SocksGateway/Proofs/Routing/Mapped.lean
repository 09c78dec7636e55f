import SocksGateway.Proofs.Access.Pattern
import SocksGateway.Proofs.Access.Rule
import SocksGateway.Proofs.Address.Text
import SocksGateway.Routing.Policy

/-!
IPv4-mapped addresses before a policy. Membership of networks does not tell them from their IPv4 form.
Rules look at the text of an address and may tell them apart: a rule does not exactly when it matches
neither text, or asks for digits and points only and leaves the head open.
-/

set_option autoImplicit false

namespace SocksGateway

/-- The IPv4-mapped form of an address. -/
def Ip.mapped (ip : Ipv4) : Ip := .v6 (.ofIpv4 ip)

/-! ## Patterns -/

namespace Pattern

/-- A pattern that takes an IPv4 address and its mapped form for the same: its core can stand only
within dotted notation, and anything may stand before it. -/
def IsFamilyBlind (pattern : String) : Prop :=
  (parts (Text.lowerAscii pattern)).openHead = true ∧
    ∀ char ∈ (parts (Text.lowerAscii pattern)).core, Ipv4.IsTextChar char

theorem not_isTextChar_of_mem {char : Char} (member : char ∈ Ipv6.mappedFront.toList) :
    ¬ Ipv4.IsTextChar char := by
  have listed : char ∈ [':', ':', 'f', 'f', 'f', 'f', ':'] := member
  simp only [List.mem_cons, List.not_mem_nil, or_false] at listed
  obtain rfl | rfl | rfl | rfl | rfl | rfl | rfl := listed <;> decide

theorem asciiLower_of_isTextChar {char : Char} (textChar : Ipv4.IsTextChar char) :
    Text.asciiLower char = char := by
  apply if_neg
  rcases textChar with digit | rfl
  · have range := Char.isDigit_iff_toNat.mp digit
    have high : '9'.toNat = 57 := rfl
    omega
  · decide

theorem lowerAscii_text (ip : Ipv4) : Text.lowerAscii ip.text = ip.text.toList := by
  have same : ∀ char ∈ ip.text.toList, Text.asciiLower char = id char :=
    fun _ member => asciiLower_of_isTextChar (Ipv4.isTextChar_of_mem member)
  exact (List.map_congr_left same).trans (List.map_id _)

theorem lowerAscii_mapped (ip : Ipv4) :
    Text.lowerAscii (Ip.mapped ip).text = Ipv6.mappedFront.toList ++ ip.text.toList := by
  rw [Ip.mapped, Ip.text, Ipv6.text_ofIpv4, Text.lowerAscii, String.toList_append, List.map_append]
  exact congrArg (Ipv6.mappedFront.toList ++ ·) (lowerAscii_text ip)

section

variable {asked : Parts} {front text : List Char}

/-- Where the head is open, a core that has no character of the front stands behind the front. -/
theorem Parts.admits_append_iff (isOpen : asked.openHead = true)
    (apart : ∀ char ∈ front, char ∉ asked.core) :
    asked.admits (front ++ text) = true ↔ asked.admits text = true := by
  have headless : ∀ before : List Char, asked.openHead = false → before = [] := by
    intro before closedHead
    rw [isOpen] at closedHead
    cases closedHead
  rw [Parts.admits_iff, Parts.admits_iff]
  constructor
  · intro found
    obtain ⟨before, back, same, -, closedEnd⟩ := found
    rw [List.append_assoc, List.append_eq_append_iff] at same
    rcases same with ⟨behind, rfl, rest⟩ | ⟨within, split, rest⟩
    · exact ⟨behind, back, by rw [rest, List.append_assoc], headless behind, closedEnd⟩
    · cases within with
      | nil => exact ⟨[], back, rest.symm, headless [], closedEnd⟩
      | cons char others =>
        have member : char ∈ front := by
          rw [split]
          exact List.mem_append_right _ List.mem_cons_self
        cases core : asked.core with
        | nil =>
          rw [core] at rest
          refine ⟨[], text, rfl, headless [], ?_⟩
          intro closed
          rw [closedEnd closed] at rest
          cases rest
        | cons first more =>
          rw [core, List.cons_append, List.cons_append] at rest
          obtain ⟨rfl, -⟩ := List.cons_eq_cons.mp rest
          exact absurd (core ▸ List.mem_cons_self) (apart first member)
  · intro found
    obtain ⟨before, back, same, -, closedEnd⟩ := found
    refine ⟨front ++ before, back, ?_, headless _, closedEnd⟩
    rw [same, List.append_assoc, List.append_assoc, List.append_assoc]

/-- Only an open head lets a core of the text's own characters stand in the text and behind a front
of others. -/
theorem openHead_of_admits {pattern : List Char} (apart : ∀ char ∈ front, char ∉ text)
    (frontSome : front ≠ []) (textSome : text ≠ []) (plain : (parts pattern).admits text = true)
    (fronted : (parts pattern).admits (front ++ text) = true) :
    (parts pattern).openHead = true := by
  obtain ⟨before, back, same, closedHead, closedEnd⟩ := Parts.admits_iff.mp plain
  obtain ⟨others, rest, frontedSame, frontedHead, -⟩ := Parts.admits_iff.mp fronted
  cases openHead : (parts pattern).openHead with
  | true => rfl
  | false =>
    rw [closedHead openHead, List.nil_append] at same
    rw [frontedHead openHead, List.nil_append] at frontedSame
    cases core : (parts pattern).core with
    | nil =>
      cases openEnd : (parts pattern).openEnd with
      | true => exact absurd core (core_ne_nil openHead openEnd)
      | false =>
        rw [core, closedEnd openEnd] at same
        exact absurd same textSome
    | cons char more =>
      obtain ⟨first, others, rfl⟩ := List.exists_cons_of_ne_nil frontSome
      rw [core, List.cons_append, List.cons_append] at frontedSame
      obtain ⟨rfl, -⟩ := List.cons_eq_cons.mp frontedSame
      rw [same, core] at apart
      exact absurd List.mem_cons_self (apart first List.mem_cons_self)

end

theorem admits_mapped {pattern : String} (blind : IsFamilyBlind pattern) (ip : Ipv4) :
    admits pattern (Ip.mapped ip).text = admits pattern ip.text := by
  have apart : ∀ char ∈ Ipv6.mappedFront.toList,
      char ∉ (parts (Text.lowerAscii pattern)).core :=
    fun char member inCore => not_isTextChar_of_mem member (blind.2 char inCore)
  rw [Bool.eq_iff_iff, admits, admits, lowerAscii_mapped, lowerAscii_text]
  exact Parts.admits_append_iff blind.1 apart

/-- A pattern that matches an IPv4 address in both forms matches all of them alike. -/
theorem isFamilyBlind_of_admits {pattern : String} {ip : Ipv4}
    (plain : admits pattern ip.text = true) (mapped : admits pattern (Ip.mapped ip).text = true) :
    IsFamilyBlind pattern := by
  rw [admits, lowerAscii_text] at plain
  rw [admits, lowerAscii_mapped] at mapped
  constructor
  · refine openHead_of_admits ?_ (by decide) ip.text_ne_nil plain mapped
    exact fun char member inText =>
      not_isTextChar_of_mem member (Ipv4.isTextChar_of_mem inText)
  · intro char inCore
    obtain ⟨before, back, same, -, -⟩ := Parts.admits_iff.mp plain
    apply Ipv4.isTextChar_of_mem
    rw [same]
    exact List.mem_append_left _ (List.mem_append_right _ inCore)

end Pattern

/-! ## Rules -/

namespace AccessRule

/-- A rule that does not tell an IPv4 address from its mapped form: if it matches one of them, its
pattern takes all such pairs for the same. -/
def IsAlike (ip : Ipv4) (rule : AccessRule) : Prop :=
  (Pattern.admits rule.pattern ip.text = true ∨
    Pattern.admits rule.pattern (Ip.mapped ip).text = true) → Pattern.IsFamilyBlind rule.pattern

theorem isAlike_iff {ip : Ipv4} {rule : AccessRule} : rule.IsAlike ip ↔
    Pattern.admits rule.pattern ip.text = Pattern.admits rule.pattern (Ip.mapped ip).text := by
  constructor
  · intro alike
    cases plain : Pattern.admits rule.pattern ip.text with
    | true => rw [Pattern.admits_mapped (alike (Or.inl plain)), plain]
    | false =>
      cases mapped : Pattern.admits rule.pattern (Ip.mapped ip).text with
      | true => rw [← plain, ← mapped, Pattern.admits_mapped (alike (Or.inr mapped))]
      | false => rfl
  · intro same matched
    rw [same, or_self] at matched
    exact Pattern.isFamilyBlind_of_admits (same.trans matched) matched

end AccessRule

namespace AccessRules

/-- No selection of rules tells an IPv4 address from its mapped form exactly when none of the rules
does. -/
theorem allows_mapped_iff (rules : List AccessRule) (subject : Subject) (ip : Ipv4) :
    (∀ chosen : AccessRules, chosen.rules ⊆ .everything subject :: rules →
      chosen.allows subject ip.text = chosen.allows subject (Ip.mapped ip).text) ↔
        ∀ rule ∈ rules, rule.subject = subject → rule.IsAlike ip := by
  simp only [AccessRule.isAlike_iff]
  exact allows_eq_iff rules subject ip.text (Ip.mapped ip).text

end AccessRules

/-! ## Policies -/

namespace RoutePolicy

variable (policy : RoutePolicy) (user : Option String) (ip : Ipv4) (port : UInt16)

theorem isPrivate_mapped : (Ip.mapped ip).isPrivate = ip.isPrivate := by
  simp only [Ip.mapped, Ip.isPrivate, Ip.toIpv4?, Ipv6.toIpv4?_ofIpv4]

theorem authorizePrivate_mapped :
    policy.authorizePrivate (.mapped ip) user = policy.authorizePrivate (.v4 ip) user := by
  have joins : ∀ name, PrivateNetwork.anyJoins policy.networks name (.mapped ip) =
      PrivateNetwork.anyJoins policy.networks name (.v4 ip) := by
    intro name
    simp only [PrivateNetwork.anyJoins, Ip.mapped, Ip.toIpv4?, Ipv6.toIpv4?_ofIpv4]
  cases user with
  | none => rfl
  | some name => simp only [authorizePrivate, joins]

theorem authorizeHost_inj {first second : String} :
    policy.authorizeHost first = policy.authorizeHost second ↔
      policy.rules.allowsDestination first = policy.rules.allowsDestination second := by
  simp only [authorizeHost]
  cases policy.rules.allowsDestination first <;> cases policy.rules.allowsDestination second <;>
    decide

/-- The two forms of a private address get one decision, and those of another address if the rules
say the same about their texts. -/
theorem authorize_mapped_iff :
    policy.authorize (.ip ⟨.v4 ip, port⟩) user = policy.authorize (.ip ⟨.mapped ip, port⟩) user ↔
      ip.isPrivate = true ∨ policy.rules.allowsDestination ip.text =
        policy.rules.allowsDestination (Ip.mapped ip).text := by
  have same : (Ip.v4 ip).isPrivate = ip.isPrivate := rfl
  cases isPrivate : ip.isPrivate with
  | true =>
    simp only [authorize, isPrivate_mapped, same, isPrivate, ↓reduceIte, authorizePrivate_mapped,
      true_or]
  | false =>
    simp only [authorize, isPrivate_mapped, same, isPrivate, Bool.false_eq_true, ↓reduceIte,
      false_or]
    exact policy.authorizeHost_inj

/-- Whether an address is given in its IPv4 form or mapped makes no difference for a private address,
and in no selection of rules for another address or for a client, exactly when each of the rules takes
the two forms for the same. -/
theorem verdict_mapped_iff (rules : List AccessRule) (ip : Ipv4) :
    (ip.isPrivate = true → ∀ (policy : RoutePolicy) (user : Option String) (port : UInt16),
      policy.authorize (.ip ⟨.v4 ip, port⟩) user =
        policy.authorize (.ip ⟨.mapped ip, port⟩) user) ∧
    (ip.isPrivate = false →
      ((∀ policy : RoutePolicy, policy.rules.rules ⊆ .everything .destination :: rules →
        ∀ (user : Option String) (port : UInt16), policy.authorize (.ip ⟨.v4 ip, port⟩) user =
          policy.authorize (.ip ⟨.mapped ip, port⟩) user) ↔
        ∀ rule ∈ rules, rule.subject = .destination → rule.IsAlike ip)) ∧
    ((∀ chosen : AccessRules, chosen.rules ⊆ .everything .source :: rules →
      chosen.allowsSource (.v4 ip) = chosen.allowsSource (.mapped ip)) ↔
        ∀ rule ∈ rules, rule.subject = .source → rule.IsAlike ip) := by
  refine ⟨?_, ?_, AccessRules.allows_mapped_iff rules .source ip⟩
  · intro isPrivate policy user port
    exact (policy.authorize_mapped_iff user ip port).mpr (Or.inl isPrivate)
  · intro isPublic
    rw [← AccessRules.allows_mapped_iff rules .destination ip]
    constructor
    · intro same chosen subset
      have decided := (authorize_mapped_iff ⟨chosen, [], []⟩ none ip 0).mp
        (same ⟨chosen, [], []⟩ subset none 0)
      rw [isPublic] at decided
      exact decided.resolve_left Bool.false_ne_true
    · intro same policy subset user port
      exact (policy.authorize_mapped_iff user ip port).mpr (Or.inr (same policy.rules subset))

/-- Rules that bar 203.0.113.0/24 as a source and as a destination. -/
def barring : AccessRules := ⟨[.everything .source, ⟨.deny, .source, "203.0.113.*"⟩,
  .everything .destination, ⟨.deny, .destination, "203.0.113.*"⟩]⟩

/-- The mapped form of an address passes rules that bar the address. -/
theorem authorize_mapped_barring :
    let policy : RoutePolicy := { permissive with rules := barring }
    (policy.authorize (.ip ⟨.v4 ⟨203, 0, 113, 5⟩, 80⟩) none = .denied .rules ∧
      policy.authorize (.ip ⟨.mapped ⟨203, 0, 113, 5⟩, 80⟩) none = .allowed) ∧
    (barring.allowsSource (.v4 ⟨203, 0, 113, 5⟩) = false ∧
      barring.allowsSource (.mapped ⟨203, 0, 113, 5⟩) = true) := by
  decide

end RoutePolicy

end SocksGateway
