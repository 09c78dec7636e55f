import SocksGateway.Access.Load
import SocksGateway.Proofs.Access.Rule
import SocksGateway.Proofs.Store.Records

/-!
What rules say, by the set of those that are about a subject. Neither their order nor where they are
written makes a difference, and rules about the other subject have no say.
-/

set_option autoImplicit false

namespace SocksGateway

/-! ## Rules files -/

namespace AccessRule

open Document

theorem isTextual_toValue (rule : AccessRule) : rule.toValue.IsTextual :=
  .record (List.forall_mem_cons.mpr ⟨.text _, List.forall_mem_cons.mpr ⟨.text _,
    List.forall_mem_singleton.mpr (.text _)⟩⟩)

theorem ofValue?_toValue (rule : AccessRule) : ofValue? Json.dialect rule.toValue = some rule := by
  have given : slots? Json.dialect ["type", "target", "pattern"] rule.toValue =
      some [some (.text rule.verdict.name), some (.text rule.subject.name),
        some (.text rule.pattern)] :=
    slots?_record rfl (by decide)
  obtain ⟨verdict, subject, pattern⟩ := rule
  simp only [ofValue?, given]
  cases verdict <;> cases subject <;> rfl

end AccessRule

namespace AccessRules

/-- The rules that a rules file holds. A missing file holds none. -/
def AreHeld (own : List AccessRule) (file : DataFile) : Prop :=
  match file.read with
  | none => own = []
  | some text => parse? text = some own

/-- A file to which these rules are written. -/
def written (own : List AccessRule) : DataFile :=
  { directory := "data", path := "data/rules.json",
    content := some (Document.Json.render (.list (own.map AccessRule.toValue))) }

/-- Any rules can stand in a file. -/
theorem areHeld_written (own : List AccessRule) : AreHeld own (written own) := by
  change (Document.Json.parse? _).bind _ = some own
  rw [Document.Json.parse?_render (Document.isTextual_list_map AccessRule.isTextual_toValue own)]
  exact Document.list?_map AccessRule.ofValue?_toValue own

theorem load_of_areHeld {file : DataFile} {own : List AccessRule} (held : AreHeld own file)
    (extra : List AccessRule) : load file extra = .ok ⟨own ++ extra⟩ := by
  cases found : file.read with
  | none =>
    have nothing : own = [] := by simpa only [AreHeld, found] using held
    simp only [load, found, nothing, List.nil_append]
  | some text =>
    have parsed : parse? text = some own := by simpa only [AreHeld, found] using held
    simp only [load, found, parsed]

/-! ## Rules about a subject -/

/-- The rules about a subject. -/
def about (subject : Subject) (rules : List AccessRule) : List AccessRule :=
  rules.filter (·.subject == subject)

variable {subject : Subject} {input : String}

theorem mem_about {rules : List AccessRule} {rule : AccessRule} :
    rule ∈ about subject rules ↔ rule ∈ rules ∧ rule.subject = subject := by
  rw [about, List.mem_filter, beq_iff_eq]

theorem about_eq_nil_iff {rules : List AccessRule} :
    about subject rules = [] ↔ rules.all (·.subject != subject) = true := by
  simp only [about, List.filter_eq_nil_iff, List.all_eq_true, bne_iff_ne, beq_iff_eq, ne_eq]

/-- Some rule with this verdict matches. -/
def Matches (rules : List AccessRule) (verdict : Verdict) (input : String) : Prop :=
  ∃ rule ∈ rules, rule.verdict = verdict ∧ Pattern.admits rule.pattern input = true

theorem any_applies_iff {rules : List AccessRule} {verdict : Verdict} :
    rules.any (·.applies subject verdict input) = true ↔
      Matches (about subject rules) verdict input := by
  simp only [Matches, List.any_eq_true, AccessRule.applies, Bool.and_eq_true, beq_iff_eq, mem_about,
    and_assoc]

/-- Denials override, and nothing is refused where no rule is about the subject. -/
theorem allows_iff (rules : AccessRules) : rules.allows subject input = true ↔
    (about subject rules.rules ≠ [] → Matches (about subject rules.rules) .allow input ∧
      ¬ Matches (about subject rules.rules) .deny input) := by
  unfold allows
  split
  · rename_i unruled
    rw [← about_eq_nil_iff] at unruled
    exact iff_of_true rfl fun ruled => absurd unruled ruled
  · rename_i ruled
    rw [← about_eq_nil_iff] at ruled
    split
    · rename_i denied
      rw [any_applies_iff] at denied
      exact iff_of_false Bool.false_ne_true fun passes => (passes ruled).2 denied
    · rename_i passed
      rw [any_applies_iff] at passed ⊢
      exact ⟨fun allowed _ => ⟨allowed, passed⟩, fun passes => (passes ruled).1⟩

section

variable {given other : List AccessRule}

theorem Matches.mono {verdict : Verdict} (matched : Matches given verdict input)
    (kept : ∀ rule ∈ given, rule.verdict = verdict → rule ∈ other) :
    Matches other verdict input := by
  obtain ⟨rule, member, agrees, admits⟩ := matched
  exact ⟨rule, kept rule member agrees, agrees, admits⟩

theorem matches_congr {verdict : Verdict} (same : ∀ rule, rule ∈ given ↔ rule ∈ other) :
    Matches given verdict input ↔ Matches other verdict input :=
  ⟨fun matched => matched.mono fun rule member _ => (same rule).mp member,
    fun matched => matched.mono fun rule member _ => (same rule).mpr member⟩

/-- Where all rules that were added say otherwise, one with this verdict was there before. -/
theorem Matches.before {verdict added : Verdict} (differ : verdict ≠ added)
    (matched : Matches other verdict input)
    (news : ∀ rule ∈ other, rule ∉ given → rule.verdict = added) : Matches given verdict input := by
  apply matched.mono
  intro rule member agrees
  by_cases kept : rule ∈ given
  · exact kept
  · exact absurd (agrees.symm.trans (news rule member kept)) differ

end

/-- What was loaded from a rules file and others decides by the set of the rules about a subject. The same
set gives the same verdicts, no rules refuse nothing, otherwise some rule has to allow the input and none
to deny it; and once there are rules, a denial more admits nothing new and an allowance more refuses
nothing new. -/
theorem verdicts_of_load {file elsewhere : DataFile} {own others : List AccessRule}
    (held : AreHeld own file) (heldElsewhere : AreHeld others elsewhere)
    (extra more : List AccessRule) :
    ∃ rules further, load file extra = .ok rules ∧ load elsewhere more = .ok further ∧
      ∀ subject input,
        let given := about subject (own ++ extra)
        let other := about subject (others ++ more)
        ((∀ rule, rule ∈ given ↔ rule ∈ other) →
          rules.allows subject input = further.allows subject input) ∧
        (given = [] → rules.allows subject input = true) ∧
        (given ≠ [] → (rules.allows subject input = true ↔
          Matches given .allow input ∧ ¬ Matches given .deny input)) ∧
        (given ≠ [] → given ⊆ other →
          ((∀ rule ∈ other, rule ∉ given → rule.verdict = .deny) →
            further.allows subject input = true → rules.allows subject input = true) ∧
          ((∀ rule ∈ other, rule ∉ given → rule.verdict = .allow) →
            rules.allows subject input = true → further.allows subject input = true)) := by
  refine ⟨_, _, load_of_areHeld held extra, load_of_areHeld heldElsewhere more, ?_⟩
  intro subject input given other
  have allowed : AccessRules.allows ⟨own ++ extra⟩ subject input = true ↔
      (given ≠ [] → Matches given .allow input ∧ ¬ Matches given .deny input) := allows_iff _
  have allowedFurther : AccessRules.allows ⟨others ++ more⟩ subject input = true ↔
      (other ≠ [] → Matches other .allow input ∧ ¬ Matches other .deny input) := allows_iff _
  refine ⟨?_, ?_, ?_, ?_⟩
  · intro same
    have none : given = [] ↔ other = [] := by
      simp only [List.eq_nil_iff_forall_not_mem, same]
    rw [Bool.eq_iff_iff, allowed, allowedFurther, ne_eq, none, matches_congr same,
      matches_congr same]
  · intro unruled
    rw [allowed]
    exact fun ruled => absurd unruled ruled
  · intro ruled
    rw [allowed]
    exact ⟨fun passes => passes ruled, fun passes _ => passes⟩
  · intro ruled subset
    have present : other ≠ [] := fun empty => ruled (List.subset_nil.mp (empty ▸ subset))
    rw [allowed, allowedFurther]
    refine ⟨fun denials passes _ => ?_, fun allowances passes _ => ?_⟩
    · obtain ⟨allows, undenied⟩ := passes present
      exact ⟨allows.before (by decide) denials,
        fun denied => undenied (denied.mono fun rule member _ => subset member)⟩
    · obtain ⟨allows, undenied⟩ := passes ruled
      exact ⟨allows.mono fun rule member _ => subset member,
        fun denied => undenied (denied.before (by decide) allowances)⟩

/-- A denial that is moved out of the file, among rules that are given twice or are about sources. -/
theorem verdicts_of_load_moved :
    let barring : AccessRule := ⟨.deny, .destination, "*.bad"⟩
    let all : AccessRule := .everything .destination
    let more := [all, ⟨.deny, .source, "10.*"⟩, barring, all]
    AreHeld [barring] (written [barring]) ∧ AreHeld [] default ∧
      ∃ rules further, load (written [barring]) [all] = .ok rules ∧ load default more = .ok further ∧
        (∀ host, rules.allowsDestination host = further.allowsDestination host) ∧
        further.allowsDestination "host.bad" = false := by
  intro barring all more
  have none : AreHeld [] default := rfl
  obtain ⟨rules, further, loaded, loadedFurther, verdicts⟩ :=
    verdicts_of_load (areHeld_written [barring]) none [all] more
  refine ⟨areHeld_written [barring], none, rules, further, loaded, loadedFurther, ?_, ?_⟩
  · intro host
    apply (verdicts .destination host).1
    have given : about .destination ([barring] ++ [all]) = [barring, all] := rfl
    have other : about .destination ([] ++ more) = [all, barring, all] := rfl
    intro rule
    rw [given, other]
    simp only [List.mem_cons, List.not_mem_nil, or_false]
    grind
  · cases loadedFurther
    decide

end AccessRules

end SocksGateway
