import SocksGateway.Access.Rule

/-!
What rules say about an input: it depends on which of them match. A rule by itself, with one that allows
everything if it denies, says whether it matches.
-/

set_option autoImplicit false

namespace SocksGateway

namespace AccessRule

/-- The rule that allows everything. -/
def everything (subject : Subject) : AccessRule := ⟨.allow, subject, "*"⟩

theorem admits_everything (subject : Subject) (input : String) :
    Pattern.admits (everything subject).pattern input = true := by
  have star : Text.lowerAscii "*" = ['*'] := by decide
  change (Pattern.parts (Text.lowerAscii "*")).admits _ = true
  rw [star]
  rfl

end AccessRule

namespace AccessRules

/-- What the rules about a subject say depends on which of them match. -/
theorem allows_congr {rules : AccessRules} {subject : Subject} {first second : String}
    (same : ∀ rule ∈ rules.rules, rule.subject = subject →
      Pattern.admits rule.pattern first = Pattern.admits rule.pattern second) :
    rules.allows subject first = rules.allows subject second := by
  have applies : ∀ verdict, rules.rules.any (·.applies subject verdict first) =
      rules.rules.any (·.applies subject verdict second) := by
    intro verdict
    rw [Bool.eq_iff_iff, List.any_eq_true, List.any_eq_true]
    refine exists_congr fun rule => and_congr_right fun member => ?_
    by_cases about : rule.subject = subject
    · simp only [AccessRule.applies, same rule member about]
    · simp only [AccessRule.applies, beq_eq_false_iff_ne.mpr about, Bool.false_and]
  simp only [allows, applies]

theorem allows_of_allow {rule : AccessRule} (allows : rule.verdict = .allow) (input : String) :
    (AccessRules.mk [rule]).allows rule.subject input = Pattern.admits rule.pattern input := by
  have other : (Verdict.allow == Verdict.deny) = false := rfl
  simp only [AccessRules.allows, AccessRule.applies, allows, other, List.all_cons, List.all_nil,
    List.any_cons, List.any_nil, bne_self_eq_false, beq_self_eq_true, Bool.true_and,
    Bool.false_and, Bool.and_true, Bool.or_false, Bool.false_eq_true, ↓reduceIte]

theorem allows_of_deny {rule : AccessRule} (denies : rule.verdict = .deny) (input : String) :
    (AccessRules.mk [.everything rule.subject, rule]).allows rule.subject input =
      !Pattern.admits rule.pattern input := by
  have all := AccessRule.admits_everything rule.subject input
  have other : (Verdict.deny == Verdict.allow) = false := rfl
  have another : (Verdict.allow == Verdict.deny) = false := rfl
  have same : (AccessRule.everything rule.subject).subject = rule.subject := rfl
  have allowing : (AccessRule.everything rule.subject).verdict = .allow := rfl
  simp only [AccessRules.allows, AccessRule.applies, denies, all, other, another, same, allowing,
    List.all_cons, List.all_nil, List.any_cons, List.any_nil, bne_self_eq_false, beq_self_eq_true,
    Bool.true_and, Bool.false_and, Bool.and_true, Bool.or_false, Bool.false_or, Bool.false_eq_true,
    ↓reduceIte]
  cases Pattern.admits rule.pattern input <;> rfl

/-- No selection of rules tells two inputs apart exactly when none of the rules does. -/
theorem allows_eq_iff (rules : List AccessRule) (subject : Subject) (first second : String) :
    (∀ chosen : AccessRules, chosen.rules ⊆ .everything subject :: rules →
      chosen.allows subject first = chosen.allows subject second) ↔
        ∀ rule ∈ rules, rule.subject = subject →
          Pattern.admits rule.pattern first = Pattern.admits rule.pattern second := by
  constructor
  · intro same rule member about
    subst about
    cases verdict : rule.verdict with
    | allow =>
      have alone := same ⟨[rule]⟩ (List.cons_subset.mpr
        ⟨List.mem_cons_of_mem _ member, List.nil_subset _⟩)
      rwa [allows_of_allow verdict, allows_of_allow verdict] at alone
    | deny =>
      have chosen := same ⟨[.everything rule.subject, rule]⟩ (List.cons_subset.mpr
        ⟨List.mem_cons_self, List.cons_subset.mpr
          ⟨List.mem_cons_of_mem _ member, List.nil_subset _⟩⟩)
      rw [allows_of_deny verdict, allows_of_deny verdict] at chosen
      exact Bool.not_inj chosen
  · intro same chosen subset
    apply allows_congr
    intro rule member about
    rcases List.mem_cons.mp (subset member) with rfl | given
    · rw [AccessRule.admits_everything, AccessRule.admits_everything]
    · exact same rule given about

/-- Rules do not look at the case of ASCII letters. -/
theorem allows_of_sameIgnoringCase {rules : AccessRules} {subject : Subject}
    {first second : String} (same : Text.sameIgnoringCase first second = true) :
    rules.allows subject first = rules.allows subject second := by
  apply allows_congr
  intro rule _ _
  rw [Pattern.admits, Pattern.admits, beq_iff_eq.mp same]

end AccessRules

end SocksGateway
