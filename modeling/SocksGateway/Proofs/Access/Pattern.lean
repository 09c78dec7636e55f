import SocksGateway.Access.Pattern

/-!
What a pattern asks for: its core, with other characters before it or behind it where the pattern is
open.
-/

set_option autoImplicit false

namespace SocksGateway.Pattern

theorem occurs_iff (core input : List Char) : occurs core input = true ↔ core <:+: input := by
  induction input with
  | nil => rw [occurs, List.isEmpty_iff, List.infix_nil]
  | cons char rest ih =>
    rw [occurs, Bool.or_eq_true, List.isPrefixOf_iff_prefix, ih, List.infix_cons_iff]

/-- An input is admitted when it is the core with nothing around it but where the pattern is open. -/
theorem Parts.admits_iff {parts : Parts} {input : List Char} :
    parts.admits input = true ↔ ∃ front back, input = front ++ parts.core ++ back ∧
      (parts.openHead = false → front = []) ∧ (parts.openEnd = false → back = []) := by
  unfold admits
  cases parts.openHead with
  | true =>
    cases parts.openEnd with
    | true =>
      rw [occurs_iff]
      constructor
      · rintro ⟨front, back, same⟩
        exact ⟨front, back, same.symm, nofun, nofun⟩
      · rintro ⟨front, back, same, -, -⟩
        exact ⟨front, back, same.symm⟩
    | false =>
      rw [List.isSuffixOf_iff_suffix]
      constructor
      · rintro ⟨front, same⟩
        exact ⟨front, [], by rw [List.append_nil, same], nofun, fun _ => rfl⟩
      · rintro ⟨front, back, same, -, closed⟩
        rw [closed rfl, List.append_nil] at same
        exact ⟨front, same.symm⟩
  | false =>
    cases parts.openEnd with
    | true =>
      rw [List.isPrefixOf_iff_prefix]
      constructor
      · rintro ⟨back, same⟩
        exact ⟨[], back, same.symm, fun _ => rfl, nofun⟩
      · rintro ⟨front, back, same, closed, -⟩
        rw [closed rfl, List.nil_append] at same
        exact ⟨back, same.symm⟩
    | false =>
      rw [beq_iff_eq]
      constructor
      · rintro rfl
        exact ⟨[], [], by rw [List.append_nil, List.nil_append], fun _ => rfl, fun _ => rfl⟩
      · rintro ⟨front, back, same, closedHead, closedEnd⟩
        rw [closedHead rfl, closedEnd rfl, List.append_nil, List.nil_append] at same
        exact same

/-- Something stands before the asterisk of a pattern that is open at its end only. -/
theorem core_ne_nil {pattern : List Char} (closed : (parts pattern).openHead = false)
    (isOpen : (parts pattern).openEnd = true) : (parts pattern).core ≠ [] := by
  simp only [parts, Bool.and_eq_true, decide_eq_true_eq] at closed isOpen
  simp only [parts, closed, isOpen, Bool.false_eq_true, ↓reduceIte, decide_true, Bool.and_self]
  intro empty
  have length := congrArg List.length empty
  rw [List.length_dropLast, List.length_nil] at length
  omega

end SocksGateway.Pattern
