import SocksGateway.Proofs.Access.Pattern

/-!
What a pattern describes. An asterisk at its head and one at its end are open places, everything else in
it stands for itself. The offsets at which the text of a pattern is cut lie between characters, however
many octets its characters take.
-/

set_option autoImplicit false

namespace SocksGateway.Pattern

/-! ## The asterisks of a pattern -/

/-- A pattern taken apart: the asterisk at its head and the one at its end, where there are such, and
what is left between them. A lone asterisk is at the head. -/
structure IsSplit (pattern head core tail : List Char) : Prop where
  whole : pattern = head ++ core ++ tail
  head : head = ['*'] ∨ head = [] ∧ ¬ ['*'] <+: pattern
  tail : tail = ['*'] ∨ tail = [] ∧ ¬ (['*'] <:+ pattern ∧ 1 < pattern.length)

variable {pattern head core tail : List Char}

theorem suffix_star_cons_iff {rest : List Char} :
    ['*'] <:+ '*' :: rest ∧ 1 < ('*' :: rest).length ↔ ['*'] <:+ rest := by
  rw [List.suffix_cons_iff]
  constructor
  · rintro ⟨lone | behind, long⟩
    · rw [← lone] at long
      exact absurd long (Nat.lt_irrefl 1)
    · exact behind
  · intro behind
    exact ⟨.inr behind, Nat.succ_lt_succ behind.length_le⟩

theorem one_lt_length_of_suffix_star (closed : ¬ ['*'] <+: pattern) (behind : ['*'] <:+ pattern) :
    1 < pattern.length := by
  obtain ⟨front, rfl⟩ := behind
  cases front with
  | nil => exact absurd List.prefix_rfl closed
  | cons first front =>
    rw [List.length_append, List.length_cons]
    exact Nat.succ_lt_succ (Nat.succ_pos _)

theorem exists_isSplit (pattern : List Char) : ∃ head core tail, IsSplit pattern head core tail := by
  by_cases ahead : ['*'] <+: pattern
  · obtain ⟨rest, rfl⟩ := ahead
    by_cases behind : ['*'] <:+ rest
    · obtain ⟨core, rfl⟩ := behind
      exact ⟨['*'], core, ['*'], (List.append_assoc ..).symm, .inl rfl, .inl rfl⟩
    · exact ⟨['*'], rest, [], (List.append_nil _).symm, .inl rfl,
        .inr ⟨rfl, mt suffix_star_cons_iff.mp behind⟩⟩
  · by_cases behind : ['*'] <:+ pattern
    · obtain ⟨core, rfl⟩ := behind
      exact ⟨[], core, ['*'], rfl, .inr ⟨rfl, ahead⟩, .inl rfl⟩
    · exact ⟨[], pattern, [], (List.append_nil _).symm, .inr ⟨rfl, ahead⟩,
        .inr ⟨rfl, fun ended => behind ended.1⟩⟩

namespace IsSplit

theorem openHead (split : IsSplit pattern head core tail) :
    (parts pattern).openHead = !head.isEmpty := by
  rw [parts, Bool.eq_iff_iff, beq_iff_eq, List.head?_eq_some_iff]
  rcases split.head with rfl | ⟨rfl, closed⟩
  · exact iff_of_true ⟨core ++ tail, split.whole⟩ rfl
  · refine iff_of_false ?_ Bool.false_ne_true
    rintro ⟨rest, rfl⟩
    exact closed ⟨rest, rfl⟩

theorem openEnd (split : IsSplit pattern head core tail) :
    (parts pattern).openEnd = !tail.isEmpty := by
  rw [parts, Bool.eq_iff_iff, Bool.and_eq_true, decide_eq_true_eq, beq_iff_eq,
    List.getLast?_eq_some_iff]
  rcases split.tail with rfl | ⟨rfl, closed⟩
  · refine iff_of_true ⟨?_, head ++ core, split.whole⟩ rfl
    rcases split.head with rfl | ⟨rfl, closedHead⟩
    · rw [split.whole, List.length_append, List.length_append]
      exact Nat.lt_of_lt_of_le (Nat.lt_succ_self 1) (Nat.succ_le_succ (Nat.le_add_right 1 _))
    · exact one_lt_length_of_suffix_star closedHead ⟨core, split.whole.symm⟩
  · refine iff_of_false ?_ Bool.false_ne_true
    rintro ⟨long, front, rfl⟩
    exact closed ⟨⟨front, rfl⟩, long⟩

/-- The parts of a pattern are told by how it splits. -/
theorem parts_eq (split : IsSplit pattern head core tail) :
    parts pattern = ⟨!head.isEmpty, !tail.isEmpty, core⟩ := by
  have between : (parts pattern).core =
      let rest := if (parts pattern).openHead then pattern.drop 1 else pattern
      if (parts pattern).openEnd then rest.dropLast else rest := rfl
  rw [split.openHead, split.openEnd] at between
  have same : (parts pattern).core = core := by
    rw [between, split.whole]
    rcases split.head with rfl | ⟨rfl, -⟩ <;> rcases split.tail with rfl | ⟨rfl, -⟩
    · exact List.dropLast_concat
    · exact List.append_nil core
    · exact List.dropLast_concat
    · exact List.append_nil core
  rw [← split.openHead, ← split.openEnd, ← same]

/-- What a split pattern admits: its core, with other characters only at the open places. -/
theorem admits_iff {input : List Char} (split : IsSplit pattern head core tail) :
    (parts pattern).admits input = true ↔ ∃ front back, input = front ++ core ++ back ∧
      (head = [] → front = []) ∧ (tail = [] → back = []) := by
  rw [Parts.admits_iff, split.parts_eq]
  simp only [Bool.not_eq_false', List.isEmpty_iff]

end IsSplit

/-! ## Cutting a text at offsets -/

/-- How many octets characters take. -/
def octets : List Char → Nat
  | [] => 0
  | char :: rest => char.utf8Size + octets rest

/-- The characters before an offset in octets and those behind it, unless the offset is inside a character
or beyond them all. -/
def cut? : List Char → Nat → Option (List Char × List Char)
  | chars, 0 => some ([], chars)
  | [], _ => none
  | char :: rest, offset =>
    if offset < char.utf8Size then none
    else (cut? rest (offset - char.utf8Size)).map fun (front, back) => (char :: front, back)

/-- The characters between two offsets, if both are between characters and in their order. -/
def slice? (chars : List Char) (first last : Nat) : Option (List Char) :=
  (cut? chars last).bind fun (front, _) => (cut? front first).map Prod.snd

theorem octets_append (front back : List Char) :
    octets (front ++ back) = octets front + octets back := by
  induction front with
  | nil => exact (Nat.zero_add _).symm
  | cons char front ih => rw [List.cons_append, octets, octets, ih, Nat.add_assoc]

theorem cut?_append (front back : List Char) :
    cut? (front ++ back) (octets front) = some (front, back) := by
  induction front with
  | nil => cases back <;> rfl
  | cons char front ih =>
    have positive := char.utf8Size_pos
    have whole : octets (char :: front) = octets front + char.utf8Size := Nat.add_comm ..
    rw [List.cons_append, whole, cut?, if_neg (by omega), Nat.add_sub_cancel, ih]
    · rfl
    · omega

theorem slice?_append (front middle back : List Char) :
    slice? (front ++ middle ++ back) (octets front) (octets (front ++ middle)) = some middle := by
  rw [slice?, cut?_append, Option.bind_some]
  dsimp only
  rw [cut?_append, Option.map_some]

/-- The core of a pattern is the slice of it between the asterisks. -/
theorem IsSplit.slice?_eq (split : IsSplit pattern head core tail) :
    slice? pattern head.length (octets pattern - tail.length) = some core := by
  have front : octets head = head.length := by
    rcases split.head with rfl | ⟨rfl, -⟩ <;> rfl
  have back : octets tail = tail.length := by
    rcases split.tail with rfl | ⟨rfl, -⟩ <;> rfl
  rw [split.whole, octets_append, back, Nat.add_sub_cancel, ← front]
  exact slice?_append head core tail

/-- Whether a pattern admits an input, by slices of the pattern: its text is cut behind the octet of an
asterisk at the head and before that of one at the end. -/
def admitsCut? (pattern input : List Char) : Option Bool :=
  if pattern = ['*'] then some true
  else
    match pattern.head? == some '*', 1 < octets pattern && pattern.getLast? == some '*' with
    | true, true => (slice? pattern 1 (octets pattern - 1)).map (occurs · input)
    | true, false => (slice? pattern 1 (octets pattern)).map (·.isSuffixOf input)
    | false, true => (slice? pattern 0 (octets pattern - 1)).map (·.isPrefixOf input)
    | false, false => some (input == pattern)

theorem octets_pos_iff {chars : List Char} : 0 < octets chars ↔ 0 < chars.length := by
  cases chars with
  | nil => exact Iff.rfl
  | cons char rest =>
    have positive := char.utf8Size_pos
    have whole : octets (char :: rest) = char.utf8Size + octets rest := rfl
    exact iff_of_true (by omega) (Nat.succ_pos _)

/-- Where an asterisk is at the end, more than one octet is more than one character. -/
theorem isOpenEnd_octets (pattern : List Char) :
    (1 < octets pattern && pattern.getLast? == some '*') = (parts pattern).openEnd := by
  rw [parts, Bool.eq_iff_iff, Bool.and_eq_true, Bool.and_eq_true, decide_eq_true_eq,
    decide_eq_true_eq, beq_iff_eq]
  refine and_congr_left fun ended => ?_
  obtain ⟨front, rfl⟩ := List.getLast?_eq_some_iff.mp ended
  have positive := @octets_pos_iff front
  have star : octets ['*'] = 1 := rfl
  have one : ['*'].length = 1 := rfl
  rw [octets_append, List.length_append, star, one]
  omega

/-- No cut goes through a character, and what the slices say is what the pattern admits. -/
theorem admitsCut?_eq (pattern input : List Char) :
    admitsCut? pattern input = some ((parts pattern).admits input) := by
  by_cases lone : pattern = ['*']
  · subst lone
    rfl
  obtain ⟨head, core, tail, split⟩ := exists_isSplit pattern
  have ahead : (pattern.head? == some '*') = (parts pattern).openHead := rfl
  have sliced := split.slice?_eq
  rw [admitsCut?, if_neg lone, ahead, isOpenEnd_octets, split.parts_eq, Parts.admits]
  rcases split.head with rfl | ⟨rfl, -⟩ <;> rcases split.tail with rfl | ⟨rfl, -⟩
  · exact congrArg (Option.map (occurs · input)) sliced
  · exact congrArg (Option.map (·.isSuffixOf input)) sliced
  · exact congrArg (Option.map (·.isPrefixOf input)) sliced
  · rw [split.whole, List.nil_append, List.append_nil]
    rfl

/-! ## What a pattern describes -/

theorem lowerAscii_append (front back : String) :
    Text.lowerAscii (front ++ back) = Text.lowerAscii front ++ Text.lowerAscii back := by
  rw [Text.lowerAscii, String.toList_append, List.map_append, Text.lowerAscii, Text.lowerAscii]

theorem lowerAscii_star : Text.lowerAscii "*" = ['*'] := by decide

/-- Patterns and inputs that differ in the case of ASCII letters only. -/
theorem admits_of_sameIgnoringCase {pattern other input another : String}
    (patterns : Text.sameIgnoringCase pattern other = true)
    (inputs : Text.sameIgnoringCase input another = true) :
    admits other another = admits pattern input := by
  rw [admits, admits, beq_iff_eq.mp patterns, beq_iff_eq.mp inputs]

/-- An asterisk more at a head that was closed. -/
theorem IsSplit.star_cons (split : IsSplit pattern [] core tail) :
    IsSplit ('*' :: pattern) ['*'] core tail := by
  have closed : ¬ ['*'] <+: pattern := by
    rcases split.head with opened | ⟨-, closed⟩
    · cases opened
    · exact closed
  refine ⟨congrArg _ split.whole, .inl rfl, ?_⟩
  rw [suffix_star_cons_iff]
  refine split.tail.imp_right fun ended => ⟨ended.1, fun behind => ended.2 ⟨behind, ?_⟩⟩
  exact one_lt_length_of_suffix_star closed behind

/-- An asterisk more at an end that was closed. -/
theorem IsSplit.append_star (split : IsSplit pattern head core []) (present : pattern ≠ []) :
    IsSplit (pattern ++ ['*']) head core ['*'] := by
  refine ⟨?_, ?_, .inl rfl⟩
  · rw [split.whole, List.append_nil]
  · refine split.head.imp_right fun closed => ⟨closed.1, fun ahead => closed.2 ?_⟩
    obtain ⟨first, rest, rfl⟩ := List.exists_cons_of_ne_nil present
    obtain ⟨rfl, -⟩ := List.cons_prefix_cons.mp ahead
    exact ⟨rest, rfl⟩

/-- A pattern that is opened at its head admits no less. -/
theorem admits_star_append {pattern input : String}
    (split : IsSplit (Text.lowerAscii pattern) [] core tail)
    (admitted : admits pattern input = true) : admits ("*" ++ pattern) input = true := by
  obtain ⟨front, back, same, -, closed⟩ := split.admits_iff.mp admitted
  rw [admits, lowerAscii_append, lowerAscii_star]
  exact split.star_cons.admits_iff.mpr ⟨front, back, same, nofun, closed⟩

/-- A pattern that is opened at its end admits no less. -/
theorem admits_append_star {pattern input : String}
    (split : IsSplit (Text.lowerAscii pattern) head core [])
    (admitted : admits pattern input = true) : admits (pattern ++ "*") input = true := by
  rw [admits, lowerAscii_append, lowerAscii_star]
  by_cases empty : Text.lowerAscii pattern = []
  · rw [empty]
    rfl
  · obtain ⟨front, back, same, closed, -⟩ := split.admits_iff.mp admitted
    exact (split.append_star empty).admits_iff.mpr ⟨front, back, same, closed, nofun⟩

/-- A pattern admits the inputs in which its core stands, with other characters before it only if an
asterisk is at its head, and behind it only if one is at its end. It is cut between characters only, the
case of ASCII letters makes no difference, and an asterisk at an end that had none loses no input. -/
theorem admits_iff_of_isSplit (pattern input : String) :
    (∃ head core tail, IsSplit (Text.lowerAscii pattern) head core tail) ∧
    (∀ head core tail, IsSplit (Text.lowerAscii pattern) head core tail →
      (admits pattern input = true ↔ ∃ front back,
        Text.lowerAscii input = front ++ core ++ back ∧
          (head = [] → front = []) ∧ (tail = [] → back = [])) ∧
      (admits pattern input = true →
        (head = [] → admits ("*" ++ pattern) input = true) ∧
          (tail = [] → admits (pattern ++ "*") input = true))) ∧
    admitsCut? (Text.lowerAscii pattern) (Text.lowerAscii input) = some (admits pattern input) ∧
    ∀ other another, Text.sameIgnoringCase pattern other = true →
      Text.sameIgnoringCase input another = true → admits other another = admits pattern input := by
  refine ⟨exists_isSplit _, ?_, admitsCut?_eq _ _, fun _ _ => admits_of_sameIgnoringCase⟩
  intro head core tail split
  refine ⟨split.admits_iff, fun admitted => ⟨?_, ?_⟩⟩
  · rintro rfl
    exact admits_star_append split admitted
  · rintro rfl
    exact admits_append_star split admitted

/-- A pattern with a letter of two octets behind its asterisk, in two spellings. -/
theorem admits_iff_of_isSplit_umlaut :
    IsSplit (Text.lowerAscii "*Ü.De") ['*'] ['Ü', '.', 'd', 'e'] [] ∧
      Text.sameIgnoringCase "*Ü.De" "*Ü.DE" = true ∧ admits "*Ü.De" "GRÜ.DE" = true ∧
      admits "*Ü.DE" "GRÜ.DE" = true ∧ admits "*Ü.De*" "GRÜ.DE" = true ∧
      admitsCut? (Text.lowerAscii "*Ü.De") (Text.lowerAscii "GRÜ.DE") = some true := by
  have split : IsSplit (Text.lowerAscii "*Ü.De") ['*'] ['Ü', '.', 'd', 'e'] [] := by
    have lowered : Text.lowerAscii "*Ü.De" = ['*', 'Ü', '.', 'd', 'e'] := by decide
    rw [lowered]
    exact ⟨rfl, .inl rfl, .inr ⟨rfl, by decide⟩⟩
  have same : Text.sameIgnoringCase "*Ü.De" "*Ü.DE" = true := by decide
  obtain ⟨-, described, cut, alike⟩ := admits_iff_of_isSplit "*Ü.De" "GRÜ.DE"
  obtain ⟨found, wider⟩ := described _ _ _ split
  have admitted : admits "*Ü.De" "GRÜ.DE" = true :=
    found.mpr ⟨['g', 'r'], [], by decide, nofun, fun _ => rfl⟩
  rw [admitted] at cut alike
  exact ⟨split, same, admitted, alike _ _ same (by decide), (wider admitted).2 rfl, cut⟩

end SocksGateway.Pattern
