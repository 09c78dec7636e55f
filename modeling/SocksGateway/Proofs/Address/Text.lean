import SocksGateway.Address.Cidr

/-!
Texts of IPv4 addresses and of ranges. An IPv4 address has one text only, the text of its mapped form
is that text behind a fixed front, and a range reads back from its text.
-/

set_option autoImplicit false

namespace SocksGateway

namespace Address

/-! ## Decimal digits -/

theorem digit_lt_ten {char : Char} (digit : char.isDigit = true) :
    char.toNat - '0'.toNat < 10 := by
  have range := Char.isDigit_iff_toNat.mp digit
  have low : '0'.toNat = 48 := rfl
  have high : '9'.toNat = 57 := rfl
  omega

theorem digitChar_of_isDigit {char : Char} (digit : char.isDigit = true) :
    Nat.digitChar (char.toNat - '0'.toNat) = char := by
  have range := Char.isDigit_iff_toNat.mp digit
  have low : '0'.toNat = 48 := rfl
  apply Char.toNat_inj.mp
  rw [Nat.toNat_digitChar_of_lt_ten (digit_lt_ten digit)]
  omega

theorem digitValue?_of_isDigit {char : Char} (digit : char.isDigit = true) :
    Hex.digitValue? char = some (char.toNat - '0'.toNat) := by
  have range := Char.isDigit_iff_toNat.mp digit
  have low : '0'.toNat = 48 := rfl
  have high : '9'.toNat = 57 := rfl
  rw [low, high] at range
  simp only [Hex.digitValue?, range, and_self, ↓reduceIte, low]

theorem ten_le_of_not_isDigit {char : Char} {value : Nat} (other : char.isDigit = false)
    (read : Hex.digitValue? char = some value) : 10 ≤ value := by
  have outside : ¬ (48 ≤ char.toNat ∧ char.toNat ≤ 57) := by
    intro range
    rw [Char.isDigit_iff_toNat.mpr range] at other
    cases other
  simp only [Hex.digitValue?, outside, ↓reduceIte] at read
  split at read
  · cases read
    omega
  · split at read
    · cases read
      omega
    · cases read

theorem leadingDigits_ten (chars : List Char) :
    leadingDigits 10 chars =
      (chars.takeWhile Char.isDigit).map fun char => char.toNat - '0'.toNat := by
  induction chars with
  | nil => rfl
  | cons char rest ih =>
    cases digit : char.isDigit with
    | true =>
      simp only [leadingDigits, digitValue?_of_isDigit digit, digit_lt_ten digit, ↓reduceIte,
        List.takeWhile_cons, digit, List.map_cons, ih]
    | false =>
      simp only [List.takeWhile_cons, digit, Bool.false_eq_true, ↓reduceIte, List.map_nil]
      unfold leadingDigits
      cases read : Hex.digitValue? char with
      | none => rfl
      | some value => exact if_neg (Nat.not_lt.mpr (ten_le_of_not_isDigit digit read))

theorem foldl_digits (digits : List Char) :
    (digits.map fun char => char.toNat - '0'.toNat).foldl
      (fun total digit => total * 10 + digit) 0 = Nat.ofDigitChars 10 digits 0 := by
  rw [List.foldl_map, Nat.ofDigitChars_eq_foldl]
  simp only [Nat.mul_comm]

theorem head?_digits {digits : List Char} (decimal : ∀ char ∈ digits, char.isDigit = true) :
    ((digits.map fun char => char.toNat - '0'.toNat).head? == some 0) =
      (digits.head? == some '0') := by
  cases digits with
  | nil => rfl
  | cons char rest =>
    have same := digitChar_of_isDigit (decimal char List.mem_cons_self)
    rw [Bool.eq_iff_iff, beq_iff_eq, beq_iff_eq, List.map_cons, List.head?_cons, List.head?_cons,
      Option.some.injEq, Option.some.injEq, ← Nat.digitChar_eq_zero, same]

/-! ## Numerals -/

theorem toDigits_ofDigitChars_append (digits : List Char) {start : Nat} (positive : 0 < start)
    (decimal : ∀ char ∈ digits, char.isDigit = true) :
    Nat.toDigits 10 (Nat.ofDigitChars 10 digits start) = Nat.toDigits 10 start ++ digits := by
  induction digits generalizing start with
  | nil => rw [Nat.ofDigitChars_nil, List.append_nil]
  | cons char rest ih =>
    have digit := decimal char List.mem_cons_self
    have onward : 0 < 10 * start + (char.toNat - '0'.toNat) := by omega
    rw [Nat.ofDigitChars_cons,
      ih onward fun other member => decimal other (List.mem_cons_of_mem _ member),
      ← Nat.toDigits_append_toDigits (by decide) positive (digit_lt_ten digit),
      Nat.toDigits_of_lt_base (digit_lt_ten digit), digitChar_of_isDigit digit,
      List.append_assoc, List.singleton_append]

/-- Digits without a zero before others are the digits of the number that they denote. -/
theorem toDigits_ofDigitChars {digits : List Char} (nonempty : digits ≠ [])
    (decimal : ∀ char ∈ digits, char.isDigit = true)
    (plain : digits.head? = some '0' → digits.length = 1) :
    Nat.toDigits 10 (Nat.ofDigitChars 10 digits 0) = digits := by
  cases digits with
  | nil => exact absurd rfl nonempty
  | cons char rest =>
    have digit := decimal char List.mem_cons_self
    have others : ∀ other ∈ rest, other.isDigit = true :=
      fun other member => decimal other (List.mem_cons_of_mem _ member)
    rw [Nat.ofDigitChars_cons, Nat.mul_zero, Nat.zero_add]
    by_cases zero : char.toNat - '0'.toNat = 0
    · have isZero : char = '0' := by
        rw [← digitChar_of_isDigit digit, zero]
        rfl
      have length := plain (by rw [isZero]; rfl)
      have single : rest = [] := List.length_eq_zero_iff.mp (Nat.succ.inj length)
      rw [single, isZero]
      rfl
    · rw [toDigits_ofDigitChars_append rest (Nat.pos_of_ne_zero zero) others,
        Nat.toDigits_of_lt_base (digit_lt_ten digit), digitChar_of_isDigit digit,
        List.singleton_append]

theorem head?_toDigits {value : Nat} (positive : 0 < value) :
    (Nat.toDigits 10 value).head? ≠ some '0' := by
  induction value using Nat.strongRecOn with
  | ind value ih =>
    rw [Nat.toDigits_eq_if (by decide)]
    split
    · rw [List.head?_cons, ne_eq, Option.some.injEq, Nat.digitChar_eq_zero]
      omega
    · have front := ih (value / 10) (by omega) (by omega)
      cases digits : Nat.toDigits 10 (value / 10) with
      | nil => exact absurd digits Nat.toDigits_ne_nil
      | cons char rest =>
        rw [digits] at front
        exact front

theorem isPlain_toDigits (value : Nat) : ((Nat.toDigits 10 value).head? == some '0' &&
    decide (1 < (Nat.toDigits 10 value).length)) = false := by
  by_cases single : value < 10
  · rw [Nat.toDigits_of_lt_base single, List.length_singleton]
    simp only [Nat.lt_irrefl, decide_false, Bool.and_false]
  · rw [Bool.and_eq_false_iff, beq_eq_false_iff_ne]
    exact Or.inl (head?_toDigits (by omega))

/-- A numeral that is not padded is written with the digits of its value. -/
theorem eq_append_of_numeral {limit value : Nat} {places : Option Nat} {chars rest : List Char}
    (read : numeral 10 limit places false chars = some (value, rest)) :
    value < limit ∧ chars = Nat.toDigits 10 value ++ rest := by
  have decimal : ∀ char ∈ chars.takeWhile Char.isDigit, char.isDigit = true :=
    List.all_eq_true.mp List.all_takeWhile
  simp only [numeral, leadingDigits_ten, foldl_digits, head?_digits decimal, List.length_map,
    List.isEmpty_iff, List.map_eq_nil_iff] at read
  split at read
  · cases read
  · rename_i nonempty
    split at read
    · cases read
    · split at read
      · cases read
      · rename_i below
        split at read
        · cases read
        · rename_i plain
          cases read
          refine ⟨Nat.lt_of_not_le below, ?_⟩
          have rest_eq : chars.drop (chars.takeWhile Char.isDigit).length =
              chars.dropWhile Char.isDigit := by
            calc
              _ = (chars.takeWhile Char.isDigit ++ chars.dropWhile Char.isDigit).drop
                  (chars.takeWhile Char.isDigit).length := by rw [List.takeWhile_append_dropWhile]
              _ = _ := List.drop_left
          rw [toDigits_ofDigitChars nonempty decimal, rest_eq, List.takeWhile_append_dropWhile]
          intro zero
          have some := List.length_pos_iff.mpr nonempty
          simp only [zero, Bool.not_false, Bool.true_and, beq_self_eq_true, decide_eq_true_eq]
            at plain
          omega

/-- The digits of a number read back, before anything that does not go on with a digit. -/
theorem numeral_toDigits {limit value : Nat} {places : Option Nat} (padded : Bool)
    {rest : List Char} (below : value < limit)
    (short : ∀ count ∈ places, (Nat.toDigits 10 value).length ≤ count)
    (stops : ∀ char ∈ rest.head?, char.isDigit = false) :
    numeral 10 limit places padded (Nat.toDigits 10 value ++ rest) = some (value, rest) := by
  have decimal : ∀ char ∈ Nat.toDigits 10 value, char.isDigit = true :=
    fun _ => Nat.isDigit_of_mem_toDigits (by decide) (by decide)
  have stopped : rest.takeWhile Char.isDigit = [] := by
    cases rest with
    | nil => rfl
    | cons char rest => exact List.takeWhile_cons_of_neg (by rw [stops char rfl]; decide)
  have digits : (Nat.toDigits 10 value ++ rest).takeWhile Char.isDigit = Nat.toDigits 10 value := by
    rw [List.takeWhile_append_of_pos decimal, stopped, List.append_nil]
  have fits : ¬ places.any (fun count => count < (Nat.toDigits 10 value).length) = true := by
    cases places with
    | none => exact Bool.false_ne_true
    | some count =>
      have enough := short count rfl
      simp only [Option.any_some, decide_eq_true_eq]
      omega
  simp only [numeral, leadingDigits_ten, digits, foldl_digits, head?_digits decimal,
    List.length_map, List.isEmpty_iff, List.map_eq_nil_iff, Nat.toDigits_ne_nil, ↓reduceIte, fits,
    Nat.ofDigitChars_ten_toDigits, Nat.not_le.mpr below, Bool.and_assoc, isPlain_toDigits,
    Bool.and_false, Bool.false_eq_true, List.drop_left]

theorem toList_toString (value : Nat) : (toString value).toList = Nat.toDigits 10 value := by
  rw [Nat.toString_eq_ofList_toDigits, String.toList_ofList]

theorem numeral_octet (padded : Bool) (value : UInt8) {rest : List Char}
    (stops : ∀ char ∈ rest.head?, char.isDigit = false) :
    numeral 10 256 (some 3) padded ((toString value.toNat).toList ++ rest) =
      some (value.toNat, rest) := by
  have bound := value.toNat_lt
  have short : ∀ count ∈ some 3, (Nat.toDigits 10 value.toNat).length ≤ count := by
    intro count same
    cases same
    rw [Nat.length_toDigits_le_iff (by decide) (by decide)]
    omega
  rw [toList_toString, numeral_toDigits padded bound short stops]

/-! ## Readers -/

theorem whole?_eq_some_iff {α : Type} {reader : Reader α} {text : String} {value : α} :
    whole? reader text = some value ↔ reader text.toList = some (value, []) := by
  unfold whole?
  constructor
  · intro found
    split at found
    · rename_i same
      cases found
      exact same
    · cases found
  · intro found
    simp only [found]

theorem eq_cons_of_given {char : Char} {chars rest : List Char}
    (read : given char chars = some ((), rest)) : chars = char :: rest := by
  unfold given at read
  split at read
  · cases read
  · split at read
    · rename_i same
      cases read
      rw [same]
    · cases read

theorem given_cons (char : Char) (rest : List Char) : given char (char :: rest) = some ((), rest) :=
  if_pos rfl

theorem eq_append_of_octet {chars rest : List Char} {value : UInt8}
    (read : octet chars = some (value, rest)) : chars = (toString value.toNat).toList ++ rest := by
  unfold octet at read
  obtain ⟨⟨number, others⟩, found, same⟩ := Option.map_eq_some_iff.mp read
  obtain ⟨below, written⟩ := eq_append_of_numeral found
  cases same
  rw [toList_toString, UInt8.toNat_ofNat', Nat.mod_eq_of_lt below, written]

end Address

open Address

namespace Ipv4

theorem toList_text (ip : Ipv4) : ip.text.toList =
    (toString ip.a.toNat).toList ++ '.' :: ((toString ip.b.toNat).toList ++ '.' ::
      ((toString ip.c.toNat).toList ++ '.' :: (toString ip.d.toNat).toList)) := by
  simp only [text, String.toList_append, List.append_assoc]
  rfl

theorem eq_append_of_ipv4 {chars rest : List Char} {ip : Ipv4}
    (read : ipv4 chars = some (ip, rest)) : chars = ip.text.toList ++ rest := by
  unfold ipv4 at read
  simp only [Option.bind_eq_bind, Option.bind_eq_some_iff, Prod.exists] at read
  obtain ⟨a, _, first, _, _, firstPoint, b, _, second, _, _, secondPoint, c, _, third, _, _,
    thirdPoint, d, _, last, same⟩ := read
  cases same
  rw [eq_append_of_octet first, eq_cons_of_given firstPoint, eq_append_of_octet second,
    eq_cons_of_given secondPoint, eq_append_of_octet third, eq_cons_of_given thirdPoint,
    eq_append_of_octet last, toList_text]
  simp only [List.append_assoc, List.cons_append]

/-- An IPv4 address has one text only. -/
theorem eq_text_of_parse? {text : String} {ip : Ipv4} (read : parse? text = some ip) :
    text = ip.text := by
  have whole := eq_append_of_ipv4 (whole?_eq_some_iff.mp read)
  rw [List.append_nil] at whole
  exact String.toList_inj.mp whole

/-- A character that an IPv4 address can be written with. -/
def IsTextChar (char : Char) : Prop := char.isDigit = true ∨ char = '.'

instance (char : Char) : Decidable (IsTextChar char) := inferInstanceAs (Decidable (_ ∨ _))

theorem isTextChar_of_mem {ip : Ipv4} {char : Char} (member : char ∈ ip.text.toList) :
    IsTextChar char := by
  have digits : ∀ value : Nat, char ∈ (toString value).toList → IsTextChar char := by
    intro value found
    rw [toList_toString] at found
    exact Or.inl (Nat.isDigit_of_mem_toDigits (by decide) (by decide) found)
  simp only [toList_text, List.mem_append, List.mem_cons] at member
  rcases member with found | rfl | found | rfl | found | rfl | found
  · exact digits _ found
  · exact Or.inr rfl
  · exact digits _ found
  · exact Or.inr rfl
  · exact digits _ found
  · exact Or.inr rfl
  · exact digits _ found

theorem text_ne_nil (ip : Ipv4) : ip.text.toList ≠ [] := by
  rw [toList_text]
  exact List.append_ne_nil_of_right_ne_nil _ (List.cons_ne_nil _ _)

end Ipv4

/-- The front with which every IPv4-mapped address is written. -/
def Ipv6.mappedFront : String := "::ffff:"

theorem Ipv6.text_ofIpv4 (ip : Ipv4) : (Ipv6.ofIpv4 ip).text = mappedFront ++ ip.text := by
  simp only [text, toIpv4?_ofIpv4, mappedFront]

namespace Cidr

theorem octet_toString (value : UInt8) {rest : List Char}
    (stops : ∀ char ∈ rest.head?, char.isDigit = false) :
    octet ((toString value.toNat).toList ++ rest) = some (value, rest) := by
  rw [octet, numeral_octet true value stops, Option.map_some]
  simp only [UInt8.ofNat_toNat]

theorem toList_text (range : Cidr) : range.text.toList =
    (toString range.base.a.toNat).toList ++ '.' :: ((toString range.base.b.toNat).toList ++ '.' ::
      ((toString range.base.c.toNat).toList ++ '.' :: ((toString range.base.d.toNat).toList ++ '/' ::
        (toString range.length).toList))) := by
  rw [text, String.toList_append, String.toList_append, Ipv4.toList_text]
  simp only [List.append_assoc, List.cons_append]
  rfl

/-- A range reads back from its text. -/
theorem parse?_text (range : Cidr) : parse? range.text = some range := by
  have bound := range.length_le
  have short : ∀ count ∈ some 2, (Nat.toDigits 10 range.length).length ≤ count := by
    intro count same
    cases same
    rw [Nat.length_toDigits_le_iff (by decide) (by decide)]
    omega
  have stops : ∀ (mark : Char) {rest : List Char}, mark.isDigit = false →
      ∀ char ∈ (mark :: rest).head?, char.isDigit = false := by
    intro mark rest other char same
    cases same
    exact other
  have length : numeral 10 33 (some 2) true (toString range.length).toList =
      some (range.length, []) := by
    rw [toList_toString, ← List.append_nil (Nat.toDigits 10 range.length)]
    exact numeral_toDigits true (Nat.lt_succ_of_le bound) short (fun _ => nofun)
  apply whole?_eq_some_iff.mpr
  rw [toList_text]
  simp only [reader, Option.bind_eq_bind, octet_toString _ (stops '.' rfl),
    octet_toString _ (stops '/' rfl),
    Option.bind_some, given_cons, length, bound, ↓reduceDIte]
  rfl

end Cidr

end SocksGateway
