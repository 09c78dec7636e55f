import SocksGateway.Proofs.Address.Text

/-!
Texts of IPv6 addresses. Whichever run of zero groups is left out, and whether or not the address ends in
dotted notation, it reads back from its text; so do the addresses of either family, which have no text in
common.
-/

set_option autoImplicit false

namespace SocksGateway

namespace Address

/-! ## Hexadecimal numerals -/

/-- The digits of a number read back one by one, whatever follows them. -/
theorem exists_leadingDigits (value : Nat) : ∃ values : List Nat,
    (∀ rest, leadingDigits 16 (Hex.digits value ++ rest) = values ++ leadingDigits 16 rest) ∧
      values.length = (Hex.digits value).length ∧
      values.foldl (fun total digit => total * 16 + digit) 0 = value := by
  induction value using Nat.strongRecOn with
  | ind value ih =>
    unfold Hex.digits
    split
    · rename_i small
      refine ⟨[value], ?_, rfl, by simp⟩
      intro rest
      simp only [List.singleton_append, leadingDigits, Hex.digitValue?_digit value small, small,
        ↓reduceIte]
    · rename_i large
      obtain ⟨values, read, length, total⟩ := ih (value / 16) (by omega)
      have last : value % 16 < 16 := Nat.mod_lt _ (by decide)
      refine ⟨values ++ [value % 16], ?_, ?_, ?_⟩
      · intro rest
        simp only [List.append_assoc, List.singleton_append, read, leadingDigits,
          Hex.digitValue?_digit _ last, last, ↓reduceIte]
      · simp only [List.length_append, length, List.length_singleton]
      · simp only [List.foldl_append, total, List.foldl_cons, List.foldl_nil]
        omega

theorem length_digits_le {value : Nat} (places : Nat) (small : value < Nat.pow 16 (places + 1)) :
    (Hex.digits value).length ≤ places + 1 := by
  induction places generalizing value with
  | zero =>
    unfold Hex.digits
    rw [if_pos (by omega)]
    exact Nat.le_refl 1
  | succ places ih =>
    unfold Hex.digits
    split
    · exact Nat.succ_le_succ (Nat.zero_le _)
    · have quotient : value / 16 < Nat.pow 16 (places + 1) := by
        have shifted : Nat.pow 16 (places + 1 + 1) = Nat.pow 16 (places + 1) * 16 := rfl
        omega
      have shorter := ih quotient
      simp only [List.length_append, List.length_singleton]
      omega

theorem digits_ne_nil (value : Nat) : Hex.digits value ≠ [] := by
  unfold Hex.digits
  split
  · exact List.cons_ne_nil _ _
  · exact List.append_ne_nil_of_right_ne_nil _ (List.cons_ne_nil _ _)

theorem isHex_of_mem_digits {value : Nat} {char : Char} (listed : char ∈ Hex.digits value) :
    (Hex.digitValue? char).isSome = true := by
  induction value using Nat.strongRecOn with
  | ind value ih =>
    unfold Hex.digits at listed
    split at listed
    · rename_i small
      rw [List.mem_singleton.mp listed, Hex.digitValue?_digit value small]
      rfl
    · obtain earlier | last := List.mem_append.mp listed
      · exact ih (value / 16) (by omega) earlier
      · rw [List.mem_singleton.mp last, Hex.digitValue?_digit _ (Nat.mod_lt _ (by decide))]
        rfl

/-- A text that ends or goes on with a colon. -/
def IsCut (rest : List Char) : Prop := ∀ char ∈ rest.head?, char = ':'

theorem isCut_nil : IsCut [] := nofun

theorem isCut_cons (rest : List Char) : IsCut (':' :: rest) := by
  intro char same
  cases same
  rfl

theorem IsCut.cases {rest : List Char} (cut : IsCut rest) : rest = [] ∨ ∃ more, rest = ':' :: more := by
  cases rest with
  | nil => exact .inl rfl
  | cons char more => exact .inr ⟨more, by rw [cut char rfl]⟩

theorem IsCut.leadingDigits_eq_nil {rest : List Char} (cut : IsCut rest) (base : Nat) :
    leadingDigits base rest = [] := by
  obtain rfl | ⟨more, rfl⟩ := cut.cases
  · rfl
  · rfl

theorem group_append (value : UInt16) {rest : List Char} (cut : IsCut rest) :
    group (Hex.digits value.toNat ++ rest) = some (value, rest) := by
  have bound : value.toNat < 65536 := value.toNat_lt
  have short : (Hex.digits value.toNat).length ≤ 4 := length_digits_le 3 bound
  obtain ⟨values, read, length, total⟩ := exists_leadingDigits value.toNat
  have some : values ≠ [] := by
    intro none
    rw [none] at length
    exact digits_ne_nil _ (List.length_eq_zero_iff.mp length.symm)
  have fits : ¬ 4 < (Hex.digits value.toNat).length := Nat.not_lt.mpr short
  simp only [group, numeral, read, cut.leadingDigits_eq_nil 16, List.append_nil, total,
    List.isEmpty_eq_false_iff.mpr some, Bool.false_eq_true, ↓reduceIte, Option.any_some, fits,
    decide_false, Nat.not_le.mpr bound, Bool.not_true, Bool.false_and, length, List.drop_left,
    Option.map_some, UInt16.ofNat_toNat]

theorem numeral_of_isCut {base limit : Nat} {places : Option Nat} {padded : Bool}
    {rest : List Char} (cut : IsCut rest) : numeral base limit places padded rest = none := by
  simp only [numeral, cut.leadingDigits_eq_nil, List.isEmpty_nil, ↓reduceIte]

theorem group_of_isCut {rest : List Char} (cut : IsCut rest) : group rest = none := by
  rw [group, numeral_of_isCut cut, Option.map_none]

theorem ipv4_of_isCut {rest : List Char} (cut : IsCut rest) : ipv4 rest = none := by
  rw [ipv4, octet, numeral_of_isCut cut]
  rfl

/-! ## Dotted notation -/

theorem octet_toString (value : UInt8) {rest : List Char}
    (stops : ∀ char ∈ rest.head?, char.isDigit = false) :
    octet ((toString value.toNat).toList ++ rest) = some (value, rest) := by
  rw [octet, numeral_octet false value stops, Option.map_some]
  simp only [UInt8.ofNat_toNat]

theorem ipv4_append (ip : Ipv4) {rest : List Char}
    (stops : ∀ char ∈ rest.head?, char.isDigit = false) :
    ipv4 (ip.text.toList ++ rest) = some (ip, rest) := by
  have point : ∀ {more : List Char}, ∀ char ∈ ('.' :: more).head?, char.isDigit = false := by
    intro more char same
    cases same
    rfl
  rw [Ipv4.toList_text]
  simp only [ipv4, List.append_assoc, List.cons_append, Option.bind_eq_bind, octet_toString _ point,
    Option.bind_some, given_cons, octet_toString _ stops]
  rfl

/-- The digits of a group are no beginning of dotted notation. -/
theorem ipv4_digits (value : Nat) {rest : List Char} (cut : IsCut rest) :
    ipv4 (Hex.digits value ++ rest) = none := by
  cases read : ipv4 (Hex.digits value ++ rest) with
  | none => rfl
  | some found =>
    obtain ⟨ip, more⟩ := found
    have same := congrArg (List.dropWhile fun char => (Hex.digitValue? char).isSome)
      (Ipv4.eq_append_of_ipv4 read)
    rw [List.dropWhile_append_of_pos fun _ => isHex_of_mem_digits, Ipv4.toList_text,
      List.append_assoc, List.dropWhile_append_of_pos] at same
    · obtain rfl | ⟨later, rfl⟩ := cut.cases
      · cases same
      · cases same
    · intro char listed
      rw [toList_toString] at listed
      rw [digitValue?_of_isDigit (Nat.isDigit_of_mem_toDigits (by decide) (by decide) listed)]
      rfl

/-! ## Groups -/

/-- Groups with colons before them, the first one's only unless it stands at the beginning. -/
def writtenGroups : (first : Bool) → List UInt16 → List Char
  | _, [] => []
  | true, value :: others => Hex.digits value.toNat ++ writtenGroups false others
  | false, value :: others => ':' :: (Hex.digits value.toNat ++ writtenGroups false others)

theorem isCut_writtenGroups (values : List UInt16) {rest : List Char} (cut : IsCut rest) :
    IsCut (writtenGroups false values ++ rest) := by
  cases values with
  | nil => exact cut
  | cons value others => exact isCut_cons _

theorem ipv4_writtenGroups (values : List UInt16) {rest : List Char} (cut : IsCut rest) :
    ipv4 (writtenGroups true values ++ rest) = none := by
  cases values with
  | nil => exact ipv4_of_isCut cut
  | cons value others =>
    rw [writtenGroups, List.append_assoc]
    exact ipv4_digits _ (isCut_writtenGroups others cut)

/-- A text that ends or leaves groups out. -/
def IsGap (rest : List Char) : Prop := rest = [] ∨ ∃ more, rest = ':' :: ':' :: more

theorem IsGap.isCut {rest : List Char} (gap : IsGap rest) : IsCut rest := by
  obtain rfl | ⟨more, rfl⟩ := gap
  · exact isCut_nil
  · exact isCut_cons _

theorem IsGap.separated {rest : List Char} {α : Type} {inner : Reader α} (gap : IsGap rest)
    (first : Bool) (none : ∀ {chars}, IsCut chars → inner chars = none) :
    separated first inner rest = .none := by
  cases first with
  | true => exact none gap.isCut
  | false =>
    obtain rfl | ⟨more, rfl⟩ := gap
    · rfl
    · exact none (isCut_cons more)

theorem groups_append {values : List UInt16} (room : Nat) (first : Bool) {rest : List Char}
    (gap : IsGap rest) (fits : values.length ≤ room) :
    groups room first (writtenGroups first values ++ rest) = (values, false, rest) := by
  induction values generalizing room first with
  | nil =>
    cases room with
    | zero => simp only [writtenGroups, groups, List.nil_append]
    | succ room =>
      have nothing : writtenGroups first [] = [] := by cases first <;> rfl
      simp only [nothing, groups, List.nil_append, gap.separated first ipv4_of_isCut,
        gap.separated first group_of_isCut, ite_self]
  | cons value others ih =>
    cases room with
    | zero => cases fits
    | succ room =>
      have cut := isCut_writtenGroups others gap.isCut
      have following := ih room false (Nat.le_of_succ_le_succ fits)
      cases first with
      | true =>
        simp only [writtenGroups, List.append_assoc, groups, separated, ↓reduceIte,
          ipv4_digits _ cut, ite_self, group_append value cut, following]
      | false =>
        simp only [writtenGroups, List.append_assoc, List.cons_append, groups, separated,
          Bool.false_eq_true, ↓reduceIte, given_cons, Option.bind_some,
          ipv4_digits _ cut, ite_self, group_append value cut, following]

end Address

open Address

namespace Ipv4

/-- An IPv4 address reads back from its text. -/
theorem parse?_text (ip : Ipv4) : parse? ip.text = some ip := by
  apply whole?_eq_some_iff.mpr
  rw [← List.append_nil ip.text.toList]
  exact ipv4_append ip nofun

end Ipv4

namespace Ipv6

theorem toList_joined (values : List UInt16) :
    (joined values).toList = writtenGroups true values := by
  have tail (value : UInt16) (others : List UInt16) :
      (joined (value :: others)).toList =
        Hex.digits value.toNat ++ writtenGroups false others := by
    induction others generalizing value with
    | nil => simp [joined, writtenGroups]
    | cons next others ih =>
      have step : joined (value :: next :: others) =
          String.ofList (Hex.digits value.toNat) ++ ":" ++ joined (next :: others) := by
        simp only [joined, List.map_cons, String.intercalate_cons_cons]
      rw [step, String.toList_append, String.toList_append, ih]
      simp [writtenGroups]
  cases values with
  | nil => rfl
  | cons value others => exact tail value others

/-- The longest run of zeros, with what is before and behind it. -/
theorem exists_append_of_longestZeroRun {values : List UInt16} {start place count : Nat}
    (found : longestZeroRun start values = (place, count)) :
    ∃ front back, values = front ++ List.replicate count 0 ++ back ∧
      (0 < count → place = start + front.length) := by
  induction values generalizing start with
  | nil =>
    cases found
    exact ⟨[], [], rfl, nofun⟩
  | cons value others ih =>
    unfold longestZeroRun at found
    dsimp only at found
    split at found
    · cases found
      have run : (value :: others).takeWhile (· == 0) =
          List.replicate (zeroRun (value :: others)) 0 := by
        apply List.eq_replicate_iff.mpr
        refine ⟨rfl, ?_⟩
        intro each listed
        simpa using List.all_eq_true.mp List.all_takeWhile each listed
      refine ⟨[], (value :: others).dropWhile (· == 0), ?_, fun _ => rfl⟩
      rw [List.nil_append, ← run, List.takeWhile_append_dropWhile]
    · obtain ⟨front, back, rfl, shifted⟩ := ih found
      refine ⟨value :: front, back, rfl, ?_⟩
      intro positive
      rw [shifted positive, List.length_cons]
      omega

theorem ofGroups_groups (ip : Ipv6) : ofGroups ip.groups = ip := rfl

theorem eq_ofIpv4_of_toIpv4? {ip : Ipv6} {short : Ipv4} (mapped : ip.toIpv4? = some short) :
    ip = ofIpv4 short := by
  unfold toIpv4? at mapped
  split at mapped
  · rename_i zeros
    obtain ⟨h0, h1, h2, h3, h4, h5⟩ := zeros
    cases mapped
    cases ip
    simp only [ofIpv4, Bytes.word_ofNat] at *
    simp only [h0, h1, h2, h3, h4, h5]
  · cases mapped

/-- An address with all its groups reads back. -/
theorem ipv6_groups (ip : Ipv6) : ipv6 (writtenGroups true ip.groups) = some (ip, []) := by
  have read := groups_append 8 true (.inl rfl) (Nat.le_refl ip.groups.length)
  have eight : ip.groups.length = 8 := rfl
  rw [List.append_nil] at read
  simp only [ipv6, read, eight, ↓reduceIte, ofGroups_groups]

/-- Zeros come in the place of the groups that are left out. -/
theorem ipv6_gap {front back : List UInt16} {mixed : Bool} {chars rest : List Char}
    (short : front.length < 8)
    (after : Address.groups (7 - front.length) true chars = (back, mixed, rest)) :
    ipv6 (writtenGroups true front ++ ':' :: ':' :: chars) = some (ofGroups
      (front ++ List.replicate (8 - front.length - back.length) 0 ++ back), rest) := by
  have before := groups_append 8 true (.inr ⟨chars, rfl⟩) (Nat.le_of_lt short)
  simp only [ipv6, before, Nat.ne_of_lt short, ↓reduceIte, Bool.false_eq_true, given_cons,
    Option.bind_eq_bind, Option.bind_some, after]
  rfl

/-- A mapped address reads back from dotted notation. -/
theorem ipv6_mapped (ip : Ipv4) :
    ipv6 (mappedFront.toList ++ ip.text.toList) = some (ofIpv4 ip, []) := by
  have mark : mappedFront.toList ++ ip.text.toList = writtenGroups true [] ++
      ':' :: ':' :: (Hex.digits (0xffff : UInt16).toNat ++ ':' :: ip.text.toList) := by
    simp [mappedFront, writtenGroups, Hex.digits, Hex.digit]
  have dotted : ipv4 ip.text.toList = some (ip, []) := whole?_eq_some_iff.mp ip.parse?_text
  have back : Address.groups 7 true (Hex.digits (0xffff : UInt16).toNat ++ ':' :: ip.text.toList) =
      ([0xffff, Bytes.word ip.a ip.b, Bytes.word ip.c ip.d], true, []) := by
    simp only [Address.groups, separated, Nat.zero_lt_succ, Bool.false_eq_true, ↓reduceIte,
      ipv4_digits _ (isCut_cons _), group_append _ (isCut_cons _), given_cons, Option.bind_some,
      dotted]
  have short : ([] : List UInt16).length < 8 := by decide
  rw [mark, ipv6_gap short back]
  rfl

/-- The three forms of a text: dotted, with zeros left out, and with all groups. -/
theorem text_cases (ip : Ipv6) :
    (∃ short, ip = ofIpv4 short ∧ ip.text.toList = mappedFront.toList ++ short.text.toList) ∨
    (∃ front count back, 1 < count ∧ ip.groups = front ++ List.replicate count 0 ++ back ∧
      ip.text.toList = writtenGroups true front ++ ':' :: ':' :: writtenGroups true back) ∨
    ip.text.toList = writtenGroups true ip.groups := by
  cases mapped : ip.toIpv4? with
  | some short =>
    have same := eq_ofIpv4_of_toIpv4? mapped
    exact .inl ⟨short, same, by rw [same, text_ofIpv4, String.toList_append]⟩
  | none =>
    cases found : longestZeroRun 0 ip.groups with
    | mk start count =>
      simp only [text, mapped, found]
      split
      · rename_i several
        obtain ⟨front, back, same, place⟩ := exists_append_of_longestZeroRun found
        have before : start = front.length := (place (by omega)).trans (Nat.zero_add _)
        have taken : ip.groups.take start = front := by
          rw [same, before, List.append_assoc, List.take_left]
        have dropped : ip.groups.drop (start + count) = back := by
          rw [same]
          exact List.drop_left' (by rw [List.length_append, List.length_replicate, before])
        refine .inr (.inl ⟨front, count, back, several, same, ?_⟩)
        rw [taken, dropped, String.toList_append, String.toList_append, toList_joined, toList_joined,
          List.append_assoc]
        rfl
      · exact .inr (.inr (toList_joined ip.groups))

theorem parse?_text (ip : Ipv6) : parse? ip.text = some ip := by
  apply whole?_eq_some_iff.mpr
  obtain ⟨short, same, written⟩ | ⟨front, count, back, several, same, written⟩ | written :=
    ip.text_cases
  · rw [written, same]
    exact ipv6_mapped short
  · have eight : front.length + count + back.length = 8 := by
      have whole := congrArg List.length same
      rw [List.length_append, List.length_append, List.length_replicate] at whole
      exact whole.symm
    have fits : back.length ≤ 7 - front.length := by omega
    have after := groups_append (7 - front.length) true (.inl rfl) fits
    rw [List.append_nil] at after
    have zeros : 8 - front.length - back.length = count := by omega
    rw [written, ipv6_gap (by omega) after, zeros, ← same, ofGroups_groups]
  · rw [written]
    exact ipv6_groups ip

/-- No text of an IPv6 address is that of an IPv4 address. -/
theorem ipv4_parse?_text (ip : Ipv6) : Ipv4.parse? ip.text = none := by
  have unread : ipv4 ip.text.toList = none := by
    obtain ⟨short, _, written⟩ | ⟨front, count, back, _, _, written⟩ | written := ip.text_cases
    · rw [written]
      exact ipv4_of_isCut (isCut_cons _)
    · rw [written]
      exact ipv4_writtenGroups front (isCut_cons _)
    · rw [written, ← List.append_nil (writtenGroups true ip.groups)]
      exact ipv4_writtenGroups ip.groups isCut_nil
  rw [Ipv4.parse?, whole?, unread]

end Ipv6

/-- An address of either family reads back from its text. -/
theorem Ip.parse?_text (ip : Ip) : parse? ip.text = some ip := by
  cases ip with
  | v4 ip => rw [text, parse?, Ipv4.parse?_text]
  | v6 ip =>
    rw [text, parse?, ip.ipv4_parse?_text, Ipv6.parse?_text]
    rfl

end SocksGateway
