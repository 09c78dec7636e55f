import SocksGateway.Document.Json

/-!
Documents of texts, lists and records read back from their JSON. A text may hold any characters: quotes
and backslashes are escaped, and so are controls, by their number where they have no short escape.
-/

set_option autoImplicit false

namespace SocksGateway.Document

/-- What records are made of: texts, and lists and records of such values. -/
inductive Value.IsTextual : Value → Prop
  | text (value : String) : IsTextual (.text value)
  | list {items : List Value} (each : ∀ item ∈ items, IsTextual item) : IsTextual (.list items)
  | record {entries : List (String × Value)} (each : ∀ entry ∈ entries, IsTextual entry.2) :
      IsTextual (.record entries)

namespace Json

/-! ## Texts -/

/-- The number of a control character reads back from its escape. -/
theorem exists_unit?_padded {number : Nat} (control : number < 32) :
    ∃ a b c d, Hex.padded 4 number = [a, b, c, d] ∧ unit? a b c d = some number := by
  have low := Hex.digitValue?_digit (number % 16) (Nat.mod_lt _ (by decide))
  have zero : Hex.digitValue? '0' = some 0 := rfl
  by_cases small : number < 16
  · refine ⟨'0', '0', '0', Hex.digit number, ?_, ?_⟩
    · rw [Hex.padded, Hex.digits, if_pos small]
      rfl
    · rw [Nat.mod_eq_of_lt small] at low
      simp only [unit?, zero, low, Option.bind_eq_bind, Option.bind_some]
      simp
  · have high := Hex.digitValue?_digit (number / 16) (by omega)
    refine ⟨'0', '0', Hex.digit (number / 16), Hex.digit (number % 16), ?_, ?_⟩
    · rw [Hex.padded, Hex.digits, if_neg small, Hex.digits, if_pos (by omega)]
      rfl
    · simp only [unit?, zero, low, high, Option.bind_eq_bind, Option.bind_some]
      simp only [Nat.zero_mul, Nat.zero_add, pure, Option.some.injEq]
      omega

theorem pieces_plain {char : Char} (visible : ¬ char.toNat < 32) (noQuote : char ≠ '"')
    (noEscape : char ≠ '\\') (chars : List Char) :
    pieces (char :: chars) = (pieces chars).map fun (later, after) => (.plain char :: later, after) := by
  simp [pieces, visible, noEscape]

theorem pieces_escaped {mark char : Char} (known : shortEscape? mark = some char) (chars : List Char) :
    pieces ('\\' :: mark :: chars) =
      (pieces chars).map fun (later, after) => (.plain char :: later, after) := by
  have short : mark ≠ 'u' := by
    rintro rfl
    cases known
  simp [pieces, short, known]

theorem pieces_number {number : Nat} (control : number < 32) (chars : List Char) :
    pieces ('\\' :: 'u' :: Hex.padded 4 number ++ chars) =
      (pieces chars).map fun (later, after) => (.unit number :: later, after) := by
  obtain ⟨a, b, c, d, digits, unit⟩ := exists_unit?_padded control
  rw [digits]
  simp only [List.cons_append, List.nil_append, pieces, unit]

/-- A piece in front of a text is its first character. -/
theorem textBody_of_pieces {char : Char} {piece : Piece} {front chars : List Char}
    (read : pieces (front ++ chars) =
      (pieces chars).map fun (later, after) => (piece :: later, after))
    (shown : ∀ later, characters (piece :: later) = (characters later).map (char :: ·)) :
    textBody (front ++ chars) =
      (textBody chars).map fun (body, after) => (body.map (char :: ·), after) := by
  rw [textBody, textBody, read, Option.map_map, Option.map_map]
  congr 1
  funext found
  simp only [Function.comp_apply, shown]

/-- A text goes on behind the written form of any character. -/
theorem textBody_writtenChar (char : Char) (chars : List Char) :
    textBody (writtenChar char ++ chars) =
      (textBody chars).map fun (body, after) => (body.map (char :: ·), after) := by
  unfold writtenChar
  split
  · exact textBody_of_pieces (pieces_escaped rfl chars) fun _ => rfl
  · exact textBody_of_pieces (pieces_escaped rfl chars) fun _ => rfl
  · exact textBody_of_pieces (pieces_escaped rfl chars) fun _ => rfl
  · exact textBody_of_pieces (pieces_escaped rfl chars) fun _ => rfl
  · exact textBody_of_pieces (pieces_escaped rfl chars) fun _ => rfl
  · exact textBody_of_pieces (pieces_escaped rfl chars) fun _ => rfl
  · exact textBody_of_pieces (pieces_escaped rfl chars) fun _ => rfl
  · rename_i noQuote noEscape _ _ _ _ _
    split
    · rename_i control
      apply textBody_of_pieces (pieces_number control chars)
      intro later
      have whole : isHighHalf char.toNat = false ∧ isLowHalf char.toNat = false := by
        simp only [isHighHalf, isLowHalf, Bool.and_eq_false_iff, decide_eq_false_iff_not]
        omega
      rw [characters.eq_def]
      simp only [whole, Bool.false_eq_true, ↓reduceIte, Char.ofNat_toNat]
    · rename_i visible
      exact textBody_of_pieces (pieces_plain visible noQuote noEscape chars) fun _ => rfl

theorem textBody_written (text : List Char) (rest : List Char) :
    textBody (text.flatMap writtenChar ++ '"' :: rest) = some (some text, rest) := by
  induction text with
  | nil => rfl
  | cons char text ih =>
    rw [List.flatMap_cons, List.append_assoc, textBody_writtenChar, ih]
    rfl

/-! ## Values -/

theorem skipBlanks_append {blanks : List Char} (blank : ∀ char ∈ blanks, isBlank char = true)
    (chars : List Char) : skipBlanks (blanks ++ chars) = skipBlanks chars :=
  List.dropWhile_append_of_pos blank

theorem isBlank_of_mem_newLine {level : Nat} {char : Char} (listed : char ∈ newLine level) :
    isBlank char = true := by
  obtain rfl | space := List.mem_cons.mp listed
  · rfl
  · rw [(List.mem_replicate.mp space).2]
    rfl

theorem value_append {blanks : List Char} (blank : ∀ char ∈ blanks, isBlank char = true)
    (fuel : Nat) (chars : List Char) : value fuel (blanks ++ chars) = value fuel chars := by
  cases fuel with
  | zero => rfl
  | succ fuel => simp only [value, skipBlanks_append blank]

/-- A value reads back from its written form, whatever follows, as soon as the fuel is enough. -/
def Reads (item : Value) : Prop := ∀ level fuel rest, (written level item).length ≤ fuel →
  value fuel (written level item ++ rest) = some (item, rest)

theorem reads_text (text : String) : Reads (.text text) := by
  intro level fuel rest enough
  cases fuel with
  | zero => cases enough
  | succ fuel =>
    have body := textBody_written text.toList rest
    have quote : ∀ chars, skipBlanks ('"' :: chars) = '"' :: chars := fun _ => rfl
    simp only [written, writtenText, List.cons_append, List.append_assoc, List.nil_append, value,
      quote, body, Option.map_some, textOf, String.ofList_toList]

/-- What follows the last item or entry of a list or a record: a new line and the closing mark. -/
theorem skipBlanks_newLine (level : Nat) {mark : Char} (visible : isBlank mark = false)
    (rest : List Char) : skipBlanks (newLine level ++ mark :: rest) = mark :: rest := by
  rw [skipBlanks_append fun _ => isBlank_of_mem_newLine]
  exact List.dropWhile_cons_of_neg (by rw [visible]; decide)

theorem items_written {all : List Value} (some : all ≠ []) (each : ∀ item ∈ all, Reads item)
    (level outer fuel : Nat) (rest : List Char)
    (enough : (writtenItems level all).length ≤ fuel) :
    items fuel (writtenItems level all ++ (newLine outer ++ ']' :: rest)) = .some (all, rest) := by
  induction all generalizing fuel with
  | nil => exact absurd rfl some
  | cons first others ih =>
    cases fuel with
    | zero => cases enough
    | succ fuel =>
      have room : (newLine level).length = 2 * level + 1 := by
        simp [newLine]
      simp only [writtenItems, List.length_append, room] at enough
      simp only [writtenItems, List.append_assoc, items]
      rw [value_append fun _ => isBlank_of_mem_newLine,
        each first List.mem_cons_self level fuel _ (by omega)]
      cases others with
      | nil =>
        simp only [separator, writtenItems, List.isEmpty_nil, ↓reduceIte, List.nil_append,
          Option.bind_eq_bind, Option.bind_some, skipBlanks_newLine outer (rfl : isBlank ']' = false)]
        rfl
      | cons second others =>
        have following := ih (List.cons_ne_nil _ _)
          (fun item listed => each item (List.mem_cons_of_mem _ listed)) fuel (by omega)
        have comma : ∀ chars, skipBlanks (',' :: chars) = ',' :: chars := fun _ => rfl
        simp only [separator, List.isEmpty_cons, Bool.false_eq_true, ↓reduceIte, List.cons_append,
          List.nil_append, Option.bind_eq_bind, Option.bind_some, comma, following]
        rfl

theorem entries_written {all : List (String × Value)} (some : all ≠ [])
    (each : ∀ entry ∈ all, Reads entry.2) (level outer fuel : Nat) (rest : List Char)
    (enough : (writtenEntries level all).length ≤ fuel) :
    entries fuel (writtenEntries level all ++ (newLine outer ++ '\x7d' :: rest)) =
      .some (all.map fun entry => (.some entry.1, entry.2), rest) := by
  induction all generalizing fuel with
  | nil => exact absurd rfl some
  | cons first others ih =>
    obtain ⟨name, content⟩ := first
    cases fuel with
    | zero => cases enough
    | succ fuel =>
      have room : (newLine level).length = 2 * level + 1 := by
        simp [newLine]
      simp only [writtenEntries, List.length_append, List.length_cons, room] at enough
      have quote : ∀ chars, skipBlanks ('"' :: chars) = '"' :: chars := fun _ => rfl
      have colon : ∀ chars, skipBlanks (':' :: chars) = ':' :: chars := fun _ => rfl
      have body := fun chars => textBody_written name.toList chars
      simp only [writtenEntries, writtenText, List.append_assoc, List.cons_append, List.nil_append,
        entries, skipBlanks_append fun _ => isBlank_of_mem_newLine, quote, body, colon,
        Option.bind_eq_bind, Option.bind_some, Option.map_some, String.ofList_toList]
      have space : ∀ char ∈ [' '], isBlank char = true := by
        intro char listed
        rw [List.mem_singleton.mp listed]
        rfl
      have read : Reads content := each (name, content) List.mem_cons_self
      rw [← List.singleton_append, value_append space, read level fuel _ (by omega)]
      cases others with
      | nil =>
        simp only [separator, writtenEntries, List.isEmpty_nil, ↓reduceIte, List.nil_append,
          Option.bind_some, skipBlanks_newLine outer (rfl : isBlank '\x7d' = false)]
        rfl
      | cons second others =>
        have following := ih (List.cons_ne_nil _ _)
          (fun entry listed => each entry (List.mem_cons_of_mem _ listed)) fuel (by omega)
        have comma : ∀ chars, skipBlanks (',' :: chars) = ',' :: chars := fun _ => rfl
        simp only [separator, List.isEmpty_cons, Bool.false_eq_true, ↓reduceIte, List.cons_append,
          List.nil_append, Option.bind_some, comma, following]
        rfl

theorem exists_written_list (level : Nat) (items : List Value) :
    ∃ tail, written level (.list items) = '[' :: tail := by
  unfold written
  split
  · exact ⟨_, rfl⟩
  · exact ⟨_, rfl⟩

/-- The first character of a value of a text, a list or a record. -/
theorem exists_written_cons {item : Value} (textual : item.IsTextual) (level : Nat) :
    ∃ head tail, written level item = head :: tail ∧ isBlank head = false ∧ head ≠ ']' := by
  cases textual with
  | text value => exact ⟨'"', _, rfl, rfl, by decide⟩
  | list each =>
    obtain ⟨tail, starts⟩ := exists_written_list level _
    exact ⟨'[', tail, starts, rfl, by decide⟩
  | record each =>
    unfold written
    split
    · exact ⟨'\x7b', _, rfl, rfl, by decide⟩
    · exact ⟨'\x7b', _, rfl, rfl, by decide⟩

theorem exists_skipBlanks_items {first : Value} (textual : first.IsTextual) (others : List Value)
    (level : Nat) (after : List Char) : ∃ head tail,
      skipBlanks (writtenItems level (first :: others) ++ after) = head :: tail ∧ head ≠ ']' := by
  obtain ⟨head, tail, starts, visible, item⟩ := exists_written_cons textual level
  refine ⟨head, tail ++ (separator others ++ (writtenItems level others ++ after)), ?_, item⟩
  simp only [writtenItems, starts, List.append_assoc, List.cons_append]
  exact skipBlanks_newLine level visible _

theorem exists_skipBlanks_entries (first : String × Value) (others : List (String × Value))
    (level : Nat) (after : List Char) :
    ∃ tail, skipBlanks (writtenEntries level (first :: others) ++ after) = '"' :: tail := by
  simp only [writtenEntries, writtenText, List.append_assoc, List.cons_append]
  exact ⟨_, skipBlanks_newLine level rfl _⟩

/-- A list that has an item is read item by item. -/
theorem value_bracket {fuel : Nat} {rest tail : List Char} {head : Char}
    (inside : skipBlanks rest = head :: tail) (item : head ≠ ']') :
    value (fuel + 1) ('[' :: rest) =
      (items fuel rest).map fun (items, after) => (.list items, after) := by
  have bracket : skipBlanks ('[' :: rest) = '[' :: rest := rfl
  simp only [value, bracket, inside]
  split
  · rename_i closed
    cases closed
    exact absurd rfl item
  · rfl

/-- A record that has an entry is read entry by entry. -/
theorem value_brace {fuel : Nat} {rest tail : List Char} {head : Char}
    (inside : skipBlanks rest = head :: tail) (entry : head ≠ '\x7d') :
    value (fuel + 1) ('\x7b' :: rest) =
      (entries fuel rest).map fun (entries, after) => (recordOf entries, after) := by
  have brace : skipBlanks ('\x7b' :: rest) = '\x7b' :: rest := rfl
  simp only [value, brace, inside]
  split
  · rename_i closed
    cases closed
    exact absurd rfl entry
  · rfl

theorem reads_list {all : List Value} (textual : ∀ item ∈ all, item.IsTextual)
    (each : ∀ item ∈ all, Reads item) : Reads (.list all) := by
  intro level fuel rest enough
  cases fuel with
  | zero => cases all <;> cases enough
  | succ fuel =>
    cases all with
    | nil => rfl
    | cons first others =>
      have shape (rest : List Char) : written level (.list (first :: others)) ++ rest =
          '[' :: (writtenItems (level + 1) (first :: others) ++ (newLine level ++ ']' :: rest)) := by
        simp only [written, List.isEmpty_cons, Bool.false_eq_true, ↓reduceIte, List.cons_append,
          List.nil_append, List.append_assoc]
      obtain ⟨head, tail, inside, item⟩ := exists_skipBlanks_items
        (textual first List.mem_cons_self) others (level + 1) (newLine level ++ ']' :: rest)
      have length := congrArg List.length (shape [])
      simp only [List.length_append, List.length_cons, List.length_nil] at length
      rw [shape, value_bracket inside item,
        items_written (List.cons_ne_nil first others) each (level + 1) level fuel rest (by omega)]
      rfl

theorem recordOf_entries (entries : List (String × Value)) :
    recordOf (entries.map fun entry => (some entry.1, entry.2)) = .record entries := by
  have named {name : Option String × Value → Option (String × Value)}
      (each : ∀ entry : String × Value, name (some entry.1, entry.2) = some entry) :
      (entries.map fun entry => (some entry.1, entry.2)).mapM name = some entries := by
    induction entries with
    | nil => rfl
    | cons entry others ih =>
      rw [List.map_cons, List.mapM_cons, ih, each]
      rfl
  rw [recordOf, named fun _ => rfl]

theorem reads_record {all : List (String × Value)} (each : ∀ entry ∈ all, Reads entry.2) :
    Reads (.record all) := by
  intro level fuel rest enough
  cases fuel with
  | zero => cases all <;> cases enough
  | succ fuel =>
    cases all with
    | nil => rfl
    | cons first others =>
      have shape (rest : List Char) : written level (.record (first :: others)) ++ rest =
          '\x7b' ::
            (writtenEntries (level + 1) (first :: others) ++ (newLine level ++ '\x7d' :: rest)) := by
        simp only [written, List.isEmpty_cons, Bool.false_eq_true, ↓reduceIte, List.cons_append,
          List.nil_append, List.append_assoc]
      obtain ⟨tail, inside⟩ := exists_skipBlanks_entries first others (level + 1)
        (newLine level ++ '\x7d' :: rest)
      have length := congrArg List.length (shape [])
      simp only [List.length_append, List.length_cons, List.length_nil] at length
      rw [shape, value_brace inside (by decide),
        entries_written (List.cons_ne_nil first others) each (level + 1) level fuel rest (by omega)]
      exact congrArg (fun document => some (document, rest)) (recordOf_entries (first :: others))

theorem reads_of_isTextual {item : Value} (textual : item.IsTextual) : Reads item := by
  induction textual with
  | text value => exact reads_text value
  | list textual each => exact reads_list textual each
  | record textual each => exact reads_record each

/-- A document reads back from its text. -/
theorem parse?_render {document : Value} (textual : document.IsTextual) :
    parse? (render document) = some document := by
  have read := reads_of_isTextual textual 0 ((written 0 document).length + 1) [] (Nat.le_succ _)
  rw [List.append_nil] at read
  simp only [parse?, render, String.toList_ofList, read]
  rfl

end Json

end SocksGateway.Document
