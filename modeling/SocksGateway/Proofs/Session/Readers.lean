import SocksGateway.Proofs.Session.Fields

/-!
Handlers that only read fields. What such a handler makes of a stream of octets is a function of the
octets: it takes some off the front and returns a value, or fails. A format is given by the octets
that a reader takes for each value, whatever comes behind them.
-/

set_option autoImplicit false

namespace SocksGateway

namespace Bytes

theorem ofText_injective {text other : String} (same : ofText text = ofText other) :
    text = other :=
  Option.some.inj ((text?_ofText text).symm.trans (text?_eq_some_iff.mpr same.symm))

theorem ofText_ne_nil {text : String} (present : text ≠ "") : ofText text ≠ [] :=
  fun empty => present (ofText_injective empty)

end Bytes

namespace Handler

variable {α β : Type}

/-- A handler that reads fields and does nothing else. -/
inductive IsReader : {α : Type} → Handler α → Prop where
  | pure {α : Type} (value : α) : IsReader (pure value : Handler α)
  | throw {α : Type} (failure : Failure) : IsReader (throw failure : Handler α)
  | readExactly (count : Nat) : IsReader (readExactly count)
  | bind {α β : Type} {handler : Handler α} {f : α → Handler β} (first : IsReader handler)
      (rest : ∀ value, IsReader (f value)) : IsReader (handler >>= f)
  | within {α : Type} {remark : String} {handler : Handler α} (inner : IsReader handler) :
      IsReader (within remark handler)

namespace IsReader

theorem fail (cause : Cause) : IsReader (fail cause : Handler α) := .throw _

/-- What follows a part that is only there on a condition. -/
theorem when {condition : Prop} [Decidable condition] {handler : Handler α} {rest : Handler β}
    (first : IsReader handler) (others : IsReader rest) :
    IsReader (if condition then do let _ ← handler; rest else rest) := by
  split
  · exact .bind first fun _ => others
  · exact others

theorem readOctet : IsReader readOctet := .bind (.readExactly 1) fun _ => .pure _

theorem readWord : IsReader readWord := by
  apply IsReader.bind (.readExactly 2)
  intro octets
  split
  · exact .pure _
  · exact .fail _

theorem isFieldwise {handler : Handler α} (reader : IsReader handler) (world : Surroundings) :
    IsFieldwise world handler := by
  induction reader with
  | pure value => exact isFieldwise_pure value
  | throw failure => exact isFieldwise_throw failure
  | readExactly count => exact isFieldwise_readExactly count
  | bind _ _ first rest => exact isFieldwise_bind first rest
  | within _ inner => exact isFieldwise_within inner

end IsReader

/-- A run that takes of a tape what the handler takes of the same octets alone. -/
def reading (handler : Handler α) (tape : Tape) : Ran (Except Failure α) where
  result := (handler.runOn tape.input).1
  acts := []
  tape := tape.holding (handler.runOn tape.input).2

/-- Whatever comes behind these octets, the handler takes just them and returns this value. -/
def Reads (handler : Handler α) (octets : Bytes) (value : α) : Prop :=
  ∀ rest, handler.runOn (octets ++ rest) = (.ok value, rest)

/-! ## What readers make of octets -/

theorem runOn_pure (value : α) (octets : Bytes) :
    (pure value : Handler α).runOn octets = (.ok value, octets) :=
  Prod.ext rfl (Tape.input_ofBytes octets)

theorem runOn_throw (failure : Failure) (octets : Bytes) :
    (throw failure : Handler α).runOn octets = (.error failure, octets) :=
  Prod.ext rfl (Tape.input_ofBytes octets)

theorem runOn_readExactly (count : Nat) (octets : Bytes) :
    (readExactly count).runOn octets =
      (if count ≤ octets.length then .ok (octets.take count) else .error (.ofIo .unexpectedEnd),
        octets.drop count) := by
  have alike := readExactly_alike .isolated count (.ofBytes octets)
  refine Prod.ext (alike.result.trans ?_) (alike.tape.input.trans ?_)
  · simp only [Tape.field, Tape.isOpen_ofBytes, ↓reduceIte, Tape.input_ofBytes]
  · simp only [Tape.field, Tape.isOpen_ofBytes, ↓reduceIte, Tape.input_holding,
      Tape.input_ofBytes]

theorem runOn_within (remark : String) (handler : Handler α) (octets : Bytes) :
    (within remark handler).runOn octets =
      ((handler.runOn octets).1.mapError (·.within remark), (handler.runOn octets).2) := by
  have adapted : (within remark handler).run = handler.run.bind fun result =>
      .done (result.mapError (·.within remark)) := rfl
  simp only [runOn, adapted, Session.run_bind, Session.run]

theorem run_bind_of_ok {world : Surroundings} {handler : Handler α} {f : α → Handler β}
    {tape : Tape} {value : α} (success : (handler.run.run world tape).result = .ok value) :
    (handler >>= f).run.run world tape =
      let first := handler.run.run world tape
      let second := (f value).run.run world first.tape
      { second with acts := first.acts ++ second.acts } := by
  refine (Session.run_bind world handler.run _ tape).trans ?_
  dsimp only
  rw [success]
  rfl

/-- A failure of its first part ends a sequence. -/
theorem run_bind_of_error {world : Surroundings} {handler : Handler α} {f : α → Handler β}
    {tape : Tape} {failure : Failure}
    (failed : (handler.run.run world tape).result = .error failure) :
    (handler >>= f).run.run world tape =
      let first := handler.run.run world tape
      { result := .error failure, acts := first.acts, tape := first.tape } := by
  refine (Session.run_bind world handler.run _ tape).trans ?_
  dsimp only
  rw [failed]
  exact congrArg (Ran.mk (Except.error failure) · _) (List.append_nil _)

theorem run_bind_of_eq {world : Surroundings} {handler : Handler α} {f : α → Handler β}
    {tape left : Tape} {value : α} {acts : List Act}
    (first : handler.run.run world tape = { result := .ok value, acts, tape := left }) :
    (handler >>= f).run.run world tape =
      let second := (f value).run.run world left
      { second with acts := acts ++ second.acts } := by
  rw [run_bind_of_ok (congrArg Ran.result first), first]

theorem run_outcome (world : Surroundings) (handler : Handler α) (tape : Tape) :
    (outcome handler).run.run world tape =
      { result := .ok (handler.run.run world tape).result
        acts := (handler.run.run world tape).acts, tape := (handler.run.run world tape).tape } := by
  have kept : (outcome handler).run = handler.run.bind fun result => .done (.ok result) := rfl
  rw [kept, Session.run_bind]
  simp only [Session.run, List.append_nil]

/-- A client that takes everything takes this. -/
theorem run_write (world : Surroundings) {tape : Tape} (octets : Bytes)
    (isOpen : tape.isOpen = true) (writable : tape.writes = []) :
    (write octets).run.run world tape = { result := .ok (), acts := [.wrote octets], tape } := by
  have given : (effect (Session.write octets)).run.run world tape =
      { result := .ok (.ok ()), acts := [.wrote octets], tape } := by
    have alone : (effect (Session.write octets)).run =
      .write octets fun answer => .done (.ok answer : Except Failure _) := rfl
    simp only [alone, Session.run, Tape.write, isOpen, writable, ↓reduceIte]
    rfl
  rw [write, run_bind_of_eq given]
  rfl

theorem run_takeUp (world : Surroundings) (tape : Tape) :
    takeUp.run.run world tape =
      { result := world.takeUp.mapError .ofIo, acts := [], tape } := by
  have alone : takeUp.run = .takeUp fun answer => .done (answer.mapError .ofIo) := by
    apply congrArg Session.takeUp
    funext answer
    cases answer <;> rfl
  rw [alone, Session.run, Session.run]

/-- A sequence runs like a run of its first part with one of the rest behind it. -/
theorem run_bind_alike_of_ok {world : Surroundings} {handler : Handler α} {f : α → Handler β}
    {tape left : Tape} {value : α} {acts : List Act}
    (first : (handler.run.run world tape).Alike { result := .ok value, acts, tape := left })
    (rest : IsFieldwise world (f value)) :
    ((handler >>= f).run.run world tape).Alike
      (let second := (f value).run.run world left
      { second with acts := acts ++ second.acts }) := by
  obtain ⟨result, conduct, behind⟩ := first
  rw [run_bind_of_ok result]
  have after := rest behind
  refine ⟨after.result, ?_, after.tape⟩
  simp only [Ran.conduct, List.filter_append] at conduct ⊢
  exact congr (congrArg _ conduct) after.conduct

theorem run_bind_alike_of_error {world : Surroundings} {handler : Handler α} {f : α → Handler β}
    {tape left : Tape} {failure : Failure} {acts : List Act}
    (first : (handler.run.run world tape).Alike { result := .error failure, acts, tape := left }) :
    ((handler >>= f).run.run world tape).Alike
      { result := .error failure, acts, tape := left } := by
  rw [run_bind_of_error first.result]
  exact ⟨rfl, first.conduct, first.tape⟩

/-- The run of a sequence on a tape on which its first part only reads. -/
theorem run_bind_alike {world : Surroundings} {handler : Handler α} {f : α → Handler β}
    {tape : Tape} (first : (handler.run.run world tape).Alike (handler.reading tape))
    (rest : ∀ value, IsFieldwise world (f value)) :
    ((handler >>= f).run.run world tape).Alike
      (match handler.runOn tape.input with
        | (.ok value, left) => (f value).run.run world (tape.holding left)
        | (.error failure, left) =>
          { result := .error failure, acts := [], tape := tape.holding left }) := by
  rw [reading] at first
  generalize handler.runOn tape.input = given at first ⊢
  rcases given with ⟨failure | value, behind⟩
  · exact run_bind_alike_of_error first
  · exact run_bind_alike_of_ok first (rest value)

theorem runOn_bind_of_alike {handler : Handler α} {f : α → Handler β} {octets : Bytes}
    (first : (handler.run.run .isolated (.ofBytes octets)).Alike
      (handler.reading (.ofBytes octets)))
    (rest : ∀ value, IsFieldwise .isolated (f value)) :
    (handler >>= f).runOn octets =
      match handler.runOn octets with
      | (.ok value, left) => (f value).runOn left
      | (.error failure, left) => (.error failure, left) := by
  have alone := run_bind_alike first rest
  rw [Tape.input_ofBytes] at alone
  have whole : (handler >>= f).runOn octets = (_, _) := Prod.ext alone.result alone.tape.input
  rw [whole]
  rcases handler.runOn octets with ⟨failure | value, left⟩
  · exact Prod.ext rfl (Tape.input_ofBytes left)
  · rfl

/-- What a handler that only reads makes of a tape depends neither on the segments nor on anybody
but the client. -/
theorem IsReader.run_alike {handler : Handler α} (reader : IsReader handler)
    (world : Surroundings) {tape : Tape} (isOpen : tape.isOpen = true) :
    (handler.run.run world tape).Alike (handler.reading tape) := by
  induction reader generalizing world tape with
  | pure value =>
    simp only [reading, runOn_pure]
    exact ⟨rfl, rfl, Tape.alike_holding rfl⟩
  | throw failure =>
    simp only [reading, runOn_throw]
    exact ⟨rfl, rfl, Tape.alike_holding rfl⟩
  | readExactly count =>
    have field := readExactly_alike world count tape
    simp only [Tape.field, isOpen, ↓reduceIte] at field
    simpa only [reading, runOn_readExactly] using field
  | @bind _ _ handler f first rest ihFirst ihRest =>
    have alone := runOn_bind_of_alike (f := f)
      (ihFirst .isolated (Tape.isOpen_ofBytes tape.input)) fun value => (rest value).isFieldwise _
    refine (run_bind_alike (f := f) (ihFirst world isOpen)
      fun value => (rest value).isFieldwise _).trans ?_
    simp only [reading, alone]
    rcases handler.runOn tape.input with ⟨failure | value, left⟩
    · exact .refl _
    · have after := @ihRest value world (tape.holding left) isOpen
      rw [reading, Tape.input_holding] at after
      exact after
  | @within _ remark handler _ ih =>
    have before := ih world isOpen
    have adapted : (Handler.within remark handler).run = handler.run.bind fun result =>
        .done (result.mapError (·.within remark)) := rfl
    rw [adapted, Session.run_bind, before.result]
    simp only [reading, runOn_within]
    refine ⟨rfl, ?_, before.tape⟩
    exact (congrArg _ (List.append_nil _)).trans before.conduct

theorem runOn_bind {handler : Handler α} {f : α → Handler β} (first : IsReader handler)
    (rest : ∀ value, IsReader (f value)) (octets : Bytes) :
    (handler >>= f).runOn octets =
      match handler.runOn octets with
      | (.ok value, left) => (f value).runOn left
      | (.error failure, left) => (.error failure, left) :=
  runOn_bind_of_alike (first.run_alike .isolated (Tape.isOpen_ofBytes octets))
    fun value => (rest value).isFieldwise .isolated

theorem runOn_bind_of_ok {handler : Handler α} {f : α → Handler β} (first : IsReader handler)
    (rest : ∀ value, IsReader (f value)) {octets left : Bytes} {value : α}
    (returned : handler.runOn octets = (.ok value, left)) :
    (handler >>= f).runOn octets = (f value).runOn left := by
  rw [runOn_bind first rest, returned]

theorem runOn_bind_of_error {handler : Handler α} {f : α → Handler β} (first : IsReader handler)
    (rest : ∀ value, IsReader (f value)) {octets left : Bytes} {failure : Failure}
    (failed : handler.runOn octets = (.error failure, left)) :
    (handler >>= f).runOn octets = (.error failure, left) := by
  rw [runOn_bind first rest, failed]

/-- A reader leaves of a tape what it leaves of the same octets alone. -/
theorem IsReader.result_and_input {handler : Handler α} (reader : IsReader handler)
    (world : Surroundings) {tape : Tape} (isOpen : tape.isOpen = true) :
    let ran := handler.run.run world tape
    (ran.result, ran.tape.input) = handler.runOn tape.input := by
  obtain ⟨result, _, left⟩ := reader.run_alike world isOpen
  exact Prod.ext result (left.input.trans (Tape.input_holding _ _))

/-! ## Formats -/

theorem reads_pure (value : α) : Reads (pure value) [] value := fun rest => runOn_pure value rest

theorem reads_readExactly (octets : Bytes) :
    (readExactly octets.length).Reads octets octets := by
  intro rest
  simp only [runOn_readExactly, List.length_append, Nat.le_add_right, ↓reduceIte,
    List.take_left, List.drop_left]

theorem reads_bind {handler : Handler α} {f : α → Handler β} {octets others : Bytes} {value : α}
    {result : β} (reader : IsReader handler) (readers : ∀ value, IsReader (f value))
    (first : handler.Reads octets value) (rest : (f value).Reads others result) :
    (handler >>= f).Reads (octets ++ others) result := by
  intro behind
  rw [runOn_bind reader readers, List.append_assoc, first]
  exact rest behind

theorem reads_within {remark : String} {handler : Handler α} {octets : Bytes} {value : α}
    (inner : handler.Reads octets value) : (within remark handler).Reads octets value := by
  intro rest
  rw [runOn_within, inner]
  rfl

/-- A reader that returns a value has read octets of its format, whatever else could have come behind
them. -/
theorem IsReader.exists_reads {handler : Handler α} (reader : IsReader handler)
    {octets rest : Bytes} {value : α} (returned : handler.runOn octets = (.ok value, rest)) :
    ∃ taken, octets = taken ++ rest ∧ handler.Reads taken value := by
  induction reader generalizing octets rest with
  | pure given =>
    rw [runOn_pure] at returned
    cases returned
    exact ⟨[], rfl, reads_pure _⟩
  | throw failure =>
    rw [runOn_throw] at returned
    cases returned
  | readExactly count =>
    rw [runOn_readExactly] at returned
    split at returned
    · rename_i enough
      cases returned
      refine ⟨octets.take count, (List.take_append_drop count octets).symm, ?_⟩
      have format := reads_readExactly (octets.take count)
      rwa [List.length_take_of_le enough] at format
    · cases returned
  | bind first others ihFirst ihRest =>
    rw [runOn_bind first others] at returned
    split at returned
    · rename_i between left found
      obtain ⟨front, rfl, reads⟩ := ihFirst found
      obtain ⟨back, rfl, sequel⟩ := ihRest between returned
      exact ⟨front ++ back, (List.append_assoc ..).symm, reads_bind first others reads sequel⟩
    · cases returned
  | within _ ih =>
    rename_i handler inner
    rw [runOn_within] at returned
    cases found : handler.runOn octets with
    | mk result left =>
      rw [found] at returned
      cases result with
      | ok given =>
        cases returned
        obtain ⟨taken, split, reads⟩ := ih found
        exact ⟨taken, split, reads_within reads⟩
      | error failure => cases returned

theorem IsReader.reads_iff {handler : Handler α} (reader : IsReader handler) {octets : Bytes}
    {value : α} : handler.Reads octets value ↔ handler.runOn octets = (.ok value, []) := by
  constructor
  · intro reads
    simpa only [List.append_nil] using reads []
  · intro returned
    obtain ⟨taken, split, reads⟩ := reader.exists_reads returned
    rw [List.append_nil] at split
    exact split ▸ reads

/-- No octets of a format are the front of others of it. -/
theorem Reads.unique {handler : Handler α} {octets others rest behind : Bytes} {value result : α}
    (first : handler.Reads octets value) (second : handler.Reads others result)
    (same : octets ++ rest = others ++ behind) :
    octets = others ∧ value = result ∧ rest = behind := by
  have equal := (first rest).symm.trans ((congrArg handler.runOn same).trans (second behind))
  simp only [Prod.mk.injEq, Except.ok.injEq] at equal
  obtain ⟨rfl, rfl⟩ := equal
  exact ⟨List.append_cancel_right same, rfl, rfl⟩

/-- A handler that only reads, with the octets that it takes for each value. -/
structure HasFormat (handler : Handler α) (format : Bytes → α → Prop) : Prop where
  reader : IsReader handler
  reads_iff {octets : Bytes} {value : α} : handler.Reads octets value ↔ format octets value

namespace HasFormat

variable {format : Bytes → α → Prop}

theorem unique {handler : Handler α} (has : HasFormat handler format)
    {octets others rest behind : Bytes} {value result : α} (first : format octets value)
    (second : format others result) (same : octets ++ rest = others ++ behind) :
    octets = others ∧ value = result ∧ rest = behind :=
  (has.reads_iff.mpr first).unique (has.reads_iff.mpr second) same

theorem of_iff {handler : Handler α} {other : Bytes → α → Prop} (has : HasFormat handler format)
    (same : ∀ octets value, format octets value ↔ other octets value) : HasFormat handler other :=
  ⟨has.reader, has.reads_iff.trans (same _ _)⟩

/-- A tape is read up to some octets exactly if those before them are in the format. -/
theorem result_iff {handler : Handler α} (has : HasFormat handler format) (world : Surroundings)
    {tape : Tape} (isOpen : tape.isOpen = true) {value : α} {rest : Bytes} :
    let ran := handler.run.run world tape
    ran.result = .ok value ∧ ran.tape.input = rest ↔
      ∃ octets, format octets value ∧ tape.input = octets ++ rest := by
  intro ran
  have read : (ran.result, ran.tape.input) = handler.runOn tape.input :=
    has.reader.result_and_input world isOpen
  rw [← Prod.mk.injEq, read]
  constructor
  · intro returned
    obtain ⟨octets, split, reads⟩ := has.reader.exists_reads returned
    exact ⟨octets, has.reads_iff.mp reads, split⟩
  · intro ⟨octets, formed, split⟩
    rw [split]
    exact has.reads_iff.mpr formed rest

theorem pure (given : α) :
    HasFormat (Pure.pure given) fun octets value => octets = [] ∧ given = value := by
  refine ⟨.pure given, ?_⟩
  intro octets value
  rw [(IsReader.pure given).reads_iff, runOn_pure, Prod.mk.injEq, Except.ok.injEq, and_comm]

theorem throw (failure : Failure) :
    HasFormat (MonadExcept.throw failure : Handler α) fun _ _ => False := by
  refine ⟨.throw failure, ?_⟩
  intro octets value
  rw [(IsReader.throw failure).reads_iff, runOn_throw]
  simp only [Prod.mk.injEq, reduceCtorEq, false_and]

theorem fail (cause : Cause) : HasFormat (fail cause : Handler α) fun _ _ => False := throw _

theorem readExactly (count : Nat) :
    HasFormat (readExactly count) fun octets value => octets.length = count ∧ octets = value := by
  refine ⟨.readExactly count, ?_⟩
  intro octets value
  constructor
  · intro reads
    have returned := (IsReader.readExactly count).reads_iff.mp reads
    rw [runOn_readExactly, Prod.mk.injEq, List.drop_eq_nil_iff] at returned
    obtain ⟨given, short⟩ := returned
    split at given
    · rename_i enough
      cases given
      exact ⟨Nat.le_antisymm short enough, (List.take_of_length_le short).symm⟩
    · cases given
  · rintro ⟨rfl, rfl⟩
    exact reads_readExactly octets

theorem bind {handler : Handler α} {f : α → Handler β} {formats : α → Bytes → β → Prop}
    (first : HasFormat handler format) (rest : ∀ value, HasFormat (f value) (formats value)) :
    HasFormat (handler >>= f) fun octets result => ∃ front back value,
      octets = front ++ back ∧ format front value ∧ formats value back result := by
  refine ⟨.bind first.reader fun value => (rest value).reader, ?_⟩
  intro octets result
  constructor
  · intro reads
    have returned := (IsReader.bind first.reader fun value => (rest value).reader).reads_iff.mp reads
    rw [runOn_bind first.reader fun value => (rest value).reader] at returned
    split at returned
    · rename_i value left found
      obtain ⟨front, split, reads⟩ := first.reader.exists_reads found
      exact ⟨front, left, value, split, first.reads_iff.mp reads,
        (rest value).reads_iff.mp ((rest value).reader.reads_iff.mpr returned)⟩
    · cases returned
  · rintro ⟨front, back, value, rfl, taken, sequel⟩
    exact reads_bind first.reader (fun value => (rest value).reader) (first.reads_iff.mpr taken)
      ((rest value).reads_iff.mpr sequel)

theorem within {remark : String} {handler : Handler α} (has : HasFormat handler format) :
    HasFormat (within remark handler) format := by
  refine ⟨.within has.reader, ?_⟩
  intro octets value
  rw [← has.reads_iff]
  constructor
  · intro reads
    have returned := reads []
    rw [List.append_nil, runOn_within] at returned
    apply has.reader.reads_iff.mpr
    cases found : handler.runOn octets with
    | mk result left =>
      rw [found] at returned
      cases result <;> cases returned
      rfl
  · exact reads_within

/-- What is refused on a condition has the format of the rest without it. -/
theorem guarded {condition : Prop} [Decidable condition] {failure : Failure} {rest : Handler α}
    (has : HasFormat rest format) :
    HasFormat
      (if condition then do let _ ← (MonadExcept.throw failure : Handler Unit); rest else rest)
      fun octets value => ¬ condition ∧ format octets value := by
  split
  · rename_i refused
    apply ((throw failure).bind fun _ => has).of_iff
    intro octets value
    simp only [refused, not_true, false_and, and_false, exists_false]
  · rename_i admitted
    apply has.of_iff
    intro octets value
    simp only [admitted, not_false_eq_true, true_and]

/-- The text of octets that were read. -/
theorem text (given : Bytes) (f : String → α) (failure : Failure) :
    HasFormat (match Bytes.text? given with
      | some text => Pure.pure (f text)
      | none => MonadExcept.throw failure : Handler α) fun octets value =>
      octets = [] ∧ ∃ text, given = Bytes.ofText text ∧ f text = value := by
  split
  · rename_i text found
    apply (pure (f text)).of_iff
    intro octets value
    refine and_congr_right fun _ => ⟨?_, ?_⟩
    · rintro rfl
      exact ⟨text, (Bytes.ofText_of_text? found).symm, rfl⟩
    · rintro ⟨other, rfl, rfl⟩
      rw [Bytes.text?_ofText, Option.some.injEq] at found
      rw [found]
  · rename_i unreadable
    apply (throw failure).of_iff
    intro octets value
    refine ⟨False.elim, ?_⟩
    rintro ⟨-, text, rfl, -⟩
    rw [Bytes.text?_ofText] at unreadable
    cases unreadable

theorem readOctet : HasFormat readOctet fun octets value => octets = [value] := by
  apply ((readExactly 1).bind fun _ => pure _).of_iff
  intro octets value
  constructor
  · rintro ⟨front, back, given, rfl, ⟨length, rfl⟩, rfl, rfl⟩
    obtain ⟨octet, rfl⟩ := List.length_eq_one_iff.mp length
    rfl
  · rintro rfl
    exact ⟨[value], [], [value], rfl, ⟨rfl, rfl⟩, rfl, rfl⟩

theorem readWord : HasFormat readWord fun octets value => octets = Bytes.ofWord value := by
  refine HasFormat.of_iff (.bind (readExactly 2) (?_ : ∀ given, HasFormat _ fun octets value =>
    octets = [] ∧ Bytes.ofWord value = given)) ?_
  · intro given
    split
    · rename_i high low
      apply (pure (Bytes.word high low)).of_iff
      intro octets value
      constructor
      · rintro ⟨rfl, rfl⟩
        exact ⟨rfl, Bytes.ofWord_word high low⟩
      · rintro ⟨rfl, same⟩
        simp only [Bytes.ofWord, List.cons.injEq, and_true] at same
        obtain ⟨rfl, rfl⟩ := same
        exact ⟨rfl, Bytes.word_ofNat value⟩
    · rename_i other
      apply (fail _).of_iff
      intro octets value
      refine ⟨False.elim, ?_⟩
      rintro ⟨-, rfl⟩
      exact other _ _ rfl
  · intro octets value
    constructor
    · rintro ⟨front, back, given, rfl, ⟨-, rfl⟩, rfl, rfl⟩
      exact List.append_nil _
    · rintro rfl
      exact ⟨_, [], _, (List.append_nil _).symm, ⟨rfl, rfl⟩, rfl, rfl⟩

end HasFormat

theorem runOn_readOctet_cons (octet : UInt8) (rest : Bytes) :
    readOctet.runOn (octet :: rest) = (.ok octet, rest) :=
  HasFormat.readOctet.reads_iff.mpr rfl rest

theorem runOn_readOctet_nil : readOctet.runOn [] = (.error (.ofIo .unexpectedEnd), []) := by
  apply runOn_bind_of_error (.readExactly 1) fun _ => .pure _
  rw [runOn_readExactly, if_neg (by decide), List.drop_nil]

end Handler

end SocksGateway
