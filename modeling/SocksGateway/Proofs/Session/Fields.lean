import SocksGateway.Session.Run

/-!
How the octets of a client are cut into segments makes no difference to a session that reads them by
fields, so many octets at a time. Such a session comes to the same result, does the same and leaves
the same octets unread, whatever the segments are.
-/

set_option autoImplicit false

namespace SocksGateway

/-- The same octets, in segments that may be others. -/
structure Tape.Alike (tape other : Tape) : Prop where
  input : tape.input = other.input
  writes : tape.writes = other.writes
  isOpen : tape.isOpen = other.isOpen

def Act.isRead : Act → Bool
  | .read _ => true
  | _ => false

/-- The tape with these octets on it in place of its own. -/
def Tape.holding (octets : Bytes) (tape : Tape) : Tape := { tape with segments := [octets] }

/-- What it comes to when so many octets are read. -/
def Tape.field (count : Nat) (tape : Tape) : Ran (Except Failure Bytes) :=
  if tape.isOpen then
    { result := if count ≤ tape.input.length then .ok (tape.input.take count)
        else .error (.ofIo .unexpectedEnd)
      acts := [], tape := tape.holding (tape.input.drop count) }
  else
    { result := if count = 0 then .ok [] else .error (.ofIo .notConnected), acts := [], tape }

/-- What a run did, apart from the single reads. -/
def Ran.conduct {α : Type} (ran : Ran α) : List Act := ran.acts.filter fun act => !act.isRead

/-- The same result, the same conduct and the same octets left unread. -/
structure Ran.Alike {α : Type} (ran other : Ran α) : Prop where
  result : ran.result = other.result
  conduct : ran.conduct = other.conduct
  tape : ran.tape.Alike other.tape

namespace Tape

@[simp] theorem input_holding (octets : Bytes) (tape : Tape) :
    (tape.holding octets).input = octets := by
  simp only [input, holding, List.flatten_cons, List.flatten_nil, List.append_nil]

namespace Alike

variable {first second third : Tape}

theorem refl (tape : Tape) : tape.Alike tape := ⟨rfl, rfl, rfl⟩

theorem symm (alike : first.Alike second) : second.Alike first :=
  ⟨alike.input.symm, alike.writes.symm, alike.isOpen.symm⟩

theorem trans (alike : first.Alike second) (other : second.Alike third) : first.Alike third :=
  ⟨alike.input.trans other.input, alike.writes.trans other.writes, alike.isOpen.trans other.isOpen⟩

theorem holding (octets : Bytes) (alike : first.Alike second) :
    (first.holding octets).Alike (second.holding octets) := ⟨rfl, alike.writes, alike.isOpen⟩

theorem close (alike : first.Alike second) : first.close.Alike second.close :=
  ⟨rfl, alike.writes, rfl⟩

theorem write (alike : first.Alike second) :
    first.write.1 = second.write.1 ∧ first.write.2.Alike second.write.2 := by
  simp only [Tape.write, ← alike.isOpen, ← alike.writes]
  split
  · split
    · exact ⟨rfl, alike⟩
    · exact ⟨rfl, alike.input, rfl, rfl⟩
  · exact ⟨rfl, alike⟩

end Alike

theorem takeFrom_append (limit : Nat) (segments : List Bytes) :
    (takeFrom limit segments).1 ++ (takeFrom limit segments).2.flatten = segments.flatten := by
  fun_induction takeFrom limit segments with
  | case1 => rfl
  | case2 rest ih => exact ih
  | case3 segment rest present =>
    simp only [List.flatten_cons, ← List.append_assoc, List.take_append_drop]

theorem length_takeFrom_le (limit : Nat) (segments : List Bytes) :
    (takeFrom limit segments).1.length ≤ limit := by
  fun_induction takeFrom limit segments with
  | case1 => exact Nat.zero_le limit
  | case2 rest ih => exact ih
  | case3 segment rest present => exact List.length_take_le limit segment

theorem takeFrom_eq_nil {limit : Nat} {segments : List Bytes} (positive : 0 < limit)
    (nothing : (takeFrom limit segments).1 = []) : segments.flatten = [] := by
  fun_induction takeFrom limit segments with
  | case1 => rfl
  | case2 rest ih => exact ih nothing
  | case3 segment rest present =>
    rcases List.take_eq_nil_iff.mp nothing with zero | empty
    · omega
    · exact absurd empty present

theorem alike_holding {octets : Bytes} {tape : Tape} (input : tape.input = octets) :
    tape.Alike (tape.holding octets) := ⟨input.trans (input_holding octets tape).symm, rfl, rfl⟩

@[simp] theorem input_ofBytes (octets : Bytes) : (ofBytes octets).input = octets :=
  input_holding octets (ofBytes octets)

@[simp] theorem isOpen_ofBytes (octets : Bytes) : (ofBytes octets).isOpen = true := rfl

/-- A read of an open tape takes octets off its front, and none only at its end. -/
theorem read_of_isOpen {limit : Nat} {tape : Tape} (isOpen : tape.isOpen = true)
    (positive : 0 < limit) :
    ∃ octets rest, tape.read limit = (.ok octets, rest) ∧ octets ++ rest.input = tape.input ∧
      octets.length ≤ limit ∧ (octets = [] → tape.input = []) ∧ rest.writes = tape.writes ∧
      rest.isOpen = true := by
  refine ⟨(takeFrom limit tape.segments).1,
    { tape with segments := (takeFrom limit tape.segments).2 }, ?_,
    takeFrom_append limit tape.segments, length_takeFrom_le limit tape.segments,
    takeFrom_eq_nil positive, rfl, isOpen⟩
  simp only [read, isOpen, ↓reduceIte]

end Tape

namespace Ran

variable {α β : Type}

theorem conduct_after {act : Act} (noRead : act.isRead = false) (ran : Ran α) :
    (ran.after act).conduct = act :: ran.conduct := by
  simp only [after, conduct, List.filter_cons, noRead, Bool.not_false, ↓reduceIte]

namespace Alike

variable {first second third : Ran α}

theorem refl (ran : Ran α) : ran.Alike ran := ⟨rfl, rfl, .refl _⟩

theorem symm (alike : first.Alike second) : second.Alike first :=
  ⟨alike.result.symm, alike.conduct.symm, alike.tape.symm⟩

theorem trans (alike : first.Alike second) (other : second.Alike third) : first.Alike third :=
  ⟨alike.result.trans other.result, alike.conduct.trans other.conduct, alike.tape.trans other.tape⟩

/-- A single read is no part of a conduct. -/
theorem after_read {octets : Bytes} (alike : first.Alike second) :
    (first.after (.read octets)).Alike second := ⟨alike.result, alike.conduct, alike.tape⟩

theorem after (act : Act) (alike : first.Alike second) :
    (first.after act).Alike (second.after act) := by
  refine ⟨alike.result, ?_, alike.tape⟩
  cases noRead : act.isRead with
  | false => rw [conduct_after noRead, conduct_after noRead, alike.conduct]
  | true =>
    cases act with
    | read octets => exact alike.conduct
    | _ => cases noRead

end Alike

end Ran

namespace Tape

variable {count : Nat} {tape : Tape}

theorem field_of_enough (isOpen : tape.isOpen = true) (enough : count ≤ tape.input.length) :
    tape.field count =
      { result := .ok (tape.input.take count), acts := []
        tape := tape.holding (tape.input.drop count) } := by
  simp only [field, isOpen, enough, ↓reduceIte]

theorem field_of_short (isOpen : tape.isOpen = true) (short : tape.input.length < count) :
    tape.field count =
      { result := .error (.ofIo .unexpectedEnd), acts := []
        tape := tape.holding (tape.input.drop count) } := by
  simp only [field, isOpen, Nat.not_le.mpr short, ↓reduceIte]

/-- No octets are there to be read even of a tape that is not open. -/
theorem field_zero (tape : Tape) :
    (tape.field 0).Alike { result := .ok [], acts := [], tape } := by
  unfold field
  split
  · exact ⟨rfl, rfl, (alike_holding rfl).symm⟩
  · exact .refl _

theorem Alike.field {other : Tape} (alike : tape.Alike other) (count : Nat) :
    (tape.field count).Alike (other.field count) := by
  simp only [Tape.field, ← alike.isOpen, ← alike.input]
  split
  · exact ⟨rfl, rfl, alike.holding _⟩
  · exact ⟨rfl, rfl, alike⟩

end Tape

namespace Session

variable {α β : Type}

/-- The parts of a sequence run one after the other. -/
theorem run_bind (world : Surroundings) (session : Session α) (f : α → Session β) (tape : Tape) :
    let first := session.run world tape
    let second := (f first.result).run world first.tape
    (session.bind f).run world tape = { second with acts := first.acts ++ second.acts } := by
  induction session generalizing tape with
  | done result => rfl
  | read limit next ih =>
    simp only [bind, run]
    rcases tape.read limit with ⟨answer | answer, rest⟩ <;> simp only [ih]
    rfl
  | write octets next ih =>
    simp only [bind, run]
    rcases tape.write with ⟨answer | answer, rest⟩ <;> simp only [ih]
    rfl
  | unread octets next ih => simp only [bind, run, ih]
  | whetherOpen next ih => simp only [bind, run, ih]
  | resolve name next ih => simp only [bind, run, ih]; rfl
  | dial endpoint next ih => simp only [bind, run, ih]; rfl
  | listen ip next ih => simp only [bind, run, ih]; rfl
  | accept window next ih => simp only [bind, run, ih]; rfl
  | takeUp next ih => simp only [bind, run, ih]
  | relay window next ih => simp only [bind, run, ih]; rfl
  | associate ip terms next ih => simp only [bind, run, ih]; rfl
  | attend next ih => simp only [bind, run, ih]; rfl
  | protect protection next ih => simp only [bind, run, ih]; rfl
  | close next ih => simp only [bind, run, ih]; rfl

end Session

namespace Handler

variable {α β : Type} {world : Surroundings}

theorem gather_run (fuel missing : Nat) : (gather (fuel + 1) missing).run =
    if missing = 0 then .done (.ok [])
    else .read missing fun
      | .error error => .done (.error (.ofIo error))
      | .ok octets =>
        if octets = [] then .done (.error (.ofIo .unexpectedEnd))
        else (gather fuel (missing - octets.length)).run.bind fun
          | .error failure => .done (.error failure)
          | .ok more => .done (.ok (octets ++ more)) := by
  rw [gather]
  split
  · rfl
  · apply congrArg (Session.read missing)
    funext answer
    cases answer with
    | error error => rfl
    | ok octets =>
      cases octets with
      | nil => rfl
      | cons first octets =>
        apply congrArg (Session.bind (gather fuel (missing - (first :: octets).length)).run)
        funext result
        cases result <;> rfl

/-- However the octets are cut, the field is what is in front of the tape. -/
theorem gather_alike (world : Surroundings) {fuel missing : Nat} (enough : missing ≤ fuel)
    (tape : Tape) :
    ((gather fuel missing).run.run world tape).Alike (tape.field missing) := by
  induction fuel generalizing missing tape with
  | zero =>
    obtain rfl : missing = 0 := by omega
    exact .symm tape.field_zero
  | succ fuel ih =>
    rw [gather_run]
    split
    · rename_i zero
      subst zero
      exact .symm tape.field_zero
    · rename_i positive
      cases isOpen : tape.isOpen with
      | false =>
        simp only [Session.run, Tape.read, Tape.field, isOpen, Bool.false_eq_true, ↓reduceIte,
          positive]
        exact .refl _
      | true =>
        obtain ⟨octets, rest, given, whole, short, none, writes, left⟩ :=
          Tape.read_of_isOpen isOpen (Nat.pos_of_ne_zero positive)
        simp only [Session.run, given]
        apply Ran.Alike.after_read
        split
        · rename_i empty
          subst empty
          have input := none rfl
          rw [Tape.field_of_short isOpen (by rw [input]; exact Nat.pos_of_ne_zero positive)]
          exact ⟨rfl, rfl, by rw [Tape.input_holding, input, List.drop_nil]; exact whole.trans input,
            writes, left.trans isOpen.symm⟩
        · rename_i present
          have length := List.length_pos_iff.mpr present
          have later := @ih (missing - octets.length) (by omega) rest
          have behind : rest.input.drop (missing - octets.length) = tape.input.drop missing := by
            rw [← whole, List.drop_append, List.drop_eq_nil_of_le short, List.nil_append]
          have skipped : (rest.holding (rest.input.drop (missing - octets.length))).Alike
              (tape.holding (tape.input.drop missing)) :=
            ⟨congrArg (fun input => [input].flatten) behind, writes, left.trans isOpen.symm⟩
          have total : octets.length + rest.input.length = tape.input.length := by
            rw [← whole, List.length_append]
          by_cases complete : missing ≤ tape.input.length
          · rw [Tape.field_of_enough left (by omega)] at later
            rw [Tape.field_of_enough isOpen complete, Session.run_bind, later.result]
            refine ⟨congrArg Except.ok ?_, ?_, later.tape.trans skipped⟩
            · rw [← whole, List.take_append, List.take_of_length_le short]
            · simpa only [Ran.conduct, Session.run, List.append_nil] using later.conduct
          · rw [Tape.field_of_short left (by omega)] at later
            rw [Tape.field_of_short isOpen (by omega), Session.run_bind, later.result]
            refine ⟨rfl, ?_, later.tape.trans skipped⟩
            simpa only [Ran.conduct, Session.run, List.append_nil] using later.conduct

theorem readExactly_alike (world : Surroundings) (count : Nat) (tape : Tape) :
    ((readExactly count).run.run world tape).Alike (tape.field count) :=
  gather_alike world (Nat.le_refl count) tape

end Handler

/-! ## Sessions that read by fields -/

namespace Session

variable {α β : Type} {world : Surroundings}

/-- However the octets of its client are cut, the session runs alike. -/
def IsFieldwise (world : Surroundings) (session : Session α) : Prop :=
  ∀ ⦃tape other⦄, tape.Alike other → (session.run world tape).Alike (session.run world other)

theorem isFieldwise_done (result : α) : (done result).IsFieldwise world :=
  fun _ _ alike => ⟨rfl, rfl, alike⟩

theorem isFieldwise_bind {session : Session α} {f : α → Session β}
    (first : session.IsFieldwise world) (rest : ∀ result, (f result).IsFieldwise world) :
    (session.bind f).IsFieldwise world := by
  intro tape other alike
  have before := first alike
  have after := rest (session.run world tape).result before.tape
  rw [run_bind, run_bind, ← before.result]
  refine ⟨after.result, ?_, after.tape⟩
  simp only [Ran.conduct, List.filter_append]
  exact congr (congrArg _ before.conduct) after.conduct

end Session

namespace Handler

variable {α β : Type} {world : Surroundings}

def IsFieldwise (world : Surroundings) (handler : Handler α) : Prop :=
  handler.run.IsFieldwise world

theorem isFieldwise_pure (value : α) : IsFieldwise world (pure value) :=
  Session.isFieldwise_done _

theorem isFieldwise_throw (failure : Failure) : IsFieldwise world (throw failure : Handler α) :=
  Session.isFieldwise_done _

theorem isFieldwise_fail (cause : Cause) : IsFieldwise world (fail cause : Handler α) :=
  isFieldwise_throw _

theorem isFieldwise_bind {handler : Handler α} {f : α → Handler β}
    (first : IsFieldwise world handler) (rest : ∀ value, IsFieldwise world (f value)) :
    IsFieldwise world (handler >>= f) := by
  apply Session.isFieldwise_bind first
  intro result
  cases result with
  | ok value => exact rest value
  | error failure => exact isFieldwise_throw failure

/-- What follows a part that is only there on a condition. -/
theorem isFieldwise_when {condition : Prop} [Decidable condition] {handler : Handler α}
    {rest : Handler β} (first : IsFieldwise world handler) (others : IsFieldwise world rest) :
    IsFieldwise world (if condition then do let _ ← handler; rest else rest) := by
  split
  · exact isFieldwise_bind first fun _ => others
  · exact others

theorem isFieldwise_outcome {handler : Handler α} (inner : IsFieldwise world handler) :
    IsFieldwise world (outcome handler) :=
  Session.isFieldwise_bind inner fun _ => Session.isFieldwise_done _

theorem isFieldwise_within {remark : String} {handler : Handler α}
    (inner : IsFieldwise world handler) : IsFieldwise world (within remark handler) :=
  Session.isFieldwise_bind inner fun _ => Session.isFieldwise_done _

theorem isFieldwise_ofIo (answer : Except IoError α) : IsFieldwise world (ofIo answer) := by
  cases answer with
  | ok value => exact isFieldwise_pure value
  | error error => exact isFieldwise_throw _

theorem isFieldwise_ofResult (result : Except Failure α) : IsFieldwise world (ofResult result) := by
  cases result with
  | ok value => exact isFieldwise_pure value
  | error failure => exact isFieldwise_throw failure

theorem isFieldwise_readExactly (count : Nat) : IsFieldwise world (readExactly count) :=
  fun _ _ alike =>
    ((readExactly_alike world count _).trans (alike.field count)).trans
      (.symm (readExactly_alike world count _))

theorem isFieldwise_write (octets : Bytes) : IsFieldwise world (write octets) := by
  apply isFieldwise_bind _ fun answer => isFieldwise_ofIo answer
  intro tape other alike
  obtain ⟨same, left⟩ := alike.write
  have alone : (effect (Session.write octets)).run =
      .write octets fun answer => .done (.ok answer : Except Failure _) := rfl
  simp only [alone, Session.run]
  rcases first : tape.write with ⟨answer, rest⟩
  rcases second : other.write with ⟨answer', rest'⟩
  simp only [first, second] at same left
  subst same
  cases answer with
  | ok => exact .after _ ⟨rfl, rfl, left⟩
  | error error => exact ⟨rfl, rfl, left⟩

theorem isFieldwise_close : IsFieldwise world close :=
  fun _ _ alike => .after _ ⟨rfl, rfl, alike.close⟩

theorem isFieldwise_whetherOpen : IsFieldwise world (effect Session.whetherOpen) :=
  fun _ _ alike => ⟨congrArg Except.ok alike.isOpen, rfl, alike⟩

theorem isFieldwise_resolve (name : String) :
    IsFieldwise world (effect (Session.resolve name)) :=
  fun _ _ alike => .after _ ⟨rfl, rfl, alike⟩

theorem isFieldwise_dial (endpoint : Endpoint) :
    IsFieldwise world (effect (Session.dial endpoint)) :=
  fun _ _ alike => .after _ ⟨rfl, rfl, alike⟩

theorem isFieldwise_listen (ip : Ip) : IsFieldwise world (effect (Session.listen ip)) :=
  fun _ _ alike => .after _ ⟨rfl, rfl, alike⟩

theorem isFieldwise_accept (window : Duration) :
    IsFieldwise world (effect (Session.accept window)) :=
  fun _ _ alike => .after _ ⟨rfl, rfl, alike⟩

theorem isFieldwise_takingUp : IsFieldwise world (effect Session.takeUp) :=
  fun _ _ alike => ⟨rfl, rfl, alike⟩

theorem isFieldwise_takeUp : IsFieldwise world takeUp :=
  isFieldwise_bind isFieldwise_takingUp isFieldwise_ofIo

/-- A relay gets the octets that were not yet read, whatever their segments were. -/
theorem isFieldwise_relay (window : Duration) :
    IsFieldwise world (effect (Session.relay window)) := by
  intro tape other alike
  change Ran.Alike
    ((Ran.mk (Except.ok (world.relay tape.input window)) [] tape.close).after (.relayed _ window))
    ((Ran.mk (Except.ok (world.relay other.input window)) [] other.close).after (.relayed _ window))
  rw [alike.input]
  exact .after _ ⟨rfl, rfl, alike.close⟩

theorem isFieldwise_associate (ip : Ip) (terms : AssociationTerms) :
    IsFieldwise world (effect (Session.associate ip terms)) :=
  fun _ _ alike => .after _ ⟨rfl, rfl, alike⟩

theorem isFieldwise_attend :
    IsFieldwise world (ExceptT.lift (Session.attend (Session.done ()))) :=
  fun _ _ alike => .after _ ⟨rfl, rfl, rfl, alike.writes, alike.isOpen⟩

theorem isFieldwise_protect (protection : Gss.Protection) :
    IsFieldwise world (ExceptT.lift (Session.protect protection (Session.done ()))) := by
  intro tape other alike
  refine .after _ ⟨rfl, rfl, ?_, alike.writes, alike.isOpen⟩
  simp only [Tape.input, Session.bind]
  exact congrArg (fun input => (world.uncover protection input).flatten) alike.input

end Handler

end SocksGateway
