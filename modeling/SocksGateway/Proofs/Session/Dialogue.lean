import SocksGateway.Proofs.Session.Path
import SocksGateway.Proofs.Session.Readers

/-!
What passes between a session and its client along a path: what the session has heard and what it has
told. The answers on a path fit when they are those of one connection, of which a read gives no more
than is asked for, and which takes nothing any more once it has refused something. A guard speaks of
the single deeds and of the dialogue before them, a postcondition of the result and the dialogue after
it; both are followed through a session as long as the answers fit.
-/

set_option autoImplicit false

namespace SocksGateway

/-- What has become of the search for another connection, to which the client could be handed over. -/
inductive Counterpart where
  | unsought
  | missed
  | found
  /-- Found, but gone when it was to be taken up. -/
  | lost
deriving DecidableEq, Repr, Inhabited

/-- What has passed between a session and its client. -/
structure Dialogue where
  /-- What was read and not put back. -/
  heard : Bytes := []
  /-- What was written. The last of it may not have gone out whole, if the connection is broken. -/
  told : List Bytes := []
  /-- Whether the connection is still the session's own. -/
  isOpen : Bool := true
  /-- Whether the connection has refused something. -/
  isBroken : Bool := false
  /-- Whether nothing that the client has sent was dropped. -/
  isAttentive : Bool := true
  counterpart : Counterpart := .unsought
  cover : Option Gss.Protection := none

namespace Dialogue

/-- Nothing has passed yet. -/
def fresh : Dialogue := {}

def hear (octets : Bytes) (dialogue : Dialogue) : Dialogue :=
  { dialogue with heard := dialogue.heard ++ octets }

def tell (octets : Bytes) (dialogue : Dialogue) : Dialogue :=
  { dialogue with told := dialogue.told ++ [octets] }

/-- The dialogue after a write that fails. A connection that is not yet broken may have taken some of
the octets. -/
def tellInPart (octets : Bytes) (dialogue : Dialogue) : Dialogue :=
  if dialogue.isOpen && !dialogue.isBroken then { dialogue.tell octets with isBroken := true }
  else dialogue

/-- Whether an answer is one of the connection. -/
def Fits (dialogue : Dialogue) : Deed → Prop
  | .read limit (.ok octets) => dialogue.isOpen = true ∧ octets.length ≤ limit
  | .write _ (.ok _) => dialogue.isOpen = true ∧ dialogue.isBroken = false
  | .whetherOpen answer => answer = dialogue.isOpen
  | _ => True

def after (dialogue : Dialogue) : Deed → Dialogue
  | .read _ (.ok octets) => dialogue.hear octets
  | .unread octets =>
    { dialogue with heard := dialogue.heard.take (dialogue.heard.length - octets.length) }
  | .write octets (.ok _) => dialogue.tell octets
  | .write octets (.error _) => dialogue.tellInPart octets
  | .dial _ (.connected _) => { dialogue with counterpart := .found }
  | .dial _ _ => { dialogue with counterpart := .missed }
  | .accept _ (.peer _) => { dialogue with counterpart := .found }
  | .accept _ _ => { dialogue with counterpart := .missed }
  | .takeUp (.error _) => { dialogue with counterpart := .lost }
  | .relay _ _ => { dialogue with isOpen := false }
  | .attend => { dialogue with isAttentive := false }
  | .protect protection => { dialogue with cover := some protection }
  | .close => { dialogue with isOpen := false }
  | _ => dialogue

/-- Whether all answers are those of the connection. -/
def FitsAll (dialogue : Dialogue) : List Deed → Prop
  | [] => True
  | deed :: deeds => dialogue.Fits deed ∧ (dialogue.after deed).FitsAll deeds

/-- The dialogue after all of these. -/
def run (dialogue : Dialogue) (deeds : List Deed) : Dialogue := deeds.foldl after dialogue

@[simp] theorem heard_hear (octets : Bytes) (dialogue : Dialogue) :
    (dialogue.hear octets).heard = dialogue.heard ++ octets := rfl

@[simp] theorem hear_nil (dialogue : Dialogue) : dialogue.hear [] = dialogue := by
  simp only [hear, List.append_nil]

@[simp] theorem hear_hear (octets others : Bytes) (dialogue : Dialogue) :
    (dialogue.hear octets).hear others = dialogue.hear (octets ++ others) := by
  simp only [hear, List.append_assoc]

@[simp] theorem heard_tell (octets : Bytes) (dialogue : Dialogue) :
    (dialogue.tell octets).heard = dialogue.heard := rfl

@[simp] theorem told_tell (octets : Bytes) (dialogue : Dialogue) :
    (dialogue.tell octets).told = dialogue.told ++ [octets] := rfl

@[simp] theorem heard_tellInPart (octets : Bytes) (dialogue : Dialogue) :
    (dialogue.tellInPart octets).heard = dialogue.heard := by
  unfold tellInPart
  split <;> rfl

@[simp] theorem isOpen_tellInPart (octets : Bytes) (dialogue : Dialogue) :
    (dialogue.tellInPart octets).isOpen = dialogue.isOpen := by
  unfold tellInPart
  split <;> rfl

/-- The dialogue after these octets were heard and these told, in one order or another. -/
def pass (heard : Bytes) (told : List Bytes) (dialogue : Dialogue) : Dialogue :=
  { dialogue with heard := dialogue.heard ++ heard, told := dialogue.told ++ told }

@[simp] theorem pass_nil (dialogue : Dialogue) : dialogue.pass [] [] = dialogue := by
  simp only [pass, List.append_nil]

theorem pass_silent (heard : Bytes) (dialogue : Dialogue) :
    dialogue.pass heard [] = dialogue.hear heard := by
  simp only [pass, hear, List.append_nil]

@[simp] theorem pass_pass (heard others : Bytes) (told more : List Bytes) (dialogue : Dialogue) :
    (dialogue.pass heard told).pass others more = dialogue.pass (heard ++ others) (told ++ more) := by
  simp only [pass, List.append_assoc]

/-- What was read and is put back was not heard. -/
@[simp] theorem unread_hear (octets : Bytes) (dialogue : Dialogue) :
    (dialogue.hear octets).after (.unread octets) = dialogue := by
  simp only [after, hear, List.length_append, Nat.add_sub_cancel, List.take_left]

theorem fitsAll_append {dialogue : Dialogue} {deeds others : List Deed} :
    dialogue.FitsAll (deeds ++ others) ↔
      dialogue.FitsAll deeds ∧ (dialogue.run deeds).FitsAll others := by
  induction deeds generalizing dialogue with
  | nil => simp only [List.nil_append, FitsAll, run, List.foldl_nil, true_and]
  | cons deed deeds ih =>
    simp only [List.cons_append, FitsAll, run, List.foldl_cons, ih, and_assoc]

end Dialogue

namespace Session

variable {α β : Type} {guard weaker : Dialogue → Deed → Prop} {post target : α → Dialogue → Prop}

/-- As long as the answers fit, every deed on every path satisfies the guard, and every result the
postcondition. -/
def Keeps (guard : Dialogue → Deed → Prop) (post : α → Dialogue → Prop) :
    Session α → Dialogue → Prop
  | done result, dialogue => post result dialogue
  | read limit next, dialogue => ∀ answer, dialogue.Fits (.read limit answer) →
    guard dialogue (.read limit answer) ∧
      (next answer).Keeps guard post (dialogue.after (.read limit answer))
  | unread octets next, dialogue =>
    guard dialogue (.unread octets) ∧ next.Keeps guard post (dialogue.after (.unread octets))
  | write octets next, dialogue => ∀ answer, dialogue.Fits (.write octets answer) →
    guard dialogue (.write octets answer) ∧
      (next answer).Keeps guard post (dialogue.after (.write octets answer))
  | whetherOpen next, dialogue => ∀ answer, dialogue.Fits (.whetherOpen answer) →
    guard dialogue (.whetherOpen answer) ∧
      (next answer).Keeps guard post (dialogue.after (.whetherOpen answer))
  | resolve name next, dialogue => ∀ answer, dialogue.Fits (.resolve name answer) →
    guard dialogue (.resolve name answer) ∧
      (next answer).Keeps guard post (dialogue.after (.resolve name answer))
  | dial endpoint next, dialogue => ∀ answer, dialogue.Fits (.dial endpoint answer) →
    guard dialogue (.dial endpoint answer) ∧
      (next answer).Keeps guard post (dialogue.after (.dial endpoint answer))
  | listen ip next, dialogue => ∀ answer, dialogue.Fits (.listen ip answer) →
    guard dialogue (.listen ip answer) ∧
      (next answer).Keeps guard post (dialogue.after (.listen ip answer))
  | accept window next, dialogue => ∀ answer, dialogue.Fits (.accept window answer) →
    guard dialogue (.accept window answer) ∧
      (next answer).Keeps guard post (dialogue.after (.accept window answer))
  | takeUp next, dialogue => ∀ answer, dialogue.Fits (.takeUp answer) →
    guard dialogue (.takeUp answer) ∧
      (next answer).Keeps guard post (dialogue.after (.takeUp answer))
  | relay window next, dialogue => ∀ answer, dialogue.Fits (.relay window answer) →
    guard dialogue (.relay window answer) ∧
      (next answer).Keeps guard post (dialogue.after (.relay window answer))
  | associate ip terms next, dialogue => ∀ answer, dialogue.Fits (.associate ip terms answer) →
    guard dialogue (.associate ip terms answer) ∧
      (next answer).Keeps guard post (dialogue.after (.associate ip terms answer))
  | attend next, dialogue =>
    guard dialogue .attend ∧ next.Keeps guard post (dialogue.after .attend)
  | protect protection next, dialogue =>
    guard dialogue (.protect protection) ∧
      next.Keeps guard post (dialogue.after (.protect protection))
  | close next, dialogue => guard dialogue .close ∧ next.Keeps guard post (dialogue.after .close)

theorem keeps_step {session next : Session α} {dialogue : Dialogue} {deed : Deed}
    (keeps : session.Keeps guard post dialogue) (step : session.Step deed next)
    (fits : dialogue.Fits deed) :
    guard dialogue deed ∧ next.Keeps guard post (dialogue.after deed) := by
  cases step with
  | read answer | write answer | whetherOpen answer | resolve answer | dial answer
  | listen answer | accept answer | takeUp answer | relay answer | associate answer =>
    exact keeps answer fits
  | unread | attend | protect | close => exact keeps

/-- The rest of a session goes on from the dialogue that the path before has led to. -/
theorem keeps_along {session rest : Session α} {dialogue : Dialogue} {deeds : List Deed}
    (keeps : session.Keeps guard post dialogue) (path : session.Along deeds rest)
    (fits : dialogue.FitsAll deeds) : rest.Keeps guard post (dialogue.run deeds) := by
  induction path generalizing dialogue with
  | here => exact keeps
  | step first _ ih => exact ih (keeps_step keeps first fits.1).2 fits.2

/-- What holds of a dialogue and of every dialogue that the guard lets come about holds all along. -/
theorem keeps_invariant {session rest : Session α} {dialogue : Dialogue} {deeds : List Deed}
    {holds : Dialogue → Prop} (keeps : session.Keeps guard post dialogue)
    (path : session.Along deeds rest) (fits : dialogue.FitsAll deeds) (start : holds dialogue)
    (step : ∀ dialogue deed, guard dialogue deed → holds dialogue → holds (dialogue.after deed)) :
    holds (dialogue.run deeds) := by
  induction path generalizing dialogue with
  | here => exact start
  | step first _ ih =>
    obtain ⟨admitted, goesOn⟩ := keeps_step keeps first fits.1
    exact ih goesOn fits.2 (step _ _ admitted start)

theorem keeps_mono {session : Session α} {dialogue : Dialogue}
    (keeps : session.Keeps guard post dialogue)
    (guards : ∀ dialogue deed, guard dialogue deed → weaker dialogue deed)
    (posts : ∀ result dialogue, post result dialogue → target result dialogue) :
    session.Keeps weaker target dialogue := by
  induction session generalizing dialogue with
  | done result => exact posts result dialogue keeps
  | read _ _ ih | write _ _ ih | whetherOpen _ ih | resolve _ _ ih | dial _ _ ih | listen _ _ ih
  | accept _ _ ih | takeUp _ ih | relay _ _ ih | associate _ _ _ ih =>
    intro answer fits
    exact ⟨guards _ _ (keeps answer fits).1, ih answer (keeps answer fits).2⟩
  | unread _ _ ih | attend _ ih | protect _ _ ih | close _ ih =>
    exact ⟨guards _ _ keeps.1, ih keeps.2⟩

theorem keeps_bind {session : Session α} {f : α → Session β} {post : β → Dialogue → Prop}
    {dialogue : Dialogue}
    (first : session.Keeps guard (fun result between => (f result).Keeps guard post between)
      dialogue) : (session.bind f).Keeps guard post dialogue := by
  induction session generalizing dialogue with
  | done result => exact first
  | read _ _ ih | write _ _ ih | whetherOpen _ ih | resolve _ _ ih | dial _ _ ih | listen _ _ ih
  | accept _ _ ih | takeUp _ ih | relay _ _ ih | associate _ _ _ ih =>
    intro answer fits
    exact ⟨(first answer fits).1, ih answer (first answer fits).2⟩
  | unread _ _ ih | attend _ ih | protect _ _ ih | close _ ih =>
    exact ⟨first.1, ih first.2⟩

/-- A tape that takes all that is written and is as open as a dialogue. -/
structure Suits (tape : Tape) (dialogue : Dialogue) : Prop where
  isOpen : dialogue.isOpen = tape.isOpen
  steady : tape.writes = []
  whole : dialogue.isBroken = false

/-- A run on a tape that takes all that is written is one of the paths, with the same contacts, and
the answers on it fit. -/
theorem exists_along_run_fits (session : Session α) (world : Surroundings) {tape : Tape}
    {dialogue : Dialogue} (suits : Suits tape dialogue) :
    ∃ deeds, session.Along deeds (done (session.run world tape).result) ∧
      dialogue.FitsAll deeds ∧ deeds.filterMap Deed.contact? =
        (session.run world tape).acts.filterMap Act.contact? := by
  induction session generalizing tape dialogue with
  | done result => exact ⟨[], .here _, trivial, rfl⟩
  | read limit next ih =>
    rw [run]
    cases isOpen : tape.isOpen with
    | false =>
      have given : tape.read limit = (.error .notConnected, tape) := by
        simp only [Tape.read, isOpen, Bool.false_eq_true, ↓reduceIte]
      rw [given]
      obtain ⟨deeds, path, fits, same⟩ := ih (.error .notConnected) suits
      exact ⟨_, .step (.read (.error .notConnected)) path, ⟨trivial, fits⟩, same⟩
    | true =>
      have given : tape.read limit = (.ok (Tape.takeFrom limit tape.segments).1,
          { tape with segments := (Tape.takeFrom limit tape.segments).2 }) := by
        simp only [Tape.read, isOpen, ↓reduceIte]
      rw [given]
      have later : Suits { tape with segments := (Tape.takeFrom limit tape.segments).2 }
          (dialogue.hear (Tape.takeFrom limit tape.segments).1) :=
        ⟨suits.isOpen, suits.steady, suits.whole⟩
      obtain ⟨deeds, path, fits, same⟩ := ih (.ok (Tape.takeFrom limit tape.segments).1) later
      exact ⟨_, .step (.read (.ok _)) path,
        ⟨⟨suits.isOpen.trans isOpen, Tape.length_takeFrom_le limit tape.segments⟩, fits⟩, same⟩
  | unread octets next ih =>
    have later : Suits (tape.unread octets) (dialogue.after (.unread octets)) := by
      unfold Tape.unread
      split <;> exact ⟨suits.isOpen, suits.steady, suits.whole⟩
    obtain ⟨deeds, path, fits, same⟩ := ih later
    exact ⟨_, .step .unread path, ⟨trivial, fits⟩, same⟩
  | write octets next ih =>
    rw [run]
    cases isOpen : tape.isOpen with
    | false =>
      have given : tape.write = (.error .notConnected, tape) := by
        simp only [Tape.write, isOpen, Bool.false_eq_true, ↓reduceIte]
      have unchanged : dialogue.tellInPart octets = dialogue := by
        simp only [Dialogue.tellInPart, suits.isOpen, isOpen, Bool.false_and, Bool.false_eq_true,
          ↓reduceIte]
      rw [given]
      obtain ⟨deeds, path, fits, same⟩ := ih (.error .notConnected) suits
      refine ⟨_, .step (.write (.error .notConnected)) path, ⟨trivial, ?_⟩, same⟩
      rw [Dialogue.after, unchanged]
      exact fits
    | true =>
      have given : tape.write = (.ok (), tape) := by
        simp only [Tape.write, isOpen, suits.steady, ↓reduceIte]
      rw [given]
      have later : Suits tape (dialogue.tell octets) := ⟨suits.isOpen, suits.steady, suits.whole⟩
      obtain ⟨deeds, path, fits, same⟩ := ih (.ok ()) later
      exact ⟨_, .step (.write (.ok ())) path, ⟨⟨suits.isOpen.trans isOpen, suits.whole⟩, fits⟩, same⟩
  | whetherOpen next ih =>
    obtain ⟨deeds, path, fits, same⟩ := ih tape.isOpen suits
    exact ⟨_, .step (.whetherOpen tape.isOpen) path, ⟨suits.isOpen.symm, fits⟩, same⟩
  | resolve name next ih =>
    obtain ⟨deeds, path, fits, same⟩ := ih (world.resolver name) suits
    exact ⟨_, .step (.resolve (world.resolver name)) path, ⟨trivial, fits⟩, same⟩
  | dial endpoint next ih =>
    have later : Suits tape (dialogue.after (.dial endpoint (world.dial endpoint))) := by
      cases world.dial endpoint <;> exact ⟨suits.isOpen, suits.steady, suits.whole⟩
    obtain ⟨deeds, path, fits, same⟩ := ih (world.dial endpoint) later
    exact ⟨_, .step (.dial (world.dial endpoint)) path, ⟨trivial, fits⟩,
      congrArg (Contact.dial endpoint :: ·) same⟩
  | listen ip next ih =>
    obtain ⟨deeds, path, fits, same⟩ := ih (world.listen ip) suits
    exact ⟨_, .step (.listen (world.listen ip)) path, ⟨trivial, fits⟩, same⟩
  | accept window next ih =>
    have later : Suits tape (dialogue.after (.accept window (world.accept window))) := by
      cases world.accept window <;> exact ⟨suits.isOpen, suits.steady, suits.whole⟩
    obtain ⟨deeds, path, fits, same⟩ := ih (world.accept window) later
    exact ⟨_, .step (.accept (world.accept window)) path, ⟨trivial, fits⟩, same⟩
  | takeUp next ih =>
    have later : Suits tape (dialogue.after (.takeUp world.takeUp)) := by
      cases world.takeUp <;> exact ⟨suits.isOpen, suits.steady, suits.whole⟩
    obtain ⟨deeds, path, fits, same⟩ := ih world.takeUp later
    exact ⟨_, .step (.takeUp world.takeUp) path, ⟨trivial, fits⟩, same⟩
  | relay window next ih =>
    have later : Suits tape.close
        (dialogue.after (.relay window (world.relay tape.input window))) :=
      ⟨rfl, suits.steady, suits.whole⟩
    obtain ⟨deeds, path, fits, same⟩ := ih (world.relay tape.input window) later
    exact ⟨_, .step (.relay (world.relay tape.input window)) path, ⟨trivial, fits⟩, same⟩
  | associate ip terms next ih =>
    obtain ⟨deeds, path, fits, same⟩ := ih (world.associate ip terms) suits
    exact ⟨_, .step (.associate (world.associate ip terms)) path, ⟨trivial, fits⟩,
      congrArg (Contact.associate terms :: ·) same⟩
  | attend next ih =>
    have later : Suits { tape with segments := [] } (dialogue.after .attend) :=
      ⟨suits.isOpen, suits.steady, suits.whole⟩
    obtain ⟨deeds, path, fits, same⟩ := ih later
    exact ⟨_, .step .attend path, ⟨trivial, fits⟩, same⟩
  | protect protection next ih =>
    have later : Suits { tape with segments := world.uncover protection tape.input }
        (dialogue.after (.protect protection)) := ⟨suits.isOpen, suits.steady, suits.whole⟩
    obtain ⟨deeds, path, fits, same⟩ := ih later
    exact ⟨_, .step .protect path, ⟨trivial, fits⟩, same⟩
  | close next ih =>
    have later : Suits tape.close (dialogue.after .close) := ⟨rfl, suits.steady, suits.whole⟩
    obtain ⟨deeds, path, fits, same⟩ := ih later
    exact ⟨_, .step .close path, ⟨trivial, fits⟩, same⟩

end Session

namespace Handler

variable {α β : Type} {guard weaker : Dialogue → Deed → Prop} {fails : Failure → Dialogue → Prop}
  {post target : α → Dialogue → Prop} {dialogue : Dialogue}

/-- As long as the answers fit, every deed satisfies the guard, every failure satisfies `fails` and
every value that is returned the postcondition. -/
def Keeps (guard : Dialogue → Deed → Prop) (fails : Failure → Dialogue → Prop)
    (post : α → Dialogue → Prop) (handler : Handler α) (dialogue : Dialogue) : Prop :=
  Session.Keeps guard (fun
    | .ok value => post value
    | .error failure => fails failure) handler.run dialogue

theorem keeps_mono {handler : Handler α} {others : Failure → Dialogue → Prop}
    (keeps : Keeps guard fails post handler dialogue)
    (guards : ∀ dialogue deed, guard dialogue deed → weaker dialogue deed)
    (failures : ∀ failure dialogue, fails failure dialogue → others failure dialogue)
    (posts : ∀ value dialogue, post value dialogue → target value dialogue) :
    Keeps weaker others target handler dialogue := by
  apply Session.keeps_mono keeps guards
  intro result dialogue held
  cases result with
  | ok value => exact posts value dialogue held
  | error failure => exact failures failure dialogue held

theorem keeps_pure {value : α} (held : post value dialogue) :
    Keeps guard fails post (pure value) dialogue := held

theorem keeps_throw {failure : Failure} (held : fails failure dialogue) :
    Keeps guard fails post (throw failure) dialogue := held

theorem keeps_fail {cause : Cause} (held : fails { cause } dialogue) :
    Keeps guard fails post (fail cause) dialogue := held

theorem keeps_bind {handler : Handler α} {f : α → Handler β} {target : β → Dialogue → Prop}
    (first : Keeps guard fails post handler dialogue)
    (rest : ∀ value between, post value between → Keeps guard fails target (f value) between) :
    Keeps guard fails target (handler >>= f) dialogue := by
  apply Session.keeps_bind
  apply Session.keeps_mono first (fun _ _ held => held)
  intro result between held
  cases result with
  | ok value => exact rest value between held
  | error failure => exact held

/-- What follows a part that always fails and is only there on a condition. -/
theorem keeps_unless {condition : Prop} [Decidable condition] {failure : Failure}
    {rest : Handler β} {target : β → Dialogue → Prop}
    (refused : condition → fails failure dialogue)
    (others : ¬ condition → Keeps guard fails target rest dialogue) :
    Keeps guard fails target
      (if condition then do let _ ← (throw failure : Handler Unit); rest else rest) dialogue := by
  split
  · rename_i holds
    exact refused holds
  · rename_i absent
    exact others absent

theorem keeps_outcome {handler : Handler α} {others : Failure → Dialogue → Prop}
    (keeps : Keeps guard others post handler dialogue) :
    Keeps guard fails (fun
      | .ok value => post value
      | .error failure => others failure) (outcome handler) dialogue := by
  apply Session.keeps_bind
  apply Session.keeps_mono keeps (fun _ _ held => held)
  intro result between held
  cases result <;> exact held

theorem keeps_within {remark : String} {handler : Handler α}
    (keeps : Keeps guard (fun failure => fails (failure.within remark)) post handler dialogue) :
    Keeps guard fails post (within remark handler) dialogue := by
  apply Session.keeps_bind
  apply Session.keeps_mono keeps (fun _ _ held => held)
  intro result between held
  cases result <;> exact held

theorem keeps_ofIo {answer : Except IoError α}
    (failed : ∀ error, answer = .error error → fails (.ofIo error) dialogue)
    (held : ∀ value, answer = .ok value → post value dialogue) :
    Keeps guard fails post (ofIo answer) dialogue := by
  cases answer with
  | ok value => exact held value rfl
  | error error => exact failed error rfl

theorem keeps_ofResult {result : Except Failure α}
    (failed : ∀ failure, result = .error failure → fails failure dialogue)
    (held : ∀ value, result = .ok value → post value dialogue) :
    Keeps guard fails post (ofResult result) dialogue := by
  cases result with
  | ok value => exact held value rfl
  | error failure => exact failed failure rfl

/-! ## Reading and writing -/

theorem keeps_gather {fuel missing : Nat} {post : Bytes → Dialogue → Prop}
    (enough : missing ≤ fuel)
    (listens : ∀ octets limit answer, guard (dialogue.hear octets) (.read limit answer))
    (failures : ∀ octets failure, fails failure (dialogue.hear octets))
    (values : ∀ octets, octets.length = missing → post octets (dialogue.hear octets)) :
    Keeps guard fails post (gather fuel missing) dialogue := by
  induction fuel generalizing missing dialogue post with
  | zero =>
    obtain rfl : missing = 0 := by omega
    have held := values [] rfl
    rw [Dialogue.hear_nil] at held
    exact held
  | succ fuel ih =>
    unfold Keeps
    rw [gather_run]
    split
    · rename_i zero
      have held := values [] zero.symm
      rw [Dialogue.hear_nil] at held
      exact held
    · intro answer fits
      have listening := listens [] missing answer
      rw [Dialogue.hear_nil] at listening
      refine ⟨listening, ?_⟩
      cases answer with
      | error error =>
        have failed := failures [] (.ofIo error)
        rw [Dialogue.hear_nil] at failed
        exact failed
      | ok octets =>
        dsimp only
        split
        · exact failures octets _
        · rename_i present
          have length := List.length_pos_iff.mpr present
          have short := fits.2
          -- What is read later comes behind these octets.
          have later : Keeps guard fails (fun more => post (octets ++ more))
              (gather fuel (missing - octets.length)) (dialogue.hear octets) := by
            apply ih (by omega)
            · intro more limit answer
              rw [Dialogue.hear_hear]
              exact listens _ limit answer
            · intro more failure
              rw [Dialogue.hear_hear]
              exact failures _ failure
            · intro more whole
              rw [Dialogue.hear_hear]
              exact values _ (by rw [List.length_append]; omega)
          apply Session.keeps_bind
          apply Session.keeps_mono later (fun _ _ held => held)
          intro result between held
          cases result <;> exact held

/-- A handler that only reads hears the octets of its format, or fails on the way. -/
theorem keeps_reader {handler : Handler α} (reader : IsReader handler)
    (listens : ∀ octets limit answer, guard (dialogue.hear octets) (.read limit answer))
    (failures : ∀ octets failure, fails failure (dialogue.hear octets))
    (values : ∀ octets value, handler.Reads octets value → post value (dialogue.hear octets)) :
    Keeps guard fails post handler dialogue := by
  induction reader generalizing dialogue fails with
  | pure value =>
    have held := values [] value (reads_pure value)
    rw [Dialogue.hear_nil] at held
    exact held
  | throw failure =>
    have failed := failures [] failure
    rw [Dialogue.hear_nil] at failed
    exact failed
  | readExactly count =>
    apply keeps_gather (Nat.le_refl count) listens failures
    rintro octets rfl
    exact values octets octets (reads_readExactly octets)
  | @bind _ _ handler f first rest ihFirst ihRest =>
    have before : Keeps guard fails
        (fun value between => ∃ octets, between = dialogue.hear octets ∧ handler.Reads octets value)
        handler dialogue :=
      ihFirst listens failures fun octets value reads => ⟨octets, rfl, reads⟩
    apply keeps_bind before
    rintro value _ ⟨octets, rfl, reads⟩
    apply ihRest value
    · intro others limit answer
      rw [Dialogue.hear_hear]
      exact listens _ limit answer
    · intro others failure
      rw [Dialogue.hear_hear]
      exact failures _ failure
    · intro others result sequel
      rw [Dialogue.hear_hear]
      exact values _ _ (reads_bind first rest reads sequel)
  | within _ ih =>
    apply keeps_within
    exact ih listens (fun octets failure => failures octets _)
      fun octets value reads => values octets value (reads_within reads)

/-- The octets of a format are heard. -/
theorem HasFormat.keeps {handler : Handler α} {format : Bytes → α → Prop}
    (has : HasFormat handler format)
    (listens : ∀ octets limit answer, guard (dialogue.hear octets) (.read limit answer))
    (failures : ∀ octets failure, fails failure (dialogue.hear octets)) :
    Keeps guard fails
      (fun value after => ∃ octets, after = dialogue.hear octets ∧ format octets value)
      handler dialogue :=
  keeps_reader has.reader listens failures fun octets _ reads => ⟨octets, rfl, has.reads_iff.mp reads⟩

theorem keeps_write {octets : Bytes} {post : Unit → Dialogue → Prop}
    (speaks : ∀ answer, dialogue.Fits (.write octets answer) →
      guard dialogue (.write octets answer))
    (failed : ∀ error, fails (.ofIo error) (dialogue.tellInPart octets))
    (held : dialogue.isOpen = true → dialogue.isBroken = false → post () (dialogue.tell octets)) :
    Keeps guard fails post (write octets) dialogue := by
  intro answer fits
  refine ⟨speaks answer fits, ?_⟩
  cases answer with
  | ok => exact held fits.1 fits.2
  | error error => exact failed error

theorem keeps_whetherOpen {post : Bool → Dialogue → Prop}
    (asks : guard dialogue (.whetherOpen dialogue.isOpen)) (held : post dialogue.isOpen dialogue) :
    Keeps guard fails post (effect Session.whetherOpen) dialogue := by
  rintro answer rfl
  exact ⟨asks, held⟩

end Handler

/-! ## Exchanges of messages -/

/-- Something is read, or a message of this kind is written. -/
def Deed.IsExchange (IsMessage : Bytes → Prop) : Deed → Prop
  | .read .. => True
  | .write octets _ => IsMessage octets
  | _ => False

namespace Dialogue

/-- Since the start more was heard, messages of this kind were told, and nothing else has happened. -/
structure Extends (IsMessage : Bytes → Prop) (start dialogue : Dialogue) : Prop where
  heard : start.heard <+: dialogue.heard
  told : ∃ messages, dialogue.told = start.told ++ messages ∧
    ∀ message ∈ messages, IsMessage message
  isOpen : dialogue.isOpen = start.isOpen
  isAttentive : dialogue.isAttentive = start.isAttentive
  counterpart : dialogue.counterpart = start.counterpart

namespace Extends

variable {IsMessage : Bytes → Prop} {start dialogue : Dialogue} {octets : Bytes}

theorem refl (start : Dialogue) : Extends IsMessage start start :=
  ⟨List.prefix_rfl, ⟨[], (List.append_nil _).symm, fun _ member => by cases member⟩, rfl, rfl, rfl⟩

theorem hear (extended : Extends IsMessage start dialogue) (octets : Bytes) :
    Extends IsMessage start (dialogue.hear octets) :=
  { extended with heard := extended.heard.trans (List.prefix_append _ _) }

theorem tell (extended : Extends IsMessage start dialogue) (message : IsMessage octets) :
    Extends IsMessage start (dialogue.tell octets) := by
  refine { extended with told := ?_ }
  obtain ⟨messages, told, each⟩ := extended.told
  refine ⟨messages ++ [octets], by rw [told_tell, told, List.append_assoc], ?_⟩
  intro other member
  rcases List.mem_append.mp member with early | late
  · exact each other early
  · exact List.mem_singleton.mp late ▸ message

theorem tellInPart (extended : Extends IsMessage start dialogue) (message : IsMessage octets) :
    Extends IsMessage start (dialogue.tellInPart octets) := by
  unfold Dialogue.tellInPart
  split
  · exact { extended.tell message with }
  · exact extended

theorem after (extended : Extends IsMessage start dialogue) {deed : Deed}
    (exchanges : deed.IsExchange IsMessage) : Extends IsMessage start (dialogue.after deed) := by
  cases deed with
  | read limit answer =>
    cases answer with
    | ok octets => exact extended.hear octets
    | error error => exact extended
  | write octets answer =>
    cases answer with
    | ok => exact extended.tell exchanges
    | error error => exact extended.tellInPart exchanges
  | _ => exact False.elim exchanges

end Extends

/-- Messages of this kind are exchanged, and nothing else was done since the start. -/
def Exchanges (IsMessage : Bytes → Prop) (start dialogue : Dialogue) (deed : Deed) : Prop :=
  Extends IsMessage start dialogue ∧ deed.IsExchange IsMessage

end Dialogue

namespace Handler

variable {α : Type} {IsMessage : Bytes → Prop} {start dialogue : Dialogue}

/-- Until it returns or fails, the handler exchanges messages of this kind and does nothing else. -/
abbrev Converses (IsMessage : Bytes → Prop) (start : Dialogue) (post : α → Dialogue → Prop)
    (handler : Handler α) (dialogue : Dialogue) : Prop :=
  Keeps (Dialogue.Exchanges IsMessage start) (fun _ => Dialogue.Extends IsMessage start) post
    handler dialogue

theorem converses_mono {post target : α → Dialogue → Prop} {handler : Handler α}
    (converses : Converses IsMessage start post handler dialogue)
    (posts : ∀ value dialogue, post value dialogue → target value dialogue) :
    Converses IsMessage start target handler dialogue :=
  keeps_mono converses (fun _ _ held => held) (fun _ _ held => held) posts

theorem converses_outcome {post : α → Dialogue → Prop} {handler : Handler α}
    (converses : Converses IsMessage start post handler dialogue) :
    Converses IsMessage start (fun
      | .ok value => post value
      | .error _ => Dialogue.Extends IsMessage start) (outcome handler) dialogue :=
  keeps_outcome converses

theorem HasFormat.converses {handler : Handler α} {format : Bytes → α → Prop}
    (has : HasFormat handler format) (extended : Dialogue.Extends IsMessage start dialogue) :
    Converses IsMessage start
      (fun value after => ∃ octets, after = dialogue.hear octets ∧ format octets value)
      handler dialogue :=
  has.keeps (fun octets _ _ => ⟨extended.hear octets, trivial⟩) fun octets _ => extended.hear octets

theorem write_converses {octets : Bytes} (message : IsMessage octets)
    (extended : Dialogue.Extends IsMessage start dialogue) :
    Converses IsMessage start
      (fun _ after => after = dialogue.tell octets ∧ Dialogue.Extends IsMessage start after)
      (write octets) dialogue :=
  keeps_write (fun _ _ => ⟨extended, message⟩) (fun _ => extended.tellInPart message)
    fun _ _ => ⟨rfl, extended.tell message⟩

end Handler

end SocksGateway
