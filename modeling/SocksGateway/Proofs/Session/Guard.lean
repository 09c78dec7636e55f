import SocksGateway.Proofs.Session.Path

/-!
What holds along every path of a session. A guard speaks of the single deeds and a postcondition of
the result; both are followed through a session node by node, whatever the answers are, and through a
sequence part by part.
-/

set_option autoImplicit false

namespace SocksGateway

namespace Session

variable {α β : Type} {guard weaker : Deed → Prop} {post target : α → Prop}

/-- Every deed on every path satisfies the guard, and every result the postcondition. -/
def Heeds (guard : Deed → Prop) (post : α → Prop) : Session α → Prop
  | done result => post result
  | read limit next => ∀ answer, guard (.read limit answer) ∧ (next answer).Heeds guard post
  | unread octets next => guard (.unread octets) ∧ next.Heeds guard post
  | write octets next => ∀ answer, guard (.write octets answer) ∧ (next answer).Heeds guard post
  | whetherOpen next => ∀ answer, guard (.whetherOpen answer) ∧ (next answer).Heeds guard post
  | resolve name next => ∀ answer, guard (.resolve name answer) ∧ (next answer).Heeds guard post
  | dial endpoint next => ∀ answer, guard (.dial endpoint answer) ∧ (next answer).Heeds guard post
  | listen ip next => ∀ answer, guard (.listen ip answer) ∧ (next answer).Heeds guard post
  | accept window next => ∀ answer, guard (.accept window answer) ∧ (next answer).Heeds guard post
  | takeUp next => ∀ answer, guard (.takeUp answer) ∧ (next answer).Heeds guard post
  | relay window next => ∀ answer, guard (.relay window answer) ∧ (next answer).Heeds guard post
  | associate ip terms next =>
    ∀ answer, guard (.associate ip terms answer) ∧ (next answer).Heeds guard post
  | attend next => guard .attend ∧ next.Heeds guard post
  | protect protection next => guard (.protect protection) ∧ next.Heeds guard post
  | close next => guard .close ∧ next.Heeds guard post

theorem heeds_step {session next : Session α} {deed : Deed} (heeds : session.Heeds guard post)
    (step : session.Step deed next) : guard deed ∧ next.Heeds guard post := by
  cases step with
  | read answer | write answer | whetherOpen answer | resolve answer | dial answer
  | listen answer | accept answer | takeUp answer | relay answer | associate answer =>
    exact heeds answer
  | unread | attend | protect | close => exact heeds

/-- The guard holds of all that was done, and the rest of the session goes on under it. -/
theorem heeds_along {session rest : Session α} {deeds : List Deed}
    (heeds : session.Heeds guard post) (path : session.Along deeds rest) :
    (∀ deed ∈ deeds, guard deed) ∧ rest.Heeds guard post := by
  induction path with
  | here =>
    refine ⟨?_, heeds⟩
    intro deed member
    cases member
  | step first _ ih =>
    obtain ⟨held, goesOn⟩ := heeds_step heeds first
    obtain ⟨others, left⟩ := ih goesOn
    exact ⟨List.forall_mem_cons.mpr ⟨held, others⟩, left⟩

theorem heeds_mono {session : Session α} (heeds : session.Heeds guard post)
    (guards : ∀ deed, guard deed → weaker deed) (posts : ∀ result, post result → target result) :
    session.Heeds weaker target := by
  induction session with
  | done result => exact posts result heeds
  | read _ _ ih | write _ _ ih | whetherOpen _ ih | resolve _ _ ih | dial _ _ ih | listen _ _ ih
  | accept _ _ ih | takeUp _ ih | relay _ _ ih | associate _ _ _ ih =>
    intro answer
    exact ⟨guards _ (heeds answer).1, ih answer (heeds answer).2⟩
  | unread _ _ ih | attend _ ih | protect _ _ ih | close _ ih =>
    exact ⟨guards _ heeds.1, ih heeds.2⟩

theorem heeds_bind {session : Session α} {f : α → Session β} {post : β → Prop}
    (first : session.Heeds guard fun result => (f result).Heeds guard post) :
    (session.bind f).Heeds guard post := by
  induction session with
  | done result => exact first
  | read _ _ ih | write _ _ ih | whetherOpen _ ih | resolve _ _ ih | dial _ _ ih | listen _ _ ih
  | accept _ _ ih | takeUp _ ih | relay _ _ ih | associate _ _ _ ih =>
    intro answer
    exact ⟨(first answer).1, ih answer (first answer).2⟩
  | unread _ _ ih | attend _ ih | protect _ _ ih | close _ ih =>
    exact ⟨first.1, ih first.2⟩

end Session

/-- Reading from the client and writing to it, and nothing that concerns anybody else. -/
def Deed.IsTalk : Deed → Prop
  | .read .. | .unread _ | .write .. | .whetherOpen _ | .protect _ | .close => True
  | _ => False

namespace Handler

variable {α β : Type} {guard weaker : Deed → Prop} {post target : α → Prop}

/-- Every deed satisfies the guard, and every value that is returned the postcondition. Nothing is
said about failures. -/
def Heeds (guard : Deed → Prop) (post : α → Prop) (handler : Handler α) : Prop :=
  Session.Heeds guard (fun result => ∀ value, result = .ok value → post value) handler.run

/-- The handler has to do with the client alone, and what it returns satisfies the postcondition. -/
def Talks (post : α → Prop) (handler : Handler α) : Prop := Heeds Deed.IsTalk post handler

theorem heeds_mono {handler : Handler α} (heeds : Heeds guard post handler)
    (guards : ∀ deed, guard deed → weaker deed) (posts : ∀ value, post value → target value) :
    Heeds weaker target handler :=
  Session.heeds_mono heeds guards fun _ held value returned => posts value (held value returned)

/-- A handler of whose values nothing needs to be known. -/
theorem heeds_any {handler : Handler α} (heeds : Heeds guard post handler) :
    Heeds guard (fun _ => True) handler :=
  heeds_mono heeds (fun _ held => held) fun _ _ => trivial

theorem heeds_pure {value : α} (held : post value) : Heeds guard post (pure value) := by
  intro other returned
  cases returned
  exact held

theorem heeds_throw {failure : Failure} : Heeds guard post (throw failure) := by
  intro value returned
  cases returned

theorem heeds_bind {handler : Handler α} {f : α → Handler β} {target : β → Prop}
    (first : Heeds guard post handler) (rest : ∀ value, post value → Heeds guard target (f value)) :
    Heeds guard target (handler >>= f) := by
  apply Session.heeds_bind
  apply Session.heeds_mono first (fun _ held => held)
  intro result held
  cases result with
  | ok value => exact rest value (held value rfl)
  | error failure => exact heeds_throw

/-- A sequence whose first part may return anything. -/
theorem heeds_then {handler : Handler α} {f : α → Handler β} {target : β → Prop}
    (first : Heeds guard (fun _ => True) handler) (rest : ∀ value, Heeds guard target (f value)) :
    Heeds guard target (handler >>= f) :=
  heeds_bind first fun value _ => rest value

/-- What follows a part that is only there on a condition. -/
theorem heeds_when {condition : Prop} [Decidable condition] {handler : Handler α}
    {rest : Handler β} {target : β → Prop} (first : Heeds guard (fun _ => True) handler)
    (others : Heeds guard target rest) :
    Heeds guard target (if condition then do let _ ← handler; rest else rest) := by
  split
  · exact heeds_then first fun _ => others
  · exact others

theorem heeds_outcome {handler : Handler α} (heeds : Heeds guard post handler) :
    Heeds guard (fun result => ∀ value, result = .ok value → post value) (outcome handler) := by
  apply Session.heeds_bind
  apply Session.heeds_mono heeds (fun _ held => held)
  intro result held
  exact heeds_pure held

theorem heeds_within {remark : String} {handler : Handler α} (heeds : Heeds guard post handler) :
    Heeds guard post (within remark handler) := by
  apply Session.heeds_bind
  apply Session.heeds_mono heeds (fun _ held => held)
  intro result held value returned
  cases result with
  | ok given =>
    cases returned
    exact held value rfl
  | error failure => cases returned

theorem heeds_fail {cause : Cause} : Heeds guard post (fail cause : Handler α) := heeds_throw

theorem heeds_ofIo {answer : Except IoError α} (held : ∀ value, answer = .ok value → post value) :
    Heeds guard post (ofIo answer) := by
  cases answer with
  | ok value => exact heeds_pure (held value rfl)
  | error error => exact heeds_throw

theorem heeds_ofResult {result : Except Failure α}
    (held : ∀ value, result = .ok value → post value) : Heeds guard post (ofResult result) := by
  cases result with
  | ok value => exact heeds_pure (held value rfl)
  | error failure => exact heeds_throw

/-! ## Effects under a guard that admits them -/

theorem write_heeds {octets : Bytes} (admitted : ∀ answer, guard (.write octets answer)) :
    Heeds guard (fun _ => True) (write octets) := by
  apply heeds_then
  · intro answer
    exact ⟨admitted answer, fun _ _ => trivial⟩
  · intro answer
    exact heeds_ofIo fun _ _ => trivial

theorem whetherOpen_heeds (admitted : ∀ answer, guard (.whetherOpen answer)) :
    Heeds guard (fun _ => True) (effect Session.whetherOpen) := by
  intro answer
  exact ⟨admitted answer, fun _ _ => trivial⟩

theorem close_heeds (admitted : guard .close) : Heeds guard (fun _ => True) close :=
  ⟨admitted, fun _ _ => trivial⟩

theorem resolve_heeds {name : String} (admitted : ∀ answer, guard (.resolve name answer)) :
    Heeds guard (fun _ => True) (effect (Session.resolve name)) := by
  intro answer
  exact ⟨admitted answer, fun _ _ => trivial⟩

theorem dial_heeds {endpoint : Endpoint} (admitted : ∀ answer, guard (.dial endpoint answer)) :
    Heeds guard (fun _ => True) (effect (Session.dial endpoint)) := by
  intro answer
  exact ⟨admitted answer, fun _ _ => trivial⟩

/-- A listener is opened for the client, and waits for whoever comes. -/
theorem listen_heeds {ip : Ip} (admitted : ∀ answer, guard (.listen ip answer)) :
    Heeds guard (fun _ => True) (do ofIo (← effect (Session.listen ip))) := by
  apply heeds_then
  · intro answer
    exact ⟨admitted answer, fun _ _ => trivial⟩
  · intro answer
    exact heeds_ofIo fun _ _ => trivial

theorem accept_heeds {window : Duration} (admitted : ∀ answer, guard (.accept window answer)) :
    Heeds guard (fun _ => True) (effect (Session.accept window)) := by
  intro answer
  exact ⟨admitted answer, fun _ _ => trivial⟩

theorem takingUp_heeds (admitted : ∀ answer, guard (.takeUp answer)) :
    Heeds guard (fun _ => True) (effect Session.takeUp) := by
  intro answer
  exact ⟨admitted answer, fun _ _ => trivial⟩

theorem takeUp_heeds (admitted : ∀ answer, guard (.takeUp answer)) :
    Heeds guard (fun _ => True) takeUp := by
  apply heeds_then (takingUp_heeds admitted)
  intro answer
  exact heeds_ofIo fun _ _ => trivial

theorem relay_heeds {window : Duration} (admitted : ∀ answer, guard (.relay window answer)) :
    Heeds guard (fun _ => True) (do ofResult (← effect (Session.relay window))) := by
  apply heeds_then
  · intro answer
    exact ⟨admitted answer, fun _ _ => trivial⟩
  · intro answer
    exact heeds_ofResult fun _ _ => trivial

theorem associate_heeds {ip : Ip} {terms : AssociationTerms}
    (admitted : ∀ answer, guard (.associate ip terms answer)) :
    Heeds guard (fun _ => True) (do ofIo (← effect (Session.associate ip terms))) := by
  apply heeds_then
  · intro answer
    exact ⟨admitted answer, fun _ _ => trivial⟩
  · intro answer
    exact heeds_ofIo fun _ _ => trivial

/-- A failure is answered if the connection is still the session's own; the rest comes either way. -/
theorem replying_heeds {octets : Bytes} {rest : Handler β} {target : β → Prop}
    (writes : ∀ answer, guard (.write octets answer)) (asks : ∀ answer, guard (.whetherOpen answer))
    (others : Heeds guard target rest) :
    Heeds guard target (do
      let isOpen ← effect Session.whetherOpen
      if isOpen then do
        let _ ← outcome (write octets)
        rest
      else rest) := by
  apply heeds_then (whetherOpen_heeds asks)
  intro isOpen
  exact heeds_when (heeds_any (heeds_outcome (write_heeds writes))) others

/-! ## Handlers that talk to the client -/

theorem read_talks (limit : Nat) : Talks (fun _ => True) (read limit) := by
  apply heeds_then
  · intro answer
    exact ⟨trivial, fun _ _ => trivial⟩
  · intro answer
    exact heeds_ofIo fun _ _ => trivial

theorem write_talks (octets : Bytes) : Talks (fun _ => True) (write octets) :=
  write_heeds fun _ => trivial

theorem whetherOpen_talks : Talks (fun _ => True) (effect Session.whetherOpen) :=
  whetherOpen_heeds fun _ => trivial

theorem close_talks : Talks (fun _ => True) close := close_heeds trivial

theorem gather_talks (fuel missing : Nat) : Talks (fun _ => True) (gather fuel missing) := by
  induction fuel generalizing missing with
  | zero => exact heeds_pure trivial
  | succ fuel ih =>
    unfold gather
    split
    · exact heeds_pure trivial
    · apply heeds_then (read_talks missing)
      intro octets
      apply heeds_when heeds_fail
      exact heeds_then (ih _) fun _ => heeds_pure trivial

theorem readExactly_talks (count : Nat) : Talks (fun _ => True) (readExactly count) :=
  gather_talks count count

theorem readOctet_talks : Talks (fun _ => True) readOctet :=
  heeds_then (readExactly_talks 1) fun _ => heeds_pure trivial

theorem readWord_talks : Talks (fun _ => True) readWord := by
  apply heeds_then (readExactly_talks 2)
  intro octets
  split
  · exact heeds_pure trivial
  · exact heeds_fail

end Handler

end SocksGateway
