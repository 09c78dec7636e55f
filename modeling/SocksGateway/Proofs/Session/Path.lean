import SocksGateway.Session.Run

/-!
Paths through a session. A path lists what the session did and which answers it got; nothing is said
about where the answers come from, so that it covers every client, every network and every resolver,
and one that changes its mind between two questions too. A session may be left in the middle.
-/

set_option autoImplicit false

namespace SocksGateway

/-- What a session does at one node, with the answer. -/
inductive Deed where
  | read (limit : Nat) (answer : Except IoError Bytes)
  | unread (octets : Bytes)
  | write (octets : Bytes) (answer : Except IoError Unit)
  | whetherOpen (answer : Bool)
  | resolve (name : String) (answer : Option Ip)
  | dial (endpoint : Endpoint) (answer : Dialled)
  | listen (ip : Ip) (answer : Except IoError Endpoint)
  | accept (window : Duration) (answer : Called)
  | takeUp (answer : Except IoError Unit)
  | relay (window : Duration) (answer : Except Failure Unit)
  | associate (ip : Ip) (terms : AssociationTerms) (answer : Except IoError Endpoint)
  | attend
  | protect (protection : Gss.Protection)
  | close

namespace Session

variable {α β : Type}

/-- One node of a session, and where its answer leads. -/
inductive Step : Session α → Deed → Session α → Prop where
  | read {limit : Nat} {next : Except IoError Bytes → Session α} (answer : Except IoError Bytes) :
    Step (read limit next) (.read limit answer) (next answer)
  | unread {octets : Bytes} {next : Session α} : Step (unread octets next) (.unread octets) next
  | write {octets : Bytes} {next : Except IoError Unit → Session α}
      (answer : Except IoError Unit) :
    Step (write octets next) (.write octets answer) (next answer)
  | whetherOpen {next : Bool → Session α} (answer : Bool) :
    Step (whetherOpen next) (.whetherOpen answer) (next answer)
  | resolve {name : String} {next : Option Ip → Session α} (answer : Option Ip) :
    Step (resolve name next) (.resolve name answer) (next answer)
  | dial {endpoint : Endpoint} {next : Dialled → Session α} (answer : Dialled) :
    Step (dial endpoint next) (.dial endpoint answer) (next answer)
  | listen {ip : Ip} {next : Except IoError Endpoint → Session α}
      (answer : Except IoError Endpoint) :
    Step (listen ip next) (.listen ip answer) (next answer)
  | accept {window : Duration} {next : Called → Session α} (answer : Called) :
    Step (accept window next) (.accept window answer) (next answer)
  | takeUp {next : Except IoError Unit → Session α} (answer : Except IoError Unit) :
    Step (takeUp next) (.takeUp answer) (next answer)
  | relay {window : Duration} {next : Except Failure Unit → Session α}
      (answer : Except Failure Unit) :
    Step (relay window next) (.relay window answer) (next answer)
  | associate {ip : Ip} {terms : AssociationTerms} {next : Except IoError Endpoint → Session α}
      (answer : Except IoError Endpoint) :
    Step (associate ip terms next) (.associate ip terms answer) (next answer)
  | attend {next : Session α} : Step (attend next) .attend next
  | protect {protection : Gss.Protection} {next : Session α} :
    Step (protect protection next) (.protect protection) next
  | close {next : Session α} : Step (close next) .close next

/-- The session does all of these, one after another, and stands at `rest` then. -/
inductive Along : Session α → List Deed → Session α → Prop where
  | here (session : Session α) : Along session [] session
  | step {session next rest : Session α} {deed : Deed} {deeds : List Deed}
      (first : Step session deed next) (others : Along next deeds rest) :
    Along session (deed :: deeds) rest

/-- A session that is done does nothing more. -/
theorem along_done {result : α} {deeds : List Deed} {rest : Session α}
    (path : (done result).Along deeds rest) : deeds = [] ∧ rest = done result := by
  cases path with
  | here => exact ⟨rfl, rfl⟩
  | step first _ => cases first

/-- A path falls into two wherever it is cut. -/
theorem exists_along_of_append {session rest : Session α} {deeds others : List Deed}
    (path : session.Along (deeds ++ others) rest) :
    ∃ middle, session.Along deeds middle ∧ middle.Along others rest := by
  induction deeds generalizing session with
  | nil => exact ⟨session, .here session, path⟩
  | cons deed deeds ih =>
    cases path with
    | step first left =>
      obtain ⟨middle, front, back⟩ := ih left
      exact ⟨middle, .step first front, back⟩

theorem bind_assoc {γ : Type} (session : Session α) (f : α → Session β) (g : β → Session γ) :
    (session.bind f).bind g = session.bind fun result => (f result).bind g := by
  induction session with
  | done result => rfl
  | read _ _ ih | write _ _ ih | whetherOpen _ ih | resolve _ _ ih | dial _ _ ih | listen _ _ ih
  | accept _ _ ih | takeUp _ ih | relay _ _ ih | associate _ _ _ ih => simp only [bind, ih]
  | unread _ _ ih | attend _ ih | protect _ _ ih | close _ ih => simp only [bind, ih]

/-- A node of a sequence belongs to its first part until that is done. -/
theorem step_bind {session : Session α} {f : α → Session β} {deed : Deed} {next : Session β}
    (step : (session.bind f).Step deed next) :
    (∃ inner, session.Step deed inner ∧ next = inner.bind f) ∨
      ∃ result, session = done result ∧ (f result).Step deed next := by
  cases session with
  | done result => exact .inr ⟨result, rfl, step⟩
  | _ =>
    cases step
    exact .inl ⟨_, by constructor, rfl⟩

/-- A path through a sequence stays within its first part, or leads through a result of it. -/
theorem along_bind {session : Session α} {f : α → Session β} {deeds : List Deed}
    {rest : Session β} (path : (session.bind f).Along deeds rest) :
    (∃ inner, session.Along deeds inner ∧ rest = inner.bind f) ∨
      ∃ before after result, deeds = before ++ after ∧ session.Along before (done result) ∧
        (f result).Along after rest := by
  -- On what was done, not on the session, which is another one after each deed.
  induction deeds generalizing session with
  | nil =>
    cases path
    exact .inl ⟨session, .here session, rfl⟩
  | cons deed deeds ih =>
    cases path with
    | step first others =>
      rcases step_bind first with ⟨inner, step, rfl⟩ | ⟨result, rfl, step⟩
      · rcases ih others with ⟨left, path, rfl⟩ | ⟨before, after, result, rfl, path, left⟩
        · exact .inl ⟨left, .step step path, rfl⟩
        · exact .inr ⟨deed :: before, after, result, rfl, .step step path, left⟩
      · exact .inr ⟨[], deed :: deeds, result, rfl, .here _, .step step others⟩

end Session

namespace Handler

variable {α β : Type} {handler : Handler α} {deeds : List Deed}

/-- A path through a sequence stays within its first part, or leads through a value that this
returns. -/
theorem along_bind {f : α → Handler β} {rest : Session (Except Failure β)}
    (path : (handler >>= f).run.Along deeds rest) :
    (∃ inner, handler.run.Along deeds inner) ∨
      ∃ before after value, deeds = before ++ after ∧
        handler.run.Along before (.done (.ok value)) ∧ (f value).run.Along after rest := by
  rcases Session.along_bind path with ⟨inner, own, _⟩ | ⟨before, after, result, rfl, own, left⟩
  · exact .inl ⟨inner, own⟩
  · cases result with
    | ok value => exact .inr ⟨before, after, value, rfl, own, left⟩
    | error failure =>
      obtain ⟨rfl, _⟩ := Session.along_done left
      rw [List.append_nil]
      exact .inl ⟨_, own⟩

/-- The connection to the client is closed, whatever a handler comes to. -/
def closing (handler : Handler Unit) : Handler Unit := do
  let result ← outcome handler
  close
  ofResult result

/-- The paths through a handler whose failure is kept are its own. -/
theorem along_outcome {rest : Session (Except Failure (Except Failure α))}
    (path : (outcome handler).run.Along deeds rest) : ∃ inner, handler.run.Along deeds inner := by
  rcases Session.along_bind path with ⟨inner, own, _⟩ | ⟨before, after, result, rfl, own, left⟩
  · exact ⟨inner, own⟩
  · obtain ⟨rfl, _⟩ := Session.along_done left
    rw [List.append_nil]
    exact ⟨_, own⟩

end Handler

/-- What a session asks of the network on behalf of its client. -/
inductive Contact where
  | dial (endpoint : Endpoint)
  | associate (terms : AssociationTerms)

def Deed.contact? : Deed → Option Contact
  | .dial endpoint _ => some (.dial endpoint)
  | .associate _ terms _ => some (.associate terms)
  | _ => none

def Act.contact? : Act → Option Contact
  | .dialled endpoint => some (.dial endpoint)
  | .associated terms => some (.associate terms)
  | _ => none

namespace Session

variable {α : Type}

/-- A run is one of the paths, with the same contacts in the same order. -/
theorem exists_along_run (session : Session α) (world : Surroundings) (tape : Tape) :
    ∃ deeds, session.Along deeds (done (session.run world tape).result) ∧
      deeds.filterMap Deed.contact? = (session.run world tape).acts.filterMap Act.contact? := by
  induction session generalizing tape with
  | done result => exact ⟨[], .here _, rfl⟩
  | read limit next ih =>
    rw [run]
    obtain ⟨answer, left⟩ := tape.read limit
    obtain ⟨deeds, path, same⟩ := ih answer left
    cases answer with
    | ok octets => exact ⟨_, .step (.read (.ok octets)) path, same⟩
    | error error => exact ⟨_, .step (.read (.error error)) path, same⟩
  | unread octets next ih =>
    obtain ⟨deeds, path, same⟩ := ih (tape.unread octets)
    exact ⟨_, .step .unread path, same⟩
  | write octets next ih =>
    rw [run]
    obtain ⟨answer, left⟩ := tape.write
    obtain ⟨deeds, path, same⟩ := ih answer left
    cases answer with
    | ok => exact ⟨_, .step (.write (.ok ())) path, same⟩
    | error error => exact ⟨_, .step (.write (.error error)) path, same⟩
  | whetherOpen next ih =>
    obtain ⟨deeds, path, same⟩ := ih tape.isOpen tape
    exact ⟨_, .step (.whetherOpen tape.isOpen) path, same⟩
  | resolve name next ih =>
    obtain ⟨deeds, path, same⟩ := ih (world.resolver name) tape
    exact ⟨_, .step (.resolve (world.resolver name)) path, same⟩
  | dial endpoint next ih =>
    obtain ⟨deeds, path, same⟩ := ih (world.dial endpoint) tape
    exact ⟨_, .step (.dial (world.dial endpoint)) path, congrArg (Contact.dial endpoint :: ·) same⟩
  | listen ip next ih =>
    obtain ⟨deeds, path, same⟩ := ih (world.listen ip) tape
    exact ⟨_, .step (.listen (world.listen ip)) path, same⟩
  | accept window next ih =>
    obtain ⟨deeds, path, same⟩ := ih (world.accept window) tape
    exact ⟨_, .step (.accept (world.accept window)) path, same⟩
  | takeUp next ih =>
    obtain ⟨deeds, path, same⟩ := ih world.takeUp tape
    exact ⟨_, .step (.takeUp world.takeUp) path, same⟩
  | relay window next ih =>
    obtain ⟨deeds, path, same⟩ := ih (world.relay tape.input window) tape.close
    exact ⟨_, .step (.relay (world.relay tape.input window)) path, same⟩
  | associate ip terms next ih =>
    obtain ⟨deeds, path, same⟩ := ih (world.associate ip terms) tape
    exact ⟨_, .step (.associate (world.associate ip terms)) path,
      congrArg (Contact.associate terms :: ·) same⟩
  | attend next ih =>
    obtain ⟨deeds, path, same⟩ := ih { tape with segments := [] }
    exact ⟨_, .step .attend path, same⟩
  | protect protection next ih =>
    obtain ⟨deeds, path, same⟩ := ih { tape with segments := world.uncover protection tape.input }
    exact ⟨_, .step .protect path, same⟩
  | close next ih =>
    obtain ⟨deeds, path, same⟩ := ih tape.close
    exact ⟨_, .step .close path, same⟩

end Session

end SocksGateway
