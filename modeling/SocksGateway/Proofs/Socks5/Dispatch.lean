import SocksGateway.Proofs.Session.Segments

/-!
Which link of a chain serves a request. Links are tried in their order, but however they were put together
the order tells nothing: the link for a command serves it if it is among them, and all other requests
are answered as not supported, with nothing read from the client.
-/

set_option autoImplicit false

namespace SocksGateway

open Handler

/-! ## What stays unread -/

theorem Tape.segments_write (tape : Tape) : tape.write.2.segments = tape.segments := by
  unfold write
  split
  · split <;> rfl
  · rfl

/-- What the client sends is neither read nor given to anybody else. -/
def Deed.IsDeaf : Deed → Prop
  | .read .. | .unread _ | .relay .. | .attend | .protect _ | .close => False
  | _ => True

/-- What the client has sent is still there after a session that does nothing about it. -/
theorem Session.run_of_deaf {α : Type} {post : α → Prop} {session : Session α}
    (deaf : session.Heeds Deed.IsDeaf post) (world : Surroundings) (tape : Tape) :
    (session.run world tape).tape.segments = tape.segments ∧
      ∀ octets, .read octets ∉ (session.run world tape).acts := by
  induction session generalizing tape with
  | done => exact ⟨rfl, fun _ => List.not_mem_nil⟩
  | whetherOpen next ih | takeUp next ih => exact ih _ (deaf _).2 tape
  | write octets next ih =>
    have kept := tape.segments_write
    rw [run]
    split
    · rename_i left answered
      rw [answered] at kept
      obtain ⟨segments, silent⟩ := ih _ (deaf (.ok ())).2 left
      refine ⟨segments.trans kept, ?_⟩
      intro read listed
      cases listed with
      | tail _ listed => exact silent read listed
    · rename_i error left answered
      rw [answered] at kept
      obtain ⟨segments, silent⟩ := ih _ (deaf (.error error)).2 left
      exact ⟨segments.trans kept, silent⟩
  | resolve _ _ ih | dial _ _ ih | listen _ _ ih | accept _ _ ih | associate _ _ _ ih =>
    obtain ⟨segments, silent⟩ := ih _ (deaf _).2 tape
    refine ⟨segments, ?_⟩
    intro read listed
    cases listed with
    | tail _ listed => exact silent read listed
  | read => exact (deaf (.ok [])).1.elim
  | relay => exact (deaf (.ok ())).1.elim
  | unread | attend | protect | close => exact deaf.1.elim

namespace Socks5

/-! ## Links and their commands -/

namespace ChainLink

variable {command : Command} {byte : UInt8}

/-- The link that serves a command. -/
def ofCommand : Command → ChainLink
  | .connect => connect
  | .bind => bind
  | .udpAssociate => udpAssociate

theorem cases_ofCommand (link : ChainLink) :
    link = unsupported ∨ ∃ command, link = ofCommand command := by
  cases link with
  | connect => exact .inr ⟨.connect, rfl⟩
  | bind => exact .inr ⟨.bind, rfl⟩
  | udpAssociate => exact .inr ⟨.udpAssociate, rfl⟩
  | unsupported => exact .inl rfl

theorem ofCommand_ne_unsupported : ofCommand command ≠ unsupported := by
  cases command <;> exact nofun

theorem ofCommand_handles_iff : (ofCommand command).handles byte = true ↔ byte = command.toByte := by
  cases command <;> exact beq_iff_eq

theorem ofCommand_inj {other : Command} (first : byte = command.toByte)
    (second : byte = other.toByte) : ofCommand command = ofCommand other := by
  have same := (Command.ofByte?_eq_some_iff.mpr first).symm.trans
    (Command.ofByte?_eq_some_iff.mpr second)
  exact congrArg ofCommand (Option.some.inj same)

/-- Two settings are alike as far as the link looks at them. -/
def IsAlike (settings other : CommandSettings) : ChainLink → Prop
  | connect => other = settings
  | udpAssociate => other.policy = settings.policy
  | _ => True

end ChainLink

namespace Request

variable (request : Request) {settings other : CommandSettings}

theorem associate_congr (same : other.policy = settings.policy) :
    request.associate other = request.associate settings := by
  unfold associate
  rw [same]

theorem perform_congr {link : ChainLink} (alike : link.IsAlike settings other) :
    request.perform other link = request.perform settings link := by
  cases link with
  | connect => rw [show other = settings from alike]
  | udpAssociate => exact request.associate_congr alike
  | bind | unsupported => rfl

end Request

/-! ## The link that is found -/

namespace Chain

variable {links : List ChainLink} {settings : CommandSettings} {command : Command} {byte : UInt8}

/-- What is found is one of the links that serve the command, or there are none. -/
theorem linkFor_ofLinks (links : List ChainLink) (settings : CommandSettings) (byte : UInt8) :
    let link := (ofLinks links settings).linkFor byte
    (link ∈ links ∧ link ≠ .unsupported ∧ link.handles byte = true) ∨
      link = .unsupported ∧
        ∀ each ∈ links, each ≠ .unsupported → ¬ each.handles byte = true := by
  have last : [ChainLink.unsupported].find? (·.handles byte) = some .unsupported := rfl
  simp only [linkFor, ofLinks, List.find?_append, last]
  cases found : (links.filter (· != .unsupported)).find? (·.handles byte) with
  | none =>
    refine .inr ⟨rfl, ?_⟩
    intro each listed real
    exact List.find?_eq_none.mp found each (List.mem_filter.mpr ⟨listed, bne_iff_ne.mpr real⟩)
  | some link =>
    obtain ⟨listed, real⟩ := List.mem_filter.mp (List.mem_of_find?_eq_some found)
    have handles := List.find?_some found
    exact .inl ⟨listed, bne_iff_ne.mp real, handles⟩

theorem linkFor_ofLinks_iff : (ofLinks links settings).linkFor byte = .ofCommand command ↔
    byte = command.toByte ∧ .ofCommand command ∈ links := by
  obtain ⟨listed, real, handles⟩ | ⟨unserved, nobody⟩ := linkFor_ofLinks links settings byte
  · obtain none | ⟨other, found⟩ := ((ofLinks links settings).linkFor byte).cases_ofCommand
    · exact absurd none real
    · rw [found] at listed handles ⊢
      have named := ChainLink.ofCommand_handles_iff.mp handles
      constructor
      · intro same
        rw [same] at listed handles
        exact ⟨ChainLink.ofCommand_handles_iff.mp handles, listed⟩
      · intro ⟨also, _⟩
        exact ChainLink.ofCommand_inj named also
  · constructor
    · intro same
      exact absurd (same.symm.trans unserved) ChainLink.ofCommand_ne_unsupported
    · intro ⟨named, listed⟩
      exact absurd (ChainLink.ofCommand_handles_iff.mpr named)
        (nobody _ listed ChainLink.ofCommand_ne_unsupported)

theorem linkFor_ofLinks_of_absent
    (absent : ∀ command, byte = Command.toByte command → .ofCommand command ∉ links) :
    (ofLinks links settings).linkFor byte = .unsupported := by
  obtain none | ⟨command, found⟩ := ((ofLinks links settings).linkFor byte).cases_ofCommand
  · exact none
  · obtain ⟨named, listed⟩ := linkFor_ofLinks_iff.mp found
    exact absurd listed (absent command named)

theorem linkFor_ofLinks_congr {others : List ChainLink} {other : CommandSettings}
    (same : ∀ link, link ≠ .unsupported → (link ∈ others ↔ link ∈ links)) :
    (ofLinks others other).linkFor byte = (ofLinks links settings).linkFor byte := by
  obtain none | ⟨command, found⟩ := ((ofLinks links settings).linkFor byte).cases_ofCommand
  · rw [none]
    apply linkFor_ofLinks_of_absent
    intro command named listed
    have found : (ofLinks links settings).linkFor byte = .ofCommand command :=
      linkFor_ofLinks_iff.mpr ⟨named, (same _ ChainLink.ofCommand_ne_unsupported).mp listed⟩
    exact ChainLink.ofCommand_ne_unsupported (found.symm.trans none)
  · obtain ⟨named, listed⟩ := linkFor_ofLinks_iff.mp found
    rw [found]
    exact linkFor_ofLinks_iff.mpr
      ⟨named, (same _ ChainLink.ofCommand_ne_unsupported).mpr listed⟩

/-- Links that answer everything count for nothing, wherever they stand. -/
theorem ofLinks_unsupported (front back : List ChainLink) (settings : CommandSettings) :
    ofLinks (front ++ .unsupported :: back) settings = ofLinks (front ++ back) settings := by
  have skipped : (ChainLink.unsupported :: back).filter (· != .unsupported) =
      back.filter (· != .unsupported) := rfl
  rw [ofLinks, ofLinks, List.filter_append, List.filter_append, skipped]

theorem dispatch_congr {chain other : Chain} {request : Request}
    (same : other.linkFor request.head.command = chain.linkFor request.head.command)
    (alike : (chain.linkFor request.head.command).IsAlike chain.settings other.settings) :
    other.dispatch request = chain.dispatch request := by
  rw [dispatch_eq, dispatch_eq, same, request.perform_congr alike]

end Chain

/-! ## Requests that no link serves -/

theorem sendReply_run (world : Surroundings) (code : ReplyCode) (bound : Endpoint) (tape : Tape) :
    (sendReply code bound).run.run world tape = match tape.write with
      | (.ok (), left) =>
        { result := .ok (), acts := [.wrote (reply code bound)], tape := left }
      | (.error error, left) => { result := .error (.ofIo error), acts := [], tape := left } := by
  change Session.run world (.write (reply code bound) _) tape = _
  rw [Session.run]
  rcases tape.write with ⟨_ | _, left⟩ <;> rfl

/-- An attempt to reply does not fail. -/
theorem result_replyIfOpen (world : Surroundings) (code : ReplyCode) (tape : Tape) :
    ((replyIfOpen code).run.run world tape).result = .ok () := by
  have asked : (effect Session.whetherOpen).run.run world tape =
    { result := .ok tape.isOpen, acts := [], tape } := rfl
  rw [replyIfOpen, run_bind_of_eq asked]
  cases tape.isOpen with
  | false => rfl
  | true =>
    rw [if_pos rfl, run_bind_of_eq (run_outcome world _ tape)]
    rfl

/-- What is done about a request, by its command. -/
def Request.serve (settings : CommandSettings) (request : Request) : Command → Handler Unit
  | .connect => request.connect settings
  | .bind => request.bind
  | .udpAssociate => request.associate settings

theorem Request.perform_ofCommand (settings : CommandSettings) (request : Request)
    (command : Command) :
    request.perform settings (.ofCommand command) = request.serve settings command := by
  cases command <;> rfl

namespace Chain

/-- One reply, and if it cannot be written, that is what the request comes to. -/
theorem refuse_run (world : Surroundings) (tape : Tape) :
    let ran := (outcome (sendReply .commandNotSupported .unspecified) >>= answer).run.run world tape
    match tape.write with
    | (.ok (), left) => ran =
      { result := .ok (), acts := [.wrote [5, 7, 0, 1, 0, 0, 0, 0, 0, 0]], tape := left }
    | (.error error, _) => ran.result = .error (.ofIo error) := by
  have attempted := run_outcome world (sendReply .commandNotSupported .unspecified) tape
  rw [sendReply_run] at attempted
  rw [run_bind_of_eq attempted]
  obtain ⟨error | _, left⟩ := tape.write
  · have replied := result_replyIfOpen world .generalFailure left
    have failing : answer (.error (.ofIo error)) =
        replyIfOpen .generalFailure >>= fun _ => throw (.ofIo error) := rfl
    dsimp only
    rw [failing, run_bind_of_ok replied]
    rfl
  · rfl

/-- However a chain was put together: a request of which the command has its link among those that were
given is served by this link, and every other request is answered as not supported, with nothing read
of what the client has sent. So chains of the same links, if these are set alike for the command, do the
same about every request, and a link that answers everything makes no difference wherever it was put. -/
theorem dispatch_ofLinks (links : List ChainLink) (settings : CommandSettings) (request : Request) :
    let chain := ofLinks links settings
    let byte := request.head.command
    (∀ command, (chain.linkFor byte = .ofCommand command ↔
        byte = command.toByte ∧ .ofCommand command ∈ links) ∧
      (byte = command.toByte → .ofCommand command ∈ links →
        chain.dispatch request = outcome (request.serve settings command) >>= answer)) ∧
    ((∀ command, byte = Command.toByte command → .ofCommand command ∉ links) → ∀ world tape,
      let ran := (chain.dispatch request).run.run world tape
      ran.tape.segments = tape.segments ∧ (∀ octets, .read octets ∉ ran.acts) ∧
      match tape.write with
      | (.ok (), left) => ran =
        { result := .ok (), acts := [.wrote [5, 7, 0, 1, 0, 0, 0, 0, 0, 0]], tape := left }
      | (.error error, _) => ran.result = .error (.ofIo error)) ∧
    (∀ others other, (∀ link, link ≠ .unsupported → (link ∈ others ↔ link ∈ links)) →
      (chain.linkFor byte).IsAlike settings other →
      (ofLinks others other).dispatch request = chain.dispatch request) ∧
    ∀ front back, links = front ++ back →
      ofLinks (front ++ .unsupported :: back) settings = chain := by
  intro chain byte
  refine ⟨?_, ?_, ?_, ?_⟩
  · intro command
    refine ⟨linkFor_ofLinks_iff, ?_⟩
    intro named listed
    have found : chain.linkFor byte = .ofCommand command :=
      linkFor_ofLinks_iff.mpr ⟨named, listed⟩
    rw [dispatch_eq, found, Request.perform_ofCommand]
    rfl
  · intro absent world tape
    have none : chain.linkFor byte = .unsupported := linkFor_ofLinks_of_absent absent
    have refused : chain.dispatch request =
        outcome (sendReply .commandNotSupported .unspecified) >>= answer := by
      rw [dispatch_eq, none]
      rfl
    have deaf : Heeds Deed.IsDeaf (fun _ => True) (chain.dispatch request) := by
      rw [refused]
      exact heeds_then (heeds_any (heeds_outcome (write_heeds fun _ => trivial)))
        (answer_heeds (fun _ _ => trivial) fun _ => trivial)
    obtain ⟨segments, silent⟩ := Session.run_of_deaf deaf world tape
    refine ⟨segments, silent, ?_⟩
    rw [refused]
    exact refuse_run world tape
  · intro others other same alike
    exact dispatch_congr (linkFor_ofLinks_congr same) alike
  · rintro front back rfl
    exact ofLinks_unsupported front back settings

/-- Links in an order of their own, some of them twice, and none for requests to connect. -/
def scattered : List ChainLink := [.unsupported, .udpAssociate, .bind, .unsupported, .bind]

/-- What follows the head of a request to connect stays unread. A request to listen is served as if its
link stood alone. -/
theorem dispatch_ofLinks_scattered :
    let settings : CommandSettings := { policy := .permissive, reportsBound := true }
    let chain := ofLinks scattered settings
    let tape := Tape.ofBytes [192, 0, 2, 1, 0, 80]
    let ran := (chain.dispatch (connectRequest 1)).run.run reachable tape
    let listening := { connectRequest 1 with head := { (connectRequest 1).head with command := 2 } }
    ran.acts = [.wrote [5, 7, 0, 1, 0, 0, 0, 0, 0, 0]] ∧ ran.tape.input = tape.input ∧
      chain.linkFor 2 = .bind ∧
      (ofLinks [.udpAssociate, .bind] { settings with reportsBound := false }).dispatch listening =
        chain.dispatch listening := by
  intro settings chain tape ran listening
  obtain ⟨_, refused, _, _⟩ := dispatch_ofLinks scattered settings (connectRequest 1)
  obtain ⟨served, _, alike, _⟩ := dispatch_ofLinks scattered settings listening
  have absent : ∀ command, (connectRequest 1).head.command = Command.toByte command →
      .ofCommand command ∉ scattered := by
    intro command
    cases command <;> decide
  have same : ∀ link, link ≠ ChainLink.unsupported →
      (link ∈ [.udpAssociate, .bind] ↔ link ∈ scattered) := by
    intro link
    cases link <;> decide
  obtain ⟨_, _, ended⟩ := refused absent reachable tape
  have found : chain.linkFor 2 = .bind := (served .bind).1.mpr ⟨rfl, by decide⟩
  refine ⟨congrArg Ran.acts ended, congrArg (·.tape.input) ended, found, ?_⟩
  exact alike [.udpAssociate, .bind] _ same (found ▸ trivial)

end Chain

end Socks5

end SocksGateway
