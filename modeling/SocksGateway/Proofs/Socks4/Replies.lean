import SocksGateway.Proofs.Session.Segments
import SocksGateway.Proofs.Socks4.Opening

/-!
Which streams of version 4 are answered. Every request is, unless it is cancelled, whatever becomes of
it. A malformed request is not: its reader fails outside of the part of a session whose failures are
answered, so that the client finds the connection closed, as if it had ended too early itself.
-/

set_option autoImplicit false

namespace SocksGateway.Socks4

open Handler

variable {world : Surroundings} {tape : Tape} {α β : Type}

/-! ## Replies among acts -/

/-- Nothing is written. -/
def IsQuiet (acts : List Act) : Prop := ∀ octets, Act.wrote octets ∉ acts

/-- The first that is written is a reply. -/
def IsReplied (acts : List Act) : Prop :=
  ∃ earlier code bound later, acts = earlier ++ .wrote (reply code bound) :: later ∧ IsQuiet earlier

theorem IsQuiet.append {acts others : List Act} (quiet : IsQuiet acts) (silent : IsQuiet others) :
    IsQuiet (acts ++ others) :=
  fun octets member => (List.mem_append.mp member).elim (quiet octets) (silent octets)

theorem isReplied_singleton (code : ReplyCode) (bound : Endpoint) :
    IsReplied [.wrote (reply code bound)] := ⟨[], code, bound, [], rfl, fun _ => List.not_mem_nil⟩

theorem IsReplied.append {acts : List Act} (replied : IsReplied acts) (others : List Act) :
    IsReplied (acts ++ others) := by
  obtain ⟨earlier, code, bound, later, rfl, quiet⟩ := replied
  exact ⟨earlier, code, bound, later ++ others, List.append_assoc .., quiet⟩

theorem IsReplied.after {acts earlier : List Act} (replied : IsReplied acts)
    (quiet : IsQuiet earlier) : IsReplied (earlier ++ acts) := by
  obtain ⟨between, code, bound, later, rfl, silent⟩ := replied
  exact ⟨earlier ++ between, code, bound, later, (List.append_assoc ..).symm, quiet.append silent⟩

/-- Reads aside, it is still the first. -/
theorem IsReplied.filter {acts : List Act} (replied : IsReplied acts) :
    IsReplied (acts.filter fun act => !act.isRead) := by
  obtain ⟨earlier, code, bound, later, rfl, quiet⟩ := replied
  refine ⟨earlier.filter fun act => !act.isRead, code, bound, later.filter fun act => !act.isRead,
    ?_, fun octets member => quiet octets (List.mem_filter.mp member).1⟩
  rw [List.filter_append, List.filter_cons_of_pos rfl]

/-- What the first part of a sequence does, it does first. -/
theorem exists_acts_bind (world : Surroundings) (handler : Handler α) (f : α → Handler β)
    (tape : Tape) : ∃ others, ((handler >>= f).run.run world tape).acts =
      (handler.run.run world tape).acts ++ others := by
  cases result : (handler.run.run world tape).result with
  | ok value => exact ⟨_, congrArg Ran.acts (run_bind_of_ok result)⟩
  | error failure =>
    exact ⟨[], (congrArg Ran.acts (run_bind_of_error result)).trans (List.append_nil _).symm⟩

theorem isReplied_bind {handler : Handler α} {f : α → Handler β}
    (replied : IsReplied (handler.run.run world tape).acts) :
    IsReplied ((handler >>= f).run.run world tape).acts := by
  obtain ⟨others, acts⟩ := exists_acts_bind world handler f tape
  exact acts ▸ replied.append others

/-- After a quiet part, what is done first is what the rest does first. -/
theorem isReplied_bind_of_eq {handler : Handler α} {f : α → Handler β} {value : α}
    {acts : List Act} {left : Tape}
    (first : handler.run.run world tape = { result := .ok value, acts, tape := left })
    (quiet : IsQuiet acts) (replied : IsReplied ((f value).run.run world left).acts) :
    IsReplied ((handler >>= f).run.run world tape).acts := by
  rw [run_bind_of_eq first]
  exact replied.after quiet

/-- The client gets a reply, or a failure leaves the connection as it was on this tape. -/
def LeavesReply (tape : Tape) (ran : Ran (Except Failure Unit)) : Prop :=
  IsReplied ran.acts ∨ IsQuiet ran.acts ∧ ran.tape = tape ∧
    ∃ failure, ran.result = .error failure ∧ failure.isCancelled = false

theorem leavesReply_bind_of_eq {handler : Handler α} {f : α → Handler Unit} {value : α}
    {acts : List Act} (first : handler.run.run world tape = { result := .ok value, acts, tape })
    (quiet : IsQuiet acts) (rest : LeavesReply tape ((f value).run.run world tape)) :
    LeavesReply tape ((handler >>= f).run.run world tape) := by
  rw [run_bind_of_eq first]
  rcases rest with replied | ⟨silent, same, failed⟩
  · exact .inl (replied.after quiet)
  · exact .inr ⟨quiet.append silent, same, failed⟩

theorem leavesReply_bind_of_error {handler : Handler α} {f : α → Handler Unit} {failure : Failure}
    {acts : List Act} (first : handler.run.run world tape = { result := .error failure, acts, tape })
    (quiet : IsQuiet acts) (uncancelled : failure.isCancelled = false) :
    LeavesReply tape ((handler >>= f).run.run world tape) := by
  rw [run_bind_of_error (congrArg Ran.result first), first]
  exact .inr ⟨quiet, rfl, failure, rfl, uncancelled⟩

/-! ## Requests -/

section

variable (isOpen : tape.isOpen = true) (writable : tape.writes = [])
include isOpen writable

theorem isReplied_sendReply (code : ReplyCode) (bound : Endpoint) :
    IsReplied ((sendReply code bound).run.run world tape).acts := by
  rw [sendReply, run_write world _ isOpen writable]
  exact isReplied_singleton code bound

theorem isReplied_reject : IsReplied (reject.run.run world tape).acts :=
  isReplied_sendReply isOpen writable _ _

theorem Service.leavesReply_connect (service : Service) (target : Target) (window : Duration)
    (uncancelled : ∀ endpoint, world.dial endpoint ≠ .cancelled) :
    LeavesReply tape ((service.connect target window).run.run world tape) := by
  have quiet : IsQuiet (Socks5.lookups service.policy target none) := by
    intro octets
    unfold Socks5.lookups
    split <;> simp only [List.mem_singleton, List.not_mem_nil, reduceCtorEq, not_false_eq_true]
  apply leavesReply_bind_of_eq (Socks5.route_run service.policy target none) quiet
  cases service.policy.route world.resolver target none with
  | error failure => exact .inl (isReplied_reject isOpen writable)
  | ok endpoint =>
    have dialled : (effect (Session.dial endpoint)).run.run world tape =
      { result := .ok (world.dial endpoint), acts := [.dialled endpoint], tape } := rfl
    apply leavesReply_bind_of_eq dialled
    · intro octets
      simp only [List.mem_singleton, reduceCtorEq, not_false_eq_true]
    · cases reached : world.dial endpoint with
      | cancelled => exact absurd reached (uncancelled endpoint)
      | failed => exact .inl (isReplied_reject isOpen writable)
      | connected own =>
        have taken := run_takeUp world tape
        cases stands : world.takeUp with
        | error error =>
          rw [stands] at taken
          exact leavesReply_bind_of_error taken (fun _ => List.not_mem_nil) rfl
        | ok =>
          rw [stands] at taken
          refine leavesReply_bind_of_eq taken (fun _ => List.not_mem_nil) (.inl ?_)
          exact isReplied_bind (isReplied_sendReply isOpen writable _ _)

omit isOpen writable in
theorem listen_run (world : Surroundings) (tape : Tape) : (within "Failed to open BIND listener" do
      ofIo (← effect (Session.listen .unspecified)) : Handler Endpoint).run.run world tape =
    { result := (world.listen .unspecified).mapError fun error =>
        (Failure.ofIo error).within "Failed to open BIND listener"
      acts := [.listened .unspecified], tape } := by
  change Session.run _ (Session.listen _ _) _ = _
  rw [Session.run]
  cases world.listen .unspecified <;> rfl

theorem Service.leavesReply_fulfil (service : Service) (command : UInt8) (target : Target)
    (window : Duration) (uncancelled : ∀ endpoint, world.dial endpoint ≠ .cancelled) :
    LeavesReply tape ((service.fulfil command target window).run.run world tape) := by
  unfold Service.fulfil
  split
  · exact service.leavesReply_connect isOpen writable target window uncancelled
  · have listened := listen_run world tape
    have quiet : IsQuiet [.listened .unspecified] := by
      intro octets
      simp only [List.mem_singleton, reduceCtorEq, not_false_eq_true]
    cases bound : world.listen .unspecified with
    | error error =>
      rw [bound] at listened
      exact leavesReply_bind_of_error listened quiet rfl
    | ok endpoint =>
      rw [bound] at listened
      refine leavesReply_bind_of_eq listened quiet (.inl ?_)
      exact isReplied_bind (isReplied_sendReply isOpen writable _ _)
  · exact .inl (isReplied_reject isOpen writable)

end

/-! ## Sessions -/

/-- Either the request is answered itself, or its failure is. -/
theorem Service.isReplied_serve (service : Service) (request : Request) (window : Duration)
    (isOpen : tape.isOpen = true) (writable : tape.writes = [])
    (uncancelled : ∀ endpoint, world.dial endpoint ≠ .cancelled) :
    IsReplied ((outcome (service.fulfil request.command request.target window) >>=
      answer).run.run world tape).acts := by
  have kept := run_outcome world (service.fulfil request.command request.target window) tape
  rcases service.leavesReply_fulfil isOpen writable request.command request.target window
      uncancelled with
    replied | ⟨quiet, same, failure, failed, notCancelled⟩
  · apply isReplied_bind
    rw [kept]
    exact replied
  · rw [failed, same] at kept
    apply isReplied_bind_of_eq kept quiet
    have asked : (effect Session.whetherOpen).run.run world tape =
      { result := .ok tape.isOpen, acts := [], tape } := rfl
    simp only [answer, notCancelled]
    apply isReplied_bind_of_eq asked fun _ => List.not_mem_nil
    rw [isOpen]
    apply isReplied_bind
    rw [run_outcome]
    exact isReplied_reject isOpen writable

theorem Service.handle_run (service : Service) (window : Duration) (world : Surroundings)
    (tape : Tape) :
    let served := (service.serve window).run.run world tape
    (service.handle window).run.run world tape =
      { result := served.result, acts := served.acts ++ [.closed], tape := served.tape.close } := by
  have kept := run_outcome world (service.serve window) tape
  rw [Service.handle, run_bind_of_eq kept]
  generalize (service.serve window).run.run world tape = served
  obtain ⟨failure | value, acts, left⟩ := served <;> rfl

/-- What is done about what stands at the front of a stream, reads aside, and what that comes to. -/
inductive IsMet : Opening → List Act → Except Failure Unit → Prop where
  | cut (remark : String) :
      IsMet .cut [.closed] (.error { cause := .io .unexpectedEnd, remarks := [remark] })
  | malformed (text : String) : IsMet (.malformed text) [.closed] (.error { cause := .protocol text })
  | request {request : Request} {rest : Bytes} {acts : List Act} {result : Except Failure Unit}
      (replied : IsReplied acts) : IsMet (.request request rest) (acts ++ [.closed]) result

/-- Of the streams of version 4 just those are answered that start with a request. For a malformed
one, as for one that is cut short, nothing is done but that the connection is closed. -/
theorem Service.isMet_handle (service : Service) (window : Duration) {world : Surroundings}
    {tape : Tape} (starts : tape.input.head? = some version) (isOpen : tape.isOpen = true)
    (writable : tape.writes = []) (uncancelled : ∀ endpoint, world.dial endpoint ≠ .cancelled) :
    let ran := (service.handle window).run.run world tape
    ∃ found : Opening, found.Stands tape.input ∧
      (∀ other : Opening, other.Stands tape.input → other = found) ∧
      IsMet found ran.conduct ran.result := by
  obtain ⟨found, stands⟩ := Opening.exists_stands starts
  refine ⟨found, stands, fun other also => stands.unique also, ?_⟩
  obtain ⟨result, silent, left⟩ := readRequest_format.reader.run_alike world isOpen
  simp only [reading] at result silent left
  have conduct : ((service.handle window).run.run world tape).conduct =
      ((service.serve window).run.run world tape).conduct ++ [.closed] := by
    rw [service.handle_run, Ran.conduct, List.filter_append]
    rfl
  have ended : ((service.handle window).run.run world tape).result =
      ((service.serve window).run.run world tape).result := by rw [service.handle_run]
  rw [conduct, ended, service.serve_eq]
  cases found with
  | cut =>
    obtain ⟨remark, failed⟩ := runOn_of_isCut stands
    rw [failed] at result
    rw [run_bind_of_error result]
    exact silent ▸ .cut remark
  | malformed text =>
    obtain ⟨octets, rest, split, malformed⟩ := stands
    rw [split, runOn_of_isMalformed rest malformed] at result
    rw [run_bind_of_error result]
    exact silent ▸ .malformed text
  | request asked rest =>
    obtain ⟨octets, split, written⟩ := stands
    have found := readRequest_format.reads_iff.mpr written rest
    rw [split, found] at result left
    rw [run_bind_of_ok result]
    have answered := service.isReplied_serve asked window (left.isOpen.trans isOpen)
      (left.writes.trans writable) uncancelled
    have quiet : IsQuiet (readRequest.run.run world tape).conduct := by
      rw [silent]
      exact fun _ => List.not_mem_nil
    refine .request ?_
    rw [Ran.conduct, List.filter_append]
    exact answered.filter.after quiet

/-- A request to connect to a host without a name, and what follows it. -/
def connectNowhere : Bytes := [4, 1, 0, 80, 0, 0, 0, 1, 0, 0]

/-- It is malformed, and the client gets no reply. -/
theorem handle_connectNowhere :
    let service : Service := { policy := .permissive }
    let ran := (service.handle (.ofSeconds 60)).run.run .isolated (.ofBytes connectNowhere)
    IsMalformed connectNowhere "Empty SOCKS4a domain" ∧ ran.conduct = [.closed] ∧
      ran.written = [] ∧ ran.written ≠ reply .rejected .unspecified := by
  have empty : IsWritable "" := ⟨Nat.zero_le _, List.not_mem_nil⟩
  refine ⟨?_, rfl, rfl, by decide⟩
  exact @IsMalformed.name 1 80 ⟨0, 0, 0, 1⟩ "" [0] _ empty rfl .empty

theorem isMet_handle_connectNowhere :
    let service : Service := { policy := .permissive }
    let tape := Tape.ofBytes connectNowhere
    let ran := (service.handle (.ofSeconds 60)).run.run .isolated tape
    tape.input.head? = some version ∧ ∃ found : Opening, found.Stands tape.input ∧
      (∀ other : Opening, other.Stands tape.input → other = found) ∧
      IsMet found ran.conduct ran.result :=
  ⟨rfl, Service.isMet_handle { policy := .permissive } (.ofSeconds 60) rfl rfl rfl
    (by rintro _ ⟨⟩)⟩

end SocksGateway.Socks4
