import SocksGateway.Proofs.Socks4.Replies

/-!
What becomes of a request of version 4. A destination is refused, not reached or connected, and who calls
on a listening client is the announced host or a stranger. A host may also be gone before anything can be
relayed to it. Each of these calls for its own replies, and the client gets just these, whatever name of
a user is in the request.
-/

set_option autoImplicit false

namespace SocksGateway.Socks4

open Handler
open Socks5 (lookups route_run)

/-- The reply to a request that is not granted. -/
def rejection : Bytes := [0, 0x5b, 0, 0, 0, 0, 0, 0]

/-- The reply that grants a request, with this port and address. -/
def grant (port : UInt16) (ip : Ipv4) : Bytes := [0, 0x5a] ++ Bytes.ofWord port ++ ip.octets

/-- The reply that grants a request to listen, with the endpoint of the listener. -/
def grantAt (bound : Endpoint) : Bytes := grant bound.port (bound.ip.toIpv4?.getD .unspecified)

/-! ## Announced hosts -/

/-- The address of an announced host: the one that was given, or the one that its name leads to. -/
def announcedIp? (resolver : Resolver) : Target → Option Ip
  | .ip endpoint => some endpoint.ip
  | .domain name _ => (RoutePolicy.settledName? name).getD (resolver name)

/-- What is asked of a resolver about an announced host. -/
def inquiries : Target → List Act
  | .ip _ => []
  | .domain name _ => if (RoutePolicy.settledName? name).isSome then [] else [.resolved name]

/-- The address has the canonical form of that of the announced host. -/
def IsExpected (resolver : Resolver) (announced : Target) (ip : Ip) : Prop :=
  ∃ known, announcedIp? resolver announced = some known ∧ known.canonical = ip.canonical

/-- The comparison of an address, if there is one, with that of a peer. -/
def compared (peer : Ip) (known? : Option Ip) : Handler Bool :=
  match known? with
  | some known => return known.canonical == peer.canonical
  | none => return false

theorem compared_run (world : Surroundings) (tape : Tape) (resolver : Resolver) (announced : Target)
    (peer : Ip) :
    ∃ same, (compared peer (announcedIp? resolver announced)).run.run world tape =
        { result := .ok same, acts := [], tape } ∧
      (same = true ↔ IsExpected resolver announced peer) := by
  unfold IsExpected
  cases announcedIp? resolver announced with
  | none => exact ⟨false, rfl, by simp only [Bool.false_eq_true, reduceCtorEq, false_and, exists_false]⟩
  | some known =>
    refine ⟨known.canonical == peer.canonical, rfl, ?_⟩
    simp only [beq_iff_eq, Option.some.injEq, exists_eq_left']

variable {world : Surroundings} {tape : Tape}

theorem isAnnounced_run (announced : Target) (peer : Ip) :
    ∃ same, (isAnnounced announced peer).run.run world tape =
        { result := .ok same, acts := inquiries announced, tape } ∧
      (same = true ↔ IsExpected world.resolver announced peer) := by
  obtain ⟨same, run, expected⟩ := compared_run world tape world.resolver announced peer
  refine ⟨same, ?_, expected⟩
  cases announced with
  | ip endpoint => exact run
  | domain name port =>
    dsimp only [announcedIp?] at run
    dsimp only [isAnnounced, inquiries]
    cases settled : RoutePolicy.settledName? name with
    | some answer =>
      rw [settled] at run
      exact run
    | none =>
      rw [settled] at run
      have asked : (effect (Session.resolve name)).run.run world tape =
        { result := .ok (world.resolver name), acts := [.resolved name], tape } := rfl
      refine (run_bind_of_eq (f := compared peer) asked).trans ?_
      rw [Option.getD_none] at run
      rw [run]
      rfl

/-! ## Requests -/

/-- What is done about a request, behind which the client has sent these octets, and what it comes to. -/
inductive Answered (world : Surroundings) (service : Service) (window : Duration) (command : UInt8)
    (target : Target) (rest : Bytes) : List Act → Except Failure Unit → Prop where
  | unsupported (noConnect : command ≠ 1) (noBind : command ≠ 2) :
      Answered world service window command target rest [.wrote rejection] (.ok ())
  | unrouted {failure : Failure} (connects : command = 1)
      (failed : service.policy.route world.resolver target none = .error failure) :
      Answered world service window command target rest
        (lookups service.policy target none ++ [.wrote rejection]) (.ok ())
  | unreached {endpoint : Endpoint} (connects : command = 1)
      (routed : service.policy.route world.resolver target none = .ok endpoint)
      (failed : world.dial endpoint = .failed) :
      Answered world service window command target rest
        (lookups service.policy target none ++ [.dialled endpoint, .wrote rejection]) (.ok ())
  /-- The host is reached, but lost before the client is told of it. -/
  | dropped {endpoint own : Endpoint} {error : IoError} (connects : command = 1)
      (routed : service.policy.route world.resolver target none = .ok endpoint)
      (reached : world.dial endpoint = .connected own) (lost : world.takeUp = .error error) :
      Answered world service window command target rest
        (lookups service.policy target none ++ [.dialled endpoint, .wrote rejection])
        (.error (.ofIo error))
  /-- The relay gets the octets behind the request, and how it ends is the result. -/
  | connected {endpoint own : Endpoint} (connects : command = 1)
      (routed : service.policy.route world.resolver target none = .ok endpoint)
      (reached : world.dial endpoint = .connected own) (stands : world.takeUp = .ok ()) :
      Answered world service window command target rest
        (lookups service.policy target none ++
          [.dialled endpoint, .wrote (grant target.port .unspecified), .relayed rest window])
        (world.relay rest window)
  | deaf {error : IoError} (binds : command = 2)
      (failed : world.listen .unspecified = .error error) :
      Answered world service window command target rest
        [.listened .unspecified, .wrote rejection]
        (.error ((Failure.ofIo error).within "Failed to open BIND listener"))
  | timedOut {bound : Endpoint} (binds : command = 2)
      (listens : world.listen .unspecified = .ok bound)
      (nobody : world.accept window = .timedOut) :
      Answered world service window command target rest
        [.listened .unspecified, .wrote (grantAt bound), .accepted window, .wrote rejection]
        (.error { cause := .idle window })
  | lost {bound : Endpoint} {error : IoError} (binds : command = 2)
      (listens : world.listen .unspecified = .ok bound)
      (failed : world.accept window = .failed error) :
      Answered world service window command target rest
        [.listened .unspecified, .wrote (grantAt bound), .accepted window, .wrote rejection]
        (.error ((Failure.ofIo error).within "BIND accept failed"))
  | stranger {bound peer : Endpoint} (binds : command = 2)
      (listens : world.listen .unspecified = .ok bound)
      (called : world.accept window = .peer peer)
      (unexpected : ¬ IsExpected world.resolver target peer.ip) :
      Answered world service window command target rest
        ([.listened .unspecified, .wrote (grantAt bound), .accepted window] ++ inquiries target ++
          [.wrote rejection]) (.ok ())
  | met {bound peer : Endpoint} (binds : command = 2)
      (listens : world.listen .unspecified = .ok bound)
      (called : world.accept window = .peer peer)
      (expected : IsExpected world.resolver target peer.ip) (stands : world.takeUp = .ok ()) :
      Answered world service window command target rest
        ([.listened .unspecified, .wrote (grantAt bound), .accepted window] ++ inquiries target ++
          [.wrote (grantAt bound), .relayed rest window]) (world.relay rest window)
  /-- The announced host has called, but is gone by the time that the client knows of it. Nothing can
  be relayed then, and the client is told so. -/
  | deserted {bound peer : Endpoint} {error : IoError} (binds : command = 2)
      (listens : world.listen .unspecified = .ok bound)
      (called : world.accept window = .peer peer)
      (expected : IsExpected world.resolver target peer.ip) (lost : world.takeUp = .error error) :
      Answered world service window command target rest
        ([.listened .unspecified, .wrote (grantAt bound), .accepted window] ++ inquiries target ++
          [.wrote (grantAt bound), .wrote rejection]) (.error (.ofIo error))

/-- Each request has one outcome. -/
theorem Answered.unique {service : Service} {window : Duration} {command : UInt8} {target : Target}
    {rest : Bytes} {acts others : List Act} {result second : Except Failure Unit}
    (one : Answered world service window command target rest acts result)
    (other : Answered world service window command target rest others second) :
    others = acts ∧ second = result := by
  -- Two different cases disagree about the command, the route or what the surroundings do.
  cases one <;> cases other <;> simp_all

/-- The relay gets what was not read, and the connection is no longer the session's own. -/
theorem handOver_run (window : Duration) :
    (do ofResult (← effect (Session.relay window)) : Handler Unit).run.run world tape =
      { result := world.relay tape.input window, acts := [.relayed tape.input window]
        tape := tape.close } := by
  have relayed : (effect (Session.relay window)).run.run world tape =
    { result := .ok (world.relay tape.input window), acts := [.relayed tape.input window]
      tape := tape.close } := rfl
  rw [run_bind_of_eq relayed]
  cases world.relay tape.input window <;> rfl

/-- What a run has done in the end: a failure is answered, unless the connection is handed over or nobody
waits any more. -/
def concluded (ran : Ran (Except Failure Unit)) : List Act :=
  match ran.result with
  | .ok () => ran.acts
  | .error failure =>
    if ran.tape.isOpen ∧ failure.isCancelled = false then ran.acts ++ [.wrote rejection] else ran.acts

theorem concluded_of_ok {ran : Ran (Except Failure Unit)} (succeeded : ran.result = .ok ()) :
    concluded ran = ran.acts := by
  rw [concluded, succeeded]

theorem concluded_of_closed {ran : Ran (Except Failure Unit)} (closed : ran.tape.isOpen = false) :
    concluded ran = ran.acts := by
  unfold concluded
  split
  · rfl
  · rw [if_neg]
    rintro ⟨isOpen, _⟩
    exact Bool.false_ne_true (closed.symm.trans isOpen)

theorem run_reject (world : Surroundings) (isOpen : tape.isOpen = true) (writable : tape.writes = []) :
    reject.run.run world tape = { result := .ok (), acts := [.wrote rejection], tape } :=
  run_write world _ isOpen writable

theorem Service.answer_run (service : Service) (command : UInt8) (target : Target)
    (window : Duration) (writable :
      ((service.fulfil command target window).run.run world tape).tape.writes = []) :
    (outcome (service.fulfil command target window) >>= answer).run.run world tape =
      let ran := (service.fulfil command target window).run.run world tape
      { ran with acts := concluded ran } := by
  have kept := run_outcome world (service.fulfil command target window) tape
  generalize (service.fulfil command target window).run.run world tape = ran at kept writable ⊢
  obtain ⟨failure | value, acts, left⟩ := ran
  · rw [run_bind_of_eq kept]
    have asked : (effect Session.whetherOpen).run.run world left =
      { result := .ok left.isOpen, acts := [], tape := left } := rfl
    dsimp only [concluded, answer]
    cases cancelled : failure.isCancelled with
    | true =>
      simp only [↓reduceIte, Bool.true_eq_false, and_false]
      exact congrArg (Ran.mk _ · _) (List.append_nil _)
    | false =>
      simp only [Bool.false_eq_true, ↓reduceIte, and_true]
      rw [run_bind_of_eq asked]
      cases isOpen : left.isOpen with
      | false => exact congrArg (Ran.mk _ · _) (List.append_nil _)
      | true =>
        have rejected := run_outcome world reject left
        rw [run_reject world isOpen writable] at rejected
        simp only [↓reduceIte]
        rw [run_bind_of_eq rejected]
        rfl
  · rw [run_bind_of_eq kept]
    exact congrArg (Ran.mk _ · _) (List.append_nil _)

section

variable (isOpen : tape.isOpen = true) (writable : tape.writes = [])
include isOpen writable

omit writable in
/-- A failure that leaves the connection to the session is answered. -/
theorem concluded_of_open (acts : List Act) (failure : Failure)
    (uncancelled : failure.isCancelled = false) :
    concluded { result := .error failure, acts, tape } = acts ++ [.wrote rejection] := by
  dsimp only [concluded]
  rw [if_pos ⟨isOpen, uncancelled⟩]

theorem Service.answered_connect (service : Service) (target : Target) (window : Duration)
    (uncancelled : ∀ endpoint, world.dial endpoint ≠ .cancelled) :
    let ran := (service.connect target window).run.run world tape
    Answered world service window 1 target tape.input (concluded ran) ran.result ∧
      ran.tape.writes = [] := by
  have rejected := run_reject world isOpen writable
  rw [Service.connect, run_bind_of_eq (route_run service.policy target none)]
  cases routed : service.policy.route world.resolver target none with
  | error failure =>
    dsimp only
    rw [rejected]
    exact ⟨.unrouted rfl routed, writable⟩
  | ok endpoint =>
    have dialled : (effect (Session.dial endpoint)).run.run world tape =
      { result := .ok (world.dial endpoint), acts := [.dialled endpoint], tape } := rfl
    dsimp only
    rw [run_bind_of_eq dialled]
    cases reached : world.dial endpoint with
    | cancelled => exact absurd reached (uncancelled endpoint)
    | failed =>
      dsimp only
      rw [rejected]
      exact ⟨.unreached rfl routed reached, writable⟩
    | connected own =>
      have granted := run_write world (reply .granted ⟨.unspecified, target.port⟩) isOpen writable
      have taken := run_takeUp world tape
      dsimp only
      cases stands : world.takeUp with
      | error error =>
        rw [stands] at taken
        rw [run_bind_of_error (congrArg Ran.result taken), taken]
        refine ⟨?_, writable⟩
        rw [concluded_of_open isOpen _ _ rfl, List.append_nil, List.append_assoc]
        exact .dropped rfl routed reached stands
      | ok =>
        rw [stands] at taken
        rw [run_bind_of_eq taken, sendReply, run_bind_of_eq granted, handOver_run]
        refine ⟨?_, writable⟩
        rw [concluded_of_closed rfl]
        exact .connected rfl routed reached stands

theorem answered_bind (service : Service) (announced : Target) (window : Duration)
    (uncancelled : world.accept window ≠ .cancelled) :
    let ran := (Service.bind announced window).run.run world tape
    Answered world service window 2 announced tape.input (concluded ran) ran.result ∧
      ran.tape.writes = [] := by
  have listened := listen_run world tape
  unfold Service.bind
  cases listens : world.listen .unspecified with
  | error error =>
    rw [listens] at listened
    rw [run_bind_of_error (congrArg Ran.result listened), listened]
    refine ⟨?_, writable⟩
    dsimp only
    rw [concluded_of_open isOpen _ _ rfl]
    exact .deaf rfl listens
  | ok bound =>
    rw [listens] at listened
    have granted := run_write world (reply .granted bound) isOpen writable
    have waited : (effect (Session.accept window)).run.run world tape =
      { result := .ok (world.accept window), acts := [.accepted window], tape } := rfl
    rw [run_bind_of_eq listened, sendReply, run_bind_of_eq granted, run_bind_of_eq waited]
    have answered failure := concluded_of_open isOpen
      [.listened .unspecified, .wrote (grantAt bound), .accepted window] failure
    cases called : world.accept window with
    | cancelled => exact absurd called uncancelled
    | timedOut =>
      refine ⟨?_, writable⟩
      exact (answered { cause := .idle window } rfl).symm ▸ .timedOut rfl listens called
    | failed error =>
      refine ⟨?_, writable⟩
      exact (answered ((Failure.ofIo error).within "BIND accept failed") rfl).symm ▸
        .lost rfl listens called
    | peer peer =>
      dsimp only
      obtain ⟨same, compared, expected⟩ := isAnnounced_run announced peer.ip
      rw [run_bind_of_eq compared]
      cases same with
      | false =>
        have rejected := run_reject world isOpen writable
        rw [if_neg Bool.false_ne_true, rejected]
        refine ⟨?_, writable⟩
        rw [concluded_of_ok rfl]
        refine .stranger rfl listens called fun known => ?_
        exact Bool.false_ne_true (expected.mpr known)
      | true =>
        have taken := run_takeUp world tape
        rw [if_pos rfl, run_bind_of_eq granted]
        cases stands : world.takeUp with
        | error error =>
          rw [stands] at taken
          rw [run_bind_of_error (congrArg Ran.result taken), taken]
          refine ⟨?_, writable⟩
          rw [concluded_of_open isOpen _ _ rfl]
          simp only [List.append_assoc]
          exact .deserted rfl listens called (expected.mp rfl) stands
        | ok =>
          rw [stands] at taken
          rw [run_bind_of_eq taken, handOver_run]
          refine ⟨?_, writable⟩
          rw [concluded_of_closed rfl]
          exact .met rfl listens called (expected.mp rfl) stands

theorem Service.answered_fulfil (service : Service) (command : UInt8) (target : Target)
    (window : Duration) (undialled : ∀ endpoint, world.dial endpoint ≠ .cancelled)
    (unaccepted : world.accept window ≠ .cancelled) :
    let ran := (service.fulfil command target window).run.run world tape
    Answered world service window command target tape.input (concluded ran) ran.result ∧
      ran.tape.writes = [] := by
  unfold Service.fulfil
  split
  · rename_i connects
    obtain rfl := Command.ofByte?_eq_some_iff.mp connects
    exact service.answered_connect isOpen writable target window undialled
  · rename_i binds
    obtain rfl := Command.ofByte?_eq_some_iff.mp binds
    exact answered_bind isOpen writable service target window unaccepted
  · rename_i noConnect noBind
    rw [run_reject world isOpen writable]
    refine ⟨.unsupported ?_ ?_, writable⟩
    · exact fun connects => noConnect (Command.ofByte?_eq_some_iff.mpr connects)
    · exact fun binds => noBind (Command.ofByte?_eq_some_iff.mpr binds)

end

/-- None of it is a read. -/
theorem Answered.conduct_eq {service : Service} {window : Duration} {command : UInt8}
    {target : Target} {rest : Bytes} {acts : List Act} {result : Except Failure Unit}
    (answered : Answered world service window command target rest acts result) :
    acts.filter (fun act => !act.isRead) = acts := by
  have resolving := Socks5.conduct_lookups service.policy target none
  have inquiring : (inquiries target).filter (fun act => !act.isRead) = inquiries target := by
    unfold inquiries
    split
    · rfl
    · split <;> rfl
  cases answered with
  | unsupported | deaf | timedOut | lost => rfl
  | unrouted | unreached | dropped | connected =>
    rw [List.filter_append, resolving]
    rfl
  | stranger | met | deserted =>
    rw [List.filter_append, List.filter_append, inquiring]
    rfl

theorem Service.exists_answered (service : Service) (window : Duration) {request : Request}
    {octets rest : Bytes} (written : request.IsWritten octets) (sent : tape.input = octets ++ rest)
    (isOpen : tape.isOpen = true) (writable : tape.writes = [])
    (undialled : ∀ endpoint, world.dial endpoint ≠ .cancelled)
    (unaccepted : world.accept window ≠ .cancelled) :
    let ran := (service.handle window).run.run world tape
    ∃ acts, ran.conduct = acts ++ [.closed] ∧
      Answered world service window request.command request.target rest acts ran.result := by
  obtain ⟨result, silent, left⟩ := readRequest_format.reader.run_alike world isOpen
  simp only [reading] at result silent left
  rw [sent, readRequest_format.reads_iff.mpr written rest] at result left
  generalize read : readRequest.run.run world tape = first at result silent left
  have input : first.tape.input = rest := left.input.trans (Tape.input_holding _ _)
  have stillWritable : first.tape.writes = [] := left.writes.trans writable
  obtain ⟨answered, unwritten⟩ := service.answered_fulfil (left.isOpen.trans isOpen) stillWritable
    request.command request.target window undialled unaccepted
  have found : (readRequest.run.run world tape).result = .ok request :=
    (congrArg Ran.result read).trans result
  have served : (service.serve window).run.run world tape =
      let ran := (service.fulfil request.command request.target window).run.run world first.tape
      { ran with acts := first.acts ++ concluded ran } := by
    rw [service.serve_eq, run_bind_of_ok found, read]
    dsimp only
    rw [service.answer_run _ _ _ unwritten]
  rw [service.handle_run, served]
  rw [input] at answered
  refine ⟨_, ?_, answered⟩
  have reads : first.acts.filter (fun act => !act.isRead) = [] := silent
  dsimp only [Ran.conduct]
  rw [List.filter_append, List.filter_append, reads, answered.conduct_eq, List.nil_append]
  rfl

end SocksGateway.Socks4
