import SocksGateway.Proofs.Relay.Conservation
import SocksGateway.Proofs.Session.Course
import SocksGateway.Proofs.Session.Serving

/-!
The phases of a live session on a connection of its own that nothing covers. While the connection is
the session's, what the client was handed is what the session has told it. During a relay comes what
the other host sends, and the host gets what the client sends behind its request. Then the connection
is closed, and nobody is handed anything any more.
-/

set_option autoImplicit false

namespace SocksGateway.Course

variable {α : Type} {manners : Manners} {course : Course α}
  {dialogue : Dialogue} {wire : Wire} {given : Bytes} {listens : Prop}

/-- A session of such manners that closes the connection in the end. -/
abbrev Minds (manners : Manners) (session : Session α)
    (dialogue : Dialogue) : Prop :=
  session.Keeps manners.Admits (fun _ after => after.isOpen = false) dialogue

/-- Where a session stands: before its first node, or in the middle of a write. -/
inductive Resumes (core : Session α) : (given : Bytes) → Session α → Prop
  | whole : Resumes core [] core
  | part {given rest : Bytes} {next : Except IoError Unit → Session α}
      (same : core = .write (given ++ rest) next) : Resumes core given (.write rest next)

/-- What the books say while the connection is the session's own. Of the write under way `given` is
out. -/
structure Accounts (dialogue : Dialogue) (given : Bytes) (listens : Prop) (wire : Wire)
    (course : Course α) : Prop where
  front : course.live.scene.front = .bare wire
  isOpen : wire.channel.isOpen = true
  relay : course.live.scene.relay = none
  heard : dialogue.heard <+: course.sent
  input : listens → course.sent = dialogue.heard ++ wire.input
  whole : dialogue.isBroken = false →
    course.read ++ wire.link.outbound.held = dialogue.told.flatten ++ given
  broken : dialogue.isBroken = true → given = [] ∧ wire.link.outbound.closed = true ∧
    course.read ++ wire.link.outbound.held <+: dialogue.told.flatten
  hostRead : course.hostRead = []
  delivered : course.delivered = []
  kept : dialogue.counterpart ≠ .lost
  caller : ∀ endpoint link, course.live.scene.caller = some (endpoint, link) →
    link.outbound.held = []
  target : dialogue.counterpart ≠ .found → course.live.scene.target = none
  found : dialogue.counterpart = .found → ∃ target, course.live.scene.target = some target ∧
    target.channel.isOpen = true ∧ course.hostSent = target.input ∧ target.link.outbound.held = []

/-- What the books say when a relay can go on: they are those of the relay, with the request in front of
what the client sends, and with what the session has told it in front of what the host sends. -/
structure Carrying (dialogue : Dialogue) (window : Duration) (history : Relay.History) (wire : Wire)
    (course : Course α) : Prop where
  front : course.live.scene.front = .bare wire
  relaying : course.live.scene.relaying window = some history.relay
  running : history.relay.isRunning = true
  conserved : history.Conserved
  sent : course.sent = dialogue.heard ++ history.offered .client
  hostSent : history.offered .target = dialogue.told.flatten ++ course.hostSent
  read : history.received .client = course.read
  hostRead : history.received .target = course.hostRead
  kept : dialogue.counterpart ≠ .lost

/-- What they say when a relay is under way. -/
structure Handing (dialogue : Dialogue) (window : Duration) (history : Relay.History) (wire : Wire)
    (course : Course α) : Prop extends Carrying dialogue window history wire course where
  underway : course.live.scene.relay.isSome = true
  delivered : course.delivered = history.handed .target

/-- The client was handed what was said to it and then what the host has sent, or a front of that; the
host got a front of what the client has sent behind its request, if anything. -/
structure Faithful (manners : Manners) (course : Course α) :
    Prop where
  handed : ∃ dialogue, manners.Speaks dialogue ∧ dialogue.counterpart ≠ .lost ∧
    dialogue.heard <+: course.sent ∧ course.handed <+: dialogue.told.flatten ++ course.hostSent
  delivered : course.delivered = [] ∨ ∃ heard rest, manners.HandsOver heard ∧
    course.sent = heard ++ rest ∧ course.delivered <+: rest

inductive Phase (manners : Manners) (course : Course α) : Prop
  /-- The connection is the session's own. -/
  | own {core : Session α} {given : Bytes} {dialogue : Dialogue} {wire : Wire}
      (resumes : Resumes core given course.live.session) (minds : Minds manners core dialogue)
      (isOpen : dialogue.isOpen = true) (speaks : manners.Speaks dialogue)
      (accounts : Accounts dialogue given
        (dialogue.isAttentive = true ∧ ∀ next, core ≠ .attend next) wire course)
  /-- A relay has the connection. -/
  | relaying {window : Duration} {next : Except Failure Unit → Session α} {dialogue : Dialogue}
      {history : Relay.History} {wire : Wire} (session : course.live.session = .relay window next)
      (minds : ∀ answer, Minds manners (next answer) (dialogue.after (.relay window answer)))
      (speaks : manners.Speaks dialogue) (hands : manners.HandsOver dialogue.heard)
      (handing : Handing dialogue window history wire course)
  /-- The session is cancelled and gives the connection up. -/
  | leaving {result : α} {wire : Wire} (session : course.live.session = .close (.done result))
      (front : course.live.scene.front = .bare wire)
      (isOpen : wire.channel.isOpen = true ∨ wire.IsShut) (faithful : Faithful manners course)
  /-- The connection is closed. -/
  | gone {dialogue : Dialogue} {wire : Wire} (minds : Minds manners course.live.session dialogue)
      (closed : dialogue.isOpen = false) (heard : dialogue.heard <+: course.sent)
      (front : course.live.scene.front = .bare wire) (shut : wire.IsShut) (faithful : Faithful manners course)

/-! ## What the books come to -/

theorem handed_eq (front : course.live.scene.front = .bare wire) :
    course.handed = course.read ++ wire.link.outbound.held := by
  rw [handed, Live.link, front, Front.link]

theorem faithful_of_own {core : Session α} (plain : manners.IsPlain course.sent)
    (resumes : Resumes core given course.live.session) (minds : Minds manners core dialogue)
    (isOpen : dialogue.isOpen = true) (speaks : manners.Speaks dialogue)
    (accounts : Accounts dialogue given listens wire course) :
    Faithful manners course := by
  refine ⟨?_, .inl accounts.delivered⟩
  rw [handed_eq accounts.front]
  cases broken : dialogue.isBroken with
  | true =>
    exact ⟨dialogue, speaks, accounts.kept, accounts.heard,
      (accounts.broken broken).2.2.trans (List.prefix_append _ _)⟩
  | false =>
    rw [accounts.whole broken]
    generalize course.live.session = session at resumes
    cases resumes with
    | whole =>
      exact ⟨dialogue, speaks, accounts.kept, accounts.heard,
        by rw [List.append_nil]; exact List.prefix_append _ _⟩
    | @part given rest next same =>
      subst same
      -- The write may have gone out whole to a client who reads it in parts.
      have admits := (minds (.ok ()) ⟨isOpen, broken⟩).1
        (manners.isPlain_of_front accounts.heard plain)
      refine ⟨_, admits.speaks, accounts.kept, accounts.heard, ?_⟩
      simp only [Dialogue.after, Dialogue.told_tell, List.flatten_append, List.flatten_cons,
        List.flatten_nil, List.append_nil, ← List.append_assoc]
      exact (List.prefix_append _ rest).trans (List.prefix_append _ _)

section Relaying

variable {window : Duration} {history : Relay.History}

theorem Handing.wire_client (handing : Handing dialogue window history wire course) :
    history.relay.wire .client = wire := by
  have under := handing.relaying
  cases relay : course.live.scene.relay with
  | none =>
    have underway := handing.underway
    rw [relay] at underway
    cases underway
  | some relay' =>
    simp only [Scene.relaying, relay, handing.front, Option.some.injEq] at under
    rw [← under]
    rfl

theorem Handing.handed_eq (handing : Handing dialogue window history wire course) :
    course.handed = history.handed .client := by
  rw [Course.handed_eq handing.front, Relay.History.handed, handing.wire_client, handing.read]

theorem faithful_of_handing (speaks : manners.Speaks dialogue)
    (hands : manners.HandsOver dialogue.heard)
    (handing : Handing dialogue window history wire course) : Faithful manners course := by
  have complete (side : Side) : history.handed side.other <+: history.offered side := by
    rw [handing.conserved.complete side, List.append_assoc]
    exact List.prefix_append _ _
  refine ⟨⟨dialogue, speaks, handing.kept, handing.sent ▸ List.prefix_append _ _, ?_⟩,
    .inr ⟨dialogue.heard, _, hands, handing.sent, handing.delivered ▸ complete .client⟩⟩
  rw [handing.handed_eq, ← handing.hostSent]
  exact complete .target

end Relaying

theorem Phase.faithful (phase : Phase manners course) (plain : manners.IsPlain course.sent) :
    Faithful manners course := by
  cases phase with
  | own resumes minds isOpen speaks accounts =>
    exact faithful_of_own plain resumes minds isOpen speaks accounts
  | relaying _ _ speaks hands handing => exact faithful_of_handing speaks hands handing
  | leaving _ _ _ faithful => exact faithful
  | gone _ _ _ _ _ faithful => exact faithful

/-- A session that is done has closed the connection. -/
theorem Phase.shut (phase : Phase manners course) (ended : course.live.result.isSome = true) :
    ∃ wire, course.live.scene.front = .bare wire ∧ wire.IsShut := by
  obtain ⟨result, done⟩ : ∃ result, course.live.session = .done result := by
    unfold Live.result at ended
    split at ended
    · rename_i result done
      exact ⟨result, done⟩
    · cases ended
  cases phase with
  | @own core given dialogue wire resumes minds isOpen speaks accounts =>
    rw [done] at resumes
    cases resumes
    have closed : dialogue.isOpen = false := minds
    rw [isOpen] at closed
    cases closed
  | relaying session => rw [done] at session; cases session
  | leaving session => rw [done] at session; cases session
  | gone _ _ _ front shut _ => exact ⟨_, front, shut⟩

/-! ## What happens around a session -/

/-- What the client does puts what it sends behind the input, and takes what it reads off what it was
handed. -/
structure Acted (act : FarAct) (wire after : Wire) (answer : FarAnswer) : Prop where
  input : after.input = wire.input ++ Relay.sent act answer
  outbound : Relay.got answer ++ after.link.outbound.held = wire.link.outbound.held
  closed : wire.link.outbound.closed = true → after.link.outbound.closed = true

theorem acted_far (act : FarAct) (wire : Wire) :
    Acted act wire { wire with link := (wire.link.far act).2 } (wire.link.far act).1 := by
  refine ⟨?_, Relay.outbound_far act wire.link, Relay.outbound_stays_closed act⟩
  rw [Wire.input, Wire.input, Relay.inbound_far, List.append_assoc]

theorem Faithful.of_sent {after : Course α} (more : Bytes) (faithful : Faithful manners course)
    (sent : after.sent = course.sent ++ more) (handed : after.handed = course.handed)
    (hostSent : course.hostSent <+: after.hostSent) (delivered : after.delivered = course.delivered) :
    Faithful manners after := by
  obtain ⟨⟨dialogue, speaks, kept, heard, told⟩, got⟩ := faithful
  refine ⟨⟨dialogue, speaks, kept, ?_, ?_⟩, ?_⟩
  · rw [sent]
    exact heard.trans (List.prefix_append _ _)
  · rw [handed]
    exact told.trans ((List.prefix_append_right_inj _).mpr hostSent)
  · rw [delivered]
    refine got.imp_right ?_
    rintro ⟨front, rest, hands, split, within⟩
    exact ⟨front, rest ++ more, hands, by rw [sent, split, List.append_assoc],
      within.trans (List.prefix_append _ _)⟩

/-! ## The client -/

section Client

variable (act : FarAct)

theorem front_client (front : course.live.scene.front = .bare wire) :
    (course.react (.client act)).live.scene.front =
      .bare { wire with link := (wire.link.far act).2 } := by
  simp only [react, Live.withLink, Live.link, front, Front.link, Front.setLink]

theorem sent_client (front : course.live.scene.front = .bare wire) :
    (course.react (.client act)).sent = course.sent ++ Relay.sent act (wire.link.far act).1 := by
  simp only [react, Live.link, front, Front.link]

theorem read_client (front : course.live.scene.front = .bare wire) :
    (course.react (.client act)).read = course.read ++ Relay.got (wire.link.far act).1 := by
  simp only [react, Live.link, front, Front.link]

theorem handed_client (front : course.live.scene.front = .bare wire) :
    (course.react (.client act)).handed = course.handed := by
  rw [handed_eq (front_client act front), handed_eq front, read_client act front, List.append_assoc]
  exact congrArg _ (acted_far act wire).outbound

theorem Faithful.client (faithful : Faithful manners course)
    (front : course.live.scene.front = .bare wire) :
    Faithful manners (course.react (.client act)) :=
  faithful.of_sent _ (sent_client act front) (handed_client act front) List.prefix_rfl rfl

theorem Accounts.client (accounts : Accounts dialogue given listens wire course) :
    Accounts dialogue given listens { wire with link := (wire.link.far act).2 }
      (course.react (.client act)) := by
  have acted := acted_far act wire
  have front := accounts.front
  have sent := sent_client act front
  have handed : (course.react (.client act)).read ++ (wire.link.far act).2.outbound.held =
      course.read ++ wire.link.outbound.held := by
    rw [read_client act front, List.append_assoc]
    exact congrArg _ acted.outbound
  exact {
    front := front_client act front
    isOpen := accounts.isOpen
    relay := accounts.relay
    heard := sent ▸ accounts.heard.trans (List.prefix_append _ _)
    input := fun listening => by
      rw [sent, accounts.input listening, acted.input, List.append_assoc]
    whole := fun unbroken => handed.trans (accounts.whole unbroken)
    broken := fun broken => by
      obtain ⟨nothing, closed, told⟩ := accounts.broken broken
      exact ⟨nothing, acted.closed closed, handed ▸ told⟩
    hostRead := accounts.hostRead
    delivered := accounts.delivered
    kept := accounts.kept
    caller := accounts.caller
    target := accounts.target
    found := accounts.found }

theorem Handing.client {window : Duration} {history : Relay.History}
    (handing : Handing dialogue window history wire course) :
    Handing dialogue window (history.react (.event (.far .client act)))
      { wire with link := (wire.link.far act).2 } (course.react (.client act)) := by
  have front := handing.front
  have same := handing.wire_client
  obtain ⟨relay, underway⟩ := Option.isSome_iff_exists.mp handing.underway
  have relaying := handing.relaying
  simp only [Scene.relaying, underway, front, Option.some.injEq] at relaying
  refine {
    front := front_client act front
    underway := handing.underway
    running := ?_
    conserved := handing.conserved.far .client act
    relaying := ?_
    sent := ?_
    hostSent := handing.hostSent
    read := ?_
    hostRead := handing.hostRead
    kept := handing.kept
    delivered := ?_ }
  · have scene : (course.react (.client act)).live.scene = { course.live.scene with
        front := .bare { wire with link := (wire.link.far act).2 } } := by
      simp only [react, Live.withLink, Live.link, front, Front.link, Front.setLink]
    simp only [Scene.relaying, scene, underway, Relay.History.react, Relay.happen, same]
    rw [← relaying]
    rfl
  · simpa only [Relay.History.react, Relay.happen, Relay.isRunning_setWire] using handing.running
  · rw [sent_client act front, handing.sent, List.append_assoc]
    simp only [Relay.History.react, Relay.History.note, Function.update_self, same]
  · rw [read_client act front, ← handing.read]
    simp only [Relay.History.react, Relay.History.note, Function.update_self, same]
  · exact handing.delivered.trans (Relay.History.handed_react_far history .client act .target).symm

theorem Phase.client (phase : Phase manners course) :
    Phase manners (course.react (.client act)) := by
  cases phase with
  | own resumes minds isOpen speaks accounts =>
    exact .own resumes minds isOpen speaks (accounts.client act)
  | relaying session minds speaks hands handing =>
    exact .relaying session minds speaks hands (handing.client act)
  | leaving session front isOpen faithful =>
    exact .leaving session (front_client act front)
      (isOpen.imp_right (Relay.isShut_far act)) (faithful.client act front)
  | gone minds closed heard front shut faithful =>
    refine .gone minds closed ?_ (front_client act front) (Relay.isShut_far act shut)
      (faithful.client act front)
    rw [sent_client act front]
    exact heard.trans (List.prefix_append _ _)

end Client

/-! ## The other host -/

section Host

variable (act : FarAct)

theorem front_host : (course.react (.host act)).live.scene.front = course.live.scene.front := by
  simp only [react, Scene.host]
  split <;> rfl

theorem handed_host : (course.react (.host act)).handed = course.handed := by
  simp only [handed, Live.link, front_host]
  rfl

theorem Faithful.host (faithful : Faithful manners course) :
    Faithful manners (course.react (.host act)) :=
  faithful.of_sent [] (List.append_nil _).symm (handed_host act) (List.prefix_append _ _) rfl

theorem Accounts.host (accounts : Accounts dialogue given listens wire course) :
    Accounts dialogue given listens wire (course.react (.host act)) := by
  have relay := accounts.relay
  have kept : (course.react (.host act)).live.scene.relay = none ∧
      (course.react (.host act)).live.scene.caller = course.live.scene.caller := by
    cases present : course.live.scene.target <;>
      simp only [react, Scene.host, relay, present, and_self]
  obtain ⟨stillNone, caller⟩ := kept
  have others (hostRead : (course.react (.host act)).hostRead = [])
      (target : dialogue.counterpart ≠ .found → (course.react (.host act)).live.scene.target = none)
      (found : dialogue.counterpart = .found → ∃ target,
        (course.react (.host act)).live.scene.target = some target ∧
        target.channel.isOpen = true ∧ (course.react (.host act)).hostSent = target.input ∧
        target.link.outbound.held = []) :
      Accounts dialogue given listens wire (course.react (.host act)) :=
    { accounts with
      front := (front_host act).trans accounts.front
      relay := stillNone
      caller := fun endpoint link same => accounts.caller endpoint link (caller ▸ same)
      hostRead, target, found }
  cases counterpart : dialogue.counterpart with
  | found =>
    obtain ⟨target, present, isOpen, sent, silent⟩ := accounts.found counterpart
    have acted := acted_far act target
    have nothing := acted.outbound
    rw [silent, List.append_eq_nil_iff] at nothing
    refine others ?_ (fun other => absurd counterpart other) fun _ =>
      ⟨{ target with link := (target.link.far act).2 }, ?_, isOpen, ?_, nothing.2⟩
    · simp only [react, Scene.host, relay, present, accounts.hostRead, nothing.1, List.append_nil]
    · simp only [react, Scene.host, relay, present]
    · rw [acted.input, ← sent]
      simp only [react, Scene.host, relay, present]
  | _ =>
    have absent := accounts.target (by rw [counterpart]; rintro ⟨⟩)
    refine others ?_ (fun _ => ?_) fun found => by rw [counterpart] at found; cases found
    · simp only [react, Scene.host, relay, absent, accounts.hostRead]
      rfl
    · simp only [react, Scene.host, relay, absent]

theorem Handing.host {window : Duration} {history : Relay.History}
    (handing : Handing dialogue window history wire course) :
    Handing dialogue window (history.react (.event (.far .target act))) wire
      (course.react (.host act)) := by
  have front := handing.front
  obtain ⟨relay, underway⟩ := Option.isSome_iff_exists.mp handing.underway
  have relaying := handing.relaying
  simp only [Scene.relaying, underway, front, Option.some.injEq] at relaying
  have same : history.relay.wire .target = relay.target := by
    rw [← relaying]
    rfl
  have answer : course.live.scene.host act = ((relay.target.link.far act).1, { course.live.scene with
      relay := some { relay with
        target := { relay.target with link := (relay.target.link.far act).2 } } }) := by
    simp only [Scene.host, underway]
  refine {
    front := (front_host act).trans front
    underway := ?_
    running := ?_
    conserved := handing.conserved.far .target act
    relaying := ?_
    sent := handing.sent
    hostSent := ?_
    read := handing.read
    hostRead := ?_
    kept := handing.kept
    delivered := ?_ }
  · simp only [react, answer, Scene.relaying, Relay.History.react, Relay.happen, front, same]
    rw [← relaying]
    rfl
  · simpa only [Relay.History.react, Relay.happen, Relay.isRunning_setWire] using handing.running
  · simp only [Relay.History.react, Relay.History.note, Function.update_self, same, react, answer,
      handing.hostSent, List.append_assoc]
  · simp only [Relay.History.react, Relay.History.note, Function.update_self, same, react, answer,
      handing.hostRead]
  · simp only [react, answer, Option.isSome_some]
  · exact handing.delivered.trans (Relay.History.handed_react_far history .target act .target).symm

theorem Phase.host (phase : Phase manners course) :
    Phase manners (course.react (.host act)) := by
  cases phase with
  | own resumes minds isOpen speaks accounts =>
    exact .own resumes minds isOpen speaks (accounts.host act)
  | relaying session minds speaks hands handing =>
    exact .relaying session minds speaks hands (handing.host act)
  | leaving session front isOpen faithful =>
    exact .leaving session ((front_host act).trans front) isOpen (faithful.host act)
  | gone minds closed heard front shut faithful =>
    exact .gone minds closed heard ((front_host act).trans front) shut (faithful.host act)

end Host

/-! ## Callers, the time and a cancellation -/

theorem Phase.call (phase : Phase manners course) (endpoint : Endpoint) (link : Link) :
    Phase manners (course.react (.call endpoint link)) := by
  cases phase with
  | own resumes minds isOpen speaks accounts =>
    refine .own resumes minds isOpen speaks { accounts with caller := ?_ }
    intro other waiting found
    simp only [react, Scene.call] at found
    cases present : course.live.scene.caller with
    | none =>
      rw [present] at found
      cases found
      rfl
    | some caller =>
      rw [present] at found
      cases found
      exact accounts.caller _ _ present
  | relaying session minds speaks hands handing =>
    exact .relaying session minds speaks hands { handing with }
  | leaving session front isOpen faithful =>
    exact .leaving session front isOpen { faithful with }
  | gone minds closed heard front shut faithful =>
    exact .gone minds closed heard front shut { faithful with }

theorem Phase.elapse (phase : Phase manners course) (milliseconds : Nat) :
    Phase manners (course.react (.elapse milliseconds)) := by
  cases phase with
  | own resumes minds isOpen speaks accounts =>
    exact .own resumes minds isOpen speaks { accounts with }
  | @relaying window next dialogue history wire session minds speaks hands handing =>
    have passed : Handing dialogue window (history.react (.event (.elapse milliseconds))) wire
        (course.react (.elapse milliseconds)) := by
      obtain ⟨relay, underway⟩ := Option.isSome_iff_exists.mp handing.underway
      have relaying := handing.relaying
      simp only [Scene.relaying, underway, Option.some.injEq] at relaying
      refine { handing with relaying := ?_, conserved := ?_ }
      · simp only [react, Scene.relaying, underway, Relay.History.react, Relay.happen]
        rw [← relaying]
      · have undisturbed : history.Undisturbed (history.react (.event (.elapse milliseconds))) :=
          ⟨rfl, rfl, rfl⟩
        apply handing.conserved.of_same undisturbed
        · intro side
          cases side <;> rfl
        · intro side
          cases side <;> rfl
    exact .relaying session minds speaks hands passed
  | leaving session front isOpen faithful =>
    exact .leaving session front isOpen { faithful with }
  | gone minds closed heard front shut faithful =>
    exact .gone minds closed heard front shut { faithful with }

theorem Phase.exists_wire (phase : Phase manners course) :
    ∃ wire, course.live.scene.front = .bare wire ∧ (wire.channel.isOpen = true ∨ wire.IsShut) := by
  cases phase with
  | own _ _ _ _ accounts => exact ⟨_, accounts.front, .inl accounts.isOpen⟩
  | relaying _ _ _ _ handing =>
    exact ⟨_, handing.front, .inl (handing.wire_client ▸ handing.conserved.isOpen .client)⟩
  | leaving _ front isOpen _ => exact ⟨_, front, isOpen⟩
  | gone _ _ _ front shut _ => exact ⟨_, front, .inr shut⟩

theorem Phase.cancel (phase : Phase manners course) (plain : manners.IsPlain course.sent) :
    Phase manners (course.react .cancel) := by
  by_cases leaves : course.live.result = none ∧ ∃ result, course.live.whenCancelled = some result
  · obtain ⟨running, result, due⟩ := leaves
    obtain ⟨wire, front, isOpen⟩ := phase.exists_wire
    have left : course.live.cancel = { course.live with
        session := .close (.done result)
        scene := { course.live.scene with
          isCancelled := true, relay := none, target := none, association := none } } := by
      simp only [Live.cancel, running, due]
    have handed : (course.react .cancel).handed = course.handed := by
      simp only [Course.handed, react, left]
      rfl
    have faithful : Faithful manners (course.react .cancel) :=
      (phase.faithful plain).of_sent [] (List.append_nil _).symm handed List.prefix_rfl rfl
    exact .leaving (by rw [react, left]) (by rw [react, left]; exact front) isOpen faithful
  · have stays : course.live.cancel = { course.live with
        scene := { course.live.scene with isCancelled := true } } := by
      unfold Live.cancel
      split
      · rename_i running due
        exact absurd ⟨running, _, due⟩ leaves
      · rfl
    have same : course.react .cancel = { course with live := { course.live with
        scene := { course.live.scene with isCancelled := true } } } := by
      rw [react, stays]
    rw [same]
    cases phase with
    | own resumes minds isOpen speaks accounts =>
      exact .own resumes minds isOpen speaks { accounts with }
    | relaying session minds speaks hands handing =>
      exact .relaying session minds speaks hands { handing with }
    | leaving session front isOpen faithful =>
      exact .leaving session front isOpen { faithful with }
    | gone minds closed heard front shut faithful =>
    exact .gone minds closed heard front shut { faithful with }

end SocksGateway.Course
