import SocksGateway.Proofs.Relay.Idle
import SocksGateway.Proofs.Session.Phases

/-!
One node of a live session: what it makes of the books, and which phase it leads to. A phase is left
only for one that comes later, so that a whole course stays within them.
-/

set_option autoImplicit false

namespace SocksGateway

/-- What a relay does without anybody at a far end, and without the time. -/
def Happening.IsInner : Happening → Prop
  | .pump _ | .event .cancel => True
  | _ => False

namespace Relay

namespace History

theorem undisturbed_react {history : History} {happening : Happening} (inner : happening.IsInner) :
    history.Undisturbed (history.react happening) := by
  cases happening with
  | pump side => exact history.undisturbed_pump side
  | event event =>
    cases event with
    | cancel => exact ⟨rfl, rfl, rfl⟩
    | _ => exact False.elim inner

theorem clock_react {history : History} {happening : Happening} (inner : happening.IsInner) :
    (history.react happening).relay.clock = history.relay.clock := by
  cases happening with
  | pump side =>
    simp only [react, happen]
    cases stepped : history.relay.step? side with
    | none => rfl
    | some next => exact clock_of_turn (turn_of_step? stepped).2
  | event event =>
    cases event with
    | cancel =>
      simp only [react, happen, cancel]
      split <;> rfl
    | _ => exact False.elim inner

theorem run_inner {history : History} {happenings : List Happening}
    (inner : ∀ happening ∈ happenings, happening.IsInner) :
    history.Undisturbed (history.run happenings) ∧
      (history.run happenings).relay.clock = history.relay.clock := by
  induction happenings generalizing history with
  | nil => exact ⟨⟨rfl, rfl, rfl⟩, rfl⟩
  | cons happening rest ih =>
    have first := inner happening List.mem_cons_self
    obtain ⟨later, clock⟩ := @ih (history.react happening) fun other member =>
      inner other (List.mem_cons_of_mem _ member)
    have now := history.undisturbed_react first
    exact ⟨⟨later.offered.trans now.offered, later.received.trans now.received,
      later.hungUp.trans now.hungUp⟩, clock.trans (clock_react first)⟩

end History

end Relay

namespace Scene

/-- What a relay makes of its turn is what pumps and a cancellation make of it. -/
theorem exists_happenings_pumped {window : Duration} {scene : Scene} {relay : Relay}
    (relaying : scene.relaying window = some relay) :
    ∃ happenings : List Happening, (∀ happening ∈ happenings, happening.IsInner) ∧
      scene.pumped window = some (happenings.foldl Relay.happen relay) := by
  have pumps (start : Relay) : ∃ happenings : List Happening,
      (∀ happening ∈ happenings, happening.IsInner) ∧
      start.settle = happenings.foldl Relay.happen start := by
    obtain ⟨sides, same⟩ := Relay.exists_pumps_advance start.stepBound start
    refine ⟨sides.map .pump, ?_, same⟩
    intro happening member
    obtain ⟨side, -, rfl⟩ := List.mem_map.mp member
    trivial
  unfold pumped
  rw [relaying]
  cases scene.isCancelled with
  | false =>
    obtain ⟨happenings, inner, same⟩ := pumps relay
    exact ⟨happenings, inner, congrArg some same⟩
  | true =>
    obtain ⟨happenings, inner, same⟩ := pumps relay.cancel
    exact ⟨.event .cancel :: happenings, List.forall_mem_cons.mpr ⟨trivial, inner⟩,
      congrArg some same⟩

/-- What the client has sent is dropped; nothing else becomes of the connection. -/
theorem exists_attemptAttend {scene : Scene} {wire : Wire} (front : scene.front = .bare wire) :
    ∃ ended left, scene.attemptAttend = (ended, { scene with front := .bare left }) ∧
      left.channel.isOpen = wire.channel.isOpen ∧ left.link.outbound = wire.link.outbound := by
  unfold attemptAttend setFront
  rw [front]
  exact ⟨_, _, rfl, rfl, rfl⟩

end Scene

namespace Course

variable {α : Type} {manners : Manners} {course : Course α}
  {dialogue : Dialogue} {wire : Wire} {given : Bytes} {listens : Prop}

section Stride

variable {next : Session α} {scene : Scene}

theorem live_stride (went : course.live.session.stride course.live.scene = (next, scene)) :
    (course.react .stride).live = { course.live with session := next, scene } := by
  simp only [react, Live.stride, went]

theorem hostSent_stride (went : course.live.session.stride course.live.scene = (next, scene))
    (target : scene.target = course.live.scene.target) :
    (course.react .stride).hostSent = course.hostSent := by
  simp only [react, hostSentAfter, Live.stride, went, target]
  cases course.live.scene.target <;> rfl

theorem hostSent_stride_none (went : course.live.session.stride course.live.scene = (next, scene))
    (absent : scene.target = none) : (course.react .stride).hostSent = course.hostSent := by
  simp only [react, hostSentAfter, Live.stride, went, absent]
  cases course.live.scene.target <;> rfl

theorem hostSent_stride_new {target : Wire}
    (went : course.live.session.stride course.live.scene = (next, scene))
    (absent : course.live.scene.target = none) (present : scene.target = some target) :
    (course.react .stride).hostSent = target.input := by
  simp only [react, hostSentAfter, Live.stride, went, absent, present]

theorem delivered_stride (noRelay : ∀ window next, course.live.session ≠ .relay window next) :
    (course.react .stride).delivered = course.delivered := by
  simp only [react, deliveredAfter]

theorem not_relay {core : Session α} (session : course.live.session = core)
    (other : ∀ window next, core ≠ .relay window next) (window : Duration)
    (next : Except Failure Unit → Session α) : course.live.session ≠ .relay window next :=
  session ▸ other window next

/-- A node that waits and leaves the scene as it is changes nothing. -/
theorem react_stride_of_wait
    (waits : course.live.session.stride course.live.scene = (course.live.session, course.live.scene))
    (noRelay : ∀ window next, course.live.session ≠ .relay window next) :
    course.react .stride = course := by
  have live := live_stride waits
  have hostSent := hostSent_stride waits rfl
  have delivered := delivered_stride noRelay
  simp only [react] at live hostSent delivered ⊢
  rw [live, hostSent, delivered]

theorem Accounts.weaken {others : Prop} (accounts : Accounts dialogue given listens wire course)
    (implied : others → listens) : Accounts dialogue given others wire course :=
  { accounts with input := fun listening => accounts.input (implied listening) }

/-- The books after a node that has to do with the client alone. -/
theorem Accounts.stride {after : Dialogue} {more : Bytes} {others : Prop} (left : Wire)
    (accounts : Accounts dialogue given listens wire course)
    (went : course.live.session.stride course.live.scene = (next, scene))
    (noRelay : ∀ window next, course.live.session ≠ .relay window next)
    (front : scene.front = .bare left) (isOpen : left.channel.isOpen = true)
    (relay : scene.relay = course.live.scene.relay)
    (caller : scene.caller = course.live.scene.caller)
    (target : scene.target = course.live.scene.target)
    (counterpart : after.counterpart = dialogue.counterpart ∨
      after.counterpart = .missed ∧ dialogue.counterpart = .unsought)
    (heard : after.heard <+: course.sent) (input : others → course.sent = after.heard ++ left.input)
    (whole : after.isBroken = false →
      course.read ++ left.link.outbound.held = after.told.flatten ++ more)
    (broken : after.isBroken = true → more = [] ∧ left.link.outbound.closed = true ∧
      course.read ++ left.link.outbound.held <+: after.told.flatten) :
    Accounts after more others left (course.react .stride) := by
  have live := live_stride went
  have delivered := delivered_stride noRelay
  have hostSent := hostSent_stride went target
  have foundAlike : after.counterpart = .found ↔ dialogue.counterpart = .found := by
    rcases counterpart with same | ⟨missed, unsought⟩
    · rw [same]
    · rw [missed, unsought]
      decide
  have kept : after.counterpart ≠ .lost := by
    rcases counterpart with same | ⟨missed, -⟩
    · exact same ▸ accounts.kept
    · rw [missed]
      decide
  exact {
    kept
    front := by rw [live]; exact front
    isOpen, heard, input, whole, broken
    relay := by rw [live]; exact relay.trans accounts.relay
    hostRead := accounts.hostRead
    delivered := delivered.trans accounts.delivered
    caller := fun endpoint link waiting => by
      rw [live] at waiting
      exact accounts.caller endpoint link (caller ▸ waiting)
    target := fun missing => by
      rw [live]
      exact target.trans (accounts.target (mt foundAlike.mpr missing))
    found := fun found => by
      rw [live, hostSent]
      obtain ⟨wire, present, rest⟩ := accounts.found (foundAlike.mp found)
      exact ⟨wire, target.trans present, rest⟩ }

/-- A node that leaves the connection the session's own. -/
theorem Phase.of_deed {core : Session α} {deed : Deed} (plain : manners.IsPlain course.sent)
    (minds : Minds manners core dialogue)
    (step : core.Step deed next) (fits : dialogue.Fits deed)
    (session : course.live.session = next) (isOpen : (dialogue.after deed).isOpen = true)
    (accounts : Accounts (dialogue.after deed) [] ((dialogue.after deed).isAttentive = true) wire
      course) : Phase manners course := by
  obtain ⟨admits, goesOn⟩ := Session.keeps_step minds step fits
  have speaks := (admits (manners.isPlain_of_front accounts.heard plain)).speaks
  exact .own (session ▸ .whole) goesOn isOpen speaks (accounts.weaken And.left)

end Stride

section Own

variable {next : Session α} {scene : Scene} {core : Session α} {deed : Deed}

/-- A node that has nothing to do with the octets of the client, and finds no other connection. -/
theorem Phase.of_silent (counterpart : Counterpart) (plain : manners.IsPlain course.sent)
    (minds : Minds manners core dialogue)
    (isOpen : dialogue.isOpen = true)
    (accounts : Accounts dialogue [] (dialogue.isAttentive = true) wire course)
    (step : core.Step deed next) (fits : dialogue.Fits deed)
    (silent : dialogue.after deed = { dialogue with counterpart })
    (follows : counterpart = dialogue.counterpart ∨
      counterpart = .missed ∧ dialogue.counterpart = .unsought)
    (went : course.live.session.stride course.live.scene = (next, scene))
    (noRelay : ∀ window next, course.live.session ≠ .relay window next)
    (front : scene.front = course.live.scene.front) (relay : scene.relay = course.live.scene.relay)
    (caller : scene.caller = course.live.scene.caller)
    (target : scene.target = course.live.scene.target) :
    Phase manners (course.react .stride) := by
  have kept : (dialogue.after deed).isOpen = true := by rw [silent]; exact isOpen
  have books : Accounts (dialogue.after deed) [] ((dialogue.after deed).isAttentive = true) wire
      (course.react .stride) := by
    rw [silent]
    exact accounts.stride wire went noRelay (front.trans accounts.front) accounts.isOpen relay caller
      target follows accounts.heard accounts.input accounts.whole accounts.broken
  exact .of_deed plain minds step fits (by rw [live_stride went]) kept books

/-- A node that finds another connection, which has brought along what was sent on it. -/
theorem Phase.of_found {target : Wire} (plain : manners.IsPlain course.sent)
    (minds : Minds manners core dialogue)
    (isOpen : dialogue.isOpen = true) (unsought : dialogue.counterpart = .unsought)
    (accounts : Accounts dialogue [] (dialogue.isAttentive = true) wire course)
    (step : core.Step deed next) (fits : dialogue.Fits deed)
    (found : dialogue.after deed = { dialogue with counterpart := .found })
    (went : course.live.session.stride course.live.scene = (next, scene))
    (noRelay : ∀ window next, course.live.session ≠ .relay window next)
    (front : scene.front = course.live.scene.front) (relay : scene.relay = course.live.scene.relay)
    (caller : ∀ endpoint link, scene.caller = some (endpoint, link) → link.outbound.held = [])
    (present : scene.target = some target) (lively : target.channel.isOpen = true)
    (silent : target.link.outbound.held = []) : Phase manners (course.react .stride) := by
  have absent : course.live.scene.target = none := accounts.target (by rw [unsought]; rintro ⟨⟩)
  have live := live_stride went
  have kept : (dialogue.after deed).isOpen = true := by rw [found]; exact isOpen
  have books : Accounts (dialogue.after deed) [] ((dialogue.after deed).isAttentive = true) wire
      (course.react .stride) := by
    rw [found]
    exact {
      front := by rw [live]; exact front.trans accounts.front
      isOpen := accounts.isOpen
      relay := by rw [live]; exact relay.trans accounts.relay
      heard := accounts.heard
      input := accounts.input
      whole := accounts.whole
      broken := accounts.broken
      hostRead := accounts.hostRead
      delivered := (delivered_stride noRelay).trans accounts.delivered
      kept := by rintro ⟨⟩
      caller := by rw [live]; exact caller
      target := fun missing => absurd rfl missing
      found := fun _ => ⟨target, by rw [live]; exact present, lively,
        hostSent_stride_new went absent present, silent⟩ }
  exact .of_deed plain minds step fits (by rw [live]) kept books

theorem Phase.stride_read {limit : Nat} {next : Except IoError Bytes → Session α}
    (session : course.live.session = .read limit next)
    (plain : manners.IsPlain course.sent)
    (minds : Minds manners (.read limit next) dialogue) (isOpen : dialogue.isOpen = true)
    (speaks : manners.Speaks dialogue)
    (accounts : Accounts dialogue [] (dialogue.isAttentive = true) wire course) :
    Phase manners (course.react .stride) := by
  have went := Session.stride_read course.live.scene limit next
  have noRelay := not_relay session (by rintro _ _ ⟨⟩)
  rw [← session, accounts.front, Front.wire] at went
  rcases read : wire.read limit with ⟨answer | _, left⟩
  · rw [read] at went
    cases answer with
    | error error =>
      have closed := Wire.read_error read
      rw [accounts.isOpen] at closed
      cases closed
    | ok octets =>
      obtain ⟨input, outbound, stillOpen, -⟩ := Wire.read_octets read
      have fits : dialogue.Fits (.read limit (.ok octets)) := ⟨isOpen, Wire.length_read_le read⟩
      have isAttentive : dialogue.isAttentive = true :=
        ((minds (.error .notConnected) trivial).1
          (manners.isPlain_of_front accounts.heard plain)).permits.2
      have split : course.sent = (dialogue.heard ++ octets) ++ left.input := by
        rw [accounts.input isAttentive, List.append_assoc, input]
      refine .of_deed plain minds (.read (.ok octets)) fits (by rw [live_stride went]) isOpen
        (accounts.stride left went noRelay ?_ (stillOpen.trans accounts.isOpen) rfl rfl rfl (.inl rfl) ?_
          (fun _ => split) (outbound ▸ accounts.whole) (outbound ▸ accounts.broken))
      · simp only [Scene.setFront, accounts.front, Front.setWire]
      · exact split ▸ List.prefix_append _ _
  · rw [read] at went
    rw [react_stride_of_wait went noRelay]
    exact .own (session ▸ .whole) minds isOpen speaks (accounts.weaken And.left)

theorem Phase.stride_unread {octets : Bytes} (session : course.live.session = .unread octets next)
    (plain : manners.IsPlain course.sent)
    (minds : Minds manners (.unread octets next) dialogue) (isOpen : dialogue.isOpen = true)
    (accounts : Accounts dialogue [] (dialogue.isAttentive = true) wire course) :
    Phase manners (course.react .stride) := by
  have went : course.live.session.stride course.live.scene =
      (next, course.live.scene.setFront (course.live.scene.front.wire.unread octets)) := by
    rw [session]
    rfl
  have shorter : (dialogue.after (.unread octets)).heard <+: course.sent :=
    (List.take_prefix _ _).trans accounts.heard
  obtain ⟨-, isAttentive, front, same⟩ :=
    (minds.1 (manners.isPlain_of_front shorter plain)).permits
  have kept : (dialogue.after (.unread octets)).heard = front := by
    simp only [Dialogue.after, ← same, List.length_append, Nat.add_sub_cancel, List.take_left]
  have split : course.sent = front ++ (wire.unread octets).input := by
    rw [accounts.input isAttentive, ← same]
    simp only [Wire.unread, accounts.isOpen, ↓reduceIte, Wire.input, List.append_assoc]
  have outbound : (wire.unread octets).link = wire.link := by
    simp only [Wire.unread, accounts.isOpen, ↓reduceIte]
  refine .of_deed plain minds .unread trivial (by rw [live_stride went]) isOpen
    (accounts.stride (wire.unread octets) went (not_relay session (by rintro _ _ ⟨⟩)) ?_ ?_ rfl rfl
      rfl (.inl rfl) ?_ ?_ (outbound ▸ accounts.whole) (outbound ▸ accounts.broken))
  · simp only [Scene.setFront, accounts.front, Front.setWire, Front.wire]
  · simp only [Wire.unread, accounts.isOpen, ↓reduceIte]
  · rw [kept]
    exact split ▸ List.prefix_append _ _
  · intro _
    rw [kept]
    exact split

theorem Phase.stride_write {octets rest : Bytes} {next : Except IoError Unit → Session α}
    (session : course.live.session = .write rest next) (split : octets = given ++ rest)
    (plain : manners.IsPlain course.sent)
    (minds : Minds manners (.write octets next) dialogue) (isOpen : dialogue.isOpen = true)
    (speaks : manners.Speaks dialogue)
    (accounts : Accounts dialogue given (dialogue.isAttentive = true) wire course) :
    Phase manners (course.react .stride) := by
  have went := Session.stride_write course.live.scene rest next
  have noRelay := not_relay session (by rintro _ _ ⟨⟩)
  rw [← session, accounts.front, Front.wire] at went
  rcases wrote : wire.write rest with ⟨(error | accepted) | _, left⟩
  · rw [wrote] at went
    have closed : wire.link.outbound.closed = true := by
      refine (Wire.write_error wrote).resolve_left ?_
      rw [accounts.isOpen]
      rintro ⟨⟩
    have books : Accounts (dialogue.tellInPart octets) []
        ((dialogue.tellInPart octets).isAttentive = true) wire (course.react .stride) := by
      unfold Dialogue.tellInPart
      rw [isOpen, Bool.true_and]
      cases broken : dialogue.isBroken with
      | true =>
        simp only [Bool.not_true, Bool.false_eq_true, ↓reduceIte]
        refine accounts.stride wire went noRelay accounts.front accounts.isOpen rfl rfl rfl (.inl rfl)
          accounts.heard accounts.input (fun whole => ?_) fun _ => ⟨rfl, (accounts.broken broken).2⟩
        exact absurd (broken.symm.trans whole) (by decide)
      | false =>
        simp only [Bool.not_false, ↓reduceIte]
        refine accounts.stride wire went noRelay accounts.front accounts.isOpen rfl rfl rfl (.inl rfl)
          accounts.heard accounts.input (by rintro ⟨⟩) fun _ => ⟨rfl, closed, ?_⟩
        rw [accounts.whole broken]
        simp only [Dialogue.told_tell, List.flatten_append, List.flatten_singleton, split,
          ← List.append_assoc]
        exact List.prefix_append _ _
    exact .of_deed plain minds (.write (.error error)) trivial (by rw [live_stride went])
      ((Dialogue.isOpen_tellInPart octets dialogue).trans isOpen) books
  · rw [wrote] at went
    obtain ⟨held, channel, inbound, -⟩ := Wire.write_octets wrote
    have whole : dialogue.isBroken = false := by
      refine Bool.eq_false_iff.mpr fun broken => ?_
      have closed := (accounts.broken broken).2.1
      rw [Wire.write_unclosed wrote] at closed
      cases closed
    have input := Wire.input_of_write wrote
    have told : course.read ++ left.link.outbound.held =
        dialogue.told.flatten ++ (given ++ rest.take accepted) := by
      rw [held, ← List.append_assoc, accounts.whole whole, List.append_assoc]
    have front : (course.live.scene.setFront left).front = .bare left := by
      simp only [Scene.setFront, accounts.front, Front.setWire]
    have stillOpen : left.channel.isOpen = true := channel ▸ accounts.isOpen
    have unbroken {goal : Prop} (broken : dialogue.isBroken = true) : goal := by
      rw [whole] at broken
      cases broken
    by_cases short : accepted < rest.length
    · simp only [short, ↓reduceIte] at went
      have later := accounts.stride left went noRelay front stillOpen rfl rfl rfl (.inl rfl)
        accounts.heard (fun listens => input ▸ accounts.input listens) (fun _ => told) unbroken
      refine .own (live_stride went ▸ .part ?_) minds isOpen speaks (later.weaken And.left)
      rw [split, List.append_assoc, List.take_append_drop]
    · simp only [short, ↓reduceIte] at went
      refine .of_deed plain minds (.write (.ok ())) ⟨isOpen, whole⟩ (by rw [live_stride went]) isOpen
        (accounts.stride left went noRelay front stillOpen rfl rfl rfl (.inl rfl) accounts.heard
          (fun listens => input ▸ accounts.input listens) (fun _ => ?_) unbroken)
      rw [told, List.take_of_length_le (Nat.le_of_not_lt short), ← split]
      simp only [Dialogue.after, Dialogue.told_tell, List.flatten_append, List.flatten_singleton,
        List.append_nil]
  · rw [wrote] at went
    rw [react_stride_of_wait (went.trans (by rw [session])) noRelay]
    exact .own (session ▸ .part (by rw [split])) minds isOpen speaks (accounts.weaken And.left)

theorem Phase.stride_dial {endpoint : Endpoint} {next : Dialled → Session α}
    (session : course.live.session = .dial endpoint next)
    (plain : manners.IsPlain course.sent)
    (minds : Minds manners (.dial endpoint next) dialogue) (isOpen : dialogue.isOpen = true)
    (accounts : Accounts dialogue [] (dialogue.isAttentive = true) wire course) :
    Phase manners (course.react .stride) := by
  have went := Session.stride_dial course.live.scene endpoint next
  have noRelay := not_relay session (by rintro _ _ ⟨⟩)
  rw [← session] at went
  have unsought : dialogue.counterpart = .unsought := ((minds .failed trivial).1
    (manners.isPlain_of_front accounts.heard plain)).permits.2
  split at went
  · exact .of_silent .missed plain minds isOpen accounts (.dial .cancelled) trivial rfl
      (.inr ⟨rfl, unsought⟩) went noRelay rfl rfl rfl rfl
  · cases reached : course.live.scene.network.dial endpoint with
    | connected own =>
      rw [reached] at went
      exact .of_found plain minds isOpen unsought accounts (.dial (.connected own)) trivial rfl went
        noRelay rfl rfl accounts.caller rfl rfl rfl
    | failed | cancelled =>
      rw [reached] at went
      exact .of_silent .missed plain minds isOpen accounts (.dial _) trivial rfl
        (.inr ⟨rfl, unsought⟩) went noRelay rfl rfl rfl rfl

theorem Phase.stride_accept {window : Duration} {next : Called → Session α}
    (session : course.live.session = .accept window next)
    (plain : manners.IsPlain course.sent)
    (minds : Minds manners (.accept window next) dialogue) (isOpen : dialogue.isOpen = true)
    (speaks : manners.Speaks dialogue)
    (accounts : Accounts dialogue [] (dialogue.isAttentive = true) wire course) :
    Phase manners (course.react .stride) := by
  have went := Session.stride_accept course.live.scene window next
  have noRelay := not_relay session (by rintro _ _ ⟨⟩)
  rw [← session] at went
  have unsought : dialogue.counterpart = .unsought := ((minds .timedOut trivial).1
    (manners.isPlain_of_front accounts.heard plain)).permits.2
  unfold Scene.attemptAccept at went
  dsimp only at went
  by_cases cancelled : course.live.scene.isCancelled = true
  · simp only [cancelled, ↓reduceIte] at went
    exact .of_silent .missed plain minds isOpen accounts (.accept .cancelled) trivial rfl
      (.inr ⟨rfl, unsought⟩) went noRelay rfl rfl rfl rfl
  · simp only [cancelled, Bool.false_eq_true, ↓reduceIte] at went
    cases caller : course.live.scene.caller with
    | some called =>
      obtain ⟨endpoint, link⟩ := called
      simp only [caller] at went
      exact .of_found plain minds isOpen unsought accounts (.accept (.peer endpoint)) trivial rfl went
        noRelay rfl rfl (by rintro _ _ ⟨⟩) rfl rfl (accounts.caller endpoint link caller)
    | none =>
      simp only [caller] at went
      by_cases passed : course.live.scene.deadline.getD
          (course.live.scene.clock + window.milliseconds) ≤ course.live.scene.clock
      · simp only [passed, ↓reduceIte] at went
        exact .of_silent .missed plain minds isOpen accounts (.accept .timedOut) trivial rfl
          (.inr ⟨rfl, unsought⟩) went noRelay rfl rfl caller.symm rfl
      · simp only [passed, ↓reduceIte] at went
        have books := accounts.stride wire went noRelay accounts.front accounts.isOpen rfl caller.symm
          rfl (.inl rfl) accounts.heard accounts.input accounts.whole accounts.broken
        exact .own (live_stride went ▸ session ▸ .whole) minds isOpen speaks (books.weaken And.left)

theorem Phase.stride_attend {next : Session α} (session : course.live.session = .attend next)
    (plain : manners.IsPlain course.sent)
    (minds : Minds manners (.attend next) dialogue) (isOpen : dialogue.isOpen = true)
    (speaks : manners.Speaks dialogue) (accounts : Accounts dialogue [] listens wire course) :
    Phase manners (course.react .stride) := by
  have went := Session.stride_attend next course.live.scene
  have noRelay := not_relay session (by rintro _ _ ⟨⟩)
  rw [← session] at went
  obtain ⟨ended, left, attempt, stillOpen, outbound⟩ := Scene.exists_attemptAttend accounts.front
  rw [attempt] at went
  cases ended with
  | false =>
    have books : Accounts dialogue [] False left (course.react .stride) :=
      accounts.stride left went noRelay rfl (stillOpen.trans accounts.isOpen) rfl rfl rfl (.inl rfl)
        accounts.heard False.elim (outbound ▸ accounts.whole) (outbound ▸ accounts.broken)
    refine .own (live_stride went ▸ session ▸ .whole) minds isOpen speaks (books.weaken ?_)
    exact fun listens => listens.2 next rfl
  | true =>
    refine .of_deed plain minds .attend trivial (by rw [live_stride went]) isOpen
      (accounts.stride left went noRelay rfl (stillOpen.trans accounts.isOpen) rfl rfl rfl (.inl rfl)
        accounts.heard ?_ (outbound ▸ accounts.whole) (outbound ▸ accounts.broken))
    rintro ⟨⟩

theorem handed_stride_close
    (went : course.live.session.stride course.live.scene =
      (next, course.live.scene.setFront course.live.scene.front.wire.close))
    (front : course.live.scene.front = .bare wire) :
    (course.react .stride).live.scene.front = .bare wire.close ∧
      (course.react .stride).handed = course.handed := by
  have closed : (course.react .stride).live.scene.front = .bare wire.close := by
    rw [live_stride went, Scene.setFront, front, Front.setWire, Front.wire]
  refine ⟨closed, ?_⟩
  rw [handed_eq closed, handed_eq front, Wire.outbound_held_close]
  rfl

/-- The connection is closed, if it was not closed before, and that is all. -/
theorem Phase.of_close {after : Dialogue} (session : course.live.session = .close next)
    (front : course.live.scene.front = .bare wire)
    (state : wire.channel.isOpen = true ∨ wire.IsShut) (faithful : Faithful manners course)
    (minds : Minds manners next after) (closed : after.isOpen = false)
    (heard : after.heard <+: course.sent) : Phase manners (course.react .stride) := by
  have went : course.live.session.stride course.live.scene =
      (next, course.live.scene.setFront course.live.scene.front.wire.close) := by
    rw [session]
    rfl
  have noRelay := not_relay session (by rintro _ _ ⟨⟩)
  obtain ⟨left, handed⟩ := handed_stride_close went front
  refine .gone (live_stride went ▸ minds) closed heard left ?_
    (faithful.of_sent [] (List.append_nil _).symm handed ?_ (delivered_stride noRelay))
  · rcases state with isOpen | shut
    · exact Wire.isShut_close isOpen
    · exact shut.close
  · exact (hostSent_stride went rfl).symm ▸ List.prefix_rfl

theorem Phase.stride_close (session : course.live.session = .close next)
    (plain : manners.IsPlain course.sent)
    (minds : Minds manners (.close next) dialogue) (isOpen : dialogue.isOpen = true)
    (speaks : manners.Speaks dialogue)
    (accounts : Accounts dialogue [] (dialogue.isAttentive = true) wire course) :
    Phase manners (course.react .stride) :=
  .of_close session accounts.front (.inl accounts.isOpen)
    (faithful_of_own plain (session ▸ .whole) minds isOpen speaks accounts) minds.2 rfl accounts.heard

end Own

/-! ## One turn of a relay -/

section Relaying

variable {window : Duration} {next : Except Failure Unit → Session α} {history : Relay.History}

theorem Carrying.clock (carrying : Carrying dialogue window history wire course) :
    history.relay.clock = course.live.scene.clock := by
  have relaying := carrying.relaying
  unfold Scene.relaying at relaying
  split at relaying
  · rw [← Option.some.inj relaying]
  · obtain ⟨target, -, started⟩ := Option.map_eq_some_iff.mp relaying
    rw [← started]
    rfl

/-- A relay carries on, or has ended and leaves the session without the connection. -/
theorem Phase.stride_relay (session : course.live.session = .relay window next)
    (minds : ∀ answer, Minds manners (next answer) (dialogue.after (.relay window answer)))
    (speaks : manners.Speaks dialogue) (hands : manners.HandsOver dialogue.heard)
    (carrying : Carrying dialogue window history wire course) :
    Phase manners (course.react .stride) := by
  obtain ⟨happenings, inner, pumped⟩ := Scene.exists_happenings_pumped carrying.relaying
  have accounted : (history.run happenings).Accounted :=
    (Relay.History.Accounted.running carrying.running carrying.conserved).run happenings
  obtain ⟨undisturbed, clock⟩ := Relay.History.run_inner inner
  rw [← Relay.History.relay_run] at pumped
  generalize history.run happenings = later at pumped accounted undisturbed clock
  have went := Session.stride_relay course.live.scene window next
  simp only [Scene.attemptRelay_eq, pumped, ← session] at went
  have delivered : (course.react .stride).delivered = later.handed .target := by
    simp only [react, deliveredAfter, session, pumped, Relay.History.handed, undisturbed.received,
      carrying.hostRead]
    rfl
  have hostSent : later.offered .target = dialogue.told.flatten ++ course.hostSent := by
    rw [undisturbed.offered, carrying.hostSent]
  have sent : course.sent = dialogue.heard ++ later.offered .client := by
    rw [undisturbed.offered, carrying.sent]
  have read : later.received .client = course.read := by rw [undisturbed.received, carrying.read]
  have setFront : course.live.scene.setFront later.relay.client =
      { course.live.scene with front := .bare later.relay.client } := by
    rw [Scene.setFront, carrying.front, Front.setWire]
  cases accounted with
  | running running conserved =>
    have ongoing : later.relay.result = none := Option.isNone_iff_eq_none.mp running
    simp only [ongoing, setFront] at went
    have live := live_stride went
    have kept := hostSent_stride went rfl
    have handing : Handing dialogue window later later.relay.client (course.react .stride) := {
      front := by rw [live]
      relaying := by
        rw [live]
        simp only [Scene.relaying, Front.wire, ← carrying.clock, ← clock]
      running, conserved, delivered, read
      sent := sent
      hostSent := by rw [kept]; exact hostSent
      hostRead := by rw [undisturbed.received]; exact carrying.hostRead
      kept := carrying.kept
      underway := by rw [live]; rfl }
    exact .relaying (by rw [live]; exact session) minds speaks hands handing
  | stopped stopped concluded =>
    obtain ⟨result, ended⟩ : ∃ result, later.relay.result = some result := by
      cases given : later.relay.result with
      | none => simp only [Relay.isRunning, given, Option.isNone_none, Bool.true_eq_false] at stopped
      | some result => exact ⟨result, rfl⟩
    simp only [ended, setFront] at went
    have live := live_stride went
    have kept := hostSent_stride_none went rfl
    have front : (course.react .stride).live.scene.front = .bare later.relay.client := by rw [live]
    have left : Minds manners (course.react .stride).live.session
        (dialogue.after (.relay window result)) := by
      rw [live]
      exact minds result
    refine .gone left rfl ⟨_, sent.symm⟩ front (concluded.shut .client) ⟨?_, .inr ?_⟩
    · refine ⟨dialogue, speaks, carrying.kept, ⟨_, sent.symm⟩, ?_⟩
      have same : (course.react .stride).read = later.received .client := read.symm
      rw [handed_eq front, kept, ← hostSent, same]
      exact concluded.incomplete .target
    · refine ⟨dialogue.heard, later.offered .client, hands, sent, ?_⟩
      rw [delivered]
      exact concluded.incomplete .client

/-- What is known of a relay that starts between a client, of whom `wire.input` is still to be read, and
a host that is still to read what it was told. -/
def relayHistory (course : Course α) (window : Duration) (wire target : Wire) (told : Bytes) :
    Relay.History where
  relay := .start window course.live.scene.clock wire target
  offered
    | .client => wire.input
    | .target => told ++ course.hostSent
  received
    | .client => course.read
    | .target => course.hostRead
  -- Whoever has hung up before the relay starts counts as having hung up.
  hungUp := fun _ => true
  readAt := fun _ => course.live.scene.clock

/-- A relay starts with what is still to be read from either side. -/
theorem Accounts.exists_carrying (accounts : Accounts dialogue [] listens wire course)
    (listening : listens) (whole : dialogue.isBroken = false)
    (found : dialogue.counterpart = .found) (window : Duration) :
    ∃ history, Carrying dialogue window history wire course := by
  obtain ⟨target, present, isOpen, hostSent, silent⟩ := accounts.found found
  let history := course.relayHistory window wire target dialogue.told.flatten
  have conserved : history.Conserved := by
    refine ⟨?_, ?_, fun _ _ => rfl⟩
    · have told := accounts.whole whole
      intro side
      cases side with
      | client =>
        have nothing : course.hostRead ++ target.link.outbound.held = [] := by
          rw [accounts.hostRead, silent, List.append_nil]
        exact (congrArg (fun octets => octets ++ [] ++ wire.input) nothing).symm
      | target =>
        rw [List.append_nil] at told
        have nothing : course.read ++ wire.link.outbound.held ++ [] ++ target.input =
            dialogue.told.flatten ++ course.hostSent := by
          rw [told, List.append_nil, hostSent]
        exact nothing.symm
    · intro side
      cases side with
      | client => exact accounts.isOpen
      | target => exact isOpen
  refine ⟨history, ?_⟩
  exact {
    front := accounts.front
    relaying := by
      simp only [Scene.relaying, accounts.relay, present, accounts.front]
      rfl
    running := rfl
    conserved
    sent := accounts.input listening
    hostSent := rfl
    read := rfl
    hostRead := rfl
    kept := accounts.kept }

end Relaying

/-! ## A course -/

theorem Phase.stride_own {core : Session α} (session : course.live.session = core)
    (plain : manners.IsPlain course.sent)
    (minds : Minds manners core dialogue) (isOpen : dialogue.isOpen = true)
    (speaks : manners.Speaks dialogue)
    (accounts : Accounts dialogue [] (dialogue.isAttentive = true ∧ ∀ next, core ≠ .attend next) wire
      course) : Phase manners (course.react .stride) := by
  have went : course.live.session.stride course.live.scene = core.stride course.live.scene := by
    rw [session]
  have noRelay := not_relay session
  have books (other : ∀ next, core ≠ .attend next) :
      Accounts dialogue [] (dialogue.isAttentive = true) wire course :=
    accounts.weaken fun isAttentive => ⟨isAttentive, other⟩
  cases core with
  | done result =>
    have closed : dialogue.isOpen = false := minds
    rw [isOpen] at closed
    cases closed
  | read limit next => exact .stride_read session plain minds isOpen speaks (books (by rintro _ ⟨⟩))
  | unread octets next => exact .stride_unread session plain minds isOpen (books (by rintro _ ⟨⟩))
  | write octets next =>
    exact .stride_write session (List.nil_append _).symm plain minds isOpen speaks
      (books (by rintro _ ⟨⟩))
  | whetherOpen next =>
    have fits : dialogue.Fits (.whetherOpen course.live.scene.front.wire.channel.isOpen) := by
      rw [accounts.front, Dialogue.Fits, isOpen]
      exact accounts.isOpen
    exact .of_silent _ plain minds isOpen (books (by rintro _ ⟨⟩)) (.whetherOpen _) fits rfl (.inl rfl)
      went (noRelay (by rintro _ _ ⟨⟩)) rfl rfl rfl rfl
  | resolve name next =>
    exact .of_silent _ plain minds isOpen (books (by rintro _ ⟨⟩)) (.resolve _) trivial rfl (.inl rfl)
      went (noRelay (by rintro _ _ ⟨⟩)) rfl rfl rfl rfl
  | dial endpoint next => exact .stride_dial session plain minds isOpen (books (by rintro _ ⟨⟩))
  | listen ip next =>
    exact .of_silent _ plain minds isOpen (books (by rintro _ ⟨⟩)) (.listen _) trivial rfl (.inl rfl)
      went (noRelay (by rintro _ _ ⟨⟩)) rfl rfl rfl rfl
  | accept window next =>
    exact .stride_accept session plain minds isOpen speaks (books (by rintro _ ⟨⟩))
  | takeUp next =>
    have found := ((minds (.ok ()) trivial).1
      (manners.isPlain_of_front accounts.heard plain)).permits.2
    obtain ⟨target, present, -⟩ := accounts.found found
    have stood : course.live.session.stride course.live.scene =
        (next (.ok ()), course.live.scene) := by
      rw [went]
      simp only [Session.stride, Session.head, Session.poll, present, Option.isSome_some, ↓reduceIte]
      rfl
    exact .of_silent _ plain minds isOpen (books (by rintro _ ⟨⟩)) (.takeUp (.ok ())) trivial rfl
      (.inl rfl) stood (noRelay (by rintro _ _ ⟨⟩)) rfl rfl rfl rfl
  | relay window next =>
    have admits := (minds (.ok ()) trivial).1 (manners.isPlain_of_front accounts.heard plain)
    obtain ⟨-, whole, isAttentive, found⟩ := admits.permits
    obtain ⟨history, carrying⟩ :=
      (books (by rintro _ ⟨⟩)).exists_carrying isAttentive whole found window
    exact .stride_relay session (fun answer => (minds answer trivial).2) speaks
      (admits.handsOver window _ rfl) carrying
  | associate ip terms next =>
    exact .of_silent _ plain minds isOpen (books (by rintro _ ⟨⟩)) (.associate _) trivial rfl (.inl rfl)
      went (noRelay (by rintro _ _ ⟨⟩)) rfl rfl rfl rfl
  | attend next => exact .stride_attend session plain minds isOpen speaks accounts
  | protect protection next =>
    exact False.elim (minds.1 (manners.isPlain_of_front accounts.heard plain)).permits
  | close next => exact .stride_close session plain minds isOpen speaks (books (by rintro _ ⟨⟩))

/-- A node after the connection was closed: the session asks whether it is, closes it again or is
done. -/
theorem Phase.stride_gone (plain : manners.IsPlain course.sent)
    (minds : Minds manners course.live.session dialogue) (closed : dialogue.isOpen = false)
    (heard : dialogue.heard <+: course.sent) (front : course.live.scene.front = .bare wire)
    (shut : wire.IsShut) (faithful : Faithful manners course) :
    Phase manners (course.react .stride) := by
  have never {deed : Deed} {goal : Prop} (admits : manners.Admits dialogue deed)
      (heard : (dialogue.after deed).heard <+: course.sent)
      (needs : dialogue.Permits deed → dialogue.isOpen = true) : goal := by
    have isOpen := needs (admits (manners.isPlain_of_front heard plain)).permits
    rw [closed] at isOpen
    cases isOpen
  have stays {next : Session α}
      (went : course.live.session.stride course.live.scene = (next, course.live.scene))
      (noRelay : ∀ window next, course.live.session ≠ .relay window next)
      (minds : Minds manners next dialogue) : Phase manners (course.react .stride) := by
    have live := live_stride went
    have left : (course.react .stride).live.scene.front = .bare wire := by rw [live]; exact front
    refine .gone (by rw [live]; exact minds) closed heard left shut
      (faithful.of_sent [] (List.append_nil _).symm ?_ ?_ (delivered_stride noRelay))
    · rw [handed_eq left, handed_eq front]
      rfl
    · exact (hostSent_stride went rfl).symm ▸ List.prefix_rfl
  generalize session : course.live.session = current at minds
  cases current with
  | done result =>
    exact stays (by rw [session]; rfl) (not_relay session (by rintro _ _ ⟨⟩)) minds
  | whetherOpen next =>
    have answer : wire.channel.isOpen = dialogue.isOpen := shut.released.trans closed.symm
    have went : course.live.session.stride course.live.scene =
        (next wire.channel.isOpen, course.live.scene) := by
      rw [session]
      simp only [Session.stride, Session.head, Session.poll, front, Front.wire]
      rfl
    exact stays went (not_relay session (by rintro _ _ ⟨⟩)) (minds _ answer).2
  | close next => exact .of_close session front (.inr shut) faithful minds.2 rfl heard
  | unread octets next =>
    exact never minds.1 ((List.take_prefix _ _).trans heard) fun permits => permits.1
  | read limit next =>
    exact never (minds (.error .notConnected) trivial).1 heard fun permits => permits.1
  | write octets next =>
    have unchanged := Dialogue.heard_tellInPart octets dialogue
    exact never (minds (.error .notConnected) trivial).1 (unchanged ▸ heard) id
  | resolve name next => exact never (minds none trivial).1 heard id
  | dial endpoint next => exact never (minds .failed trivial).1 heard fun permits => permits.1
  | listen ip next => exact never (minds (.error .notConnected) trivial).1 heard id
  | accept window next => exact never (minds .timedOut trivial).1 heard fun permits => permits.1
  | takeUp next => exact never (minds (.ok ()) trivial).1 heard fun permits => permits.1
  | relay window next => exact never (minds (.ok ()) trivial).1 heard fun permits => permits.1
  | associate ip terms next => exact never (minds (.error .notConnected) trivial).1 heard id
  | attend next => exact never minds.1 heard id
  | protect protection next => exact never minds.1 heard False.elim

theorem Phase.stride (phase : Phase manners course) (plain : manners.IsPlain course.sent) :
    Phase manners (course.react .stride) := by
  cases phase with
  | @own core given dialogue wire resumes minds isOpen speaks accounts =>
    generalize session : course.live.session = current at resumes
    cases resumes with
    | whole => exact .stride_own session plain minds isOpen speaks accounts
    | @part given rest next same =>
      subst same
      exact .stride_write session rfl plain minds isOpen speaks
        (accounts.weaken fun isAttentive => ⟨isAttentive, by rintro _ ⟨⟩⟩)
  | relaying session minds speaks hands handing =>
    exact .stride_relay session minds speaks hands handing.toCarrying
  | @leaving result wire session front isOpen faithful =>
    have left : Minds manners (.done result) { Dialogue.fresh with isOpen := false } := rfl
    exact .of_close session front isOpen faithful left rfl List.nil_prefix
  | gone minds closed heard front shut faithful =>
    exact .stride_gone plain minds closed heard front shut faithful

/-- What the client has sent stays sent. -/
theorem sent_react (course : Course α) (occurrence : Occurrence) :
    course.sent <+: (course.react occurrence).sent := by
  cases occurrence with
  | client act => exact List.prefix_append _ _
  | host _ | call _ _ | elapse _ | cancel | stride => exact List.prefix_rfl

theorem Phase.react (phase : Phase manners course) (plain : manners.IsPlain course.sent)
    (occurrence : Occurrence) : Phase manners (course.react occurrence) := by
  cases occurrence with
  | client act => exact phase.client act
  | host act => exact phase.host act
  | call endpoint link => exact phase.call endpoint link
  | elapse milliseconds => exact phase.elapse milliseconds
  | cancel => exact phase.cancel plain
  | stride => exact phase.stride plain

theorem Phase.run (phase : Phase manners course) (occurrences : List Occurrence)
    (plain : manners.IsPlain (course.run occurrences).sent) :
    Phase manners (course.run occurrences) := by
  refine @run_induction α (fun current => manners.IsPlain current.sent → Phase manners current) course
    (fun _ => phase) ?_ occurrences plain
  intro current occurrence so plain
  have before := manners.isPlain_of_front (sent_react current occurrence) plain
  exact (so before).react before occurrence

/-- A session starts on a connection of its own. -/
theorem Phase.start {session : Session α} (minds : Minds manners session .fresh)
    (speaks : manners.Speaks .fresh) (remote : Endpoint) (room : Nat) (putBack : Bytes)
    (network : Network) (whenCancelled : Option α) :
    Phase manners (Course.start session remote room putBack network whenCancelled) :=
  .own .whole minds rfl speaks {
    front := rfl
    isOpen := rfl
    relay := rfl
    heard := List.nil_prefix
    input := fun _ => by
      simp only [Course.start, Wire.unread, Wire.input, Link.fresh, Dialogue.fresh, ↓reduceIte,
        List.nil_append, List.append_nil]
    whole := fun _ => rfl
    broken := by rintro ⟨⟩
    hostRead := rfl
    delivered := rfl
    kept := by rintro ⟨⟩
    caller := by rintro _ _ ⟨⟩
    target := fun _ => rfl
    found := by rintro ⟨⟩ }

end Course

end SocksGateway
