import SocksGateway.Proofs.Relay.History
import SocksGateway.Proofs.Session.Path
import SocksGateway.Session.Live

/-!
Courses of a live session: single nodes of the session, acts of its client and of the host on the
other connection, the time and a cancellation, in any order, and what an observer notes of them. The
observer has no influence on the session.
-/

set_option autoImplicit false

namespace SocksGateway

namespace Session

variable {α : Type}

/-- The first node of a session alone. It comes to the rest of the session. -/
def head : Session α → Session (Session α)
  | done result => done (done result)
  | read limit next => read limit fun answer => done (next answer)
  | unread octets next => unread octets (done next)
  | write octets next => write octets fun answer => done (next answer)
  | whetherOpen next => whetherOpen fun answer => done (next answer)
  | resolve name next => resolve name fun answer => done (next answer)
  | dial endpoint next => dial endpoint fun answer => done (next answer)
  | listen ip next => listen ip fun answer => done (next answer)
  | accept window next => accept window fun answer => done (next answer)
  | takeUp next => takeUp fun answer => done (next answer)
  | relay window next => relay window fun answer => done (next answer)
  | associate ip terms next => associate ip terms fun answer => done (next answer)
  | attend next => attend (done next)
  | protect protection next => protect protection (done next)
  | close next => close (done next)

/-- The first node of a session, done or attempted. -/
def stride (session : Session α) (scene : Scene) : Session α × Scene :=
  let (rest, scene) := session.head.poll scene
  (rest.bind id, scene)

section Nodes

variable (next : Session α) (scene : Scene)

theorem stride_read (limit : Nat) (next : Except IoError Bytes → Session α) :
    (read limit next).stride scene =
      match scene.front.wire.read limit with
      | (.pending, _) => (read limit next, scene)
      | (.ready answer, wire) => (next answer, scene.setFront wire) := by
  simp only [stride, head, poll]
  rcases scene.front.wire.read limit with ⟨_ | _, _⟩ <;> rfl

theorem stride_write (octets : Bytes) (next : Except IoError Unit → Session α) :
    (write octets next).stride scene =
      match scene.front.wire.write octets with
      | (.pending, _) => (write octets next, scene)
      | (.ready (.error error), _) => (next (.error error), scene)
      | (.ready (.ok accepted), wire) =>
        if accepted < octets.length then
          (write (octets.drop accepted) next, scene.setFront wire)
        else (next (.ok ()), scene.setFront wire) := by
  simp only [stride, head, poll]
  rcases scene.front.wire.write octets with ⟨(_ | accepted) | _, _⟩
  · rfl
  · dsimp only
    split <;> rfl
  · rfl

theorem stride_dial (endpoint : Endpoint) (next : Dialled → Session α) :
    (dial endpoint next).stride scene =
      if scene.isCancelled then (next .cancelled, scene)
      else (next (scene.network.dial endpoint),
        match scene.network.dial endpoint with
        | .connected _ => scene.connectedTo endpoint (.fresh Scene.targetCapacity)
        | _ => scene) := by
  simp only [stride, head, poll]
  split <;> rfl

theorem stride_accept (window : Duration) (next : Called → Session α) :
    (accept window next).stride scene =
      match scene.attemptAccept window with
      | (none, scene) => (accept window next, scene)
      | (some answer, scene) => (next answer, scene) := by
  simp only [stride, head, poll]
  rcases scene.attemptAccept window with ⟨_ | _, _⟩ <;> rfl

theorem stride_relay (window : Duration) (next : Except Failure Unit → Session α) :
    (relay window next).stride scene =
      match scene.attemptRelay window with
      | (none, scene) => (relay window next, scene)
      | (some answer, scene) => (next answer, scene) := by
  simp only [stride, head, poll]
  rcases scene.attemptRelay window with ⟨_ | _, _⟩ <;> rfl

theorem stride_attend :
    (attend next).stride scene =
      match scene.attemptAttend with
      | (false, scene) => (attend next, scene)
      | (true, scene) => (next, { scene with association := none }) := by
  simp only [stride, head, poll]
  rcases scene.attemptAttend with ⟨_ | _, _⟩ <;> rfl

end Nodes

/-- So many nodes of a session, one after another. -/
def strides : (count : Nat) → Session α → Scene → Session α × Scene
  | 0, session, scene => (session, scene)
  | count + 1, session, scene =>
    let (next, scene) := session.stride scene
    next.strides count scene

/-- A node that has to wait. -/
theorem exists_strides_of_wait {session next : Session α} {scene after : Scene}
    (first : session.stride scene = (next, after)) :
    ∃ count, (next, after) = session.strides count scene :=
  ⟨1, by rw [strides, first]; rfl⟩

theorem exists_strides_of_rest {session next : Session α} {scene after : Scene}
    (first : session.stride scene = (next, after))
    (rest : ∃ count, next.poll after = next.strides count after) :
    ∃ count, next.poll after = session.strides count scene := by
  obtain ⟨count, same⟩ := rest
  exact ⟨count + 1, by rw [strides, first]; exact same⟩

/-- Running until the next wait is doing one node after another. -/
theorem exists_strides_poll (session : Session α) (scene : Scene) :
    ∃ count, session.poll scene = session.strides count scene := by
  induction session generalizing scene with
  | done result => exact ⟨0, poll_done result scene⟩
  | read limit next ih =>
    rw [poll]
    split
    · rename_i given
      exact exists_strides_of_wait (by rw [stride_read, given])
    · rename_i answer wire given
      exact exists_strides_of_rest (by rw [stride_read, given]) (ih answer _)
  | write octets next ih =>
    rw [poll]
    split
    · rename_i given
      exact exists_strides_of_wait (by rw [stride_write, given])
    · rename_i error _ given
      exact exists_strides_of_rest (by rw [stride_write, given]) (ih (.error error) _)
    · rename_i accepted wire given
      split
      · rename_i short
        exact exists_strides_of_wait (by rw [stride_write, given]; exact if_pos short)
      · rename_i whole
        exact exists_strides_of_rest (by rw [stride_write, given]; exact if_neg whole) (ih (.ok ()) _)
  | dial endpoint next ih =>
    rw [poll]
    split
    · rename_i cancelled
      exact exists_strides_of_rest (by rw [stride_dial, if_pos cancelled]) (ih .cancelled _)
    · rename_i goesOn
      exact exists_strides_of_rest ((stride_dial scene endpoint next).trans (if_neg goesOn)) (ih _ _)
  | accept window next ih =>
    rw [poll]
    split
    · rename_i given
      exact exists_strides_of_wait (by rw [stride_accept, given])
    · rename_i answer after given
      exact exists_strides_of_rest (by rw [stride_accept, given]) (ih answer _)
  | relay window next ih =>
    rw [poll]
    split
    · rename_i given
      exact exists_strides_of_wait (by rw [stride_relay, given])
    · rename_i answer after given
      exact exists_strides_of_rest (by rw [stride_relay, given]) (ih answer _)
  | attend next ih =>
    rw [poll]
    split
    · rename_i given
      exact exists_strides_of_wait (by rw [stride_attend, given])
    · rename_i after given
      exact exists_strides_of_rest (by rw [stride_attend, given]) (ih _)
  | unread octets next ih | protect protection next ih | close next ih =>
    rw [poll]
    exact exists_strides_of_rest rfl (ih _)
  | whetherOpen next ih | resolve name next ih | listen ip next ih | takeUp next ih
  | associate ip terms next ih =>
    rw [poll]
    exact exists_strides_of_rest rfl (ih _ _)

end Session

namespace Live

variable {α : Type}

/-- One node of the session. -/
def stride (live : Live α) : Live α :=
  let (session, scene) := live.session.stride live.scene
  { live with session, scene }

def strides : (count : Nat) → Live α → Live α
  | 0, live => live
  | count + 1, live => strides count live.stride

theorem strides_eq (count : Nat) (live : Live α) :
    live.strides count =
      let (session, scene) := live.session.strides count live.scene
      { live with session, scene } := by
  induction count generalizing live with
  | zero => rfl
  | succ count ih => exact ih live.stride

/-- On a connection of its own a live session turns by doing one node after another. -/
theorem exists_strides_turn {live : Live α} {wire : Wire} (bare : live.scene.front = .bare wire) :
    ∃ count, live.turn = live.strides count := by
  have settled : { live.scene with front := live.scene.front.settle } = live.scene := by
    rw [bare, Front.settle, ← bare]
  obtain ⟨count, same⟩ := live.session.exists_strides_poll live.scene
  refine ⟨count, ?_⟩
  rw [turn, settled, same, strides_eq]

end Live

namespace Scene

/-- The host at the other end of the connection that was dialled or accepted does something there, if
there is one. -/
def host (act : FarAct) (scene : Scene) : FarAnswer × Scene :=
  match scene.relay, scene.target with
  | some relay, _ =>
    let (answer, link) := relay.target.link.far act
    (answer, { scene with relay := some { relay with target := { relay.target with link } } })
  | none, some target =>
    let (answer, link) := target.link.far act
    (answer, { scene with target := some { target with link } })
  | none, none => (.gone, scene)

/-- Somebody connects to where the session listens, unless somebody else waits there. What the link
holds then has been sent already. -/
def call (endpoint : Endpoint) (link : Link) (scene : Scene) : Scene :=
  let unread : Link := { link with outbound := { link.outbound with held := [] } }
  { scene with caller := scene.caller <|> some (endpoint, unread) }

/-- The relay under way after it has done what it can. -/
def pumped (window : Duration) (scene : Scene) : Option Relay :=
  (scene.relaying window).map fun relay =>
    (if scene.isCancelled then relay.cancel else relay).settle

theorem attemptRelay_eq (window : Duration) (scene : Scene) :
    scene.attemptRelay window =
      match scene.pumped window with
      | none => (some (.error (.ofIo .notConnected)), scene)
      | some relay =>
        match relay.result with
        | some result =>
          (some result, { scene.setFront relay.client with relay := none, target := none })
        | none => (none, { scene.setFront relay.client with relay := some relay }) := by
  unfold attemptRelay pumped
  cases scene.relaying window <;> rfl

end Scene

/-- What can happen next. Nothing else happens at the same time. -/
inductive Occurrence where
  | client (act : FarAct)
  | host (act : FarAct)
  | call (endpoint : Endpoint) (link : Link)
  | elapse (milliseconds : Nat)
  | cancel
  | stride

/-- A live session and what an observer knows of its past. -/
structure Course (α : Type) where
  live : Live α
  /-- What the client has sent. -/
  sent : Bytes
  /-- What the client has read. -/
  read : Bytes := []
  /-- What the host on the other connection has sent. -/
  hostSent : Bytes := []
  hostRead : Bytes := []
  /-- What was written to the host. -/
  delivered : Bytes := []

namespace Course

variable {α : Type}

/-- A session that has not yet run. Some of what the client has sent may be put back in front. -/
def start (session : Session α) (remote : Endpoint) (room : Nat) (putBack : Bytes)
    (network : Network) (whenCancelled : Option α) : Course α where
  live := .start session (Wire.unread putBack { channel := { remote }, link := .fresh room })
    network whenCancelled
  sent := putBack

/-- What the host has sent after a node: a new connection comes with what was sent on it before. -/
def hostSentAfter (course : Course α) : Bytes :=
  match course.live.scene.target, course.live.stride.scene.target with
  | none, some target => target.input
  | _, _ => course.hostSent

/-- What was written to the host after a node: only a relay writes to it. -/
def deliveredAfter (course : Course α) : Bytes :=
  match course.live.session with
  | .relay window _ =>
    match course.live.scene.pumped window with
    | some relay => course.hostRead ++ relay.target.link.outbound.held
    | none => course.delivered
  | _ => course.delivered

def react (course : Course α) : Occurrence → Course α
  | .client act =>
    let (answer, link) := course.live.link.far act
    { course with
      live := course.live.withLink link
      sent := course.sent ++ Relay.sent act answer, read := course.read ++ Relay.got answer }
  | .host act =>
    let (answer, scene) := course.live.scene.host act
    { course with
      live := { course.live with scene }
      hostSent := course.hostSent ++ Relay.sent act answer
      hostRead := course.hostRead ++ Relay.got answer }
  | .call endpoint link =>
    { course with live := { course.live with scene := course.live.scene.call endpoint link } }
  | .elapse milliseconds =>
    { course with
      live := { course.live with
        scene := { course.live.scene with clock := course.live.scene.clock + milliseconds } } }
  | .cancel => { course with live := course.live.cancel }
  | .stride =>
    { course with
      live := course.live.stride
      hostSent := course.hostSentAfter, delivered := course.deliveredAfter }

def run (course : Course α) (occurrences : List Occurrence) : Course α :=
  occurrences.foldl react course

/-- What the client was handed: what it has read and what waits for it. -/
def handed (course : Course α) : Bytes := course.read ++ course.live.link.outbound.held

/-- What every occurrence preserves holds after every course. -/
theorem run_induction {holds : Course α → Prop} {course : Course α} (start : holds course)
    (react : ∀ current occurrence, holds current → holds (current.react occurrence))
    (occurrences : List Occurrence) : holds (course.run occurrences) := by
  induction occurrences generalizing course with
  | nil => exact start
  | cons occurrence rest ih => exact ih (react course occurrence start)

/-- What a live session makes of a turn is a part of a course. -/
theorem exists_occurrences_turn {course : Course α} {wire : Wire}
    (bare : course.live.scene.front = .bare wire) :
    ∃ occurrences, (course.run occurrences).live = course.live.turn := by
  obtain ⟨count, same⟩ := course.live.exists_strides_turn bare
  refine ⟨List.replicate count .stride, ?_⟩
  rw [same]
  clear same bare
  induction count generalizing course with
  | zero => rfl
  | succ count ih => exact @ih (course.react .stride)

end Course

end SocksGateway
