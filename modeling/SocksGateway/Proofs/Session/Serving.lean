import SocksGateway.Proofs.Session.Dialogue

/-!
How a request is served: the client gets replies and nothing else, up to the allowance of its command,
until it is handed over to a relay or its connection is closed, and after that nothing at all. It is
handed over only when the request was heard to its end and no further.
-/

set_option autoImplicit false

namespace SocksGateway

/-- What a session may do at a point of a dialogue that nothing covers. Everything but to ask whether
the connection is its own, and to close it, is for one who has the connection. -/
def Dialogue.Permits (dialogue : Dialogue) : Deed → Prop
  | .whetherOpen _ | .close => True
  | .protect _ => False
  | .read .. => dialogue.isOpen = true ∧ dialogue.isAttentive = true
  | .unread octets =>
    dialogue.isOpen = true ∧ dialogue.isAttentive = true ∧ octets <:+ dialogue.heard
  | .dial .. | .accept .. => dialogue.isOpen = true ∧ dialogue.counterpart = .unsought
  | .takeUp _ => dialogue.isOpen = true ∧ dialogue.counterpart = .found
  | .relay .. => dialogue.isOpen = true ∧ dialogue.isBroken = false ∧
    dialogue.isAttentive = true ∧ dialogue.counterpart = .found
  | _ => dialogue.isOpen = true

/-- How a session behaves towards its client, as long as what the client sends is plain. -/
structure Manners where
  IsPlain : Bytes → Prop
  isPlain_of_front : ∀ {front whole : Bytes}, front <+: whole → IsPlain whole → IsPlain front
  /-- What it says to the client for what it has heard. -/
  Speaks : Dialogue → Prop
  /-- What it has heard when it hands the client over. -/
  HandsOver : Bytes → Prop

/-- What is done by one who has such manners. -/
structure Manners.Allows (manners : Manners) (dialogue : Dialogue) (deed : Deed) : Prop where
  permits : dialogue.Permits deed
  speaks : manners.Speaks (dialogue.after deed)
  handsOver : ∀ window answer, deed = .relay window answer → manners.HandsOver dialogue.heard

def Manners.Admits (manners : Manners) (dialogue : Dialogue) (deed : Deed) : Prop :=
  manners.IsPlain (dialogue.after deed).heard → manners.Allows dialogue deed

/-- How many replies more a command may get: another host that is lost calls for one. -/
def Counterpart.excess : Counterpart → Nat
  | lost => 1
  | _ => 0

theorem Counterpart.excess_of_ne {counterpart : Counterpart} (kept : counterpart ≠ .lost) :
    counterpart.excess = 0 := by
  cases counterpart with
  | lost => exact absurd rfl kept
  | _ => rfl

/-- The terms on which a request is served. -/
structure Terms where
  IsReply : Bytes → Prop
  /-- What was sent before the request came. -/
  handshake : List Bytes
  /-- What had been heard when the command was known. -/
  request : Bytes
  /-- How many replies the command may get. -/
  allowance : Nat
  /-- What has been heard when the request is complete. -/
  IsWhole : Bytes → Prop

namespace Terms

variable {terms : Terms} {dialogue : Dialogue} {count : Nat}

/-- At most so many replies were sent since the handshake. -/
def Replied (terms : Terms) (count : Nat) (dialogue : Dialogue) : Prop :=
  ∃ replies, dialogue.told = terms.handshake ++ replies ∧ replies.length ≤ count ∧
    ∀ octets ∈ replies, terms.IsReply octets

/-- The allowance is kept. -/
structure Settled (terms : Terms) (dialogue : Dialogue) : Prop where
  heard : terms.request <+: dialogue.heard
  replied : terms.Replied (terms.allowance + dialogue.counterpart.excess) dialogue

/-- The client can still be answered, and has had so many replies at most. -/
structure Ready (terms : Terms) (count : Nat) (dialogue : Dialogue) : Prop where
  heard : terms.request <+: dialogue.heard
  replied : terms.Replied count dialogue
  isOpen : dialogue.isOpen = true
  whole : dialogue.isBroken = false
  isAttentive : dialogue.isAttentive = true

/-- Where a command may fail: if the client can still be answered, a reply is left for that. -/
structure Stranded (terms : Terms) (dialogue : Dialogue) : Prop extends terms.Settled dialogue where
  spare : dialogue.isOpen = true → dialogue.isBroken = false →
    terms.Replied (terms.allowance + dialogue.counterpart.excess - 1) dialogue

/-- What may be done for a request. -/
structure Serves (terms : Terms) (dialogue : Dialogue) (deed : Deed) : Prop where
  permits : dialogue.Permits deed
  settled : terms.Settled (dialogue.after deed)
  whole : ∀ window answer, deed = .relay window answer → terms.IsWhole dialogue.heard

theorem Replied.mono {more : Nat} (replied : terms.Replied count dialogue) (le : count ≤ more) :
    terms.Replied more dialogue := by
  obtain ⟨replies, told, few, each⟩ := replied
  exact ⟨replies, told, Nat.le_trans few le, each⟩

theorem Replied.tell {octets : Bytes} (replied : terms.Replied count dialogue)
    (reply : terms.IsReply octets) : terms.Replied (count + 1) (dialogue.tell octets) := by
  obtain ⟨replies, told, few, each⟩ := replied
  refine ⟨replies ++ [octets], ?_, ?_, ?_⟩
  · rw [Dialogue.told_tell, told, List.append_assoc]
  · rw [List.length_append]
    exact Nat.succ_le_succ few
  · intro other member
    rcases List.mem_append.mp member with early | late
    · exact each other early
    · exact List.mem_singleton.mp late ▸ reply

/-- A write that fails for want of a connection sends nothing, and another breaks the connection. -/
theorem Stranded.tellInPart {octets : Bytes} (stranded : terms.Stranded dialogue)
    (positive : 0 < terms.allowance) (reply : terms.IsReply octets) :
    terms.Stranded (dialogue.tellInPart octets) := by
  unfold Dialogue.tellInPart
  split
  · rename_i usable
    simp only [Bool.and_eq_true, Bool.not_eq_true'] at usable
    obtain ⟨isOpen, whole⟩ := usable
    have replied := (stranded.spare isOpen whole).tell reply
    rw [Nat.sub_add_cancel (Nat.add_pos_left positive _)] at replied
    exact ⟨⟨stranded.heard, replied⟩, fun _ broken => by cases broken⟩
  · exact stranded

theorem Ready.settled (ready : terms.Ready count dialogue) (room : count ≤ terms.allowance) :
    terms.Settled dialogue := ⟨ready.heard, ready.replied.mono (Nat.le_add_right_of_le room)⟩

theorem Ready.stranded (ready : terms.Ready count dialogue) (room : count < terms.allowance) :
    terms.Stranded dialogue :=
  ⟨ready.settled (Nat.le_of_lt room),
    fun _ _ => ready.replied.mono (Nat.le_sub_one_of_lt (Nat.lt_add_right _ room))⟩

/-- Where another host is lost a reply is left even if the allowance is spent. -/
theorem Ready.stranded_of_lost (ready : terms.Ready count dialogue)
    (room : count ≤ terms.allowance) (lost : dialogue.counterpart = .lost) :
    terms.Stranded dialogue := by
  refine ⟨ready.settled room, fun _ _ => ?_⟩
  rw [lost]
  exact ready.replied.mono room

theorem Ready.hear (ready : terms.Ready count dialogue) (octets : Bytes) :
    terms.Ready count (dialogue.hear octets) :=
  { ready with heard := ready.heard.trans (List.prefix_append _ _) }

theorem Ready.tell {octets : Bytes} (ready : terms.Ready count dialogue)
    (reply : terms.IsReply octets) : terms.Ready (count + 1) (dialogue.tell octets) :=
  { ready with replied := ready.replied.tell reply }

end Terms

namespace Handler

variable {α : Type} {terms : Terms} {dialogue : Dialogue} {count : Nat}
  {fails : Failure → Dialogue → Prop}

/-- What is done for a request, which fails only where that can still be answered. -/
abbrev ServesBy (terms : Terms) (post : α → Dialogue → Prop) (handler : Handler α)
    (dialogue : Dialogue) : Prop :=
  Keeps terms.Serves (fun _ => terms.Stranded) post handler dialogue

/-- What a deed that neither reads nor writes may be done for. -/
theorem serves_of_ready {deed : Deed} (ready : terms.Ready count dialogue)
    (room : count ≤ terms.allowance) (permits : dialogue.Permits deed)
    (heard : (dialogue.after deed).heard = dialogue.heard)
    (told : (dialogue.after deed).told = dialogue.told)
    (whole : ∀ window answer, deed = .relay window answer → terms.IsWhole dialogue.heard) :
    terms.Serves dialogue deed := by
  refine ⟨permits, ⟨heard ▸ ready.heard, ?_⟩, whole⟩
  obtain ⟨replies, said, few, each⟩ := ready.replied
  exact ⟨replies, told.trans said, Nat.le_trans few (Nat.le_add_right_of_le room), each⟩

/-- The octets of a part of the request. -/
theorem HasFormat.serves {handler : Handler α} {format : Bytes → α → Prop}
    (has : HasFormat handler format) (ready : terms.Ready count dialogue)
    (room : count < terms.allowance) :
    ServesBy terms
      (fun value after => ∃ octets, after = dialogue.hear octets ∧ format octets value)
      handler dialogue := by
  apply has.keeps
  · intro octets limit answer
    have heard := ready.hear octets
    refine ⟨⟨heard.isOpen, heard.isAttentive⟩, ?_, by rintro _ _ ⟨⟩⟩
    cases answer with
    | ok more => exact (heard.hear more).settled (Nat.le_of_lt room)
    | error error => exact heard.settled (Nat.le_of_lt room)
  · intro octets _
    exact (ready.hear octets).stranded room

theorem reply_serves {octets : Bytes} (ready : terms.Ready count dialogue)
    (room : count < terms.allowance) (reply : terms.IsReply octets) :
    ServesBy terms (fun _ after => after = dialogue.tell octets ∧ terms.Ready (count + 1) after)
      (write octets) dialogue := by
  have stranded := ready.stranded room
  have broken := stranded.tellInPart (Nat.zero_lt_of_lt room) reply
  apply keeps_write
  · intro answer _
    refine ⟨ready.isOpen, ?_, by rintro _ _ ⟨⟩⟩
    cases answer with
    | ok => exact (ready.tell reply).settled room
    | error error => exact broken.toSettled
  · intro _
    exact broken
  · intro _ _
    exact ⟨rfl, ready.tell reply⟩

/-- A reply with which a command comes to its end. -/
theorem refusal_serves {octets : Bytes} (ready : terms.Ready count dialogue)
    (room : count < terms.allowance) (reply : terms.IsReply octets) :
    ServesBy terms (fun _ => terms.Settled) (write octets) dialogue :=
  keeps_mono (reply_serves ready room reply) (fun _ _ held => held) (fun _ _ held => held)
    fun _ _ held => held.2.settled room

theorem resolve_serves (name : String) (ready : terms.Ready count dialogue)
    (room : count ≤ terms.allowance) :
    ServesBy terms (fun _ after => after = dialogue) (effect (Session.resolve name)) dialogue :=
  fun _ _ => ⟨serves_of_ready ready room ready.isOpen rfl rfl (by rintro _ _ ⟨⟩), rfl⟩

theorem route_serves (policy : RoutePolicy) (target : Target) (user : Option String)
    (ready : terms.Ready count dialogue) (room : count ≤ terms.allowance) :
    ServesBy terms (fun _ after => after = dialogue) (route policy target user) dialogue := by
  unfold route
  split
  · exact keeps_pure rfl
  · apply keeps_bind (resolve_serves _ ready room)
    rintro _ _ rfl
    exact keeps_pure rfl

/-- What the search for another connection has come to. -/
theorem dial_serves (endpoint : Endpoint) (ready : terms.Ready count dialogue)
    (room : count ≤ terms.allowance) (unsought : dialogue.counterpart = .unsought) :
    ServesBy terms (fun answer after => terms.Ready count after ∧ after.heard = dialogue.heard ∧
        ∀ own, answer = .connected own → after.counterpart = .found)
      (effect (Session.dial endpoint)) dialogue := by
  intro answer _
  cases answer with
  | connected own =>
    exact ⟨serves_of_ready ready room ⟨ready.isOpen, unsought⟩ rfl rfl (by rintro _ _ ⟨⟩),
      { ready with }, rfl, fun _ _ => rfl⟩
  | failed | cancelled =>
    exact ⟨serves_of_ready ready room ⟨ready.isOpen, unsought⟩ rfl rfl (by rintro _ _ ⟨⟩),
      { ready with }, rfl, by rintro _ ⟨⟩⟩

theorem accept_serves (window : Duration) (ready : terms.Ready count dialogue)
    (room : count ≤ terms.allowance) (unsought : dialogue.counterpart = .unsought) :
    ServesBy terms (fun answer after => terms.Ready count after ∧ after.heard = dialogue.heard ∧
        ∀ endpoint, answer = .peer endpoint → after.counterpart = .found)
      (effect (Session.accept window)) dialogue := by
  intro answer _
  cases answer with
  | peer endpoint =>
    exact ⟨serves_of_ready ready room ⟨ready.isOpen, unsought⟩ rfl rfl (by rintro _ _ ⟨⟩),
      { ready with }, rfl, fun _ _ => rfl⟩
  | timedOut | failed | cancelled =>
    exact ⟨serves_of_ready ready room ⟨ready.isOpen, unsought⟩ rfl rfl (by rintro _ _ ⟨⟩),
      { ready with }, rfl, by rintro _ ⟨⟩⟩

theorem listen_serves (ip : Ip) (ready : terms.Ready count dialogue)
    (room : count ≤ terms.allowance) :
    ServesBy terms (fun _ after => after = dialogue) (effect (Session.listen ip)) dialogue :=
  fun _ _ => ⟨serves_of_ready ready room ready.isOpen rfl rfl (by rintro _ _ ⟨⟩), rfl⟩

theorem associate_serves (ip : Ip) (associated : AssociationTerms)
    (ready : terms.Ready count dialogue) (room : count ≤ terms.allowance) :
    ServesBy terms (fun _ after => after = dialogue) (effect (Session.associate ip associated))
      dialogue :=
  fun _ _ => ⟨serves_of_ready ready room ready.isOpen rfl rfl (by rintro _ _ ⟨⟩), rfl⟩

theorem attend_serves (ready : terms.Ready count dialogue) (room : count ≤ terms.allowance) :
    ServesBy terms (fun _ => terms.Settled) (ExceptT.lift (Session.attend (Session.done ())))
      dialogue := by
  have settled : terms.Settled (dialogue.after .attend) :=
    ⟨ready.heard, (ready.settled room).replied⟩
  exact ⟨serves_of_ready ready room ready.isOpen rfl rfl (by rintro _ _ ⟨⟩), settled⟩

theorem takingUp_serves (ready : terms.Ready count dialogue) (room : count ≤ terms.allowance)
    (found : dialogue.counterpart = .found) :
    ServesBy terms (fun answer after => terms.Ready count after ∧ after.heard = dialogue.heard ∧
        (answer = .ok () → after.counterpart = .found))
      (effect Session.takeUp) dialogue := by
  intro answer _
  cases answer with
  | ok =>
    exact ⟨serves_of_ready ready room ⟨ready.isOpen, found⟩ rfl rfl (by rintro _ _ ⟨⟩), ready, rfl,
      fun _ => found⟩
  | error error =>
    exact ⟨serves_of_ready ready room ⟨ready.isOpen, found⟩ rfl rfl (by rintro _ _ ⟨⟩),
      { ready with }, rfl, by rintro ⟨⟩⟩

theorem takeUp_serves (ready : terms.Ready count dialogue) (room : count ≤ terms.allowance)
    (found : dialogue.counterpart = .found) :
    ServesBy terms (fun _ after => after = dialogue) takeUp dialogue := by
  intro answer _
  refine ⟨serves_of_ready ready room ⟨ready.isOpen, found⟩ ?_ ?_ (by rintro _ _ ⟨⟩), ?_⟩
  · cases answer <;> rfl
  · cases answer <;> rfl
  cases answer with
  | ok => exact rfl
  | error error =>
    have lost : terms.Ready count { dialogue with counterpart := .lost } := { ready with }
    exact lost.stranded_of_lost room rfl

/-- A relay leaves the session without the connection, however it ends. -/
theorem relay_serves (window : Duration) (ready : terms.Ready count dialogue)
    (room : count ≤ terms.allowance) (found : dialogue.counterpart = .found)
    (whole : terms.IsWhole dialogue.heard) :
    ServesBy terms (fun _ => terms.Settled) (do ofResult (← effect (Session.relay window)))
      dialogue := by
  have settled : terms.Settled { dialogue with isOpen := false } :=
    ⟨ready.heard, (ready.settled room).replied⟩
  have handed : ServesBy terms (fun _ after => after = { dialogue with isOpen := false })
      (effect (Session.relay window)) dialogue := fun _ _ =>
    ⟨serves_of_ready ready room ⟨ready.isOpen, ready.whole, ready.isAttentive, found⟩ rfl rfl
      fun _ _ _ => whole, rfl⟩
  apply keeps_bind handed
  rintro result _ rfl
  exact keeps_ofResult (fun _ _ => ⟨settled, by rintro ⟨⟩⟩) fun _ _ => settled

/-- A failure is answered if the connection is still the session's own; the rest comes either way. -/
theorem answer_serves {octets : Bytes} {failing : Failure → Dialogue → Prop} {rest : Handler α}
    {post : α → Dialogue → Prop} (stranded : terms.Stranded dialogue)
    (positive : 0 < terms.allowance) (reply : terms.IsReply octets)
    (others : ∀ after, terms.Settled after → Keeps terms.Serves failing post rest after) :
    Keeps terms.Serves failing post (do
      let isOpen ← effect Session.whetherOpen
      if isOpen then do
        let _ ← outcome (write octets)
        rest
      else rest) dialogue := by
  have asked : Keeps terms.Serves failing
      (fun isOpen after => after = dialogue ∧ isOpen = dialogue.isOpen)
      (effect Session.whetherOpen) dialogue :=
    keeps_whetherOpen ⟨trivial, stranded.toSettled, by rintro _ _ ⟨⟩⟩ ⟨rfl, rfl⟩
  apply keeps_bind asked
  rintro _ dialogue ⟨rfl, rfl⟩
  split
  · rename_i isOpen
    have told : Keeps terms.Serves (fun _ => terms.Settled) (fun _ => terms.Settled) (write octets)
        dialogue := by
      have broken := (stranded.tellInPart positive reply).toSettled
      have answered (whole : dialogue.isBroken = false) : terms.Settled (dialogue.tell octets) := by
        have replied := (stranded.spare isOpen whole).tell reply
        rw [Nat.sub_add_cancel (Nat.add_pos_left positive _)] at replied
        exact ⟨stranded.heard, replied⟩
      apply keeps_write
      · intro answer fits
        refine ⟨isOpen, ?_, by rintro _ _ ⟨⟩⟩
        cases answer with
        | ok => exact answered fits.2
        | error error => exact broken
      · intro _
        exact broken
      · intro _ whole
        exact answered whole
    apply keeps_bind (keeps_outcome told)
    rintro (_ | _) after settled <;> exact others after settled
  · exact others dialogue stranded.toSettled

end Handler

end SocksGateway
