import SocksGateway.Proofs.Session.Segments

/-!
From the first octet of a client to the last of its request. However these are cut, a session takes just
them, answers with the handshake, and goes on to what was asked for with all that the client sends
behind; and that is what another host gets when the client is handed over.
-/

set_option autoImplicit false

namespace SocksGateway

open Handler

namespace Handler

variable {α β : Type} {world : Surroundings}

/-- On this tape, however it is cut, the handler does this, and then what another does on what is
left. -/
def Continues (world : Surroundings) (handler : Handler α) (tape : Tape) (acts : List Act)
    (next : Handler α) (left : Tape) : Prop :=
  ∀ ⦃cut⦄, cut.Alike tape → (handler.run.run world cut).Alike
    (let ran := next.run.run world left
    { ran with acts := acts ++ ran.acts })

namespace Continues

variable {handler next : Handler α} {tape middle left : Tape} {acts more : List Act}

theorem refl (fieldwise : IsFieldwise world handler) :
    Continues world handler tape [] handler tape := fun _ alike => fieldwise alike

theorem trans {last : Handler α} (first : Continues world handler tape acts next middle)
    (second : Continues world next middle more last left) :
    Continues world handler tape (acts ++ more) last left := by
  intro cut alike
  have before := first alike
  have after := second (.refl middle)
  refine ⟨before.result.trans after.result, before.conduct.trans ?_, before.tape.trans after.tape⟩
  have behind := after.conduct
  simp only [Ran.conduct, List.filter_append] at behind ⊢
  rw [behind, List.append_assoc]

/-- A part of a sequence continues, and the rest comes behind. -/
theorem bind {f : α → Handler β} (first : Continues world handler tape acts next left)
    (rest : ∀ value, IsFieldwise world (f value)) :
    Continues world (handler >>= f) tape acts (next >>= f) left := by
  intro cut alike
  have after (result : Except Failure α) : Session.IsFieldwise world
      (ExceptT.bindCont (m := Session) f result) := by
    cases result with
    | ok value => exact rest value
    | error failure => exact isFieldwise_throw failure
  have split (each : Handler α) :
      (each >>= f).run = each.run.bind (ExceptT.bindCont (m := Session) f) := rfl
  obtain ⟨result, conduct, behind⟩ := first alike
  have later := after (next.run.run world left).result behind
  rw [split, split, Session.run_bind, Session.run_bind, result]
  refine ⟨later.result, ?_, later.tape⟩
  have same := later.conduct
  simp only [Ran.conduct, List.filter_append] at conduct same ⊢
  rw [conduct, same, List.append_assoc]

/-- A part of a sequence returns, and the rest continues. -/
theorem andThen {f : α → Handler β} {value : α} {last : Handler β}
    (first : Continues world handler tape acts (pure value) middle)
    (second : Continues world (f value) middle more last left) :
    Continues world (handler >>= f) tape (acts ++ more) last left := by
  intro cut alike
  obtain ⟨result, conduct, behind⟩ := first alike
  have later := second behind
  rw [run_bind_of_ok result]
  refine ⟨later.result, ?_, later.tape⟩
  have same := later.conduct
  simp only [Ran.conduct, List.filter_append] at conduct same ⊢
  rw [conduct, same]
  exact (congrArg (· ++ _) (List.append_nil _)).trans (List.append_assoc ..).symm

/-- A part of a sequence returns, and the rest is still to come. -/
theorem onward {f : α → Handler β} {value : α}
    (first : Continues world handler tape acts (pure value) middle)
    (rest : IsFieldwise world (f value)) :
    Continues world (handler >>= f) tape acts (f value) middle := by
  simpa only [List.append_nil] using first.andThen (.refl rest)

theorem outcome (first : Continues world handler tape acts next left) :
    Continues world (outcome handler) tape acts (Handler.outcome next) left := by
  intro cut alike
  have before := first alike
  rw [run_outcome, run_outcome]
  exact ⟨congrArg Except.ok before.result, before.conduct, before.tape⟩

/-- Octets of a format are taken off the front of a tape. -/
theorem of_format {format : Bytes → α → Prop} {octets rest : Bytes} {value : α}
    (has : HasFormat handler format) (written : format octets value) (isOpen : tape.isOpen = true)
    (split : tape.input = octets ++ rest) :
    Continues world handler tape [] (pure value) (tape.holding rest) := by
  intro cut alike
  have read := has.reader.run_alike world (alike.isOpen.trans isOpen)
  rw [reading, alike.input, split, has.reads_iff.mpr written rest] at read
  exact read.trans ⟨rfl, rfl, alike.holding rest⟩

theorem of_write {octets : Bytes} (isOpen : tape.isOpen = true) (writable : tape.writes = []) :
    Continues world (write octets) tape [.wrote octets] (pure ()) tape := by
  intro cut alike
  rw [run_write world octets (alike.isOpen.trans isOpen) (alike.writes.trans writable)]
  exact ⟨rfl, rfl, alike⟩

theorem closing {handler next : Handler Unit} (inner : Continues world handler tape acts next left) :
    Continues world (closing handler) tape acts (Handler.closing next) left :=
  inner.outcome.bind fun result => isFieldwise_bind isFieldwise_close fun _ =>
    isFieldwise_ofResult result

end Continues

end Handler

/-! ## Version 5 -/

namespace Socks5

variable {world : Surroundings} {tape : Tape} {rest : Bytes}

theorem Service.continues_selectMethod {service : Service} {offered : Bytes}
    {authenticator : Authenticator} (short : offered.length < 256)
    (selected : Authenticator.select service.authenticators offered = some authenticator)
    (isOpen : tape.isOpen = true) (writable : tape.writes = [])
    (split : tape.input = greeting offered ++ rest) :
    Continues world service.selectMethod tape [.wrote [version, authenticator.method]]
      (pure authenticator) (tape.holding rest) := by
  have count : (UInt8.ofNat offered.length).toNat = offered.length :=
    UInt8.toNat_ofNat_of_lt' short
  have first : Continues world (readExactly 2) tape [] (pure [version, UInt8.ofNat offered.length])
      (tape.holding (offered ++ rest)) := .of_format (.readExactly 2) ⟨rfl, rfl⟩ isOpen split
  have checked : Continues world (checkVersion version) (tape.holding (offered ++ rest)) [] (pure ())
      (tape.holding (offered ++ rest)) :=
    .of_format (checkVersion_format version) ⟨rfl, rfl⟩ isOpen (Tape.input_holding _ _)
  have methods : Continues world (readExactly (UInt8.ofNat offered.length).toNat)
      (tape.holding (offered ++ rest)) [] (pure offered) (tape.holding rest) :=
    .of_format (.readExactly _) ⟨count.symm, rfl⟩ isOpen (Tape.input_holding _ _)
  have answered : Continues world (write [version, authenticator.method]) (tape.holding rest)
      [.wrote [version, authenticator.method]] (pure ()) (tape.holding rest) :=
    .of_write isOpen writable
  refine first.andThen (checked.andThen (methods.andThen ?_))
  rw [selected]
  exact answered.onward (isFieldwise_pure authenticator)

/-- The method that is selected for a plain greeting has no security context. -/
theorem ne_gss_of_isPlain {service : Service} {offered octets : Bytes}
    {authenticator : Authenticator} (short : offered.length < 256)
    (selected : Authenticator.select service.authenticators offered = some authenticator)
    (plain : (Protocol.socks5 service).IsPlain octets) (inside : greeting offered <+: octets)
    (context : Gss.Context) : authenticator ≠ .gss context := by
  rintro rfl
  exact plain offered context short inside selected

/-- The exchange of a method without a security context. -/
theorem Authenticator.Accepts.continues {authenticator : Authenticator} {exchange : Bytes}
    {told : List Bytes} {user : Option String} {cover : Option Gss.Protection}
    (accepts : authenticator.Accepts exchange told user cover)
    (bare : ∀ context, authenticator ≠ .gss context) (own : Option Endpoint)
    (isOpen : tape.isOpen = true) (writable : tape.writes = [])
    (split : tape.input = exchange ++ rest) :
    Continues world (authenticator.authenticate own) tape (told.map .wrote) (pure { user, own })
      (tape.holding rest) := by
  cases accepts with
  | none => exact .of_format (.pure _) ⟨rfl, rfl⟩ isOpen split
  | gss => exact absurd rfl (bare _)
  | @password accepts user password areWritable accepted =>
    have credentials : Continues world (outcome Password.readCredentials) tape []
        (pure (.ok (user, password))) (tape.holding rest) :=
      Continues.outcome (.of_format Password.readCredentials_format ⟨areWritable, rfl⟩ isOpen split)
    have answered : Continues world (write (Password.status true)) (tape.holding rest)
        [.wrote (Password.status true)] (pure ()) (tape.holding rest) := .of_write isOpen writable
    have negotiated : Continues world (Password.negotiate accepts) tape
        [.wrote (Password.status true)] (pure user) (tape.holding rest) := by
      refine credentials.andThen ?_
      dsimp only
      rw [accepted]
      exact answered.onward (isFieldwise_pure user)
    exact negotiated.onward (isFieldwise_pure _)

theorem Service.continues_authenticate {service : Service} {offered exchange : Bytes}
    {authenticator : Authenticator} {told : List Bytes} {user : Option String}
    {cover : Option Gss.Protection} (short : offered.length < 256)
    (selected : Authenticator.select service.authenticators offered = some authenticator)
    (accepts : authenticator.Accepts exchange told user cover)
    (bare : ∀ context, authenticator ≠ .gss context) (peer : Peer) (isOpen : tape.isOpen = true)
    (writable : tape.writes = []) (split : tape.input = greeting offered ++ (exchange ++ rest)) :
    Continues world (service.authenticate peer) tape
      (([version, authenticator.method] :: told).map .wrote) (pure { user, own := peer.own })
      (tape.holding rest) := by
  have engaged : Continues world service.selectMethod tape _ (pure authenticator)
      (tape.holding (exchange ++ rest)) := continues_selectMethod short selected isOpen writable split
  have accepted : Continues world (authenticator.authenticate peer.own)
      (tape.holding (exchange ++ rest)) (told.map .wrote) (pure { user, own := peer.own })
      (tape.holding rest) :=
    accepts.continues bare peer.own isOpen writable (Tape.input_holding _ tape)
  exact engaged.andThen (accepted.outcome.onward (isFieldwise_pure _))

theorem continues_readTarget {kind : UInt8} {target : Target} {address : Bytes}
    (writable : target.IsWritable) (named : kind :: address = target.encode)
    (isOpen : tape.isOpen = true) (split : tape.input = address ++ rest) :
    Continues world (readTarget kind) tape [] (pure (some target)) (tape.holding rest) := by
  have read : Continues world (readAddress kind) tape [] (pure target) (tape.holding rest) :=
    .of_format (readAddress_format kind) ⟨writable, named⟩ isOpen split
  exact read.outcome.onward (isFieldwise_pure _)

/-- The request that is made by a client who is known as this user. -/
def Request.by (head : RequestHead) (user : Option String) (peer : Peer) : Request :=
  { head, user, peer := peer.remote, own := peer.own, window := peer.window }

/-- Of the head of a request that was read only the command matters. -/
theorem Request.fulfil_by {head other : RequestHead} {user : Option String} {peer : Peer}
    (settings : CommandSettings) (link : ChainLink) (target : Option Target) :
    (Request.by head user peer).fulfil settings link target =
      (Request.by other user peer).fulfil settings link target := by
  cases link <;> cases target <;> rfl

section

variable {service : Service} {offered exchange : Bytes} {told : List Bytes}
  {authenticator : Authenticator} {user : Option String} {cover : Option Gss.Protection}
  {head : RequestHead} {peer : Peer}

/-- A request whose head was read is answered as what is behind the head calls for. -/
theorem Service.continues_serve {acts : List Act} {next : Handler Unit} {left : Tape}
    (short : offered.length < 256)
    (selected : Authenticator.select service.authenticators offered = some authenticator)
    (accepts : authenticator.Accepts exchange told user cover)
    (bare : ∀ context, authenticator ≠ .gss context) (current : head.version = version)
    (isOpen : tape.isOpen = true) (writable : tape.writes = [])
    (split : tape.input = greeting offered ++ (exchange ++ (head.octets ++ rest)))
    (performed : Continues world ((Request.by head user peer).perform service.chain.settings
      (service.chain.linkFor head.command)) (tape.holding rest) acts next left) :
    Continues world (service.serve peer) tape
      (([version, authenticator.method] :: told).map .wrote ++ acts)
      (outcome next >>= Chain.answer) left := by
  have authenticated : Continues world (service.authenticate peer) tape
      (([version, authenticator.method] :: told).map .wrote) (pure { user, own := peer.own })
      (tape.holding (head.octets ++ rest)) :=
    continues_authenticate short selected accepts bare peer isOpen writable split
  have read : Continues world readHead (tape.holding (head.octets ++ rest)) [] (pure head)
      (tape.holding rest) :=
    .of_format readHead_format ⟨current, rfl⟩ isOpen (Tape.input_holding _ tape)
  have dispatched : Continues world (service.chain.dispatch (Request.by head user peer))
      (tape.holding rest) acts (outcome next >>= Chain.answer) left := by
    rw [Chain.dispatch_eq]
    exact performed.outcome.bind Chain.isFieldwise_answer
  exact authenticated.andThen (read.andThen dispatched)

end

/-! ## That there is one reading only -/

theorem greeting_unique {offered other rest behind : Bytes} (short : offered.length < 256)
    (also : other.length < 256) (same : greeting offered ++ rest = greeting other ++ behind) :
    offered = other ∧ rest = behind := by
  have fields : counted offered ++ rest = counted other ++ behind := (List.cons.inj same).2
  exact (Password.readField_format.unique ⟨short, rfl⟩ ⟨also, rfl⟩ fields).2

theorem Authenticator.Accepts.unique {authenticator : Authenticator}
    {exchange others rest behind : Bytes} {told messages : List Bytes} {user name : Option String}
    {cover protection : Option Gss.Protection} (bare : ∀ context, authenticator ≠ .gss context)
    (first : authenticator.Accepts exchange told user cover)
    (second : authenticator.Accepts others messages name protection)
    (same : exchange ++ rest = others ++ behind) :
    exchange = others ∧ told = messages ∧ user = name ∧ rest = behind := by
  cases first with
  | none =>
    cases second
    exact ⟨rfl, rfl, rfl, same⟩
  | gss => exact absurd rfl (bare _)
  | @password accepts user password areWritable accepted =>
    cases second with
    | @password _ name secret alsoWritable alsoAccepted =>
      obtain ⟨octets, credentials, left⟩ := @HasFormat.unique _ _ _ Password.readCredentials_format
        _ _ _ _ (user, password) (name, secret) ⟨areWritable, rfl⟩ ⟨alsoWritable, rfl⟩ same
      cases credentials
      exact ⟨rfl, rfl, rfl, left⟩

/-- The octets up to the head of a request and what comes of them. -/
theorem opening_unique {service : Service} {offered other exchange others rest behind : Bytes}
    {authenticator second : Authenticator} {told messages : List Bytes} {user name : Option String}
    {cover protection : Option Gss.Protection} {head next : RequestHead}
    (bare : ∀ context, authenticator ≠ .gss context)
    (short : offered.length < 256) (also : other.length < 256)
    (selected : Authenticator.select service.authenticators offered = some authenticator)
    (chosen : Authenticator.select service.authenticators other = some second)
    (accepts : authenticator.Accepts exchange told user cover)
    (admits : second.Accepts others messages name protection)
    (current : head.version = version) (alike : next.version = version)
    (same : greeting offered ++ (exchange ++ (head.octets ++ rest)) =
      greeting other ++ (others ++ (next.octets ++ behind))) :
    offered = other ∧ authenticator = second ∧ exchange = others ∧ told = messages ∧ user = name ∧
      head = next ∧ rest = behind := by
  obtain ⟨rfl, inner⟩ := greeting_unique short also same
  obtain rfl := Option.some.inj (selected.symm.trans chosen)
  obtain ⟨rfl, rfl, rfl, inner⟩ := accepts.unique bare admits inner
  obtain ⟨-, rfl, left⟩ := Service.readHead_format.unique ⟨current, rfl⟩ ⟨alike, rfl⟩ inner
  exact ⟨rfl, rfl, rfl, rfl, rfl, rfl, left⟩

end Socks5

/-! ## Either version -/

namespace Protocol

variable {world : Surroundings} {tape : Tape} {rest : Bytes}

/-- What is done for a client that has asked for a command: what the command does, an answer if it
fails, and the connection is closed. -/
def fulfil (protocol : Protocol) (peer : Peer) (user : Option String) (command : UInt8)
    (target : Option Target) : Handler Unit :=
  closing <| match protocol with
    | socks4 service => outcome (match target with
        | none => return
        | some target => service.fulfil command target peer.window) >>= Socks4.Service.answer
    | socks5 service => outcome ((Socks5.Request.by { (default : Socks5.RequestHead) with command }
        user peer).fulfil service.chain.settings (service.chain.linkFor command) target) >>=
          Socks5.Chain.answer

theorem Requests.continues {protocol : Protocol} {octets : Bytes} {handshake : List Bytes}
    {user : Option String} {command : UInt8} {target : Option Target}
    (requests : protocol.Requests octets handshake user command target)
    (plain : protocol.IsPlain octets) (peer : Peer) (isOpen : tape.isOpen = true)
    (writable : tape.writes = []) (split : tape.input = octets ++ rest) :
    Continues world (protocol.handle peer) tape (handshake.map .wrote)
      (protocol.fulfil peer user command target) (tape.holding rest) := by
  cases requests with
  | @socks4 service request octets written =>
    have read : Continues world Socks4.readRequest tape [] (pure request) (tape.holding rest) :=
      .of_format Socks4.readRequest_format written isOpen split
    apply Continues.closing
    rw [Socks4.Service.serve_eq]
    exact read.onward (isFieldwise_bind
      (isFieldwise_outcome (service.isFieldwise_fulfil _ _ _)) Socks4.Service.isFieldwise_answer)
  | @socks5 service offered exchange address told authenticator user cover head target short selected
      accepts current served named encoded =>
    have bare := Socks5.ne_gss_of_isPlain short selected plain
      ⟨exchange ++ (head.octets ++ address), by simp only [List.append_assoc]⟩
    have read : Continues world (Socks5.readTarget head.kind) (tape.holding (address ++ rest)) []
        (pure (some target)) (tape.holding rest) :=
      Socks5.continues_readTarget named encoded isOpen (Tape.input_holding _ tape)
    have performed : Continues world ((Socks5.Request.by head user peer).perform
        service.chain.settings (service.chain.linkFor head.command)) (tape.holding (address ++ rest)) []
        ((Socks5.Request.by head user peer).fulfil service.chain.settings
          (service.chain.linkFor head.command) (some target)) (tape.holding rest) := by
      rw [Socks5.Request.perform_eq _ _ served]
      exact read.onward (Socks5.Request.isFieldwise_fulfil _ _ _ _)
    have served := Socks5.Service.continues_serve short selected accepts bare current isOpen writable
      (by simpa only [List.append_assoc] using split) performed
    rw [List.append_nil, Socks5.Request.fulfil_by] at served
    exact served.closing
  | @unserved service offered exchange told authenticator user cover head short selected accepts
      current unserved =>
    have bare := Socks5.ne_gss_of_isPlain short selected plain
      ⟨exchange ++ head.octets, by simp only [List.append_assoc]⟩
    have performed : Continues world ((Socks5.Request.by head user peer).perform
        service.chain.settings (service.chain.linkFor head.command)) (tape.holding rest) []
        ((Socks5.Request.by head user peer).fulfil service.chain.settings
          (service.chain.linkFor head.command) none) (tape.holding rest) := by
      rw [unserved]
      exact .refl (isFieldwise_write _)
    have served := Socks5.Service.continues_serve short selected accepts bare current isOpen writable
      (by simpa only [List.append_assoc] using split) performed
    rw [List.append_nil, Socks5.Request.fulfil_by] at served
    exact served.closing

/-- A stream starts with one request at most. -/
theorem Requests.unique {protocol : Protocol} {octets others rest behind : Bytes}
    {handshake messages : List Bytes} {user name : Option String} {command other : UInt8}
    {target place : Option Target}
    (first : protocol.Requests octets handshake user command target)
    (second : protocol.Requests others messages name other place)
    (plain : protocol.IsPlain octets) (same : octets ++ rest = others ++ behind) :
    octets = others ∧ handshake = messages ∧ user = name ∧ command = other ∧ target = place ∧
      rest = behind := by
  cases first with
  | socks4 written =>
    cases second with
    | socks4 also =>
      obtain ⟨rfl, rfl, left⟩ := Socks4.readRequest_format.unique written also same
      exact ⟨rfl, rfl, rfl, rfl, rfl, left⟩
  | @socks5 service offered exchange address told authenticator user cover head target short selected
      accepts current served named encoded =>
    have bare := Socks5.ne_gss_of_isPlain short selected plain
      ⟨exchange ++ (head.octets ++ address), by simp only [List.append_assoc]⟩
    cases second with
    | socks5 short' selected' accepts' current' served' named' encoded' =>
      simp only [List.append_assoc] at same
      obtain ⟨rfl, rfl, rfl, rfl, rfl, rfl, inner⟩ := Socks5.opening_unique bare short short' selected
        selected' accepts accepts' current current' same
      obtain ⟨rfl, rfl, left⟩ := (Socks5.readAddress_format head.kind).unique ⟨named, encoded⟩
        ⟨named', encoded'⟩ inner
      exact ⟨rfl, rfl, rfl, rfl, rfl, left⟩
    | unserved short' selected' accepts' current' unserved =>
      simp only [List.append_assoc] at same
      obtain ⟨rfl, rfl, rfl, rfl, rfl, rfl, -⟩ := Socks5.opening_unique bare short short' selected
        selected' accepts accepts' current current' same
      exact absurd unserved served
  | @unserved service offered exchange told authenticator user cover head short selected accepts
      current unserved =>
    have bare := Socks5.ne_gss_of_isPlain short selected plain
      ⟨exchange ++ head.octets, by simp only [List.append_assoc]⟩
    cases second with
    | socks5 short' selected' accepts' current' served named' encoded' =>
      simp only [List.append_assoc] at same
      obtain ⟨rfl, rfl, rfl, rfl, rfl, rfl, -⟩ := Socks5.opening_unique bare short short' selected
        selected' accepts accepts' current current' same
      exact absurd unserved served
    | unserved short' selected' accepts' current' unserved' =>
      simp only [List.append_assoc] at same
      obtain ⟨rfl, rfl, rfl, rfl, rfl, rfl, left⟩ := Socks5.opening_unique bare short short' selected
        selected' accepts accepts' current current' same
      exact ⟨rfl, rfl, rfl, rfl, rfl, left⟩

end Protocol

end SocksGateway
