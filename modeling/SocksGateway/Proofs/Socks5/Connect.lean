import SocksGateway.Proofs.Socks5.Formats

/-!
What becomes of a request of version 5 to connect. The octets behind its head are one of four things:
cut short, of an unknown type, a name that is none, or a destination; and a destination is refused, not
found, not reached or connected. Each of these calls for its own reply, and each gets it once.
-/

set_option autoImplicit false

namespace SocksGateway.Socks5

open Handler

/-! ## Destinations -/

/-- The stream starts with this destination, the octets of which stand after the type of its address. -/
def Names (kind : UInt8) (stream : Bytes) (target : Target) (rest : Bytes) : Prop :=
  ∃ octets, stream = octets ++ rest ∧ target.IsWritable ∧ kind :: octets = target.encode

/-- The stream starts with a host name that is empty or not a text, and a port. -/
def Misnames (kind : UInt8) (stream : Bytes) : Prop :=
  kind = 3 ∧ ∃ name port rest, stream = counted name ++ (Bytes.ofWord port ++ rest) ∧
    name.length < 256 ∧ (name = [] ∨ Bytes.text? name = none)

def IsUnknown (kind : UInt8) : Prop := kind ≠ 1 ∧ kind ≠ 3 ∧ kind ≠ 4

/-- How many octets an address and a port take, of which the first may be a length. -/
def fieldLength (kind first : UInt8) : Nat :=
  if kind = 1 then 6
  else if kind = 3 then 1 + first.toNat + 2
  else 18

/-- The stream ends before the destination is complete. -/
def EndsWithin (kind : UInt8) (stream : Bytes) : Prop :=
  ¬ IsUnknown kind ∧ stream.length < fieldLength kind (stream.headD 0)

theorem isUnknown_iff {kind : UInt8} : IsUnknown kind ↔
    kind ≠ AddressType.ipv4 ∧ kind ≠ AddressType.domain ∧ kind ≠ AddressType.ipv6 := .rfl

theorem fieldLength_ipv4 (first : UInt8) : fieldLength AddressType.ipv4 first = 6 := rfl

theorem fieldLength_domain (first : UInt8) :
    fieldLength AddressType.domain first = 1 + first.toNat + 2 := rfl

theorem fieldLength_of_ne {kind : UInt8} (ipv4 : kind ≠ AddressType.ipv4)
    (domain : kind ≠ AddressType.domain) (first : UInt8) : fieldLength kind first = 18 :=
  (if_neg ipv4).trans (if_neg domain)

/-- What can stand behind the head of a request. -/
inductive Destination where
  | cut
  | unknown
  | misnamed
  /-- A destination, with the octets behind it. -/
  | named (target : Target) (rest : Bytes)

/-- That is what stands in a stream behind a head with this type of address. -/
def Destination.Stands (kind : UInt8) (stream : Bytes) : Destination → Prop
  | cut => EndsWithin kind stream
  | unknown => IsUnknown kind
  | misnamed => Misnames kind stream
  | named target rest => Names kind stream target rest

/-! ## Reading them -/

theorem runOn_readWord_short {stream : Bytes} (short : stream.length < 2) :
    readWord.runOn stream = (.error (.ofIo .unexpectedEnd), []) := by
  unfold readWord
  apply runOn_bind_of_error (.readExactly 2) (fun octets => by split <;> constructor)
  rw [runOn_readExactly, if_neg (Nat.not_le.mpr short), List.drop_eq_nil_of_le (Nat.le_of_lt short)]

/-- A field of a length and a port, cut short. -/
theorem runOn_short {count : Nat} {tail : Bytes → UInt16 → Handler Target} {stream : Bytes}
    (readers : ∀ octets port, IsReader (tail octets port)) (short : stream.length < count + 2) :
    (do
      let octets ← readExactly count
      let port ← readWord
      tail octets port).runOn stream = (.error (.ofIo .unexpectedEnd), []) := by
  have behind octets : IsReader (do tail octets (← readWord)) := .bind .readWord (readers octets)
  by_cases enough : count ≤ stream.length
  · have found : (readExactly count).runOn stream = (.ok (stream.take count), stream.drop count) := by
      rw [runOn_readExactly, if_pos enough]
    rw [runOn_bind_of_ok (.readExactly count) behind found]
    apply runOn_bind_of_error .readWord (readers _)
    apply runOn_readWord_short
    rw [List.length_drop]
    omega
  · apply runOn_bind_of_error (.readExactly count) behind
    rw [runOn_readExactly, if_neg enough, List.drop_eq_nil_of_le (Nat.le_of_not_le enough)]

/-- The destination of a name with a port. -/
def named (length : UInt8) (octets : Bytes) (port : UInt16) : Handler Target := do
  if length = 0 then fail (.negotiation (.invalidDomain ""))
  match Bytes.text? octets with
  | some name => return .domain name port
  | none => fail (.negotiation (.invalidDomain (Utf8.lossy octets)))

/-- Reads what stands behind the length of a name. -/
def readNamed (length : UInt8) : Handler Target := do
  let octets ← readExactly length.toNat
  let port ← readWord
  named length octets port

theorem readAddress_domain_eq : readAddress AddressType.domain = readOctet >>= readNamed := rfl

theorem named_isReader (length : UInt8) (octets : Bytes) (port : UInt16) :
    IsReader (named length octets port) := by
  apply IsReader.when (.fail _)
  split
  · exact .pure _
  · exact .fail _

theorem readNamed_isReader (length : UInt8) : IsReader (readNamed length) :=
  .bind (.readExactly length.toNat) fun octets => .bind .readWord (named_isReader length octets)

theorem runOn_of_endsWithin {kind : UInt8} {stream : Bytes} (cut : EndsWithin kind stream) :
    (readAddress kind).runOn stream = (.error (.ofIo .unexpectedEnd), []) := by
  obtain ⟨known, short⟩ := cut
  by_cases ipv4 : kind = AddressType.ipv4
  · subst ipv4
    rw [fieldLength_ipv4] at short
    unfold readAddress
    rw [if_pos rfl]
    apply runOn_short _ short
    intro octets port
    split
    · exact .pure _
    · exact .fail _
  by_cases domain : kind = AddressType.domain
  · subst domain
    rw [fieldLength_domain] at short
    rw [readAddress_domain_eq]
    cases stream with
    | nil => exact runOn_bind_of_error .readOctet readNamed_isReader runOn_readOctet_nil
    | cons length rest =>
      rw [runOn_bind_of_ok .readOctet readNamed_isReader (runOn_readOctet_cons length rest)]
      apply runOn_short (named_isReader length)
      simp only [List.length_cons, List.headD_cons] at short
      omega
  by_cases ipv6 : kind = AddressType.ipv6
  · rw [fieldLength_of_ne ipv4 domain] at short
    unfold readAddress
    rw [if_neg ipv4, if_neg domain, if_pos ipv6]
    apply runOn_short _ short
    intro octets port
    split
    · exact .pure _
    · exact .fail _
  · exact absurd (isUnknown_iff.mpr ⟨ipv4, domain, ipv6⟩) known

theorem runOn_of_isUnknown {kind : UInt8} (unknown : IsUnknown kind) (stream : Bytes) :
    (readAddress kind).runOn stream =
      (.error (.ofNegotiation (.addressTypeNotSupported kind)), stream) := by
  obtain ⟨ipv4, domain, ipv6⟩ := isUnknown_iff.mp unknown
  unfold readAddress
  rw [if_neg ipv4, if_neg domain, if_neg ipv6]
  exact runOn_throw _ stream

/-- What is said about a name that is none is its text as far as it has one. -/
theorem runOn_readAddress_of_noName {name : Bytes} (port : UInt16) (rest : Bytes)
    (short : name.length < 256) (noName : name = [] ∨ Bytes.text? name = none) :
    (readAddress AddressType.domain).runOn (counted name ++ (Bytes.ofWord port ++ rest)) =
      (.error (.ofNegotiation (.invalidDomain (Utf8.lossy name))), rest) := by
  have size : (UInt8.ofNat name.length).toNat = name.length := UInt8.toNat_ofNat_of_lt' short
  rw [readAddress_domain_eq, counted, List.cons_append,
    runOn_bind_of_ok .readOctet readNamed_isReader (runOn_readOctet_cons _ _), readNamed, size,
    runOn_bind_of_ok (.readExactly name.length)
      (fun octets => .bind .readWord (named_isReader _ octets)) (reads_readExactly name _),
    runOn_bind_of_ok .readWord (named_isReader _ name)
      (HasFormat.readWord.reads_iff.mpr rfl rest), named]
  by_cases zero : UInt8.ofNat name.length = 0
  · have empty : name = [] := by
      rw [zero] at size
      exact List.length_eq_zero_iff.mp size.symm
    subst empty
    rw [if_pos zero]
    apply runOn_bind_of_error (.fail _) _ (runOn_throw _ rest)
    intro _
    split
    · exact .pure _
    · exact .fail _
  · have unreadable : Bytes.text? name = none := by
      rcases noName with empty | unreadable
      · subst empty
        exact absurd rfl zero
      · exact unreadable
    rw [if_neg zero, unreadable]
    exact runOn_throw _ rest

theorem runOn_of_misnames {kind : UInt8} {stream : Bytes} (misnames : Misnames kind stream) :
    ∃ text, ((readAddress kind).runOn stream).1 = .error (.ofNegotiation (.invalidDomain text)) := by
  obtain ⟨rfl, name, port, rest, rfl, short, noName⟩ := misnames
  exact ⟨_, congrArg Prod.fst (runOn_readAddress_of_noName port rest short noName)⟩

/-- What a reader finds tells what stands there. -/
def Destination.ofRead : Except Failure Target × Bytes → Destination
  | (.ok target, rest) => .named target rest
  | (.error failure, _) =>
    if failure = .ofIo .unexpectedEnd then .cut
    else if failure.unsupportedAddressType?.isSome then .unknown
    else .misnamed

theorem Destination.Stands.read {kind : UInt8} {stream : Bytes} {found : Destination}
    (stands : found.Stands kind stream) : ofRead ((readAddress kind).runOn stream) = found := by
  cases found with
  | cut =>
    rw [runOn_of_endsWithin stands]
    rfl
  | unknown => rw [runOn_of_isUnknown stands]; rfl
  | misnamed =>
    obtain ⟨text, failed⟩ := runOn_of_misnames stands
    generalize (readAddress kind).runOn stream = given at failed ⊢
    obtain ⟨result, left⟩ := given
    cases failed
    rfl
  | named target rest =>
    obtain ⟨octets, rfl, named⟩ := stands
    rw [(readAddress_format kind).reads_iff.mpr named rest]
    rfl

/-- No two different things stand in one stream. -/
theorem Destination.Stands.unique {kind : UInt8} {stream : Bytes} {found other : Destination}
    (first : found.Stands kind stream) (second : other.Stands kind stream) : other = found :=
  second.read.symm.trans first.read

/-! ## That there are no others -/

/-- Octets that are followed by at least two others are followed by a port. -/
theorem exists_port {count : Nat} {stream : Bytes} (enough : count + 2 ≤ stream.length) :
    ∃ octets port rest, octets.length = count ∧ stream = octets ++ (Bytes.ofWord port ++ rest) := by
  have front : (stream.take count).length = count := List.length_take_of_le (by omega)
  match behind : stream.drop count with
  | high :: low :: rest =>
    refine ⟨stream.take count, Bytes.word high low, rest, front, ?_⟩
    rw [Bytes.ofWord_word]
    exact (List.take_append_drop count stream).symm.trans (congrArg _ behind)
  | [] | [_] =>
    have length := congrArg List.length behind
    simp only [List.length_drop, List.length_cons, List.length_nil] at length
    omega

theorem exists_named_of_ip {kind : UInt8} {stream octets rest : Bytes} {port : UInt16} (ip : Ip)
    (family : ip.addressType = kind) (address : ip.octets = octets)
    (split : stream = octets ++ (Bytes.ofWord port ++ rest)) :
    ∃ target rest, Names kind stream target rest := by
  subst family address
  exact ⟨.ip ⟨ip, port⟩, rest, _, split.trans (List.append_assoc ..).symm, trivial, rfl⟩

theorem Destination.exists_stands (kind : UInt8) (stream : Bytes) :
    ∃ found : Destination, found.Stands kind stream := by
  by_cases unknown : IsUnknown kind
  · exact ⟨.unknown, unknown⟩
  by_cases short : stream.length < fieldLength kind (stream.headD 0)
  · exact ⟨.cut, unknown, short⟩
  by_cases ipv4 : kind = AddressType.ipv4
  · rw [ipv4, fieldLength_ipv4] at short
    obtain ⟨octets, port, rest, length, split⟩ := exists_port (Nat.not_lt.mp short : 4 + 2 ≤ _)
    match octets, length with
    | [a, b, c, d], _ =>
      obtain ⟨target, behind, names⟩ :=
        exists_named_of_ip (.v4 ⟨a, b, c, d⟩) ipv4.symm rfl split
      exact ⟨.named target behind, names⟩
  by_cases domain : kind = AddressType.domain
  · rw [domain, fieldLength_domain] at short
    cases stream with
    | nil => exact absurd (Nat.zero_lt_succ _) short
    | cons size behind =>
      simp only [List.length_cons, List.headD_cons] at short
      obtain ⟨name, port, rest, length, rfl⟩ :=
        exists_port (show size.toNat + 2 ≤ behind.length by omega)
      have counting : UInt8.ofNat name.length = size := by rw [length, UInt8.ofNat_toNat]
      have bound : name.length < 256 := length ▸ size.toNat_lt
      by_cases noName : name = [] ∨ Bytes.text? name = none
      · exact ⟨.misnamed, domain, name, port, rest, by rw [counted, counting]; rfl, bound, noName⟩
      · obtain ⟨present, readable⟩ := not_or.mp noName
        obtain ⟨text, readable⟩ := Option.ne_none_iff_exists'.mp readable
        have same := Bytes.text?_eq_some_iff.mp readable
        refine ⟨.named (.domain text port) rest, size :: name ++ Bytes.ofWord port, ?_, ⟨?_, ?_⟩, ?_⟩
        · simp only [List.cons_append, List.append_assoc]
        · rintro rfl
          exact present same.symm
        · exact same ▸ bound
        · rw [Target.encode, same, counting, domain]
          rfl
  · have ipv6 : kind = AddressType.ipv6 :=
      Classical.not_not.mp fun other => unknown (isUnknown_iff.mpr ⟨ipv4, domain, other⟩)
    rw [fieldLength_of_ne ipv4 domain] at short
    obtain ⟨octets, port, rest, length, split⟩ := exists_port (Nat.not_lt.mp short : 16 + 2 ≤ _)
    obtain ⟨ip, rfl⟩ := Target.exists_ipv6_of_length length
    obtain ⟨target, behind, names⟩ := exists_named_of_ip (.v6 ip) ipv6.symm rfl split
    exact ⟨.named target behind, names⟩

/-! ## What is done about them -/

/-- What is asked of a resolver on the way to a target. -/
def lookups (policy : RoutePolicy) (target : Target) (user : Option String) : List Act :=
  match policy.plan target user with
  | .settled _ => []
  | .lookup name _ => [.resolved name]

/-- None of it is a read. -/
theorem conduct_lookups (policy : RoutePolicy) (target : Target) (user : Option String) :
    (lookups policy target user).filter (fun act => !act.isRead) = lookups policy target user := by
  unfold lookups
  split <;> rfl

/-- The reply with this code, and with no other endpoint than 0.0.0.0:0. -/
def bareReply (code : UInt8) : Bytes := [5, code, 0, 1, 0, 0, 0, 0, 0, 0]

/-- The reply that grants a request, with an endpoint. -/
def grantAt (bound : Endpoint) : Bytes :=
  match bound.ip with
  | .v4 ip => [5, 0, 0, 1] ++ ip.octets ++ Bytes.ofWord bound.port
  | .v6 ip => [5, 0, 0, 4] ++ ip.octets ++ Bytes.ofWord bound.port

theorem reply_succeeded (bound : Endpoint) : reply .succeeded bound = grantAt bound := by
  obtain ⟨ip, port⟩ := bound
  cases ip <;> rfl

/-- What is done about a request to connect, and what the request comes to. -/
inductive Answered (world : Surroundings) (settings : CommandSettings) (request : Request) :
    Destination → List Act → Except Failure Unit → Prop where
  | cut : Answered world settings request .cut [] (.ok ())
  | unknown : Answered world settings request .unknown
      [.wrote (bareReply 8)] (.ok ())
  | misnamed (text : String) : Answered world settings request .misnamed
      [.wrote (bareReply 1)] (.error (.ofNegotiation (.invalidDomain text)))
  | refused {target : Target} {rest : Bytes} {failure : Failure} (text : String)
      (refusal : settings.policy.route world.resolver target request.user = .error failure)
      (denied : failure.cause = .denied text) : Answered world settings request (.named target rest)
      (lookups settings.policy target request.user ++ [.wrote (bareReply 2)]) (.ok ())
  | unrouted {target : Target} {rest : Bytes} {failure : Failure}
      (failed : settings.policy.route world.resolver target request.user = .error failure)
      (noDenial : ∀ text, failure.cause ≠ .denied text) :
      Answered world settings request (.named target rest)
      (lookups settings.policy target request.user ++ [.wrote (bareReply 5)]) (.ok ())
  /-- The host is not reached, or lost before the client is told of it. -/
  | unreached {target : Target} {rest : Bytes} {endpoint : Endpoint}
      (routed : settings.policy.route world.resolver target request.user = .ok endpoint)
      (failed : world.dial endpoint = .failed ∨
        (∃ own, world.dial endpoint = .connected own) ∧ ∃ error, world.takeUp = .error error) :
      Answered world settings request (.named target rest)
      (lookups settings.policy target request.user ++ [.dialled endpoint, .wrote (bareReply 5)])
      (.ok ())
  /-- The relay gets the octets behind the request, and how it ends is the result. -/
  | connected {target : Target} {rest : Bytes} {endpoint own : Endpoint}
      (routed : settings.policy.route world.resolver target request.user = .ok endpoint)
      (reached : world.dial endpoint = .connected own) (stands : world.takeUp = .ok ()) :
      Answered world settings request (.named target rest)
      (lookups settings.policy target request.user ++
        [.dialled endpoint, .wrote (if settings.reportsBound then grantAt own else bareReply 0),
          .relayed rest request.window]) (world.relay rest request.window)

variable {world : Surroundings} {tape : Tape}

/-- A reply goes to a client whose connection is still the session's own. -/
theorem replyIfOpen_run (world : Surroundings) (code : ReplyCode) (writable : tape.writes = []) :
    (replyIfOpen code).run.run world tape =
      { result := .ok ()
        acts := if tape.isOpen then [.wrote (reply code .unspecified)] else [], tape } := by
  have asked : (effect Session.whetherOpen).run.run world tape =
    { result := .ok tape.isOpen, acts := [], tape } := rfl
  rw [replyIfOpen, run_bind_of_eq asked]
  cases isOpen : tape.isOpen with
  | false => rfl
  | true =>
    have replied : (outcome (sendReply code .unspecified)).run.run world tape =
        { result := .ok (.ok ()), acts := [.wrote (reply code .unspecified)], tape } := by
      rw [run_outcome, sendReply, run_write world _ isOpen writable]
    rw [if_pos rfl, if_pos rfl, run_bind_of_eq replied]
    rfl

theorem route_run (policy : RoutePolicy) (target : Target) (user : Option String) :
    (route policy target user).run.run world tape =
      { result := .ok (policy.route world.resolver target user)
        acts := lookups policy target user, tape } := by
  unfold route lookups RoutePolicy.route
  cases policy.plan target user <;> rfl

/-- What is done about a target that was read. -/
def Request.connectTo (settings : CommandSettings) (request : Request) (target : Target) :
    Handler Unit := do
  match ← route settings.policy target request.user with
  | .error { cause := .denied _, .. } => sendReply .notAllowed .unspecified
  | .error _ => sendReply .connectionRefused .unspecified
  | .ok endpoint =>
    match ← effect (Session.dial endpoint) with
    | .cancelled => fail .cancelled
    | .failed => sendReply .connectionRefused .unspecified
    | .connected own =>
      match ← effect Session.takeUp with
      | .error _ => sendReply .connectionRefused .unspecified
      | .ok () =>
        sendReply .succeeded (if settings.reportsBound then own else .unspecified)
        ofResult (← effect (Session.relay request.window))

theorem answered_connectTo (settings : CommandSettings) (request : Request) (target : Target)
    (isOpen : tape.isOpen = true) (writable : tape.writes = [])
    (uncancelled : ∀ endpoint, world.dial endpoint ≠ .cancelled) :
    let ran := (request.connectTo settings target).run.run world tape
    Answered world settings request (.named target tape.input) ran.acts ran.result ∧
      (ran.result = .ok () ∨ ran.tape.isOpen = false ∧
        ran.result = world.relay tape.input request.window) ∧ ran.tape.writes = [] := by
  have replied code bound := run_write world (reply code bound) isOpen writable
  rw [Request.connectTo, run_bind_of_eq (route_run settings.policy target request.user)]
  cases routed : settings.policy.route world.resolver target request.user with
  | error failure =>
    dsimp only
    split
    · rename_i text _ given
      obtain ⟨rfl⟩ := given
      rw [sendReply, replied]
      exact ⟨.refused text routed rfl, .inl rfl, writable⟩
    · rename_i noDenial given
      obtain ⟨rfl⟩ := given
      rw [sendReply, replied]
      refine ⟨.unrouted routed ?_, .inl rfl, writable⟩
      intro text denied
      exact noDenial text failure.remarks (denied ▸ rfl)
    · rename_i given
      cases given
  | ok endpoint =>
    have dialled : (effect (Session.dial endpoint)).run.run world tape =
      { result := .ok (world.dial endpoint), acts := [.dialled endpoint], tape } := rfl
    dsimp only
    rw [run_bind_of_eq dialled]
    cases reached : world.dial endpoint with
    | cancelled => exact absurd reached (uncancelled endpoint)
    | failed =>
      dsimp only
      rw [sendReply, replied]
      exact ⟨.unreached routed (.inl reached), .inl rfl, writable⟩
    | connected own =>
      have taken : (effect Session.takeUp).run.run world tape =
        { result := .ok world.takeUp, acts := [], tape } := rfl
      dsimp only
      rw [run_bind_of_eq taken]
      cases stands : world.takeUp with
      | error error =>
        dsimp only
        rw [sendReply, replied]
        exact ⟨.unreached routed (.inr ⟨⟨own, reached⟩, error, stands⟩), .inl rfl, writable⟩
      | ok =>
        have relayed : (effect (Session.relay request.window)).run.run world tape =
          { result := .ok (world.relay tape.input request.window)
            acts := [.relayed tape.input request.window], tape := tape.close } := rfl
        have granted : reply .succeeded (if settings.reportsBound then own else .unspecified) =
            if settings.reportsBound then grantAt own else bareReply 0 := by
          rw [reply_succeeded]
          split <;> rfl
        dsimp only
        rw [sendReply, run_bind_of_eq (replied _ _), run_bind_of_eq relayed, granted]
        have ended (result : Except Failure Unit) : (ofResult result).run.run world tape.close =
            { result, acts := [], tape := tape.close } := by
          cases result <;> rfl
        rw [ended]
        exact ⟨.connected routed reached stands, .inr ⟨rfl, rfl⟩, writable⟩

theorem readTarget_run (world : Surroundings) (kind : UInt8) (isOpen : tape.isOpen = true) :
    let found := (readAddress kind).runOn tape.input
    ((readTarget kind).run.run world tape).Alike
      { result := match found.1 with
          | .ok target => .ok (some target)
          | .error failure => if failure = .ofIo .unexpectedEnd then .ok none else .error failure
        acts := [], tape := tape.holding found.2 } := by
  have read := (readAddress_format kind).reader.run_alike world isOpen
  have kept : ((outcome (readAddress kind)).run.run world tape).Alike
      { result := .ok ((readAddress kind).runOn tape.input).1, acts := []
        tape := tape.holding ((readAddress kind).runOn tape.input).2 } := by
    rw [run_outcome, read.result]
    exact ⟨rfl, read.conduct, read.tape⟩
  apply (run_bind_alike_of_ok kept ?_).trans
  · cases ((readAddress kind).runOn tape.input).1 with
    | ok target => exact .refl _
    | error failure => dsimp only; split <;> exact .refl _
  · split
    · exact isFieldwise_pure _
    · split
      · exact isFieldwise_pure _
      · exact isFieldwise_throw _

/-- A failure is answered if the connection is still the session's own and nobody cancelled it. -/
theorem Chain.dispatch_run_of_error {chain : Chain} {request : Request} {failure : Failure}
    {performed : Ran (Except Failure Unit)}
    (ran : (request.perform chain.settings (chain.linkFor request.head.command)).run.run world tape =
      performed)
    (failed : performed.result = .error failure) (writable : performed.tape.writes = []) :
    (chain.dispatch request).run.run world tape =
      { result := if failure.unsupportedAddressType?.isSome then .ok () else .error failure
        acts := performed.acts ++
          if performed.tape.isOpen ∧ failure.isCancelled = false then
            [.wrote (reply (if failure.unsupportedAddressType?.isSome then .addressTypeNotSupported
              else .generalFailure) .unspecified)]
          else []
        tape := performed.tape } := by
  have kept := run_outcome world
    (request.perform chain.settings (chain.linkFor request.head.command)) tape
  rw [ran, failed] at kept
  rw [Chain.dispatch, run_bind_of_eq kept]
  dsimp only
  by_cases cancelled : failure.isCancelled = true
  · have served : failure.unsupportedAddressType? = none := by
      unfold Failure.unsupportedAddressType?
      rw [eq_of_beq cancelled]
    rw [if_pos cancelled, served]
    simp only [cancelled, Bool.true_eq_false, and_false, ↓reduceIte]
    rfl
  · have answered code := replyIfOpen_run world code writable
    rw [if_neg cancelled]
    simp only [cancelled, and_true]
    cases failure.unsupportedAddressType?.isSome with
    | true =>
      simp only [↓reduceIte]
      rw [answered]
    | false =>
      simp only [Bool.false_eq_true, ↓reduceIte]
      rw [run_bind_of_eq (answered _)]
      exact congrArg (Ran.mk _ · _) (congrArg _ (List.append_nil _))

theorem Chain.dispatch_run_of_ok {chain : Chain} {request : Request}
    {performed : Ran (Except Failure Unit)}
    (ran : (request.perform chain.settings (chain.linkFor request.head.command)).run.run world tape =
      performed) (succeeded : performed.result = .ok ()) :
    (chain.dispatch request).run.run world tape = performed := by
  have kept := run_outcome world
    (request.perform chain.settings (chain.linkFor request.head.command)) tape
  rw [ran, succeeded] at kept
  rw [Chain.dispatch, run_bind_of_eq kept]
  obtain ⟨result, acts, left⟩ := performed
  cases succeeded
  exact congrArg (Ran.mk _ · _) (List.append_nil _)

theorem Chain.linkFor_connect (settings : CommandSettings) :
    (Chain.standard settings).linkFor 1 = .connect := rfl

/-- None of it is a read. -/
theorem Answered.conduct_eq {settings : CommandSettings} {request : Request} {found : Destination}
    {acts : List Act} {result : Except Failure Unit}
    (answered : Answered world settings request found acts result) :
    acts.filter (fun act => !act.isRead) = acts := by
  cases answered with
  | cut | unknown | misnamed => rfl
  | refused | unrouted | unreached | connected =>
    rw [List.filter_append, conduct_lookups]
    exact congrArg _ rfl

section

variable (settings : CommandSettings) {request : Request}
  {first : Ran (Except Failure (Option Target))}

theorem perform_connect (connects : request.head.command = 1) :
    request.perform settings ((Chain.standard settings).linkFor request.head.command) =
      request.connect settings := by
  rw [connects, Chain.linkFor_connect]
  rfl

/-- What was not read is answered where the reading stopped. -/
theorem dispatch_connect_of_error (connects : request.head.command = 1)
    (reading : (readTarget request.head.kind).run.run world tape = first)
    (silent : first.conduct = [])
    (isOpen : first.tape.isOpen = true) (writable : first.tape.writes = []) {failure : Failure}
    (failed : first.result = .error failure) (uncancelled : failure.isCancelled = false) :
    let ran := ((Chain.standard settings).dispatch request).run.run world tape
    ran.result = (if failure.unsupportedAddressType?.isSome then .ok () else .error failure) ∧
      ran.conduct =
        [.wrote (bareReply (if failure.unsupportedAddressType?.isSome then 8 else 1))] := by
  have performed : (request.connect settings).run.run world tape = _ :=
    run_bind_of_error ((congrArg Ran.result reading).trans failed)
  rw [← perform_connect settings connects, reading] at performed
  have dispatched := Chain.dispatch_run_of_error performed rfl writable
  have answer : reply (if failure.unsupportedAddressType?.isSome then .addressTypeNotSupported
      else .generalFailure) .unspecified =
      bareReply (if failure.unsupportedAddressType?.isSome then 8 else 1) := by
    cases failure.unsupportedAddressType?.isSome <;> rfl
  simp only [isOpen, uncancelled, and_self, ↓reduceIte, answer] at dispatched
  intro ran
  rw [show ran = _ from dispatched]
  refine ⟨rfl, ?_⟩
  rw [Ran.conduct, List.filter_append]
  exact congrArg (· ++ _) silent

theorem dispatch_connect_of_none (connects : request.head.command = 1)
    (reading : (readTarget request.head.kind).run.run world tape = first)
    (silent : first.conduct = [])
    (nothing : first.result = .ok none) :
    let ran := ((Chain.standard settings).dispatch request).run.run world tape
    ran.result = .ok () ∧ ran.conduct = [] := by
  have performed : (request.connect settings).run.run world tape = _ :=
    run_bind_of_ok ((congrArg Ran.result reading).trans nothing)
  rw [← perform_connect settings connects, reading] at performed
  have dispatched := Chain.dispatch_run_of_ok performed rfl
  intro ran
  rw [show ran = _ from dispatched]
  refine ⟨rfl, ?_⟩
  exact (congrArg (List.filter _) (List.append_nil _)).trans silent

theorem dispatch_connect_of_some (connects : request.head.command = 1)
    (reading : (readTarget request.head.kind).run.run world tape = first)
    (silent : first.conduct = [])
    (isOpen : first.tape.isOpen = true) (writable : first.tape.writes = []) {target : Target}
    (given : first.result = .ok (some target))
    (uncancelled : ∀ endpoint, world.dial endpoint ≠ .cancelled)
    (relays : ∀ input window failure, world.relay input window = .error failure →
      failure.unsupportedAddressType? = none) :
    let ran := ((Chain.standard settings).dispatch request).run.run world tape
    Answered world settings request (.named target first.tape.input) ran.conduct ran.result := by
  have performed : (request.connect settings).run.run world tape =
      (let second := (request.connectTo settings target).run.run world first.tape
      { second with acts := first.acts ++ second.acts }) := by
    subst reading
    exact run_bind_of_ok given
  rw [← perform_connect settings connects] at performed
  obtain ⟨answered, ending, left⟩ :=
    answered_connectTo settings request target isOpen writable uncancelled
  generalize (request.connectTo settings target).run.run world first.tape = second at *
  have dispatched : ((Chain.standard settings).dispatch request).run.run world tape =
      { second with acts := first.acts ++ second.acts } := by
    rcases ending with ended | ⟨closed, relayed⟩
    · exact Chain.dispatch_run_of_ok performed ended
    · cases ended : second.result with
      | ok value => exact ended ▸ Chain.dispatch_run_of_ok performed ended
      | error failure =>
        have handed := Chain.dispatch_run_of_error performed ended left
        simp only [relays _ _ _ (relayed.symm.trans ended), closed, Option.isSome_none,
          Bool.false_eq_true, false_and, ↓reduceIte, List.append_nil] at handed
        exact handed
  intro ran
  have conduct : ran.conduct = second.acts := by
    rw [show ran = _ from dispatched, Ran.conduct, List.filter_append, answered.conduct_eq]
    exact congrArg (· ++ second.acts) silent
  rw [conduct, show ran = _ from dispatched]
  exact answered

end

/-- For as long as the client can be written to and nobody cancels, a request to connect is answered
as what stands behind its head and what becomes of that destination call for, and with nothing else. -/
theorem Chain.dispatch_connect (settings : CommandSettings) {request : Request}
    {world : Surroundings} {tape : Tape}
    (connects : request.head.command = 1)
    (isOpen : tape.isOpen = true) (writable : tape.writes = [])
    (uncancelled : ∀ endpoint, world.dial endpoint ≠ .cancelled)
    (relays : ∀ input window failure, world.relay input window = .error failure →
      failure.unsupportedAddressType? = none) :
    let ran := ((Chain.standard settings).dispatch request).run.run world tape
    ∃ found : Destination, found.Stands request.head.kind tape.input ∧
      (∀ other : Destination, other.Stands request.head.kind tape.input → other = found) ∧
      Answered world settings request found ran.conduct ran.result := by
  obtain ⟨found, stands⟩ := Destination.exists_stands request.head.kind tape.input
  refine ⟨found, stands, fun other also => stands.unique also, ?_⟩
  obtain ⟨result, silent, left⟩ := readTarget_run world request.head.kind isOpen
  have stillOpen := left.isOpen.trans isOpen
  have stillWritable := left.writes.trans writable
  cases found with
  | cut =>
    rw [runOn_of_endsWithin stands] at result
    obtain ⟨served, conduct⟩ :=
      dispatch_connect_of_none settings connects rfl silent result
    rw [served, conduct]
    exact .cut
  | unknown =>
    rw [runOn_of_isUnknown stands] at result
    obtain ⟨served, conduct⟩ := dispatch_connect_of_error settings connects rfl silent
      stillOpen stillWritable result rfl
    rw [served, conduct]
    exact .unknown
  | misnamed =>
    obtain ⟨text, failed⟩ := runOn_of_misnames stands
    rw [failed] at result
    obtain ⟨served, conduct⟩ := dispatch_connect_of_error settings connects rfl silent
      stillOpen stillWritable result rfl
    rw [served, conduct]
    exact .misnamed text
  | named target rest =>
    obtain ⟨octets, split, named⟩ := stands
    have found := (readAddress_format request.head.kind).reads_iff.mpr named rest
    rw [split, found] at result left
    have input := left.input.trans (Tape.input_holding _ _)
    have answered := dispatch_connect_of_some settings connects rfl silent stillOpen
      stillWritable result uncancelled relays
    rwa [input] at answered

/-- Surroundings in which every endpoint is reached. -/
def reachable : Surroundings :=
  { Surroundings.isolated with
    dial := fun _ => .connected ⟨.v4 ⟨127, 0, 0, 1⟩, 50000⟩
    takeUp := .ok ()
    relay := fun _ _ => .ok () }

/-- A request to connect, by nobody in particular, to what an address of this type tells. -/
def connectRequest (kind : UInt8) : Request where
  head := { version := 5, command := 1, reserved := 0, kind }
  user := none
  peer := ⟨.unspecified, 40000⟩
  own := none
  window := .ofSeconds 60

/-- What becomes of such a request with these octets behind it, under a policy without rules. -/
def connectRun (world : Surroundings) (kind : UInt8) (octets : Bytes) : Ran (Except Failure Unit) :=
  ((Chain.standard { policy := .permissive, reportsBound := true }).dispatch
    (connectRequest kind)).run.run world (.ofBytes octets)

/-- An address is followed by an octet for the target. In the second request it is private, in the third
its host cannot be reached, and in the last two there is none. -/
theorem dispatch_connect_ipv4 :
    let settings : CommandSettings := { policy := .permissive, reportsBound := true }
    let granted := connectRun reachable 1 [192, 0, 2, 1, 0, 80, 7]
    let barred := connectRun reachable 1 [10, 0, 0, 1, 0, 80]
    granted.conduct = [.dialled ⟨.v4 ⟨192, 0, 2, 1⟩, 80⟩,
        .wrote [5, 0, 0, 1, 127, 0, 0, 1, 195, 80], .relayed [7] (.ofSeconds 60)] ∧
      barred.conduct = [.wrote [5, 2, 0, 1, 0, 0, 0, 0, 0, 0]] ∧
      (connectRun .isolated 1 [192, 0, 2, 1, 0, 80]).conduct =
        [.dialled ⟨.v4 ⟨192, 0, 2, 1⟩, 80⟩, .wrote [5, 5, 0, 1, 0, 0, 0, 0, 0, 0]] ∧
      (connectRun reachable 2 []).conduct = [.wrote [5, 8, 0, 1, 0, 0, 0, 0, 0, 0]] ∧
      (connectRun reachable 3 [0, 0, 80]).conduct = [.wrote [5, 1, 0, 1, 0, 0, 0, 0, 0, 0]] ∧
      (∃ found : Destination, found.Stands 1 [192, 0, 2, 1, 0, 80, 7] ∧
        (∀ other : Destination, other.Stands 1 [192, 0, 2, 1, 0, 80, 7] → other = found) ∧
        Answered reachable settings (connectRequest 1) found granted.conduct granted.result) ∧
      ∃ found : Destination, found.Stands 1 [10, 0, 0, 1, 0, 80] ∧
        (∀ other : Destination, other.Stands 1 [10, 0, 0, 1, 0, 80] → other = found) ∧
        Answered reachable settings (connectRequest 1) found barred.conduct barred.result := by
  intro settings granted barred
  have answered (octets : Bytes) := @Chain.dispatch_connect settings (connectRequest 1) reachable
    (.ofBytes octets) rfl rfl rfl (by rintro _ ⟨⟩) (by rintro _ _ _ ⟨⟩)
  exact ⟨rfl, rfl, rfl, rfl, rfl, answered [192, 0, 2, 1, 0, 80, 7], answered [10, 0, 0, 1, 0, 80]⟩

end SocksGateway.Socks5
