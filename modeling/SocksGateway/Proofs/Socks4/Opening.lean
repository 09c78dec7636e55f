import SocksGateway.Proofs.Socks4.Formats

/-!
What can stand at the front of a stream of version 4: a request, a field that no request has, or
neither, because the stream ends before either is complete. The reader tells which it is.
-/

set_option autoImplicit false

namespace SocksGateway.Socks4

open Handler

/-! ## Fields -/

/-- A field that no request has, with what is said about it. It is known by these octets, whatever
comes behind them. -/
inductive IsFlawed (what : String) : Bytes → String → Prop where
  | long {octets : Bytes} (length : octets.length = fieldLimit + 1) (unended : 0 ∉ octets) :
      IsFlawed what octets ("SOCKS4 " ++ what ++ " too long")
  | unreadable {octets : Bytes} (short : octets.length ≤ fieldLimit) (unended : 0 ∉ octets)
      (noText : Bytes.text? octets = none) :
      IsFlawed what (octets ++ [0]) ("SOCKS4 " ++ what ++ " is not valid UTF-8")

/-- The front of a field, of which the end is missing. -/
def IsUnended (octets : Bytes) : Prop := octets.length ≤ fieldLimit ∧ 0 ∉ octets

/-- At the front of a stream stands a text, a field that is flawed, or a field that does not end. -/
theorem exists_field (what : String) (stream : Bytes) :
    (∃ text rest, IsWritable text ∧ stream = Bytes.ofText text ++ [0] ++ rest) ∨
      (∃ octets text rest, IsFlawed what octets text ∧ stream = octets ++ rest) ∨
      IsUnended stream := by
  have tooLong {octets : Bytes} (rest : Bytes) (unended : 0 ∉ octets)
      (long : fieldLimit < octets.length) : ∃ front text behind, IsFlawed what front text ∧
        octets ++ rest = front ++ behind := by
    refine ⟨octets.take (fieldLimit + 1), _, octets.drop (fieldLimit + 1) ++ rest,
      .long (List.length_take_of_le long) fun member => unended (List.mem_of_mem_take member), ?_⟩
    rw [← List.append_assoc, List.take_append_drop]
  by_cases ended : 0 ∈ stream
  · obtain ⟨octets, rest, rfl, unended⟩ := List.eq_append_cons_of_mem ended
    rcases Nat.lt_or_ge fieldLimit octets.length with long | short
    · exact .inr (.inl (tooLong (0 :: rest) unended long))
    · have split : octets ++ 0 :: rest = octets ++ [0] ++ rest := by
        rw [List.append_assoc, List.singleton_append]
      cases readable : Bytes.text? octets with
      | none => exact .inr (.inl ⟨_, _, rest, .unreadable short unended readable, split⟩)
      | some text =>
        have same := Bytes.text?_eq_some_iff.mp readable
        subst same
        exact .inl ⟨text, rest, ⟨short, unended⟩, split⟩
  · rcases Nat.lt_or_ge fieldLimit stream.length with long | short
    · have flawed := tooLong [] ended long
      rw [List.append_nil] at flawed
      exact .inr (.inl flawed)
    · exact .inr (.inr ⟨short, ended⟩)

theorem runOn_readToNul_octet (what : String) (octet : UInt8) (rest : Bytes) :
    (readToNul.octet what).runOn (octet :: rest) = (.ok octet, rest) :=
  (readToNul_octet_format what).reads_iff.mpr rfl rest

theorem runOn_readToNul_octet_nil (what : String) :
    (readToNul.octet what).runOn [] = (.error
      { cause := .io .unexpectedEnd, remarks := ["Failed to read SOCKS4 " ++ what] }, []) := by
  rw [readToNul.octet, runOn_within, runOn_readOctet_nil]
  rfl

/-- What is read behind the first octet of a field with room for one more. -/
def readToNulFrom (what : String) (room : Nat) (first : UInt8) : Handler Bytes := do
  if first = 0 then return []
  return first :: (← readToNul what room)

theorem readToNulFrom_isReader (what : String) (room : Nat) (first : UInt8) :
    IsReader (readToNulFrom what room first) := by
  unfold readToNulFrom
  split
  · exact .pure _
  · exact .bind (readToNul_format what room).reader fun _ => .pure _

theorem readToNul_succ (what : String) (room : Nat) :
    readToNul what (room + 1) = readToNul.octet what >>= readToNulFrom what room := rfl

/-- An octet other than NUL, and then a field that fails. -/
theorem runOn_readToNul_cons {what : String} {room : Nat} {first : UInt8} {rest left : Bytes}
    {failure : Failure} (nonzero : 0 ≠ first)
    (failed : (readToNul what room).runOn rest = (.error failure, left)) :
    (readToNul what (room + 1)).runOn (first :: rest) = (.error failure, left) := by
  rw [readToNul_succ, runOn_bind_of_ok (readToNul_octet_format what).reader
    (readToNulFrom_isReader what room) (runOn_readToNul_octet what first rest), readToNulFrom,
    if_neg nonzero.symm]
  exact runOn_bind_of_error (readToNul_format what room).reader (fun _ => .pure _) failed

theorem readToNulEnd_isReader (what : String) (first : UInt8) : IsReader (do
    if first ≠ 0 then fail (.protocol ("SOCKS4 " ++ what ++ " too long"))
    return [] : Handler Bytes) := .when (.fail _) (.pure _)

theorem runOn_readToNul_of_unended {what : String} {room : Nat} {octets : Bytes}
    (short : octets.length ≤ room) (unended : 0 ∉ octets) :
    (readToNul what room).runOn octets = (.error
      { cause := .io .unexpectedEnd, remarks := ["Failed to read SOCKS4 " ++ what] }, []) := by
  induction room generalizing octets with
  | zero =>
    obtain rfl := List.length_eq_zero_iff.mp (Nat.le_zero.mp short)
    exact runOn_bind_of_error (readToNul_octet_format what).reader (readToNulEnd_isReader what)
      (runOn_readToNul_octet_nil what)
  | succ room ih =>
    cases octets with
    | nil =>
      exact runOn_bind_of_error (readToNul_octet_format what).reader
        (readToNulFrom_isReader what room) (runOn_readToNul_octet_nil what)
    | cons first others =>
      exact runOn_readToNul_cons (List.ne_of_not_mem_cons unended)
        (ih (Nat.le_of_succ_le_succ short) (List.not_mem_of_not_mem_cons unended))

/-- A field that is too long is given up with the first octet that has no room. -/
theorem runOn_readToNul_of_long {what : String} {room : Nat} {octets : Bytes} (rest : Bytes)
    (long : octets.length = room + 1) (unended : 0 ∉ octets) :
    (readToNul what room).runOn (octets ++ rest) =
      (.error { cause := .protocol ("SOCKS4 " ++ what ++ " too long") }, rest) := by
  induction room generalizing octets with
  | zero =>
    obtain ⟨first, rfl⟩ := List.length_eq_one_iff.mp long
    have nonzero : first ≠ 0 := fun zero => unended (zero ▸ List.mem_singleton_self first)
    rw [List.singleton_append]
    refine (runOn_bind_of_ok (readToNul_octet_format what).reader
      (readToNulEnd_isReader what) (runOn_readToNul_octet what first rest)).trans ?_
    rw [if_pos nonzero]
    exact runOn_bind_of_error (.fail _) (fun _ => .pure _) (runOn_throw _ rest)
  | succ room ih =>
    cases octets with
    | nil => cases long
    | cons first others =>
      exact runOn_readToNul_cons (List.ne_of_not_mem_cons unended)
        (ih (Nat.succ.inj long) (List.not_mem_of_not_mem_cons unended))

/-- The text of a field, or what is said about it. -/
def textOf (what : String) (octets : Bytes) : Handler String :=
  match Bytes.text? octets with
  | some text => return text
  | none => fail (.protocol ("SOCKS4 " ++ what ++ " is not valid UTF-8"))

theorem textOf_isReader (what : String) (octets : Bytes) : IsReader (textOf what octets) := by
  unfold textOf
  split
  · exact .pure _
  · exact .fail _

theorem readText_eq (what : String) :
    readText what = readToNul what fieldLimit >>= textOf what := rfl

theorem runOn_readText_of_unended {what : String} {stream : Bytes} (unended : IsUnended stream) :
    (readText what).runOn stream = (.error
      { cause := .io .unexpectedEnd, remarks := ["Failed to read SOCKS4 " ++ what] }, []) := by
  rw [readText_eq]
  exact runOn_bind_of_error (readToNul_format what fieldLimit).reader (textOf_isReader what)
    (runOn_readToNul_of_unended unended.1 unended.2)

/-- What stands behind the octets by which a field is known to be flawed is left unread. -/
theorem runOn_readText_of_flawed {what text : String} {octets : Bytes} (rest : Bytes)
    (flawed : IsFlawed what octets text) :
    (readText what).runOn (octets ++ rest) = (.error { cause := .protocol text }, rest) := by
  rw [readText_eq]
  cases flawed with
  | long length unended =>
    exact runOn_bind_of_error (readToNul_format what fieldLimit).reader (textOf_isReader what)
      (runOn_readToNul_of_long rest length unended)
  | @unreadable field short unended noText =>
    have read := (readToNul_format what fieldLimit).reads_iff.mpr ⟨short, unended, rfl⟩ rest
    rw [runOn_bind_of_ok (readToNul_format what fieldLimit).reader (textOf_isReader what) read,
      textOf, noText]
    exact runOn_throw _ rest

theorem runOn_readText_of_writable (what : String) {text : String} (rest : Bytes)
    (writable : IsWritable text) :
    (readText what).runOn (Bytes.ofText text ++ [0] ++ rest) = (.ok text, rest) :=
  (readText_format what).reads_iff.mpr ⟨writable, rfl⟩ rest

/-! ## Streams -/

/-- What comes before the name of a user. -/
def head (command : UInt8) (port : UInt16) (ip : Ipv4) : Bytes :=
  version :: command :: Bytes.ofWord port ++ ip.octets

/-- A field that no host name is in, with what is said about it. -/
inductive IsNoName : Bytes → String → Prop where
  | flawed {octets : Bytes} {text : String} (flawed : IsFlawed "domain" octets text) :
      IsNoName octets text
  | empty : IsNoName [0] "Empty SOCKS4a domain"

/-- The front of a stream that no request is the front of, with what is said about it. -/
inductive IsMalformed : Bytes → String → Prop where
  | user {command : UInt8} {port : UInt16} {ip : Ipv4} {octets : Bytes} {text : String}
      (flawed : IsFlawed "user id" octets text) : IsMalformed (head command port ip ++ octets) text
  | name {command : UInt8} {port : UInt16} {ip : Ipv4} {user : String} {octets : Bytes}
      {text : String} (writable : IsWritable user) (announced : announcesName ip = true)
      (noName : IsNoName octets text) :
      IsMalformed (head command port ip ++ (Bytes.ofText user ++ [0] ++ octets)) text

/-- A stream that ends within what could still become a request or malformed. -/
inductive IsCut : Bytes → Prop where
  | head {stream : Bytes} (short : stream.length < 8) : IsCut stream
  | user {command : UInt8} {port : UInt16} {ip : Ipv4} {octets : Bytes}
      (unended : IsUnended octets) : IsCut (head command port ip ++ octets)
  | name {command : UInt8} {port : UInt16} {ip : Ipv4} {user : String} {octets : Bytes}
      (writable : IsWritable user) (announced : announcesName ip = true)
      (unended : IsUnended octets) :
      IsCut (Socks4.head command port ip ++ (Bytes.ofText user ++ [0] ++ octets))

/-- What can stand at the front of a stream. -/
inductive Opening where
  | cut
  | malformed (text : String)
  /-- A request, with the octets behind it. -/
  | request (request : Request) (rest : Bytes)

/-- That is what stands at the front of a stream. -/
def Opening.Stands (stream : Bytes) : Opening → Prop
  | cut => IsCut stream
  | malformed text => ∃ octets rest, stream = octets ++ rest ∧ IsMalformed octets text
  | request asked rest => ∃ octets, stream = octets ++ rest ∧ asked.IsWritten octets

/-- Eight octets of which the first is the version are the head of a request. -/
theorem exists_head {stream : Bytes} (starts : stream.head? = some version)
    (enough : 8 ≤ stream.length) :
    ∃ command port ip rest, stream = head command port ip ++ rest := by
  match stream, starts, enough with
  | _ :: command :: high :: low :: a :: b :: c :: d :: rest, rfl, _ =>
    refine ⟨command, Bytes.word high low, ⟨a, b, c, d⟩, rest, ?_⟩
    rw [head, Bytes.ofWord_word]
    rfl

theorem Opening.stands_request {command : UInt8} {port : UInt16} {ip : Ipv4} {user : String}
    {ending : Bytes} {asked : Request} (writable : IsWritable user)
    (ends : IsEnding command port ip user ending asked) (rest : Bytes) :
    (request asked rest).Stands
      (head command port ip ++ (Bytes.ofText user ++ [0] ++ (ending ++ rest))) := by
  refine ⟨_, ?_, .intro writable ends⟩
  simp only [head, List.append_assoc, List.cons_append]

theorem Opening.stands_malformed {command : UInt8} {port : UInt16} {ip : Ipv4} {user text : String}
    {octets : Bytes} (writable : IsWritable user) (announced : announcesName ip = true)
    (noName : IsNoName octets text) (rest : Bytes) :
    (malformed text).Stands
      (head command port ip ++ (Bytes.ofText user ++ [0] ++ (octets ++ rest))) := by
  refine ⟨head command port ip ++ (Bytes.ofText user ++ [0] ++ octets), rest, ?_,
    .name writable announced noName⟩
  simp only [List.append_assoc]

theorem Opening.exists_stands {stream : Bytes} (starts : stream.head? = some version) :
    ∃ found : Opening, found.Stands stream := by
  rcases Nat.lt_or_ge stream.length 8 with short | enough
  · exact ⟨.cut, IsCut.head short⟩
  obtain ⟨command, port, ip, behind, rfl⟩ := exists_head starts enough
  rcases exists_field "user id" behind with
    ⟨user, rest, writable, rfl⟩ | ⟨octets, text, rest, flawed, rfl⟩ | unended
  · cases announced : announcesName ip with
    | false =>
      exact ⟨.request _ rest, stands_request writable (.address announced) rest⟩
    | true =>
      rcases exists_field "domain" rest with
        ⟨name, behind, named, rfl⟩ | ⟨octets, text, behind, flawed, rfl⟩ | unended
      · by_cases empty : name = ""
        · subst empty
          exact ⟨.malformed _, stands_malformed writable announced .empty behind⟩
        · exact ⟨.request _ behind, stands_request writable (.name announced empty named) behind⟩
      · exact ⟨.malformed text, stands_malformed writable announced (.flawed flawed) behind⟩
      · exact ⟨.cut, IsCut.name writable announced unended⟩
  · exact ⟨.malformed text, _, rest, (List.append_assoc ..).symm, .user flawed⟩
  · exact ⟨.cut, IsCut.user unended⟩

/-! ## Reading them -/

/-- A request for a host, if it has a name. -/
def named (command : UInt8) (port : UInt16) (user name : String) : Handler Request := do
  if name.isEmpty then fail (.protocol "Empty SOCKS4a domain")
  return { command, target := .domain name port, user }

/-- What is read behind the name of a user. -/
def readEnding (command : UInt8) (port : UInt16) (ip : Ipv4) (user : String) : Handler Request :=
  if announcesName ip then readText "domain" >>= named command port user
  else return { command, target := .ip ⟨.v4 ip, port⟩, user }

/-- What is read behind the first eight octets. -/
def readBehind (given : Bytes) : Handler Request :=
  match given with
  | [first, command, high, low, a, b, c, d] => do
    if first ≠ version then
      fail (.protocol ("Not a SOCKS4 request: version " ++ toString first.toNat))
    readEnding command (Bytes.word high low) ⟨a, b, c, d⟩ (← readText "user id")
  | _ => fail (.io .unexpectedEnd)

theorem readRequest_eq : readRequest =
    within "Failed to read SOCKS4 request" (readExactly 8) >>= readBehind := rfl

theorem named_isReader (command : UInt8) (port : UInt16) (user name : String) :
    IsReader (named command port user name) := .when (.fail _) (.pure _)

theorem readEnding_isReader (command : UInt8) (port : UInt16) (ip : Ipv4) (user : String) :
    IsReader (readEnding command port ip user) := by
  unfold readEnding
  split
  · exact .bind (readText_format _).reader (named_isReader command port user)
  · exact .pure _

theorem readBehind_isReader (given : Bytes) : IsReader (readBehind given) := by
  unfold readBehind
  split
  · exact .when (.fail _) (.bind (readText_format _).reader (readEnding_isReader _ _ _))
  · exact .fail _

theorem runOn_readRequest_head (command : UInt8) (port : UInt16) (ip : Ipv4) (stream : Bytes) :
    readRequest.runOn (head command port ip ++ stream) =
      (readText "user id" >>= readEnding command port ip).runOn stream := by
  have read : (within "Failed to read SOCKS4 request" (readExactly 8)).runOn
      (head command port ip ++ stream) = (.ok (head command port ip), stream) :=
    reads_within (reads_readExactly (head command port ip)) stream
  have behind : readBehind (head command port ip) =
      (readText "user id" >>= readEnding command port ip) := by
    simp only [readBehind, head, Bytes.ofWord, Ipv4.octets, List.cons_append, List.nil_append,
      ne_eq, not_true_eq_false, ↓reduceIte, Bytes.word_ofNat]
  rw [readRequest_eq, runOn_bind_of_ok (.within (.readExactly 8)) readBehind_isReader read, behind]

/-- Where the address announces a host name, the reader goes on with that behind the name of the
user. -/
theorem runOn_readRequest_user {command : UInt8} {port : UInt16} {ip : Ipv4} {user : String}
    (writable : IsWritable user) (announced : announcesName ip = true) (stream : Bytes) :
    readRequest.runOn (head command port ip ++ (Bytes.ofText user ++ [0] ++ stream)) =
      (readText "domain" >>= named command port user).runOn stream := by
  rw [runOn_readRequest_head, runOn_bind_of_ok (readText_format _).reader
    (readEnding_isReader command port ip) (runOn_readText_of_writable _ stream writable),
    readEnding, if_pos announced]

theorem runOn_of_isNoName (command : UInt8) (port : UInt16) (user : String) {octets : Bytes}
    {text : String} (rest : Bytes) (noName : IsNoName octets text) :
    (readText "domain" >>= named command port user).runOn (octets ++ rest) =
      (.error { cause := .protocol text }, rest) := by
  cases noName with
  | flawed flawed =>
    exact runOn_bind_of_error (readText_format _).reader (named_isReader command port user)
      (runOn_readText_of_flawed rest flawed)
  | empty =>
    have empty : IsWritable "" := ⟨Nat.zero_le _, List.not_mem_nil⟩
    have read := runOn_readText_of_writable "domain" rest empty
    refine (runOn_bind_of_ok (readText_format _).reader
      (named_isReader command port user) read).trans ?_
    exact runOn_bind_of_error (.fail _) (fun _ => .pure _) (runOn_throw _ rest)

theorem runOn_of_isCut {stream : Bytes} (cut : IsCut stream) :
    ∃ remark, readRequest.runOn stream =
      (.error { cause := .io .unexpectedEnd, remarks := [remark] }, []) := by
  cases cut with
  | head short =>
    refine ⟨"Failed to read SOCKS4 request", ?_⟩
    rw [readRequest_eq]
    apply runOn_bind_of_error (.within (.readExactly 8)) readBehind_isReader
    rw [runOn_within, runOn_readExactly, if_neg (Nat.not_le.mpr short),
      List.drop_eq_nil_of_le (Nat.le_of_lt short)]
    rfl
  | user unended =>
    rw [runOn_readRequest_head]
    exact ⟨_, runOn_bind_of_error (readText_format _).reader (readEnding_isReader _ _ _)
      (runOn_readText_of_unended unended)⟩
  | name writable announced unended =>
    rw [runOn_readRequest_user writable announced]
    exact ⟨_, runOn_bind_of_error (readText_format _).reader (named_isReader _ _ _)
      (runOn_readText_of_unended unended)⟩

/-- What stands behind the octets by which a request is known to be malformed is left unread. -/
theorem runOn_of_isMalformed {octets : Bytes} {text : String} (rest : Bytes)
    (malformed : IsMalformed octets text) :
    readRequest.runOn (octets ++ rest) = (.error { cause := .protocol text }, rest) := by
  cases malformed with
  | user flawed =>
    rw [List.append_assoc, runOn_readRequest_head]
    exact runOn_bind_of_error (readText_format _).reader (readEnding_isReader _ _ _)
      (runOn_readText_of_flawed rest flawed)
  | name writable announced noName =>
    rw [List.append_assoc, List.append_assoc, runOn_readRequest_user writable announced]
    exact runOn_of_isNoName _ _ _ rest noName

/-- What a reader finds tells what stands there. -/
def Opening.ofRead : Except Failure Request × Bytes → Opening
  | (.ok asked, rest) => .request asked rest
  | (.error { cause := .protocol text, .. }, _) => .malformed text
  | (.error _, _) => .cut

theorem Opening.Stands.read {stream : Bytes} {found : Opening} (stands : found.Stands stream) :
    ofRead (readRequest.runOn stream) = found := by
  cases found with
  | cut =>
    obtain ⟨remark, failed⟩ := runOn_of_isCut stands
    rw [failed]
    rfl
  | malformed text =>
    obtain ⟨octets, rest, rfl, malformed⟩ := stands
    rw [runOn_of_isMalformed rest malformed]
    rfl
  | request asked rest =>
    obtain ⟨octets, rfl, written⟩ := stands
    rw [readRequest_format.reads_iff.mpr written rest]
    rfl

/-- No two different things stand at the front of one stream. -/
theorem Opening.Stands.unique {stream : Bytes} {found other : Opening}
    (first : found.Stands stream) (second : other.Stands stream) : other = found :=
  second.read.symm.trans first.read

end SocksGateway.Socks4
