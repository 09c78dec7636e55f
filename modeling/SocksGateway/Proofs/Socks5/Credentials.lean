import SocksGateway.Proofs.Socks5.Formats

/-!
What a negotiation by name and password makes of a stream. The stream ends within a message, starts
with another version or starts with a message, and a message has no name, is no text or is judged by
the validator. Only who ended early gets no status.
-/

set_option autoImplicit false

namespace SocksGateway

/-- Whether it reads from the client or writes to it. -/
def Act.isTransfer : Act → Bool
  | .read _ | .wrote _ => true
  | _ => false

namespace Socks5.Password

open Handler

/-! ## Messages -/

/-- The octets that give two fields. -/
def message (user password : Bytes) : Bytes := 1 :: (counted user ++ counted password)

theorem length_message (user password : Bytes) :
    (message user password).length = 3 + user.length + password.length := by
  simp only [message, counted, List.length_cons, List.length_append]
  omega

theorem message_append (user password rest : Bytes) :
    message user password ++ rest = 1 :: (counted user ++ (counted password ++ rest)) := by
  simp only [message, List.cons_append, List.append_assoc]

/-- The octets are the front of a whole, of which something is missing. -/
def IsFront (octets whole : Bytes) : Prop := ∃ missing, missing ≠ [] ∧ octets ++ missing = whole

/-- The octets end within a field. -/
def IsFieldCut (octets : Bytes) : Prop :=
  ∃ field, field.length < 256 ∧ IsFront octets (counted field)

/-- The stream ends within a message. -/
def IsCut (stream : Bytes) : Prop :=
  ∃ user password, user.length < 256 ∧ password.length < 256 ∧
    IsFront stream (message user password)

theorem isFront_cons_iff {octets whole : Bytes} {first : UInt8} :
    IsFront octets (first :: whole) ↔
      octets = [] ∨ ∃ behind, octets = first :: behind ∧ IsFront behind whole := by
  constructor
  · rintro ⟨missing, lacking, split⟩
    cases octets with
    | nil => exact .inl rfl
    | cons octet behind =>
      obtain ⟨rfl, same⟩ := List.cons_eq_cons.mp split
      exact .inr ⟨behind, rfl, missing, lacking, same⟩
  · rintro (rfl | ⟨behind, rfl, missing, lacking, rfl⟩)
    · exact ⟨first :: whole, List.cons_ne_nil _ _, rfl⟩
    · exact ⟨missing, lacking, rfl⟩

theorem isFront_append_iff {octets front back : Bytes} (present : back ≠ []) :
    IsFront octets (front ++ back) ↔
      IsFront octets front ∨ ∃ behind, octets = front ++ behind ∧ IsFront behind back := by
  constructor
  · rintro ⟨missing, lacking, split⟩
    rcases List.append_eq_append_iff.mp split with ⟨more, rfl, rfl⟩ | ⟨behind, rfl, rfl⟩
    · cases more with
      | nil =>
        rw [List.append_nil]
        exact .inr ⟨[], (List.append_nil _).symm, back, present, rfl⟩
      | cons octet more => exact .inl ⟨octet :: more, List.cons_ne_nil _ _, rfl⟩
    · exact .inr ⟨behind, rfl, missing, lacking, rfl⟩
  · rintro (⟨missing, lacking, rfl⟩ | ⟨behind, rfl, missing, lacking, rfl⟩)
    · exact ⟨missing ++ back, List.append_ne_nil_of_left_ne_nil lacking _,
        (List.append_assoc ..).symm⟩
    · exact ⟨missing, lacking, List.append_assoc ..⟩

/-- A stream ends before the version, within the name or within the password. -/
theorem isCut_iff {stream : Bytes} :
    IsCut stream ↔ stream = [] ∨ ∃ behind, stream = 1 :: behind ∧
      (IsFieldCut behind ∨ ∃ user rest, user.length < 256 ∧ behind = counted user ++ rest ∧
        IsFieldCut rest) := by
  have present (password : Bytes) : counted password ≠ [] := List.cons_ne_nil _ _
  constructor
  · rintro ⟨user, password, userShort, passwordShort, front⟩
    rcases isFront_cons_iff.mp front with rfl | ⟨behind, rfl, fields⟩
    · exact .inl rfl
    refine .inr ⟨behind, rfl, ?_⟩
    rcases (isFront_append_iff (present password)).mp fields with name | ⟨rest, rfl, secret⟩
    · exact .inl ⟨user, userShort, name⟩
    · exact .inr ⟨user, rest, userShort, rfl, password, passwordShort, secret⟩
  · have zero : ([] : Bytes).length < 256 := by decide
    rintro (rfl | ⟨behind, rfl, ⟨user, short, front⟩ | ⟨user, rest, short, rfl, password, cut⟩⟩)
    · exact ⟨[], [], zero, zero, isFront_cons_iff.mpr (.inl rfl)⟩
    · refine ⟨user, [], short, zero, isFront_cons_iff.mpr (.inr ⟨behind, rfl, ?_⟩)⟩
      exact (isFront_append_iff (present [])).mpr (.inl front)
    · refine ⟨user, password, short, cut.1, isFront_cons_iff.mpr (.inr ⟨_, rfl, ?_⟩)⟩
      exact (isFront_append_iff (present password)).mpr (.inr ⟨rest, rfl, cut.2⟩)

/-- Octets start with a field or end within one. -/
theorem exists_counted (octets : Bytes) :
    IsFieldCut octets ∨ ∃ field rest, field.length < 256 ∧ octets = counted field ++ rest := by
  cases octets with
  | nil => exact .inl ⟨[], by decide, isFront_cons_iff.mpr (.inl rfl)⟩
  | cons length behind =>
    rcases Nat.lt_or_ge behind.length length.toNat with short | enough
    · -- The field can go on in any way; here it does with zeros.
      have field : (behind ++ List.replicate (length.toNat - behind.length) 0).length =
          length.toNat := by
        rw [List.length_append, List.length_replicate]
        omega
      refine .inl ⟨_, field ▸ length.toNat_lt, ?_⟩
      rw [counted, field, UInt8.ofNat_toNat]
      refine isFront_cons_iff.mpr (.inr ⟨behind, rfl, _, ?_, rfl⟩)
      rw [ne_eq, List.replicate_eq_nil_iff]
      omega
    · have field : (behind.take length.toNat).length = length.toNat := List.length_take_of_le enough
      refine .inr ⟨behind.take length.toNat, behind.drop length.toNat, ?_, ?_⟩
      · exact field.symm ▸ length.toNat_lt
      rw [counted, field, UInt8.ofNat_toNat, List.cons_append, List.take_append_drop]

/-! ## Reading them -/

/-- What is made of two fields. -/
def judge (user password : Bytes) : Handler (String × String) := do
  if user = [] then throw (rejected.within "empty username")
  match Bytes.text? user, Bytes.text? password with
  | some user, some password => return (user, password)
  | _, _ => throw (rejected.within "credentials are not UTF-8")

def readFields : Handler (String × String) := do
  let user ← readField
  let password ← readField
  judge user password

/-- What is read behind the first octet. -/
def readBehind (first : UInt8) : Handler (String × String) := do
  if first ≠ version then fail (.negotiation (.unsupportedVersion first))
  readFields

theorem readCredentials_eq : readCredentials = readOctet >>= readBehind := rfl

theorem judge_isReader (user password : Bytes) : IsReader (judge user password) := by
  apply IsReader.when (.throw _)
  split
  · exact .pure _
  · exact .throw _

theorem readFields_isReader : IsReader readFields :=
  .bind readField_format.reader fun user =>
    .bind readField_format.reader fun password => judge_isReader user password

theorem readBehind_isReader (first : UInt8) : IsReader (readBehind first) :=
  .when (.fail _) readFields_isReader

theorem runOn_readField_counted {field : Bytes} (short : field.length < 256) (rest : Bytes) :
    readField.runOn (counted field ++ rest) = (.ok field, rest) :=
  readField_format.reads_iff.mpr ⟨short, rfl⟩ rest

theorem runOn_readField_of_isFieldCut {octets : Bytes} (cut : IsFieldCut octets) :
    readField.runOn octets = (.error (.ofIo .unexpectedEnd), []) := by
  have readers (length : UInt8) : IsReader (readExactly length.toNat) := .readExactly _
  obtain ⟨field, short, front⟩ := cut
  rcases isFront_cons_iff.mp front with rfl | ⟨behind, rfl, missing, lacking, rfl⟩
  · exact runOn_bind_of_error .readOctet readers runOn_readOctet_nil
  · have size : (UInt8.ofNat (behind ++ missing).length).toNat = (behind ++ missing).length :=
      UInt8.toNat_ofNat_of_lt' short
    have few : behind.length < (behind ++ missing).length := by
      rw [List.length_append]
      exact Nat.lt_add_of_pos_right (List.length_pos_iff.mpr lacking)
    refine (runOn_bind_of_ok .readOctet readers (runOn_readOctet_cons _ behind)).trans ?_
    rw [runOn_readExactly, size, if_neg (Nat.not_le.mpr few),
      List.drop_eq_nil_of_le (Nat.le_of_lt few)]

theorem runOn_readFields_of_isFieldCut {octets : Bytes} (cut : IsFieldCut octets) :
    readFields.runOn octets = (.error (.ofIo .unexpectedEnd), []) :=
  runOn_bind_of_error readField_format.reader
    (fun user => .bind readField_format.reader (judge_isReader user))
    (runOn_readField_of_isFieldCut cut)

theorem runOn_readFields_counted {user : Bytes} (short : user.length < 256) (rest : Bytes) :
    readFields.runOn (counted user ++ rest) = (readField >>= judge user).runOn rest :=
  runOn_bind_of_ok readField_format.reader
    (fun user => .bind readField_format.reader (judge_isReader user))
    (runOn_readField_counted short rest)

theorem runOn_readCredentials_version (behind : Bytes) :
    readCredentials.runOn (1 :: behind) = readFields.runOn behind := by
  rw [readCredentials_eq,
    runOn_bind_of_ok .readOctet readBehind_isReader (runOn_readOctet_cons 1 behind)]
  rfl

theorem runOn_readCredentials_of_isCut {stream : Bytes} (cut : IsCut stream) :
    readCredentials.runOn stream = (.error (.ofIo .unexpectedEnd), []) := by
  rcases isCut_iff.mp cut with rfl | ⟨behind, rfl, name | ⟨user, rest, short, rfl, password⟩⟩
  · exact runOn_bind_of_error .readOctet readBehind_isReader runOn_readOctet_nil
  · rw [runOn_readCredentials_version, runOn_readFields_of_isFieldCut name]
  · rw [runOn_readCredentials_version, runOn_readFields_counted short]
    exact runOn_bind_of_error readField_format.reader (judge_isReader user)
      (runOn_readField_of_isFieldCut password)

/-- Of another version nothing is read but its number. -/
theorem runOn_readCredentials_of_ne {first : UInt8} (other : first ≠ 1) (rest : Bytes) :
    readCredentials.runOn (first :: rest) =
      (.error (.ofNegotiation (.unsupportedVersion first)), rest) := by
  rw [readCredentials_eq,
    runOn_bind_of_ok .readOctet readBehind_isReader (runOn_readOctet_cons first rest), readBehind,
    if_pos (show first ≠ version from other)]
  exact runOn_bind_of_error (.fail _) (fun _ => readFields_isReader) (runOn_throw _ rest)

theorem runOn_readCredentials_message {user password : Bytes} (userShort : user.length < 256)
    (passwordShort : password.length < 256) (rest : Bytes) :
    readCredentials.runOn (message user password ++ rest) = (judge user password).runOn rest := by
  rw [message_append, runOn_readCredentials_version, runOn_readFields_counted userShort]
  exact runOn_bind_of_ok readField_format.reader (judge_isReader user)
    (runOn_readField_counted passwordShort rest)

theorem runOn_judge_nil (password rest : Bytes) :
    (judge [] password).runOn rest = (.error (rejected.within "empty username"), rest) := by
  rw [judge, if_pos rfl]
  apply runOn_bind_of_error (.throw _) (fun _ => ?_) (runOn_throw _ rest)
  split
  · exact .pure _
  · exact .throw _

theorem runOn_judge_of_none {user password : Bytes} (named : user ≠ [])
    (unreadable : Bytes.text? user = none ∨ Bytes.text? password = none) (rest : Bytes) :
    (judge user password).runOn rest =
      (.error (rejected.within "credentials are not UTF-8"), rest) := by
  rw [judge, if_neg named]
  split
  · rename_i name secret foundName foundSecret
    rcases unreadable with missing | missing
    · cases foundName.symm.trans missing
    · cases foundSecret.symm.trans missing
  · exact runOn_throw _ rest

/-! ## Answering them -/

/-- What follows the reading of credentials. -/
def answer (consult : String → String → Session Bool) :
    Except Failure (String × String) → Handler String
  | .ok (user, password) => do
    let accepted ← ExceptT.lift (consult user password)
    write (status accepted)
    if accepted then return user
    throw rejected
  | .error failure => do
    if failure = .ofIo .unexpectedEnd then throw failure
    write (status false)
    throw failure

/-- The negotiation with a validator that may do something to come to its verdict. -/
def negotiateBy (consult : String → String → Session Bool) : Handler String :=
  outcome readCredentials >>= answer consult

/-- A validator that does nothing else comes to its verdict at once. -/
theorem negotiate_eq (accepts : String → String → Bool) :
    negotiate accepts = negotiateBy fun user password => .done (accepts user password) := rfl

/-- The validator comes to these verdicts by these acts, none of which concerns the client. -/
structure Consults (world : Surroundings) (consult : String → String → Session Bool)
    (accepts : String → String → Bool) (deeds : String → String → List Act) : Prop where
  run (user password : String) (tape : Tape) : (consult user password).run world tape =
    { result := accepts user password, acts := deeds user password, tape }
  apart {user password : String} {act : Act} (deed : act ∈ deeds user password) :
    act.isTransfer = false

theorem consults_done (world : Surroundings) (accepts : String → String → Bool) :
    Consults world (fun user password => .done (accepts user password)) accepts fun _ _ => [] :=
  ⟨fun _ _ _ => rfl, nofun⟩

/-- What is done about a stream, single reads aside, what that comes to and what is left unread. -/
inductive Answered (accepts : String → String → Bool) (deeds : String → String → List Act) :
    Bytes → List Act → Except Failure String → Bytes → Prop where
  | cut {stream : Bytes} (cut : IsCut stream) :
      Answered accepts deeds stream [] (.error (.ofIo .unexpectedEnd)) []
  | foreign {first : UInt8} {rest : Bytes} (other : first ≠ 1) :
      Answered accepts deeds (first :: rest) [.wrote [1, 1]]
        (.error (.ofNegotiation (.unsupportedVersion first))) rest
  | nameless {password rest : Bytes} (short : password.length < 256) :
      Answered accepts deeds (message [] password ++ rest) [.wrote [1, 1]]
        (.error (rejected.within "empty username")) rest
  | unreadable {user password rest : Bytes} (named : user ≠ []) (userShort : user.length < 256)
      (passwordShort : password.length < 256)
      (unreadable : Bytes.text? user = none ∨ Bytes.text? password = none) :
      Answered accepts deeds (message user password ++ rest) [.wrote [1, 1]]
        (.error (rejected.within "credentials are not UTF-8")) rest
  | accepted {user password : String} {rest : Bytes} (writable : AreWritable user password)
      (accepted : accepts user password = true) :
      Answered accepts deeds (credentials user password ++ rest)
        (deeds user password ++ [.wrote [1, 0]]) (.ok user) rest
  | refused {user password : String} {rest : Bytes} (writable : AreWritable user password)
      (refused : accepts user password = false) :
      Answered accepts deeds (credentials user password ++ rest)
        (deeds user password ++ [.wrote [1, 1]]) (.error rejected) rest

section Answers

variable {world : Surroundings} {consult : String → String → Session Bool}
  {accepts : String → String → Bool} {deeds : String → String → List Act} {tape : Tape}

theorem exists_answered (stream : Bytes) :
    ∃ conduct result rest, Answered accepts deeds stream conduct result rest := by
  cases stream with
  | nil => exact ⟨_, _, _, .cut (isCut_iff.mpr (.inl rfl))⟩
  | cons first behind =>
    by_cases other : first ≠ 1
    · exact ⟨_, _, _, .foreign other⟩
    obtain rfl := Classical.not_not.mp other
    rcases exists_counted behind with cut | ⟨user, behind, userShort, rfl⟩
    · exact ⟨_, _, _, .cut (isCut_iff.mpr (.inr ⟨_, rfl, .inl cut⟩))⟩
    rcases exists_counted behind with cut | ⟨password, rest, passwordShort, rfl⟩
    · exact ⟨_, _, _, .cut (isCut_iff.mpr (.inr ⟨_, rfl, .inr ⟨user, _, userShort, rfl, cut⟩⟩))⟩
    rw [← message_append]
    by_cases named : user = []
    · exact named ▸ ⟨_, _, _, .nameless passwordShort⟩
    cases userText : Bytes.text? user with
    | none => exact ⟨_, _, _, .unreadable named userShort passwordShort (.inl userText)⟩
    | some name =>
      cases passwordText : Bytes.text? password with
      | none => exact ⟨_, _, _, .unreadable named userShort passwordShort (.inr passwordText)⟩
      | some secret =>
        obtain rfl := Bytes.ofText_of_text? userText
        obtain rfl := Bytes.ofText_of_text? passwordText
        have writable : AreWritable name secret :=
          ⟨fun empty => named (empty ▸ rfl), userShort, passwordShort⟩
        cases judged : accepts name secret with
        | true => exact ⟨_, _, _, .accepted writable judged⟩
        | false => exact ⟨_, _, _, .refused writable judged⟩

theorem run_answer_ok (validator : Consults world consult accepts deeds)
    (isOpen : tape.isOpen = true) (writable : tape.writes = []) (user password : String) :
    (answer consult (.ok (user, password))).run.run world tape =
      { result := if accepts user password then .ok user else .error rejected
        acts := deeds user password ++ [.wrote (status (accepts user password))], tape } := by
  have judged : (ExceptT.lift (consult user password) : Handler Bool).run.run world tape =
      { result := .ok (accepts user password), acts := deeds user password, tape } := by
    have lifted : (ExceptT.lift (consult user password) : Handler Bool).run =
      (consult user password).bind fun accepted => .done (.ok accepted) := rfl
    rw [lifted, Session.run_bind, validator.run]
    simp only [Session.run, List.append_nil]
  rw [answer, run_bind_of_eq judged, run_bind_of_eq (run_write world _ isOpen writable)]
  cases accepts user password <;> rfl

theorem run_answer_error {failure : Failure} (isOpen : tape.isOpen = true)
    (writable : tape.writes = []) (heard : failure ≠ .ofIo .unexpectedEnd) :
    (answer consult (.error failure)).run.run world tape =
      { result := .error failure, acts := [.wrote (status false)], tape } := by
  rw [answer, if_neg heard, run_bind_of_eq (run_write world _ isOpen writable)]
  rfl

/-- A negotiation reads credentials, and does apart from that what it does in its answer. -/
theorem negotiateBy_run {given : Except Failure (String × String)} {result : Except Failure String}
    {rest : Bytes} {acts : List Act} (isOpen : tape.isOpen = true) (writable : tape.writes = [])
    (read : readCredentials.runOn tape.input = (given, rest))
    (answers : ∀ left : Tape, left.isOpen = true → left.writes = [] →
      (answer consult given).run.run world left = { result, acts, tape := left })
    (apart : ∀ act ∈ acts, act.isRead = false) :
    let ran := (negotiateBy consult).run.run world tape
    ran.conduct = acts ∧ ran.result = result ∧ ran.tape.input = rest := by
  obtain ⟨found, silent, left⟩ := readCredentials_format.reader.run_alike world isOpen
  simp only [reading, read] at found silent left
  have kept := run_outcome world readCredentials tape
  rw [found] at kept
  rw [negotiateBy, run_bind_of_eq kept,
    answers _ (left.isOpen.trans isOpen) (left.writes.trans writable)]
  refine ⟨?_, rfl, left.input.trans (Tape.input_holding rest tape)⟩
  have spoken : acts.filter (fun act => !act.isRead) = acts :=
    List.filter_eq_self.mpr fun act member => by rw [apart act member]; rfl
  rw [Ran.conduct, List.filter_append, spoken]
  exact congrArg (· ++ acts) silent

theorem negotiateBy_run_of_areWritable {user password : String} {rest : Bytes}
    (validator : Consults world consult accepts deeds) (isOpen : tape.isOpen = true)
    (writable : tape.writes = []) (able : AreWritable user password)
    (stream : tape.input = credentials user password ++ rest) :
    let ran := (negotiateBy consult).run.run world tape
    ran.conduct = deeds user password ++ [.wrote (status (accepts user password))] ∧
      ran.result = (if accepts user password then .ok user else .error rejected) ∧
      ran.tape.input = rest := by
  have reads : readCredentials.Reads (credentials user password) (user, password) :=
    readCredentials_format.reads_iff.mpr ⟨able, rfl⟩
  refine negotiateBy_run isOpen writable (stream ▸ reads rest)
    (fun _ left free => run_answer_ok validator left free user password) ?_
  intro act member
  rcases List.mem_append.mp member with deed | last
  · have apart := validator.apart deed
    cases act with
    | read octets => cases apart
    | _ => rfl
  · rw [List.mem_singleton.mp last]
    rfl

theorem Answered.run {conduct : List Act} {result : Except Failure String} {rest : Bytes}
    (answered : Answered accepts deeds tape.input conduct result rest)
    (validator : Consults world consult accepts deeds) (isOpen : tape.isOpen = true)
    (writable : tape.writes = []) :
    let ran := (negotiateBy consult).run.run world tape
    ran.conduct = conduct ∧ ran.result = result ∧ ran.tape.input = rest := by
  generalize stream : tape.input = given at answered
  have alone : ∀ act ∈ [Act.wrote (status false)], act.isRead = false := by decide
  cases answered with
  | cut cut =>
    exact negotiateBy_run isOpen writable (stream ▸ runOn_readCredentials_of_isCut cut)
      (fun _ _ _ => rfl) nofun
  | foreign other =>
    exact negotiateBy_run isOpen writable (stream ▸ runOn_readCredentials_of_ne other rest)
      (fun _ left free => run_answer_error left free nofun) alone
  | nameless short =>
    have read := (runOn_readCredentials_message (by decide) short rest).trans
      (runOn_judge_nil _ rest)
    exact negotiateBy_run isOpen writable (stream ▸ read)
      (fun _ left free => run_answer_error left free nofun) alone
  | unreadable named userShort passwordShort unreadable =>
    have read := (runOn_readCredentials_message userShort passwordShort rest).trans
      (runOn_judge_of_none named unreadable rest)
    exact negotiateBy_run isOpen writable (stream ▸ read)
      (fun _ left free => run_answer_error left free nofun) alone
  | accepted able judged =>
    have run := negotiateBy_run_of_areWritable validator isOpen writable able stream
    rw [judged] at run
    exact run
  | refused able judged =>
    have run := negotiateBy_run_of_areWritable validator isOpen writable able stream
    rw [judged] at run
    exact run

theorem negotiateBy_iff_answered (validator : Consults world consult accepts deeds)
    (isOpen : tape.isOpen = true) (writable : tape.writes = []) {conduct : List Act}
    {result : Except Failure String} {rest : Bytes} :
    let ran := (negotiateBy consult).run.run world tape
    ran.conduct = conduct ∧ ran.result = result ∧ ran.tape.input = rest ↔
      Answered accepts deeds tape.input conduct result rest := by
  refine ⟨?_, fun answered => answered.run validator isOpen writable⟩
  rintro ⟨rfl, rfl, rfl⟩
  obtain ⟨conduct, result, rest, answered⟩ := exists_answered tape.input
  obtain ⟨rfl, rfl, rfl⟩ := answered.run validator isOpen writable
  exact answered

end Answers

/-- A stream gets no status if it ends within a message, and one status otherwise: of a stream of
another version one octet is read, of any other the whole message, and whoever is accepted there is
known by the name in it. A validator is asked once at most, for a name and a password that are whole
and texts, and whatever it does happens before the status. -/
theorem negotiate_iff_answered (world : Surroundings) {tape : Tape} (isOpen : tape.isOpen = true)
    (writable : tape.writes = []) (accepts : String → String → Bool) :
    (∀ user password, (message user password).length = 3 + user.length + password.length) ∧
    (let ran := (negotiate accepts).run.run world tape
    ∀ conduct result rest,
      ran.conduct = conduct ∧ ran.result = result ∧ ran.tape.input = rest ↔
        Answered accepts (fun _ _ => []) tape.input conduct result rest) ∧
    negotiate accepts = negotiateBy (fun user password => .done (accepts user password)) ∧
    ∀ consult deeds, Consults world consult accepts deeds →
      let ran := (negotiateBy consult).run.run world tape
      ∀ conduct result rest,
        ran.conduct = conduct ∧ ran.result = result ∧ ran.tape.input = rest ↔
          Answered accepts deeds tape.input conduct result rest := by
  refine ⟨length_message, ?_, negotiate_eq accepts, ?_⟩
  · intro ran conduct result rest
    exact negotiateBy_iff_answered (consults_done world accepts) isOpen writable
  · intro consult deeds validator ran conduct result rest
    exact negotiateBy_iff_answered validator isOpen writable

/-- The credentials of `ann` in three segments, with a request behind them. -/
def sentByAnn : Tape := { segments := [[1, 3, 97], [110, 110, 4, 111], [112, 101, 110, 5, 1]] }

/-- Her name with another password. -/
def sentForAnn : Tape := .ofBytes [1, 3, 97, 110, 110, 2, 110, 111, 5, 1]

/-- A validator that looks for the host of a user before it accepts `ann`. -/
def inquire (user password : String) : Session Bool :=
  .resolve user fun _ => .done (user == "ann" && password == "open")

/-- Her password is accepted, another is refused, and so is what does not start as a message. -/
theorem negotiate_iff_answered_ann :
    let accepts (user password : String) := user == "ann" && password == "open"
    let ran := (negotiate accepts).run.run .isolated sentByAnn
    let inquired := (negotiateBy inquire).run.run .isolated sentByAnn
    let guessed := (negotiate accepts).run.run .isolated sentForAnn
    let foreign := (negotiate accepts).run.run .isolated (.ofBytes [5, 1])
    sentByAnn.isOpen = true ∧ sentByAnn.writes = [] ∧
      Consults .isolated inquire accepts (fun user _ => [.resolved user]) ∧
      sentByAnn.input = credentials "ann" "open" ++ [5, 1] ∧
      (ran.conduct = [.wrote [1, 0]] ∧ ran.result = .ok "ann" ∧ ran.tape.input = [5, 1]) ∧
      (inquired.conduct = [.resolved "ann", .wrote [1, 0]] ∧ inquired.result = .ok "ann" ∧
        inquired.tape.input = [5, 1]) ∧
      (guessed.conduct = [.wrote [1, 1]] ∧ guessed.result = .error rejected ∧
        guessed.tape.input = [5, 1]) ∧
      foreign.conduct = [.wrote [1, 1]] ∧
        foreign.result = .error (.ofNegotiation (.unsupportedVersion 5)) ∧
        foreign.tape.input = [1] := by
  intro accepts ran inquired guessed foreign
  have input : sentByAnn.input = credentials "ann" "open" ++ [5, 1] := by decide
  have other : sentForAnn.input = credentials "ann" "no" ++ [5, 1] := by decide
  have able : AreWritable "ann" "open" := ⟨by decide, by decide, by decide⟩
  have validator : Consults .isolated inquire accepts (fun user _ => [.resolved user]) := by
    refine ⟨fun _ _ _ => rfl, ?_⟩
    intro user password act deed
    rw [List.mem_singleton.mp deed]
    rfl
  obtain ⟨-, alone, -, asked⟩ :=
    negotiate_iff_answered .isolated (rfl : sentByAnn.isOpen = true) rfl accepts
  obtain ⟨-, guessing, -⟩ :=
    negotiate_iff_answered .isolated (rfl : sentForAnn.isOpen = true) rfl accepts
  obtain ⟨-, without, -⟩ :=
    negotiate_iff_answered .isolated (rfl : (Tape.ofBytes [5, 1]).isOpen = true) rfl accepts
  refine ⟨rfl, rfl, validator, input, (alone ..).mpr ?_, (asked _ _ validator ..).mpr ?_,
    (guessing ..).mpr ?_, (without ..).mpr (.foreign (by decide))⟩
  · exact input ▸ .accepted able rfl
  · exact input ▸ .accepted able rfl
  · exact other ▸ .refused ⟨by decide, by decide, by decide⟩ rfl

end Socks5.Password

end SocksGateway
