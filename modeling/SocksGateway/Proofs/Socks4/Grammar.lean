import SocksGateway.Proofs.Socks4.Opening

/-!
The grammar of version 4. Those streams that start with a request are read, up to its end, and no others
are; and a field that is too long is given up with its 256th octet.
-/

set_option autoImplicit false

namespace SocksGateway.Socks4

open Handler

/-- Only the addresses `0.0.0.x`, where `x` is not zero, announce a host name. -/
theorem announcesName_iff {ip : Ipv4} :
    announcesName ip = true ↔ ∃ last, last ≠ 0 ∧ ip = ⟨0, 0, 0, last⟩ := by
  obtain ⟨a, b, c, d⟩ := ip
  simp only [announcesName, Bool.and_eq_true, beq_iff_eq, bne_iff_ne, Ipv4.mk.injEq]
  constructor
  · intro ⟨⟨⟨first, second⟩, third⟩, last⟩
    exact ⟨d, last, first, second, third, rfl⟩
  · intro ⟨last, nonzero, first, second, third, same⟩
    exact ⟨⟨⟨first, second⟩, third⟩, same ▸ nonzero⟩

/-- What stands before a field of this description. -/
inductive Precedes : (what : String) → Bytes → Prop where
  | user {command : UInt8} {port : UInt16} {ip : Ipv4} : Precedes "user id" (head command port ip)
  | name {command : UInt8} {port : UInt16} {ip : Ipv4} {user : String}
      (writable : IsWritable user) (announced : announcesName ip = true) :
      Precedes "domain" (head command port ip ++ (Bytes.ofText user ++ [0]))

theorem Precedes.isMalformed {what : String} {front octets : Bytes} (precedes : Precedes what front)
    (length : octets.length = fieldLimit + 1) (unended : 0 ∉ octets) :
    IsMalformed (front ++ octets) ("SOCKS4 " ++ what ++ " too long") := by
  cases precedes with
  | user => exact .user (.long length unended)
  | name writable announced =>
    rw [List.append_assoc]
    exact .name writable announced (.flawed (.long length unended))

/-- However long a field is, and whatever comes behind it, no more of it is read than the octet that is
one too many. -/
theorem runOn_of_precedes {what : String} {front field : Bytes} (rest : Bytes)
    (precedes : Precedes what front) (long : fieldLimit < field.length) (unended : 0 ∉ field) :
    readRequest.runOn (front ++ (field ++ rest)) =
      (.error { cause := .protocol ("SOCKS4 " ++ what ++ " too long") },
        field.drop (fieldLimit + 1) ++ rest) := by
  have length : (field.take (fieldLimit + 1)).length = fieldLimit + 1 :=
    List.length_take_of_le long
  have unended' : 0 ∉ field.take (fieldLimit + 1) :=
    fun member => unended (List.mem_of_mem_take member)
  have split : front ++ (field ++ rest) =
      front ++ field.take (fieldLimit + 1) ++ (field.drop (fieldLimit + 1) ++ rest) := by
    rw [List.append_assoc, ← List.append_assoc (field.take _), List.take_append_drop]
  rw [split]
  exact runOn_of_isMalformed _ (precedes.isMalformed length unended')

/-- A request is read, with the octets behind it left, exactly if the stream starts with it; no other
stream is read; and of a field of more than 255 octets 256 are read, however long the stream is. -/
theorem readRequest_iff (world : Surroundings) {tape : Tape} (isOpen : tape.isOpen = true) :
    let ran := readRequest.run.run world tape
    (∀ request rest, ran.result = .ok request ∧ ran.tape.input = rest ↔
      ∃ octets, request.IsWritten octets ∧ tape.input = octets ++ rest) ∧
    ((∀ (request : Request) (octets rest : Bytes), request.IsWritten octets → tape.input ≠ octets ++ rest) →
      ∃ failure, ran.result = .error failure) ∧
    (∀ what front field rest, Precedes what front → fieldLimit < field.length → 0 ∉ field →
      tape.input = front ++ (field ++ rest) →
      ran.result = .error { cause := .protocol ("SOCKS4 " ++ what ++ " too long") } ∧
        ran.tape.input = field.drop (fieldLimit + 1) ++ rest) ∧
    ∀ ip : Ipv4, announcesName ip = true ↔ ∃ last, last ≠ 0 ∧ ip = ⟨0, 0, 0, last⟩ := by
  intro ran
  have read_iff : ∀ request rest, ran.result = .ok request ∧ ran.tape.input = rest ↔
      ∃ octets, request.IsWritten octets ∧ tape.input = octets ++ rest :=
    fun request rest => readRequest_format.result_iff world isOpen
  refine ⟨read_iff, ?_, ?_, fun ip => announcesName_iff⟩
  · intro other
    cases result : ran.result with
    | error failure => exact ⟨failure, rfl⟩
    | ok request =>
      obtain ⟨octets, written, split⟩ := (read_iff request _).mp ⟨result, rfl⟩
      exact absurd split (other request octets _ written)
  · intro what front field rest precedes long unended split
    have read : (ran.result, ran.tape.input) = readRequest.runOn tape.input :=
      readRequest_format.reader.result_and_input world isOpen
    rw [split, runOn_of_precedes rest precedes long unended] at read
    exact Prod.mk.inj read

/-- A request for a host name in segments, and a user's name of 300 octets. -/
def hostInSegments : Tape :=
  { segments := [[4, 1, 0, 80, 0, 0], [], [0, 7, 117, 0, 97], [0, 9]] }

def longUser : Tape := .ofBytes ([4, 1, 0, 80, 10, 0, 0, 1] ++ List.replicate 300 117)

/-- The octet behind the request stays, and so do those of the name behind the first that is too many. -/
theorem readRequest_iff_hostInSegments :
    let ran := readRequest.run.run .isolated hostInSegments
    let failed := readRequest.run.run .isolated longUser
    (ran.result = .ok { command := 1, target := .domain "a" 80, user := "u" } ∧
        ran.tape.input = [9]) ∧
      failed.result = .error { cause := .protocol "SOCKS4 user id too long" } ∧
      failed.tape.input = List.replicate 44 117 := by
  intro ran failed
  have user : IsWritable "u" := ⟨by decide, by decide⟩
  have name : IsEnding 1 80 ⟨0, 0, 0, 7⟩ "u" (Bytes.ofText "a" ++ [0])
      { command := 1, target := .domain "a" 80, user := "u" } :=
    .name rfl (by decide) ⟨by decide, by decide⟩
  have given : hostInSegments.input = [4, 1, 0, 80, 0, 0, 0, 7, 117, 0, 97, 0] ++ [9] := rfl
  have long : longUser.input = head 1 80 ⟨10, 0, 0, 1⟩ ++ (List.replicate 300 117 ++ []) := by
    rw [longUser, Tape.input_ofBytes, List.append_nil]
    rfl
  obtain ⟨read, _⟩ := readRequest_iff .isolated (rfl : hostInSegments.isOpen = true)
  obtain ⟨_, _, givenUp, _⟩ := readRequest_iff .isolated (rfl : longUser.isOpen = true)
  have tooLong : fieldLimit < (List.replicate 300 (117 : UInt8)).length := by
    rw [List.length_replicate]
    decide
  have unended : (0 : UInt8) ∉ List.replicate 300 (117 : UInt8) := by
    rw [List.mem_replicate]
    decide
  refine ⟨(read _ _).mpr ⟨_, .intro user name, given⟩, ?_⟩
  have left := givenUp _ _ _ [] .user tooLong unended long
  rw [List.drop_replicate, List.append_nil] at left
  exact left

end SocksGateway.Socks4
