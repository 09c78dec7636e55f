import SocksGateway.Proofs.Socks5.Connect
import SocksGateway.Proofs.Target.Codec

/-!
Destinations from a client and from memory. The reader of a request and the decoder of datagrams find the
same destination with the same octets behind it, and refuse one for the same reason. Only where the
octets end too early do they differ: the reader then finds nothing, and the decoder says what is missing.
-/

set_option autoImplicit false

namespace SocksGateway.Socks5

open Handler

variable {kind : UInt8} {stream rest : Bytes} {target : Target} {found : Destination}

/-! ## In memory -/

theorem names_iff_decode :
    Names kind stream target rest ↔ Target.decode (kind :: stream) = .ok (target, rest) := by
  rw [Target.decode_eq_ok_iff]
  constructor
  · intro ⟨octets, split, writable, encoded⟩
    rw [split, ← encoded]
    exact ⟨writable, rfl⟩
  · intro ⟨writable, split⟩
    obtain ⟨first, octets, encoded⟩ := List.exists_cons_of_ne_nil target.encode_ne_nil
    rw [encoded] at split
    obtain ⟨rfl, rfl⟩ := List.cons_eq_cons.mp split
    exact ⟨octets, rfl, writable, encoded.symm⟩

theorem decode_of_isUnknown (unknown : IsUnknown kind) (stream : Bytes) :
    Target.decode (kind :: stream) = .error (.ofNegotiation (.addressTypeNotSupported kind)) := by
  obtain ⟨ipv4, domain, ipv6⟩ := isUnknown_iff.mp unknown
  dsimp only [Target.decode]
  rw [if_neg ipv4, if_neg ipv6, if_neg domain]

/-- The text of no octets is empty, so an empty name is refused with the text that it has. -/
theorem decode_of_noName {name : Bytes} (port : UInt16) (rest : Bytes) (short : name.length < 256)
    (noName : name = [] ∨ Bytes.text? name = none) :
    Target.decode (AddressType.domain :: (counted name ++ (Bytes.ofWord port ++ rest))) =
      .error (.ofNegotiation (.invalidDomain (Utf8.lossy name))) := by
  by_cases empty : name = []
  · subst empty
    rfl
  · have unreadable : Bytes.text? name = none := noName.resolve_left empty
    have whole : Target.decode (AddressType.domain :: (counted name ++ (Bytes.ofWord port ++ rest))) =
        Target.decodeDomain (UInt8.ofNat name.length :: (name ++ (Bytes.ofWord port ++ rest))) := rfl
    rw [whole, Target.decodeDomain_counted _ empty short, Target.decodeNamed, unreadable]
    rfl

/-- Nothing is decoded of octets that end within a destination: what is decoded stands there whole. -/
theorem exists_decode_of_endsWithin (cut : EndsWithin kind stream) :
    ∃ failure, Target.decode (kind :: stream) = .error failure := by
  cases decoded : Target.decode (kind :: stream) with
  | error failure => exact ⟨failure, rfl⟩
  | ok given =>
    obtain ⟨target, rest⟩ := given
    have stands : Destination.cut.Stands kind stream := cut
    have names : (Destination.named target rest).Stands kind stream := names_iff_decode.mpr decoded
    cases stands.unique names

/-! ## Both -/

/-- What a destination comes to in a reader, with the octets left over, and in memory. -/
inductive Agrees : Destination → Except Failure (Option Target) → Bytes →
    Except Failure (Target × Bytes) → Prop where
  | cut (left : Bytes) (failure : Failure) : Agrees .cut (.ok none) left (.error failure)
  | unknown (kind : UInt8) (left : Bytes) : Agrees .unknown
      (.error (.ofNegotiation (.addressTypeNotSupported kind))) left
      (.error (.ofNegotiation (.addressTypeNotSupported kind)))
  | misnamed (text : String) (left : Bytes) : Agrees .misnamed
      (.error (.ofNegotiation (.invalidDomain text))) left
      (.error (.ofNegotiation (.invalidDomain text)))
  | named (target : Target) (rest : Bytes) :
      Agrees (.named target rest) (.ok (some target)) rest (.ok (target, rest))

namespace Agrees

variable {read : Except Failure (Option Target)} {left : Bytes}
  {decoded : Except Failure (Target × Bytes)}

theorem some_iff (agrees : Agrees found read left decoded) :
    read = .ok (some target) ∧ left = rest ↔ decoded = .ok (target, rest) := by
  cases agrees with
  | cut | unknown | misnamed =>
    constructor
    · intro ⟨given, _⟩
      cases given
    · intro given
      cases given
  | named target' rest' =>
    simp only [Except.ok.injEq, Option.some.injEq, Prod.mk.injEq]

theorem decoded_of_error (agrees : Agrees found read left decoded) {failure : Failure}
    (failed : read = .error failure) :
    decoded = .error failure ∧ ∃ error, failure = .ofNegotiation error := by
  cases agrees with
  | cut | named => cases failed
  | unknown | misnamed =>
    cases failed
    exact ⟨rfl, _, rfl⟩

theorem none_iff (agrees : Agrees found read left decoded) : read = .ok none ↔ found = .cut := by
  cases agrees with
  | cut => exact iff_of_true rfl rfl
  | unknown | misnamed | named => exact iff_of_false nofun nofun

theorem exists_error_of_cut (agrees : Agrees .cut read left decoded) :
    ∃ failure, decoded = .error failure := by
  cases agrees with
  | cut left failure => exact ⟨failure, rfl⟩

end Agrees

/-- Whatever stands in a stream, the two agree on it. -/
theorem Destination.Stands.agrees {tape : Tape} (world : Surroundings) (isOpen : tape.isOpen = true)
    (stands : found.Stands kind tape.input) :
    let ran := (readTarget kind).run.run world tape
    Agrees found ran.result ran.tape.input (Target.decode (kind :: tape.input)) := by
  intro ran
  obtain ⟨result, _, left⟩ := readTarget_run world kind isOpen
  have input := left.input.trans (Tape.input_holding _ _)
  rw [show ran.result = _ from result, show ran.tape.input = _ from input]
  cases found with
  | cut =>
    obtain ⟨failure, failed⟩ := exists_decode_of_endsWithin stands
    rw [runOn_of_endsWithin stands, failed]
    exact .cut [] failure
  | unknown =>
    rw [runOn_of_isUnknown stands, decode_of_isUnknown stands]
    exact .unknown kind tape.input
  | misnamed =>
    obtain ⟨isDomain, name, port, rest, split, short, noName⟩ := stands
    rw [show kind = AddressType.domain from isDomain, split,
      runOn_readAddress_of_noName port rest short noName, decode_of_noName port rest short noName]
    exact .misnamed (Utf8.lossy name) rest
  | named target rest =>
    rw [names_iff_decode.mp stands]
    obtain ⟨octets, split, named⟩ := stands
    rw [split, (readAddress_format kind).reads_iff.mpr named rest]
    exact .named target rest

/-- A destination is read from a client, with the same octets left, exactly if it is decoded from
memory; a failure to read it is the failure to decode it; and nothing is read exactly if the octets end
before the port of a known type of address is complete, in which case decoding fails too. -/
theorem readTarget_iff_decode (world : Surroundings) (kind : UInt8) {tape : Tape}
    (isOpen : tape.isOpen = true) :
    let ran := (readTarget kind).run.run world tape
    let decoded := Target.decode (kind :: tape.input)
    (∀ target rest, ran.result = .ok (some target) ∧ ran.tape.input = rest ↔
      decoded = .ok (target, rest)) ∧
    (∀ failure, ran.result = .error failure →
      decoded = .error failure ∧ ∃ error, failure = .ofNegotiation error) ∧
    (ran.result = .ok none ↔ EndsWithin kind tape.input) ∧
    (EndsWithin kind tape.input → ∃ failure, decoded = .error failure) := by
  intro ran decoded
  obtain ⟨found, stands⟩ := Destination.exists_stands kind tape.input
  have agrees : Agrees found ran.result ran.tape.input decoded := stands.agrees world isOpen
  have cut_iff : found = .cut ↔ EndsWithin kind tape.input := by
    constructor
    · intro cut
      subst cut
      exact stands
    · intro ends
      have cut : Destination.cut.Stands kind tape.input := ends
      exact cut.unique stands
  refine ⟨fun target rest => agrees.some_iff, fun failure => agrees.decoded_of_error,
    agrees.none_iff.trans cut_iff, ?_⟩
  intro ends
  obtain rfl := cut_iff.mpr ends
  exact agrees.exists_error_of_cut

/-- A name in segments, of which the last is the port and what stands behind it. -/
def nameInSegments (last : Bytes) : Tape := { segments := [[1, 97], [], last] }

/-- The name is found either way. With half of its port the reader finds nothing, and the decoder
fails. -/
theorem readTarget_iff_decode_nameInSegments :
    let whole := nameInSegments [0, 80, 7]
    let ran := (readTarget 3).run.run .isolated whole
    (ran.result = .ok (some (.domain "a" 80)) ∧ ran.tape.input = [7]) ∧
      ((readTarget 3).run.run .isolated (nameInSegments [0])).result = .ok none ∧
      ∃ failure, Target.decode (3 :: (nameInSegments [0]).input) = .error failure := by
  intro whole ran
  have writable : (Target.domain "a" 80).IsWritable := ⟨by decide, by decide⟩
  have ends : EndsWithin 3 (nameInSegments [0]).input := by
    refine ⟨fun unknown => unknown.2.1 rfl, ?_⟩
    decide
  obtain ⟨found, _⟩ := readTarget_iff_decode .isolated 3 (rfl : whole.isOpen = true)
  obtain ⟨_, _, none_iff, fails⟩ :=
    readTarget_iff_decode .isolated 3 (rfl : (nameInSegments [0]).isOpen = true)
  exact ⟨(found _ _).mpr (Target.decode_encode [7] writable), none_iff.mpr ends, fails ends⟩

end SocksGateway.Socks5
