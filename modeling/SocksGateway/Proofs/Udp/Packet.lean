import SocksGateway.Proofs.Target.Codec
import SocksGateway.Udp.Packet

/-!
Datagrams and packets. Those packets that can be written and the datagrams of the format correspond to
each other one to one: encoding and reading undo each other, and no other datagram is read.
-/

set_option autoImplicit false

namespace SocksGateway

/-! ## The format -/

/-- The octets of an address of the given type: four, sixteen, or a host name after its length. -/
inductive IsAddress : (kind : UInt8) → Bytes → Prop where
  | ipv4 {octets : Bytes} (length : octets.length = 4) : IsAddress 1 octets
  | ipv6 {octets : Bytes} (length : octets.length = 16) : IsAddress 4 octets
  | name {length : UInt8} {name : String} (present : 1 ≤ length)
      (size : (Bytes.ofText name).length = length.toNat) :
      IsAddress 3 (length :: Bytes.ofText name)

/-- The octets of a datagram: two zeros, a fragment number, a type with an address of it, two octets of
a port, and a payload. -/
inductive IsDatagram : Bytes → Prop where
  | intro {fragment kind : UInt8} {address port : Bytes} (payload : Bytes)
      (isAddress : IsAddress kind address) (isPort : port.length = 2) :
      IsDatagram ([0, 0, fragment, kind] ++ address ++ port ++ payload)

/-- The wire form of a destination that can be written is a type, an address of it and a port. -/
theorem Target.IsWritable.isAddress {target : Target} (writable : target.IsWritable) :
    ∃ kind address, IsAddress kind address ∧
      target.encode = kind :: (address ++ Bytes.ofWord target.port) := by
  cases target with
  | ip endpoint =>
    obtain ⟨ip | ip, port⟩ := endpoint
    · exact ⟨1, ip.octets, .ipv4 rfl, rfl⟩
    · exact ⟨4, ip.octets, .ipv6 rfl, rfl⟩
  | domain name port =>
    obtain ⟨named, short⟩ := writable
    have size : (UInt8.ofNat (Bytes.ofText name).length).toNat = (Bytes.ofText name).length :=
      UInt8.toNat_ofNat_of_lt' short
    have present : 0 < (Bytes.ofText name).length :=
      List.length_pos_iff.mpr (Bytes.ofText_ne_nil named)
    have counts : 1 ≤ UInt8.ofNat (Bytes.ofText name).length := by
      rw [UInt8.le_iff_toNat_le, size]
      exact present
    exact ⟨3, _, .name counts size.symm, rfl⟩

/-- An address with a port is the wire form of a destination. -/
theorem IsAddress.exists_target {kind : UInt8} {address : Bytes} (isAddress : IsAddress kind address)
    (port : UInt16) :
    ∃ target : Target, target.IsWritable ∧
      target.encode = kind :: (address ++ Bytes.ofWord port) := by
  cases isAddress with
  | ipv4 length =>
    match address, length with
    | [a, b, c, d], _ => exact ⟨.ip ⟨.v4 ⟨a, b, c, d⟩, port⟩, trivial, rfl⟩
  | ipv6 length =>
    obtain ⟨ip, rfl⟩ := Target.exists_ipv6_of_length length
    exact ⟨.ip ⟨.v6 ip, port⟩, trivial, rfl⟩
  | @name length name present size =>
    have bound := length.toNat_lt
    rw [UInt8.le_iff_toNat_le] at present
    refine ⟨.domain name port, ⟨?_, by omega⟩, ?_⟩
    · rintro rfl
      have zero : length.toNat = 0 := size.symm
      rw [zero] at present
      cases present
    · rw [Target.encode, size, UInt8.ofNat_toNat]
      rfl

namespace UdpPacket

/-- A datagram is read back from its wire form. -/
theorem decode_encode {packet : UdpPacket} (writable : packet.address.IsWritable) :
    decode packet.encode = .ok packet := by
  have reserved : ¬ Bytes.word 0 0 ≠ 0 := by decide
  have whole : packet.encode =
      0 :: 0 :: packet.fragment :: (packet.address.encode ++ packet.payload) := rfl
  rw [whole]
  dsimp only [decode]
  rw [if_neg reserved, Target.decode_encode packet.payload writable]
  rfl

theorem encode_of_decode {datagram : Bytes} {packet : UdpPacket}
    (decoded : decode datagram = .ok packet) :
    packet.address.IsWritable ∧ packet.encode = datagram := by
  match datagram, decoded with
  | high :: low :: fragment :: rest, decoded =>
    dsimp only [decode] at decoded
    split at decoded
    · cases decoded
    · rename_i reserved
      have zeros : [high, low] = [0, 0] := by
        rw [← Bytes.ofWord_word, Classical.not_not.mp reserved]
        rfl
      cases zeros
      cases found : Target.decode rest with
      | error failure =>
        rw [found] at decoded
        cases decoded
      | ok given =>
        rw [found] at decoded
        cases decoded
        obtain ⟨writable, whole⟩ := Target.encode_of_decode found
        exact ⟨writable, congrArg (0 :: 0 :: fragment :: ·) whole.symm⟩

/-- What is read from a datagram is the packet of which it is the wire form. -/
theorem decode_eq_ok_iff {datagram : Bytes} {packet : UdpPacket} :
    decode datagram = .ok packet ↔ packet.address.IsWritable ∧ packet.encode = datagram := by
  constructor
  · exact encode_of_decode
  · rintro ⟨writable, rfl⟩
    exact decode_encode writable

/-- The wire form of a packet that can be written is a datagram. -/
theorem isDatagram_encode {packet : UdpPacket} (writable : packet.address.IsWritable) :
    IsDatagram packet.encode := by
  obtain ⟨kind, address, isAddress, whole⟩ := writable.isAddress
  have split : packet.encode = [0, 0, packet.fragment, kind] ++ address ++
      Bytes.ofWord packet.address.port ++ packet.payload := by
    rw [encode, whole]
    simp only [List.cons_append, List.nil_append, List.append_assoc]
  rw [split]
  exact .intro packet.payload isAddress rfl

/-- There are no other datagrams. -/
theorem exists_encode_of_isDatagram {datagram : Bytes} (isDatagram : IsDatagram datagram) :
    ∃ packet : UdpPacket, packet.address.IsWritable ∧ packet.encode = datagram := by
  obtain @⟨fragment, kind, address, port, payload, isAddress, isPort⟩ := isDatagram
  match port, isPort with
  | [high, low], _ =>
    obtain ⟨target, writable, whole⟩ := isAddress.exists_target (Bytes.word high low)
    refine ⟨{ fragment, address := target, payload }, writable, ?_⟩
    rw [encode, whole, Bytes.ofWord_word]
    simp only [List.cons_append, List.nil_append, List.append_assoc]

/-- What is read from octets is what they are the wire form of, and nothing is left of it. Datagrams are
read, and nothing else is; destinations are read with the octets behind them left over, and have the
length that is announced for them. -/
theorem decode_iff_encode :
    (∀ (datagram : Bytes) (packet : UdpPacket), decode datagram = .ok packet ↔
      packet.address.IsWritable ∧ packet.encode = datagram) ∧
    (∀ datagram : Bytes, (∃ packet, decode datagram = .ok packet) ↔ IsDatagram datagram) ∧
    (∀ target : Target, target.encode.length = target.encodedLength) ∧
    (∀ (octets rest : Bytes) (target : Target), Target.decode octets = .ok (target, rest) ↔
      target.IsWritable ∧ octets = target.encode ++ rest) := by
  refine ⟨fun datagram packet => decode_eq_ok_iff, ?_, Target.length_encode,
    fun octets rest target => Target.decode_eq_ok_iff⟩
  intro datagram
  constructor
  · intro ⟨packet, decoded⟩
    obtain ⟨writable, rfl⟩ := encode_of_decode decoded
    exact isDatagram_encode writable
  · intro isDatagram
    obtain ⟨packet, writable, rfl⟩ := exists_encode_of_isDatagram isDatagram
    exact ⟨packet, decode_encode writable⟩

end UdpPacket

end SocksGateway
