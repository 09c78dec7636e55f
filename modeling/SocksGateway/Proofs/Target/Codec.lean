import SocksGateway.Proofs.Socks5.Formats

/-!
Destinations in memory. What was encoded is read back, whatever follows it, and what is read from octets
is what they are the wire form of.
-/

set_option autoImplicit false

namespace SocksGateway

namespace Target

/-- The wire form has the length that is announced for it, also where its length octet wraps. -/
theorem length_encode (target : Target) : target.encode.length = target.encodedLength := by
  cases target with
  | ip endpoint =>
    obtain ⟨ip | ip, port⟩ := endpoint
    · rfl
    · rfl
  | domain name port =>
    have size : (Bytes.ofText name).length = name.utf8ByteSize := by
      simp only [Bytes.ofText, String.toUTF8, Array.length_toList, ByteArray.size_data,
        String.size_toByteArray]
    simp only [encode, encodedLength, List.length_append, List.length_cons, Bytes.length_ofWord, size]

theorem encode_ne_nil (target : Target) : target.encode ≠ [] := by
  cases target with
  | ip endpoint => exact List.cons_ne_nil _ _
  | domain name port => exact List.cons_ne_nil _ _

theorem decodePort_append (port : UInt16) (rest : Bytes) :
    decodePort (Bytes.ofWord port ++ rest) = .ok (port, rest) := by
  change Except.ok (Bytes.word _ _, rest) = _
  rw [Bytes.word_ofNat]

theorem decodeIpv4_append (ip : Ipv4) (port : UInt16) (rest : Bytes) :
    decodeIpv4 (ip.octets ++ (Bytes.ofWord port ++ rest)) =
      .ok (.ip ⟨.v4 ip, port⟩, rest) := by
  dsimp only [decodeIpv4, Ipv4.octets, List.cons_append, List.nil_append]
  rw [decodePort_append]
  rfl

theorem decodeIpv6_append (ip : Ipv6) (port : UInt16) (rest : Bytes) :
    decodeIpv6 (ip.octets ++ (Bytes.ofWord port ++ rest)) =
      .ok (.ip ⟨.v6 ip, port⟩, rest) := by
  have size : ip.octets.length = 16 := rfl
  have front : (ip.octets ++ (Bytes.ofWord port ++ rest)).take 16 = ip.octets :=
    List.take_left' size
  have back : (ip.octets ++ (Bytes.ofWord port ++ rest)).drop 16 = Bytes.ofWord port ++ rest :=
    List.drop_left' size
  unfold decodeIpv6
  rw [front, back, ipv6OfOctets?_eq_some_iff.mpr rfl, decodePort_append]
  rfl

/-- What becomes of the octets of a name and those behind it. -/
def decodeNamed (octets rest : Bytes) : Except Failure (Target × Bytes) :=
  match Bytes.text? octets with
  | none => .error (invalidDomain (Utf8.lossy octets))
  | some name => do
    let (port, rest) ← decodePort rest
    return (domain name port, rest)

theorem decodeDomain_cons (length : UInt8) (rest : Bytes) :
    decodeDomain (length :: rest) =
      if length.toNat = 0 ∨ rest.length < length.toNat then .error (invalidDomain "")
      else decodeNamed (rest.take length.toNat) (rest.drop length.toNat) := rfl

/-- A length that is not zero divides the octets behind it. -/
theorem decodeDomain_counted {octets : Bytes} (rest : Bytes) (present : octets ≠ [])
    (short : octets.length < 256) :
    decodeDomain (UInt8.ofNat octets.length :: (octets ++ rest)) = decodeNamed octets rest := by
  have size : (UInt8.ofNat octets.length).toNat = octets.length := UInt8.toNat_ofNat_of_lt' short
  have positive : 0 < octets.length := List.length_pos_iff.mpr present
  have enough : ¬ (octets.length = 0 ∨ (octets ++ rest).length < octets.length) := by
    rw [List.length_append]
    omega
  rw [decodeDomain_cons, size, if_neg enough, List.take_left, List.drop_left]

theorem decodeDomain_append {name : String} (port : UInt16) (rest : Bytes)
    (writable : IsWritable (.domain name port)) :
    decodeDomain (UInt8.ofNat (Bytes.ofText name).length ::
        (Bytes.ofText name ++ (Bytes.ofWord port ++ rest))) = .ok (.domain name port, rest) := by
  obtain ⟨named, short⟩ := writable
  rw [decodeDomain_counted _ (Bytes.ofText_ne_nil named) short, decodeNamed, Bytes.text?_ofText]
  dsimp only
  rw [decodePort_append]
  rfl

/-- A destination is read back from its wire form. -/
theorem decode_encode {target : Target} (rest : Bytes) (writable : target.IsWritable) :
    decode (target.encode ++ rest) = .ok (target, rest) := by
  cases target with
  | ip endpoint =>
    obtain ⟨ip | ip, port⟩ := endpoint
    · exact decodeIpv4_append ip port rest
    · exact decodeIpv6_append ip port rest
  | domain name port =>
    have framed := decodeDomain_append port rest writable
    rw [← List.append_assoc, ← List.cons_append] at framed
    exact framed

/-! ## That nothing else is read -/

theorem eq_append_of_decodePort {octets rest : Bytes} {port : UInt16}
    (decoded : decodePort octets = .ok (port, rest)) : octets = Bytes.ofWord port ++ rest := by
  match octets, decoded with
  | high :: low :: behind, decoded =>
    cases decoded
    rw [Bytes.ofWord_word]
    rfl

/-- A port and what is made of it. -/
theorem exists_of_decodePort_bind {octets rest : Bytes} {target : Target} {f : UInt16 → Target}
    (decoded : (do
      let (port, rest) ← decodePort octets
      return (f port, rest) : Except Failure (Target × Bytes)) = .ok (target, rest)) :
    ∃ port, target = f port ∧ octets = Bytes.ofWord port ++ rest := by
  cases found : decodePort octets with
  | error failure =>
    rw [found] at decoded
    cases decoded
  | ok given =>
    rw [found] at decoded
    cases decoded
    exact ⟨given.1, rfl, eq_append_of_decodePort found⟩

theorem encode_of_decodeIpv4 {octets rest : Bytes} {target : Target}
    (decoded : decodeIpv4 octets = .ok (target, rest)) :
    target.IsWritable ∧ AddressType.ipv4 :: octets = target.encode ++ rest := by
  match octets, decoded with
  | a :: b :: c :: d :: behind, decoded =>
    obtain ⟨port, rfl, rfl⟩ :=
      exists_of_decodePort_bind (f := fun port => .ip ⟨.v4 ⟨a, b, c, d⟩, port⟩) decoded
    exact ⟨trivial, rfl⟩

theorem encode_of_decodeIpv6 {octets rest : Bytes} {target : Target}
    (decoded : decodeIpv6 octets = .ok (target, rest)) :
    target.IsWritable ∧ AddressType.ipv6 :: octets = target.encode ++ rest := by
  unfold decodeIpv6 at decoded
  split at decoded
  · rename_i address found
    obtain ⟨port, rfl, behind⟩ :=
      exists_of_decodePort_bind (f := fun port => .ip ⟨.v6 address, port⟩) decoded
    have front := ipv6OfOctets?_eq_some_iff.mp found
    have whole : octets = address.octets ++ (Bytes.ofWord port ++ rest) := by
      rw [← front, ← behind, List.take_append_drop]
    rw [whole]
    exact ⟨trivial, rfl⟩
  · cases decoded

theorem encode_of_decodeDomain {octets rest : Bytes} {target : Target}
    (decoded : decodeDomain octets = .ok (target, rest)) :
    target.IsWritable ∧ AddressType.domain :: octets = target.encode ++ rest := by
  cases octets with
  | nil => cases decoded
  | cons length behind =>
    rw [decodeDomain_cons] at decoded
    split at decoded
    · cases decoded
    · rename_i enough
      unfold decodeNamed at decoded
      split at decoded
      · cases decoded
      · rename_i name readable
        obtain ⟨port, rfl, left⟩ := exists_of_decodePort_bind (f := .domain name) decoded
        have same := Bytes.ofText_of_text? readable
        have size : (Bytes.ofText name).length = length.toNat := by
          rw [same, List.length_take]
          omega
        have whole : behind = Bytes.ofText name ++ (Bytes.ofWord port ++ rest) := by
          rw [same, ← left, List.take_append_drop]
        have bound := length.toNat_lt
        refine ⟨⟨?_, by omega⟩, ?_⟩
        · rintro rfl
          have zero : length.toNat = 0 := size.symm
          omega
        · rw [encode, size, UInt8.ofNat_toNat, whole]
          simp only [List.cons_append, List.append_assoc]

theorem encode_of_decode {octets rest : Bytes} {target : Target}
    (decoded : decode octets = .ok (target, rest)) :
    target.IsWritable ∧ octets = target.encode ++ rest := by
  cases octets with
  | nil => cases decoded
  | cons kind behind =>
    dsimp only [decode] at decoded
    split at decoded
    · rename_i ipv4
      exact ipv4 ▸ encode_of_decodeIpv4 decoded
    · split at decoded
      · rename_i ipv6
        exact ipv6 ▸ encode_of_decodeIpv6 decoded
      · split at decoded
        · rename_i domain
          exact domain ▸ encode_of_decodeDomain decoded
        · cases decoded

/-- What is read from octets is the destination of which they start with the wire form. -/
theorem decode_eq_ok_iff {octets rest : Bytes} {target : Target} :
    decode octets = .ok (target, rest) ↔ target.IsWritable ∧ octets = target.encode ++ rest := by
  constructor
  · exact encode_of_decode
  · rintro ⟨writable, rfl⟩
    exact decode_encode rest writable

end Target

end SocksGateway
