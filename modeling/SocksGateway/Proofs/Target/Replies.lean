import SocksGateway.Proofs.Address.Ipv6
import SocksGateway.Proofs.Target.Codec
import SocksGateway.Socks4.Reply
import SocksGateway.Socks5.Reply

/-!
What replies tell. A reply of version 5 is a code with the wire form of an endpoint behind it, so that the
codec of destinations reads it, and what it reads is what was sent. A reply of version 4 has room for an
IPv4 address only, and tells no more of an endpoint than its port and the IPv4 form of its address.
-/

set_option autoImplicit false

namespace SocksGateway

/-! ## Version 5 -/

namespace Socks5

/-- The codes stand in the table at their numbers. -/
theorem ReplyCode.toByte_getElem (place : Fin all.length) : (all[place]).toByte.toNat = place := by
  revert place
  decide

theorem ReplyCode.ofByte_eq_ok_iff {byte : UInt8} {code : ReplyCode} :
    ofByte byte = .ok code ↔ byte = code.toByte := by
  constructor
  · intro read
    unfold ofByte at read
    split at read
    · rename_i listed found
      cases read
      obtain ⟨bound, rfl⟩ := List.getElem?_eq_some_iff.mp found
      exact UInt8.toNat_inj.mp (toByte_getElem ⟨byte.toNat, bound⟩).symm
    · cases read
  · rintro rfl
    exact ofByte_toByte code

theorem reply_eq_encode (code : ReplyCode) (bound : Endpoint) :
    reply code bound = [5, code.toByte, 0] ++ (Target.ip bound).encode := by
  obtain ⟨ip | ip, port⟩ := bound <;> rfl

theorem decode_encode_ip (bound : Endpoint) :
    Target.decode (Target.ip bound).encode = .ok (.ip bound, []) := by
  have writable : (Target.ip bound).IsWritable := trivial
  have read := Target.decode_encode [] writable
  rwa [List.append_nil] at read

/-- A code of the table and an endpoint alone make a reply. -/
theorem eq_reply_iff {octets : Bytes} {code : ReplyCode} {bound : Endpoint} :
    octets = reply code bound ↔ ∃ byte rest, octets = 5 :: byte :: 0 :: rest ∧
      ReplyCode.ofByte byte = .ok code ∧ Target.decode rest = .ok (.ip bound, []) := by
  constructor
  · rintro rfl
    exact ⟨code.toByte, _, reply_eq_encode code bound, ReplyCode.ofByte_toByte code,
      decode_encode_ip bound⟩
  · rintro ⟨byte, rest, rfl, named, read⟩
    obtain rfl := ReplyCode.ofByte_eq_ok_iff.mp named
    obtain ⟨_, rfl⟩ := Target.encode_of_decode read
    rw [reply_eq_encode, List.append_nil]
    rfl

end Socks5

/-! ## Version 4 -/

namespace Socks4

/-- The address that a reply gives: the IPv4 form, and `0.0.0.0` where there is none. -/
inductive Reports : Ip → Ipv4 → Prop where
  | plain (ip : Ipv4) : Reports (.v4 ip) ip
  | mapped (ip : Ipv4) : Reports (.v6 (.ofIpv4 ip)) ip
  | other {ip : Ipv6} (unmapped : ∀ short, ip ≠ .ofIpv4 short) : Reports (.v6 ip) .unspecified

theorem reports_iff {ip : Ip} {short : Ipv4} :
    Reports ip short ↔ ip.toIpv4?.getD .unspecified = short := by
  constructor
  · rintro (_ | _ | @⟨ip, unmapped⟩)
    · rfl
    · rw [Ip.toIpv4?, Ipv6.toIpv4?_ofIpv4, Option.getD_some]
    · have absent : ip.toIpv4? = none := by
        apply Option.eq_none_iff_forall_ne_some.mpr
        intro short mapped
        exact unmapped short (Ipv6.eq_ofIpv4_of_toIpv4? mapped)
      rw [Ip.toIpv4?, absent, Option.getD_none]
  · rintro rfl
    cases ip with
    | v4 ip => exact .plain ip
    | v6 ip =>
      cases found : ip.toIpv4? with
      | some short =>
        rw [Ip.toIpv4?, found, Ipv6.eq_ofIpv4_of_toIpv4? found]
        exact .mapped short
      | none =>
        rw [Ip.toIpv4?, found]
        apply Reports.other
        rintro short rfl
        rw [Ipv6.toIpv4?_ofIpv4] at found
        cases found

theorem reply_of_reports {code : ReplyCode} {bound : Endpoint} {short : Ipv4}
    (reports : Reports bound.ip short) :
    reply code bound = [0, code.toByte] ++ Bytes.ofWord bound.port ++ short.octets := by
  rw [reply, reports_iff.mp reports]

theorem ReplyCode.toByte_inj {code other : ReplyCode} (same : code.toByte = other.toByte) :
    code = other := by
  cases code <;> cases other <;> first | rfl | cases same

/-- What stands at each place of a reply is told by nothing else. -/
theorem fields_inj {code other : ReplyCode} {port elsewhere : UInt16} {short long : Ipv4}
    (same : [0, code.toByte] ++ Bytes.ofWord port ++ short.octets =
      [0, other.toByte] ++ Bytes.ofWord elsewhere ++ long.octets) :
    code = other ∧ port = elsewhere ∧ short = long := by
  obtain ⟨front, address⟩ := List.append_inj' same rfl
  obtain ⟨head, words⟩ := List.append_inj' front rfl
  simp only [List.cons.injEq, and_true, true_and] at head
  simp only [Bytes.ofWord, List.cons.injEq, and_true] at words
  simp only [Ipv4.octets, List.cons.injEq, and_true] at address
  refine ⟨ReplyCode.toByte_inj head, ?_, ?_⟩
  · rw [← Bytes.word_ofNat port, ← Bytes.word_ofNat elsewhere, words.1, words.2]
  · cases short
    cases long
    simp only at address
    simp only [address]

theorem reply_eq_reply_iff {code other : ReplyCode} {bound elsewhere : Endpoint} {short : Ipv4}
    (reports : Reports bound.ip short) : reply other elsewhere = reply code bound ↔
      other = code ∧ elsewhere.port = bound.port ∧ Reports elsewhere.ip short := by
  constructor
  · intro same
    rw [reply_of_reports reports, reply_of_reports (reports_iff.mpr rfl)] at same
    obtain ⟨codes, ports, addresses⟩ := fields_inj same
    exact ⟨codes, ports, reports_iff.mpr addresses⟩
  · rintro ⟨rfl, ports, also⟩
    rw [reply_of_reports reports, reply_of_reports also, ports]

end Socks4

/-- A reply of version 5 is its code and the wire form of the endpoint: the endpoint is read back from
behind the third octet with nothing left over, the code from the second octet, and no other octets read as
that. A reply of version 4 has eight octets, which are the same for no other code, no other port and no
address that is not reported alike. -/
theorem replies_read_back (bound : Endpoint) :
    (∀ code : Socks5.ReplyCode,
      Socks5.reply code bound = [5, code.toByte, 0] ++ (Target.ip bound).encode ∧
      Target.decode ((Socks5.reply code bound).drop 3) = .ok (.ip bound, []) ∧
      (Socks5.reply code bound)[1]?.map Socks5.ReplyCode.ofByte = some (.ok code) ∧
      ∀ octets, octets = Socks5.reply code bound ↔ ∃ byte rest, octets = 5 :: byte :: 0 :: rest ∧
        Socks5.ReplyCode.ofByte byte = .ok code ∧ Target.decode rest = .ok (.ip bound, [])) ∧
    ∀ code : Socks4.ReplyCode, ∃ short, Socks4.Reports bound.ip short ∧
      Socks4.reply code bound = [0, code.toByte] ++ Bytes.ofWord bound.port ++ short.octets ∧
      (Socks4.reply code bound).length = 8 ∧
      ∀ other elsewhere, Socks4.reply other elsewhere = Socks4.reply code bound ↔
        other = code ∧ elsewhere.port = bound.port ∧ Socks4.Reports elsewhere.ip short := by
  constructor
  · intro code
    have whole := Socks5.reply_eq_encode code bound
    refine ⟨whole, ?_, ?_, fun octets => Socks5.eq_reply_iff⟩
    · rw [whole]
      exact Socks5.decode_encode_ip bound
    · rw [whole]
      exact congrArg some (Socks5.ReplyCode.ofByte_toByte code)
  · intro code
    have reports : Socks4.Reports bound.ip _ := Socks4.reports_iff.mpr rfl
    exact ⟨_, reports, Socks4.reply_of_reports reports, rfl,
      fun other elsewhere => Socks4.reply_eq_reply_iff reports⟩

end SocksGateway
