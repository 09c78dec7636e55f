import SocksGateway.Proofs.Session.Readers
import SocksGateway.Socks5.Service

/-!
The formats of version 5: credentials, the head of a request and a destination, each by the octets
that its reader takes.
-/

set_option autoImplicit false

namespace SocksGateway

open Handler

namespace Socks5

/-- Octets after their number. -/
def counted (octets : Bytes) : Bytes := UInt8.ofNat octets.length :: octets

namespace Password

theorem readField_format : HasFormat readField fun octets field =>
    field.length < 256 ∧ octets = counted field := by
  apply (HasFormat.readOctet.bind fun length => .readExactly length.toNat).of_iff
  intro octets field
  constructor
  · rintro ⟨front, back, length, rfl, rfl, size, rfl⟩
    refine ⟨size ▸ length.toNat_lt, ?_⟩
    rw [counted, size, UInt8.ofNat_toNat]
    rfl
  · rintro ⟨short, rfl⟩
    have size : (UInt8.ofNat field.length).toNat = field.length := UInt8.toNat_ofNat_of_lt' short
    exact ⟨[UInt8.ofNat field.length], field, _, rfl, rfl, size.symm, rfl⟩

/-- The octets by which a client gives a name and a password. -/
def credentials (user password : String) : Bytes :=
  1 :: counted (Bytes.ofText user) ++ counted (Bytes.ofText password)

/-- Each of them has at most 255 octets, and the name has one at least. -/
structure AreWritable (user password : String) : Prop where
  named : user ≠ ""
  user : (Bytes.ofText user).length < 256
  password : (Bytes.ofText password).length < 256

theorem readCredentials_format : HasFormat readCredentials fun octets (user, password) =>
    AreWritable user password ∧ octets = credentials user password := by
  apply HasFormat.of_iff (.bind .readOctet fun first => .guarded (.bind readField_format fun user =>
    .bind readField_format fun password => .guarded (?texts : HasFormat _ fun octets given =>
      octets = [] ∧ Bytes.ofText given.1 = user ∧ Bytes.ofText given.2 = password)))
  case texts =>
    split
    · rename_i name secret named kept
      apply (HasFormat.pure (name, secret)).of_iff
      rintro octets ⟨user', password'⟩
      simp only [← Bytes.text?_eq_some_iff, named, kept, Option.some.injEq, Prod.mk.injEq]
    · rename_i unreadable
      apply (HasFormat.throw _).of_iff
      rintro octets ⟨user', password'⟩
      refine ⟨False.elim, ?_⟩
      rintro ⟨-, named, kept⟩
      exact unreadable _ _ (Bytes.text?_eq_some_iff.mpr named) (Bytes.text?_eq_some_iff.mpr kept)
  rintro octets ⟨user, password⟩
  constructor
  · rintro ⟨_, _, first, rfl, rfl, given, _, _, _, rfl, ⟨userLength, rfl⟩, _, _, _, rfl,
      ⟨passwordLength, rfl⟩, named, rfl, rfl, rfl⟩
    obtain rfl := Classical.not_not.mp given
    refine ⟨⟨?_, userLength, passwordLength⟩, ?_⟩
    · rintro rfl
      exact named rfl
    · simp only [credentials, version, List.append_nil, List.cons_append, List.nil_append]
  · rintro ⟨writable, rfl⟩
    refine ⟨[version], _, version, rfl, rfl, not_not_intro rfl, _, _, _, rfl,
      ⟨writable.user, rfl⟩, _, [], _, (List.append_nil _).symm, ⟨writable.password, rfl⟩, ?_,
      rfl, rfl, rfl⟩
    exact Bytes.ofText_ne_nil writable.named

end Password

/-- The octets of a head. -/
def RequestHead.octets (head : RequestHead) : Bytes :=
  [head.version, head.command, head.reserved, head.kind]

theorem Service.checkVersion_format (given : UInt8) :
    HasFormat (checkVersion given) fun octets _ => octets = [] ∧ given = version := by
  unfold checkVersion
  split
  · rename_i same
    apply (HasFormat.pure ()).of_iff
    intro octets value
    simp only [same, and_true]
  · rename_i other
    apply (HasFormat.fail _).of_iff
    intro octets value
    simp only [other, and_false]

theorem Service.readHead_format : HasFormat readHead fun octets head =>
    head.version = version ∧ octets = head.octets := by
  apply HasFormat.of_iff (.bind (.readExactly 4) (?head : ∀ given, HasFormat _ fun octets head =>
    octets = [] ∧ head.version = version ∧ given = head.octets))
  case head =>
    intro given
    split
    · rename_i first command reserved kind
      apply ((checkVersion_format first).bind fun _ => .pure _).of_iff
      intro octets head
      constructor
      · rintro ⟨_, _, _, rfl, ⟨rfl, rfl⟩, rfl, rfl⟩
        exact ⟨rfl, rfl, rfl⟩
      · rintro ⟨rfl, current, same⟩
        simp only [RequestHead.octets, List.cons.injEq, and_true] at same
        obtain ⟨rfl, rfl, rfl, rfl⟩ := same
        exact ⟨[], [], (), rfl, ⟨rfl, current⟩, rfl, rfl⟩
    · rename_i other
      apply (HasFormat.fail _).of_iff
      intro octets head
      refine ⟨False.elim, ?_⟩
      rintro ⟨-, -, rfl⟩
      exact other _ _ _ _ rfl
  intro octets head
  constructor
  · rintro ⟨_, _, _, rfl, ⟨-, rfl⟩, rfl, current, rfl⟩
    exact ⟨current, List.append_nil _⟩
  · rintro ⟨current, rfl⟩
    exact ⟨head.octets, [], _, (List.append_nil _).symm, ⟨rfl, rfl⟩, rfl, current, rfl⟩

end Socks5

namespace Target

/-- A name has at least one octet and at most 255. -/
def IsWritable : Target → Prop
  | .ip _ => True
  | .domain name _ => name ≠ "" ∧ (Bytes.ofText name).length < 256

theorem ipv6OfOctets?_eq_some_iff {octets : Bytes} {address : Ipv6} :
    ipv6OfOctets? octets = some address ↔ octets = address.octets := by
  unfold ipv6OfOctets?
  split
  · simp only [Option.some.injEq]
    constructor
    · rintro rfl
      simp only [Ipv6.octets, Ipv6.groups, List.flatMap_cons, List.flatMap_nil, Bytes.ofWord_word,
        List.cons_append, List.nil_append]
    · intro same
      simp only [Ipv6.octets, Ipv6.groups, List.flatMap_cons, List.flatMap_nil, Bytes.ofWord,
        List.cons_append, List.nil_append, List.cons.injEq] at same
      simp only [same, Bytes.word_ofNat]
  · rename_i other
    constructor
    · rintro ⟨⟩
    · rintro rfl
      exact False.elim (other _ _ _ _ _ _ _ _ _ _ _ _ _ _ _ _ rfl)

theorem exists_ipv6_of_length {octets : Bytes} (length : octets.length = 16) :
    ∃ ip : Ipv6, octets = ip.octets := by
  match octets, length with
  | [a, b, c, d, e, f, g, h, i, j, k, l, m, n, o, p], _ =>
    exact ⟨_, ipv6OfOctets?_eq_some_iff.mp rfl⟩

end Target

namespace Socks5

/-- An address of a fixed length and a port. -/
theorem address_format {kind : UInt8} {count : Nat} {tail : Bytes → UInt16 → Handler Target}
    (noName : kind ≠ AddressType.domain)
    (length : ∀ ip : Ip, ip.addressType = kind → ip.octets.length = count)
    (tails : ∀ given port, HasFormat (tail given port) fun octets target => octets = [] ∧
      ∃ ip : Ip, ip.addressType = kind ∧ given = ip.octets ∧ target = .ip ⟨ip, port⟩) :
    HasFormat (do
      let octets ← readExactly count
      let port ← readWord
      tail octets port) fun octets target => target.IsWritable ∧ kind :: octets = target.encode := by
  apply HasFormat.of_iff (.bind (.readExactly count) fun given => .bind .readWord (tails given))
  intro octets target
  constructor
  · rintro ⟨_, _, _, rfl, ⟨-, rfl⟩, _, _, port, rfl, rfl, rfl, ip, rfl, rfl, rfl⟩
    exact ⟨trivial, by rw [List.append_nil]; rfl⟩
  · rintro ⟨-, same⟩
    match target with
    | .ip ⟨ip, port⟩ =>
      obtain ⟨family, rfl⟩ := List.cons_eq_cons.mp same
      exact ⟨ip.octets, _, _, rfl, ⟨length ip family.symm, rfl⟩, _, [], port,
        (List.append_nil _).symm, rfl, rfl, ip, family.symm, rfl, rfl⟩
    | .domain name port => exact absurd (List.cons_eq_cons.mp same).1 noName

theorem readAddress_ipv4 : HasFormat (readAddress AddressType.ipv4) fun octets target =>
    target.IsWritable ∧ AddressType.ipv4 :: octets = target.encode := by
  unfold readAddress
  rw [if_pos rfl]
  apply address_format (by decide)
  · rintro (ip | ip) family
    · rfl
    · cases family
  · intro given port
    split
    · rename_i a b c d
      apply (HasFormat.pure _).of_iff
      intro octets target
      constructor
      · rintro ⟨rfl, rfl⟩
        exact ⟨rfl, _, rfl, rfl, rfl⟩
      · rintro ⟨rfl, ip | ip, family, same, rfl⟩
        · simp only [Ip.octets, Ipv4.octets, List.cons.injEq, and_true] at same
          obtain ⟨rfl, rfl, rfl, rfl⟩ := same
          exact ⟨rfl, rfl⟩
        · cases family
    · rename_i other
      apply (HasFormat.fail _).of_iff
      intro octets target
      refine ⟨False.elim, ?_⟩
      rintro ⟨-, ip | ip, family, rfl, -⟩
      · exact other _ _ _ _ rfl
      · cases family

theorem readAddress_ipv6 : HasFormat (readAddress AddressType.ipv6) fun octets target =>
    target.IsWritable ∧ AddressType.ipv6 :: octets = target.encode := by
  unfold readAddress
  rw [if_neg (by decide), if_neg (by decide), if_pos rfl]
  apply address_format (by decide)
  · rintro (ip | ip) family
    · cases family
    · rfl
  · intro given port
    split
    · rename_i address found
      apply (HasFormat.pure _).of_iff
      intro octets target
      constructor
      · rintro ⟨rfl, rfl⟩
        exact ⟨rfl, .v6 address, rfl, Target.ipv6OfOctets?_eq_some_iff.mp found, rfl⟩
      · rintro ⟨rfl, ip | ip, family, same, rfl⟩
        · cases family
        · rw [Target.ipv6OfOctets?_eq_some_iff.mpr same, Option.some.injEq] at found
          exact ⟨rfl, by rw [found]⟩
    · rename_i missing
      apply (HasFormat.fail _).of_iff
      intro octets target
      refine ⟨False.elim, ?_⟩
      rintro ⟨-, ip | ip, family, same, -⟩
      · cases family
      · rw [Target.ipv6OfOctets?_eq_some_iff.mpr same] at missing
        cases missing

theorem readAddress_domain : HasFormat (readAddress AddressType.domain) fun octets target =>
    target.IsWritable ∧ AddressType.domain :: octets = target.encode := by
  unfold readAddress
  rw [if_neg (by decide), if_pos rfl]
  apply HasFormat.of_iff (.bind .readOctet fun length => .bind (.readExactly length.toNat)
    fun given => .bind .readWord fun port => .guarded (?name : HasFormat _ fun octets target =>
      octets = [] ∧ ∃ name, given = Bytes.ofText name ∧ .domain name port = target))
  case name => exact .text given (Target.domain · port) _
  intro octets target
  constructor
  · rintro ⟨_, _, length, rfl, rfl, _, _, _, rfl, ⟨size, rfl⟩, _, _, port, rfl, rfl, present, rfl,
      name, rfl, rfl⟩
    refine ⟨⟨?_, size ▸ length.toNat_lt⟩, ?_⟩
    · rintro rfl
      exact present (UInt8.toNat_inj.mp size.symm)
    · simp only [Target.encode, size, UInt8.ofNat_toNat, List.append_nil, List.cons_append,
        List.nil_append]
  · rintro ⟨writable, same⟩
    match target with
    | .domain name port =>
      obtain ⟨named, short⟩ := writable
      have size : (UInt8.ofNat (Bytes.ofText name).length).toNat = (Bytes.ofText name).length :=
        UInt8.toNat_ofNat_of_lt' short
      obtain rfl := (List.cons_eq_cons.mp same).2
      refine ⟨[_], _, _, rfl, rfl, Bytes.ofText name, _, _, rfl, ⟨size.symm, rfl⟩, _, [], port,
        (List.append_nil _).symm, rfl, ?_, rfl, name, rfl, rfl⟩
      intro zero
      rw [zero] at size
      exact Bytes.ofText_ne_nil named (List.length_eq_zero_iff.mp size.symm)
    | .ip ⟨.v4 ip, port⟩ => cases same
    | .ip ⟨.v6 ip, port⟩ => cases same

/-- The address and the port of a destination, as they stand after the type of the address. -/
theorem readAddress_format (kind : UInt8) : HasFormat (readAddress kind) fun octets target =>
    target.IsWritable ∧ kind :: octets = target.encode := by
  by_cases ipv4 : kind = AddressType.ipv4
  · exact ipv4 ▸ readAddress_ipv4
  by_cases domain : kind = AddressType.domain
  · exact domain ▸ readAddress_domain
  by_cases ipv6 : kind = AddressType.ipv6
  · exact ipv6 ▸ readAddress_ipv6
  unfold readAddress
  rw [if_neg ipv4, if_neg domain, if_neg ipv6]
  apply (HasFormat.fail _).of_iff
  intro octets target
  refine ⟨False.elim, ?_⟩
  rintro ⟨-, same⟩
  match target with
  | .ip ⟨.v4 ip, port⟩ => exact ipv4 (List.cons_eq_cons.mp same).1
  | .ip ⟨.v6 ip, port⟩ => exact ipv6 (List.cons_eq_cons.mp same).1
  | .domain name port => exact domain (List.cons_eq_cons.mp same).1

end Socks5

end SocksGateway
