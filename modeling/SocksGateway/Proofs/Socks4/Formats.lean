import SocksGateway.Proofs.Session.Readers
import SocksGateway.Socks4.Request

/-!
The format of a request of version 4, by the octets that its reader takes.
-/

set_option autoImplicit false

namespace SocksGateway.Socks4

open Handler

theorem readToNul_octet_format (what : String) :
    HasFormat (readToNul.octet what) fun octets value => octets = [value] := .within .readOctet

theorem readToNul_format (what : String) (room : Nat) :
    HasFormat (readToNul what room) fun octets value =>
      value.length ≤ room ∧ 0 ∉ value ∧ octets = value ++ [0] := by
  induction room with
  | zero =>
    apply HasFormat.of_iff (.bind (readToNul_octet_format what) fun first =>
      .guarded (.pure []))
    intro octets value
    constructor
    · rintro ⟨_, _, first, rfl, rfl, zero, rfl, rfl⟩
      obtain rfl := Classical.not_not.mp zero
      exact ⟨Nat.le_refl 0, List.not_mem_nil, rfl⟩
    · rintro ⟨short, -, rfl⟩
      obtain rfl := List.length_eq_zero_iff.mp (Nat.le_zero.mp short)
      exact ⟨[0], [], 0, rfl, rfl, not_not_intro rfl, rfl, rfl⟩
  | succ room ih =>
    unfold readToNul
    apply HasFormat.of_iff (.bind (readToNul_octet_format what) (?rest : ∀ first,
      HasFormat _ fun octets value => if first = 0 then octets = [] ∧ value = []
        else ∃ others, value = first :: others ∧ others.length ≤ room ∧ 0 ∉ others ∧
          octets = others ++ [0]))
    case rest =>
      intro first
      split
      · apply (HasFormat.pure _).of_iff
        intro octets value
        simp only [eq_comm]
      · apply HasFormat.of_iff (.bind ih fun others => .pure (first :: others))
        intro octets value
        constructor
        · rintro ⟨_, _, others, rfl, ⟨short, absent, rfl⟩, rfl, rfl⟩
          exact ⟨others, rfl, short, absent, List.append_nil _⟩
        · rintro ⟨others, rfl, short, absent, rfl⟩
          exact ⟨_, [], others, (List.append_nil _).symm, ⟨short, absent, rfl⟩, rfl, rfl⟩
    intro octets value
    constructor
    · rintro ⟨_, rest, first, rfl, rfl, text⟩
      split at text
      · rename_i zero
        subst zero
        obtain ⟨rfl, rfl⟩ := text
        exact ⟨Nat.zero_le _, List.not_mem_nil, rfl⟩
      · rename_i nonzero
        obtain ⟨others, rfl, short, absent, rfl⟩ := text
        refine ⟨Nat.succ_le_succ short, ?_, rfl⟩
        exact List.not_mem_cons_of_ne_of_not_mem (Ne.symm nonzero) absent
    · rintro ⟨short, absent, rfl⟩
      cases value with
      | nil => exact ⟨[0], [], 0, rfl, rfl, by rw [if_pos rfl]; exact ⟨rfl, rfl⟩⟩
      | cons first others =>
        refine ⟨[first], others ++ [0], first, rfl, rfl, ?_⟩
        rw [if_neg (List.ne_of_not_mem_cons absent).symm]
        exact ⟨others, rfl, Nat.le_of_succ_le_succ short,
          List.not_mem_of_not_mem_cons absent, rfl⟩

/-- A text that a NUL can end: it has none itself, and no more than 255 octets. -/
def IsWritable (text : String) : Prop :=
  (Bytes.ofText text).length ≤ fieldLimit ∧ 0 ∉ Bytes.ofText text

theorem readText_format (what : String) : HasFormat (readText what) fun octets text =>
    IsWritable text ∧ octets = Bytes.ofText text ++ [0] := by
  apply HasFormat.of_iff (.bind (readToNul_format what fieldLimit) fun given => .text given id _)
  intro octets text
  constructor
  · rintro ⟨_, _, _, rfl, ⟨short, absent, rfl⟩, rfl, _, rfl, rfl⟩
    exact ⟨⟨short, absent⟩, List.append_nil _⟩
  · rintro ⟨⟨short, absent⟩, rfl⟩
    exact ⟨_, [], _, (List.append_nil _).symm, ⟨short, absent, rfl⟩, rfl, text, rfl, rfl⟩

/-- What follows the name of a user in a request: nothing, or a host name where the address is of the
form that announces one. -/
inductive IsEnding (command : UInt8) (port : UInt16) (ip : Ipv4) (user : String) :
    Bytes → Request → Prop where
  | address (plain : announcesName ip = false) :
      IsEnding command port ip user [] { command, target := .ip ⟨.v4 ip, port⟩, user }
  | name {name : String} (announced : announcesName ip = true) (named : name ≠ "")
      (writable : Socks4.IsWritable name) :
      IsEnding command port ip user (Bytes.ofText name ++ [0])
        { command, target := .domain name port, user }

/-- The octets of a request. -/
inductive Request.IsWritten : Request → Bytes → Prop where
  | intro {command : UInt8} {port : UInt16} {ip : Ipv4} {user : String} {ending : Bytes}
      {request : Request} (writable : Socks4.IsWritable user)
      (ends : IsEnding command port ip user ending request) :
      IsWritten request (version :: command :: Bytes.ofWord port ++ ip.octets ++
        (Bytes.ofText user ++ [0] ++ ending))

theorem readRequest_format : HasFormat readRequest fun octets request =>
    request.IsWritten octets := by
  apply HasFormat.of_iff (.bind (.within (.readExactly 8)) (?rest : ∀ given,
    HasFormat _ fun octets request => ∃ command port ip user ending,
      given = version :: command :: Bytes.ofWord port ++ ip.octets ∧ IsWritable user ∧
        octets = Bytes.ofText user ++ [0] ++ ending ∧ IsEnding command port ip user ending request))
  case rest =>
    intro given
    split
    · rename_i first command high low a b c d
      apply HasFormat.of_iff (.guarded (.bind (readText_format _) (?ending : ∀ user, HasFormat _
        (IsEnding command (Bytes.word high low) ⟨a, b, c, d⟩ user))))
      case ending =>
        intro user
        split
        · rename_i announced
          apply HasFormat.of_iff (.bind (readText_format _) fun name => .guarded (.pure _))
          intro octets request
          constructor
          · rintro ⟨_, _, name, rfl, ⟨writable, rfl⟩, named, rfl, rfl⟩
            rw [List.append_nil]
            refine .name announced ?_ writable
            rintro rfl
            exact named rfl
          · rintro (plain | ⟨announced, named, writable⟩)
            · rw [plain] at announced
              cases announced
            · exact ⟨_, [], _, (List.append_nil _).symm, ⟨writable, rfl⟩,
                by simpa only [String.isEmpty_iff] using named, rfl, rfl⟩
        · rename_i plain
          apply (HasFormat.pure _).of_iff
          intro octets request
          constructor
          · rintro ⟨rfl, rfl⟩
            exact .address (Bool.eq_false_iff.mpr plain)
          · rintro (_ | announced)
            · exact ⟨rfl, rfl⟩
            · exact absurd announced plain
      intro octets request
      constructor
      · rintro ⟨current, _, ending, user, rfl, ⟨writable, rfl⟩, ends⟩
        obtain rfl := Classical.not_not.mp current
        refine ⟨command, _, ⟨a, b, c, d⟩, user, ending, ?_, writable, rfl, ends⟩
        rw [Bytes.ofWord_word]
        rfl
      · rintro ⟨command', port, ip, user, ending, same, writable, rfl, ends⟩
        simp only [Bytes.ofWord, Ipv4.octets, List.cons_append, List.nil_append, List.cons.injEq,
          and_true] at same
        obtain ⟨rfl, rfl, rfl, rfl, rfl, rfl, rfl, rfl⟩ := same
        refine ⟨not_not_intro rfl, _, ending, user, rfl, ⟨writable, rfl⟩, ?_⟩
        rw [Bytes.word_ofNat]
        exact ends
    · rename_i other
      apply (HasFormat.fail _).of_iff
      intro octets request
      refine ⟨False.elim, ?_⟩
      rintro ⟨_, _, _, _, _, rfl, -⟩
      exact other _ _ _ _ _ _ _ _ rfl
  intro octets request
  constructor
  · rintro ⟨_, _, _, rfl, ⟨-, rfl⟩, command, port, ip, user, _, rfl, writable, rfl, ends⟩
    exact .intro writable ends
  · rintro ⟨writable, ends⟩
    exact ⟨_, _, _, rfl, ⟨rfl, rfl⟩, _, _, _, _, _, rfl, writable, rfl, ends⟩

end SocksGateway.Socks4
