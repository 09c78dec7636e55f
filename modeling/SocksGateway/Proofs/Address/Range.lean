import SocksGateway.Address.Cidr

/-!
Which addresses a range has: those with the network part of its base. Of two ranges that share an
address, the one with the longer network part lies in the other, and the private addresses are those of
three ranges.
-/

set_option autoImplicit false

namespace SocksGateway.Cidr

variable {range block : Cidr} {ip : Ipv4}

/-- The addresses from the first to the last of a range. -/
def Contains (range : Cidr) (ip : Ipv4) : Prop :=
  range.networkNumber ≤ ip.toNat ∧ ip.toNat ≤ range.broadcastNumber

instance : Decidable (range.Contains ip) := inferInstanceAs (Decidable (_ ∧ _))

/-- The addresses strictly between the first and the last, which members get. -/
def Offers (range : Cidr) (ip : Ipv4) : Prop :=
  range.networkNumber < ip.toNat ∧ ip.toNat < range.broadcastNumber

theorem Offers.contains (offered : range.Offers ip) : range.Contains ip :=
  ⟨Nat.le_of_lt offered.1, Nat.le_of_lt offered.2⟩

theorem size_pos (range : Cidr) : 0 < range.size := Nat.pow_pos (by decide)

/-- The size of a range is a multiple of the sizes of those with longer network parts. -/
theorem exists_size_eq (shorter : block.length ≤ range.length) :
    ∃ count, block.size = range.size * count := by
  have bound := range.length_le
  have sum : 32 - block.length = 32 - range.length + (range.length - block.length) := by omega
  exact ⟨_, (congrArg (Nat.pow 2) sum).trans (Nat.pow_add 2 _ _)⟩

/-- No range goes beyond the last address. -/
theorem networkNumber_add_size_le (range : Cidr) :
    range.networkNumber + range.size ≤ 4294967296 := by
  obtain ⟨count, whole⟩ : ∃ count, size ⟨.unspecified, 0, by decide⟩ = range.size * count :=
    exists_size_eq (Nat.zero_le range.length)
  have all : size ⟨.unspecified, 0, by decide⟩ = 4294967296 := by decide
  have below : range.base.toNat / range.size < count := by
    rw [Nat.div_lt_iff_lt_mul range.size_pos, Nat.mul_comm, ← whole, all]
    exact range.base.toNat_lt
  have room := Nat.mul_le_mul_right range.size (Nat.succ_le_of_lt below)
  rw [Nat.succ_mul, Nat.mul_comm count, ← whole, all] at room
  exact room

/-- A range has the addresses with the network part of its base. -/
theorem contains_iff : range.Contains ip ↔ ip.toNat / range.size = range.base.toNat / range.size := by
  have positive := range.size_pos
  unfold Contains broadcastNumber networkNumber
  rw [Nat.div_eq_iff positive]

theorem contains_base (range : Cidr) : range.Contains range.base := contains_iff.mpr rfl

/-- Of two ranges that share an address, the one with the longer network part lies in the other. -/
theorem Contains.of_shared {shared : Ipv4} (shorter : block.length ≤ range.length)
    (inRange : range.Contains shared) (inBlock : block.Contains shared)
    (contained : range.Contains ip) : block.Contains ip := by
  rw [contains_iff] at *
  obtain ⟨count, larger⟩ := exists_size_eq shorter
  rw [← inBlock, larger, ← Nat.div_div_eq_div_mul, ← Nat.div_div_eq_div_mul, contained, inRange]

theorem Contains.offers {first last : Ipv4} (low : range.Contains first)
    (high : range.Contains last) (after : first.toNat < ip.toNat) (before : ip.toNat < last.toNat) :
    range.Offers ip :=
  ⟨Nat.lt_of_le_of_lt low.1 after, Nat.lt_of_lt_of_le before high.2⟩

/-- The private ranges. -/
def privateBlocks : List Cidr :=
  [⟨⟨10, 0, 0, 0⟩, 8, by decide⟩, ⟨⟨172, 16, 0, 0⟩, 12, by decide⟩, ⟨⟨192, 168, 0, 0⟩, 16, by decide⟩]

/-- The private addresses are those of the private ranges. -/
theorem isPrivate_iff_contains :
    ip.isPrivate = true ↔ ∃ block ∈ privateBlocks, block.Contains ip := by
  have second := ip.b.toNat_lt
  have third := ip.c.toNat_lt
  have fourth := ip.d.toNat_lt
  simp only [privateBlocks, List.mem_cons, List.not_mem_nil, or_false, exists_eq_or_imp,
    exists_eq_left, contains_iff]
  change _ ↔ ip.toNat / 16777216 = 10 ∨ ip.toNat / 1048576 = 2753 ∨ ip.toNat / 65536 = 49320
  simp only [Ipv4.isPrivate, Ipv4.toNat, Bool.or_eq_true, Bool.and_eq_true, beq_iff_eq,
    decide_eq_true_eq, ← UInt8.toNat_inj, UInt8.le_iff_toNat_le, UInt8.reduceToNat]
  omega

/-- A range that lies in one of the private ranges. -/
def IsPrivate (range : Cidr) : Prop :=
  ∃ block ∈ privateBlocks, block.length ≤ range.length ∧ block.Contains range.base

theorem isPrivate_of_offers (isPrivate : range.IsPrivate) (offered : range.Offers ip) :
    ip.isPrivate = true := by
  obtain ⟨block, listed, shorter, around⟩ := isPrivate
  have contained := Contains.of_shared shorter range.contains_base around offered.contains
  exact isPrivate_iff_contains.mpr ⟨block, listed, contained⟩

/-- Each private range has public addresses beside it, in the range of twice its size. -/
theorem exists_public_beside (listed : block ∈ privateBlocks) :
    ∃ (double : Cidr) (first beside last : Ipv4), block.length = double.length + 1 ∧
      double.Contains block.base ∧ double.Contains first ∧ double.Contains last ∧
      first.toNat < beside.toNat ∧ beside.toNat < last.toNat ∧ beside.isPrivate = false := by
  simp only [privateBlocks, List.mem_cons, List.not_mem_nil, or_false] at listed
  obtain rfl | rfl | rfl := listed
  · exact ⟨⟨⟨10, 0, 0, 0⟩, 7, by decide⟩, ⟨11, 0, 0, 0⟩, ⟨11, 0, 0, 1⟩, ⟨11, 0, 0, 2⟩, by decide⟩
  · exact ⟨⟨⟨172, 16, 0, 0⟩, 11, by decide⟩, ⟨172, 0, 0, 0⟩, ⟨172, 0, 0, 1⟩, ⟨172, 0, 0, 2⟩,
      by decide⟩
  · exact ⟨⟨⟨192, 168, 0, 0⟩, 15, by decide⟩, ⟨192, 169, 0, 0⟩, ⟨192, 169, 0, 1⟩,
      ⟨192, 169, 0, 2⟩, by decide⟩

/-- A range that offers an address is private exactly when all that it offers are. -/
theorem isPrivate_iff_offers (offered : range.Offers ip) :
    range.IsPrivate ↔ ∀ address, range.Offers address → address.isPrivate = true := by
  constructor
  · intro isPrivate address offered
    exact isPrivate_of_offers isPrivate offered
  · intro all
    obtain ⟨block, listed, inBlock⟩ := isPrivate_iff_contains.mp (all ip offered)
    by_cases shorter : block.length ≤ range.length
    · have around := Contains.of_shared shorter offered.contains inBlock range.contains_base
      exact ⟨block, listed, shorter, around⟩
    · -- A wider range goes beyond the private one on the side of its double.
      obtain ⟨double, first, beside, last, twice, around, low, high, after, before, isPublic⟩ :=
        exists_public_beside listed
      have inDouble := Contains.of_shared (by omega) block.contains_base around inBlock
      have wider : range.length ≤ double.length := by omega
      have reaches {address : Ipv4} (contained : double.Contains address) :
          range.Contains address :=
        Contains.of_shared wider inDouble offered.contains contained
      have isPrivate := all beside (Contains.offers (reaches low) (reaches high) after before)
      rw [isPublic] at isPrivate
      cases isPrivate

end SocksGateway.Cidr
