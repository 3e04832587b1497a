import Mathlib.Data.Int.Basic

/-!
# Machine words

Sizes and positions are held in words, and a computation on words can leave what a word
holds.  The operations here say so instead of wrapping: they answer in words what the
same operation answers in numbers, whenever a word can hold it, and nothing otherwise
(`Word.checkedAdd?_eq_some_iff` and its like).
-/
namespace Templating
namespace Word

/-! ## Sums and differences -/

/-- A sum, unless it is too large for a word. -/
def checkedAdd? (a b : USize) : Option USize :=
  if a.toNat + b.toNat < USize.size then some (a + b) else none

/-- A difference, unless it is negative. -/
def checkedSub? (a b : USize) : Option USize :=
  if b ≤ a then some (a - b) else none

theorem toNat_add_of_lt {a b : USize} (h : a.toNat + b.toNat < USize.size) :
    (a + b).toNat = a.toNat + b.toNat := by
  rw [USize.toNat_add]
  exact Nat.mod_eq_of_lt h

theorem checkedAdd?_eq_some_iff {a b sum : USize} :
    checkedAdd? a b = some sum ↔ sum.toNat = a.toNat + b.toNat := by
  unfold checkedAdd?
  constructor
  · intro h
    split at h
    · next hlt =>
      cases h
      exact toNat_add_of_lt hlt
    · cases h
  · intro h
    have hlt : a.toNat + b.toNat < USize.size := h ▸ USize.toNat_lt_size sum
    rw [if_pos hlt, Option.some_inj, ← USize.toNat_inj, toNat_add_of_lt hlt, h]

theorem checkedSub?_eq_some_iff {a b difference : USize} :
    checkedSub? a b = some difference ↔ difference.toNat + b.toNat = a.toNat := by
  unfold checkedSub?
  constructor
  · intro h
    split at h
    · next hle =>
      cases h
      have hnat : b.toNat ≤ a.toNat := USize.le_iff_toNat_le.mp hle
      rw [USize.toNat_sub_of_le _ _ hle]
      omega
    · cases h
  · intro h
    have hle : b ≤ a := USize.le_iff_toNat_le.mpr (by omega)
    rw [if_pos hle, Option.some_inj, ← USize.toNat_inj, USize.toNat_sub_of_le _ _ hle]
    omega

/-! ## From one kind of word to another -/

/-- A number of sixty-four bits as a size, unless it is too large for one. -/
def toSize? (n : UInt64) : Option USize :=
  if h : n.toNat < USize.size then some (USize.ofNatLT n.toNat h) else none

theorem toSize?_eq_some_iff {n : UInt64} {size : USize} :
    toSize? n = some size ↔ size.toNat = n.toNat := by
  unfold toSize?
  constructor
  · intro h
    split at h
    · cases h
      rw [USize.toNat_ofNatLT]
    · cases h
  · intro h
    have hlt : n.toNat < USize.size := h ▸ USize.toNat_lt_size size
    rw [dif_pos hlt, Option.some_inj, ← USize.toNat_inj, USize.toNat_ofNatLT, h]

/-- The magnitude of a number with a sign.  The least number is its own negation in
words; read without a sign it is its magnitude all the same. -/
def magnitude (n : Int64) : UInt64 := n.abs.toUInt64

theorem toNat_magnitude (n : Int64) : (magnitude n).toNat = n.toInt.natAbs := by
  have habs : (magnitude n).toNat = n.toBitVec.abs.toNat := rfl
  have hint : n.toInt = n.toBitVec.toInt := rfl
  have hlt : n.toBitVec.toNat < 2 ^ 64 := n.toBitVec.isLt
  rw [habs, hint, BitVec.toNat_abs, BitVec.toInt_eq_msb_cond]
  split
  · omega
  · omega

theorem toNat_toUInt64_of_nonneg {n : Int64} (h : 0 ≤ n.toInt) :
    n.toUInt64.toNat = n.toInt.natAbs := by
  have hle : 0 ≤ n := by
    rwa [Int64.le_iff_toInt_le, Int64.toInt_zero]
  rw [Int64.toNat_toUInt64_of_le hle, ← Int64.toNat_toInt]
  omega

end Word
end Templating
