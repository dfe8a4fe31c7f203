import Mathlib.Data.Nat.Bitwise
import Mathlib.Tactic.Lemma

/-!
Fields of a few bits inside a byte: reading one back, and writing one without touching
the others.
-/

namespace Oid4vc.Bitfield

/-- The lowest `w` bits. -/
def mask (w : ℕ) : BitVec 8 := BitVec.ofNat 8 (2 ^ w - 1)

/-- The field of `w` bits that starts at bit `o`. -/
def getField (b : BitVec 8) (o w : ℕ) : BitVec 8 := (b >>> o) &&& mask w

def setField (b : BitVec 8) (o w : ℕ) (v : BitVec 8) : BitVec 8 :=
  (b &&& ~~~(mask w <<< o)) ||| (v <<< o)

lemma getLsbD_mask (w i : ℕ) (hw : w ≤ 8) : (mask w).getLsbD i = decide (i < w) := by
  simp only [mask, BitVec.getLsbD_ofNat, Nat.testBit_two_pow_sub_one]
  rcases Nat.lt_or_ge i 8 with h | h
  · simp [h]
  · simp [show ¬ i < 8 by omega, show ¬ i < w by omega]

lemma and_mask_of_lt {v : BitVec 8} {w : ℕ} (hw : w ≤ 8) (h : v.toNat < 2 ^ w) :
    v &&& mask w = v := by
  apply BitVec.eq_of_toNat_eq
  have h8 : 2 ^ w ≤ 2 ^ 8 := Nat.pow_le_pow_right (by omega) hw
  have hm : (mask w).toNat = 2 ^ w - 1 := by
    simp only [mask, BitVec.toNat_ofNat]
    exact Nat.mod_eq_of_lt (by omega)
  rw [BitVec.toNat_and, hm, Nat.and_two_pow_sub_one_eq_mod, Nat.mod_eq_of_lt h]

/-- **Read back.** A field holds the value last written to it. -/
theorem getField_setField_self {b v : BitVec 8} {o w : ℕ} (h : o + w ≤ 8)
    (hv : v &&& mask w = v) : getField (setField b o w v) o w = v := by
  apply BitVec.eq_of_getLsbD_eq
  intro i hi
  have hvi : v.getLsbD i = (v.getLsbD i && decide (i < w)) := by
    conv_lhs => rw [← hv]
    simp [getLsbD_mask w i (by omega)]
  simp only [getField, setField, BitVec.getLsbD_and, BitVec.getLsbD_ushiftRight,
    BitVec.getLsbD_or, BitVec.getLsbD_not, BitVec.getLsbD_shiftLeft]
  rw [getLsbD_mask _ _ (by omega), getLsbD_mask _ _ (by omega), hvi]
  by_cases hw : i < w
  · simp [hw, show o + i < 8 by omega, show ¬ o + i < o by omega]
  · simp [hw]

/-- **Frame.** Writing one field leaves a field it does not overlap as it was. -/
theorem getField_setField_of_disjoint {b v : BitVec 8} {o o' w : ℕ} (h : o + w ≤ 8)
    (h' : o' + w ≤ 8) (hv : v &&& mask w = v) (hd : o + w ≤ o' ∨ o' + w ≤ o) :
    getField (setField b o w v) o' w = getField b o' w := by
  apply BitVec.eq_of_getLsbD_eq
  intro i hi
  simp only [getField, setField, BitVec.getLsbD_and, BitVec.getLsbD_ushiftRight,
    BitVec.getLsbD_or, BitVec.getLsbD_not, BitVec.getLsbD_shiftLeft]
  rw [getLsbD_mask _ _ (by omega), getLsbD_mask _ _ (by omega)]
  by_cases hw : i < w
  · rcases hd with hd | hd
    · have hvi : v.getLsbD (o' + i - o) = false := by
        rw [← hv]
        simp [getLsbD_mask w _ (show w ≤ 8 by omega)]
        omega
      simp [hw, show o' + i < 8 by omega, hvi, show ¬ (o' + i - o < w) by omega]
    · -- the field read lies below the one written, whose shift leaves zeros there
      have ho : o' + i < o := by omega
      simp [hw, ho, show o' + i < 8 by omega]
  · simp [hw]

@[simp] lemma getField_zero (o w : ℕ) : getField 0#8 o w = 0#8 := by
  apply BitVec.eq_of_getLsbD_eq
  intro i hi
  simp [getField]

/-! ### Single bits -/

lemma mask_one : mask 1 = 1#8 := by decide

lemma getField_one (b : BitVec 8) (k : ℕ) : getField b k 1 = if b.getLsbD k then 1 else 0 := by
  apply BitVec.eq_of_getLsbD_eq
  intro i hi
  simp only [getField, mask_one, BitVec.getLsbD_and, BitVec.getLsbD_ushiftRight]
  by_cases hik : i = 0
  · subst hik
    by_cases hb : b.getLsbD k <;> simp [hb]
  · by_cases hb : b.getLsbD k <;> simp [hb, hik]

/-- What is left of a byte under one bit. -/
lemma and_bit (b : BitVec 8) {k : ℕ} (hk : k < 8) :
    b &&& (1#8 <<< k) = if b.getLsbD k then 1#8 <<< k else 0 := by
  apply BitVec.eq_of_getLsbD_eq
  intro i hi
  simp only [BitVec.getLsbD_and, BitVec.getLsbD_shiftLeft]
  by_cases hb : b.getLsbD k
  · by_cases hik : i = k
    · subst hik
      simp [hb]
    · rcases Nat.lt_or_ge i k with h | h
      · simp [hb, h]
      · have : i - k ≠ 0 := by omega
        simp [hb, this]
  · by_cases hik : i = k
    · subst hik
      simp [hb]
    · simp [hb]
      omega

lemma testBit_eq (b : BitVec 8) {k : ℕ} (hk : k < 8) :
    (b &&& (1#8 <<< k) != 0) = (getField b k 1 != 0) := by
  have hbit : (1#8 <<< k != 0) = true := by
    have hk' : (1#8 <<< k).getLsbD k = true := by simp [hk]
    rw [bne_iff_ne]
    intro h
    rw [h] at hk'
    simp at hk'
  rw [and_bit b hk, getField_one]
  by_cases hb : b.getLsbD k
  · simp only [hb, if_true, hbit]
    decide
  · simp [hb]

lemma setBit_eq (b : BitVec 8) (k : ℕ) (value : Bool) :
    (if value then b ||| (1#8 <<< k) else b &&& ~~~(1#8 <<< k)) =
      setField b k 1 (if value then 1#8 else 0#8) := by
  cases value with
  | false => simp [setField, mask_one]
  | true =>
    apply BitVec.eq_of_getLsbD_eq
    intro i hi
    simp only [if_true, setField, mask_one, BitVec.getLsbD_or, BitVec.getLsbD_and,
      BitVec.getLsbD_not, BitVec.getLsbD_shiftLeft]
    by_cases h1 : i < k <;> by_cases h2 : i - k = 0 <;> simp [h1, h2, hi]

end Oid4vc.Bitfield
