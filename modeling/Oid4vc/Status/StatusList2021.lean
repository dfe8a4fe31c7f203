import Oid4vc.Base.Fallible
import Oid4vc.Base.Packed
import Oid4vc.Crates

/-!
The W3C bitstring status list: one bit a credential, most significant bit first.
-/

namespace Oid4vc.StatusList2021

open Oid4vc.JsonValue Oid4vc.Bitfield Oid4vc.Packed Oid4vc.Fallible Oid4vc.External

inductive StatusListError
  | compression (msg : String)
  | decompression (msg : String)
  | indexOutOfBounds (index size : ℕ)
  | base64Error (msg : String)
  deriving DecidableEq

def StatusListError.toString : StatusListError → String
  | .compression msg => "compression error: " ++ msg
  | .decompression msg => "decompression error: " ++ msg
  | .indexOutOfBounds index size =>
    "index out of bounds: " ++ index.repr ++ " >= " ++ size.repr
  | .base64Error msg => "base64 decode error: " ++ msg

structure StatusList where
  bits : Bytes
  size : ℕ

namespace StatusList

/-- A list of this many entries, all zero. -/
def new (size : ℕ) : StatusList := ⟨List.replicate ((size + 7) / 8) 0, size⟩

variable (l : StatusList)

/-- Whether the bit of a credential is set. Reading past the bytes panics. -/
def get (index : ℕ) : Except (Fault StatusListError) Bool := do
  ensure (index < l.size) (.err (.indexOutOfBounds index l.size))
  let byte ← okOr .panic l.bits[index / 8]?
  pure (byte &&& (1#8 <<< (7 - index % 8)) != 0)

def set (index : ℕ) (value : Bool) : Except (Fault StatusListError) StatusList := do
  ensure (index < l.size) (.err (.indexOutOfBounds index l.size))
  let byte ← okOr .panic l.bits[index / 8]?
  let bit := 1#8 <<< (7 - index % 8)
  pure { l with bits := l.bits.set (index / 8) (if value then byte ||| bit else byte &&& ~~~bit) }

/-- The `encodedList` value: compressed and base64url-encoded. -/
def encode (X : Crates) : Except StatusListError String := do
  let compressed ← (X.gzip l.bits).mapError .compression
  pure (X.base64UrlEncode compressed)

/-- There is a bit for every entry. -/
def Covered : Prop := l.size ≤ 8 * l.bits.length

lemma covered_new (size : ℕ) : (new size).Covered := by
  simp only [Covered, new, List.length_replicate]
  omega

variable {l}

lemma byte_lt (h : l.Covered) {index : ℕ} (hi : index < l.size) :
    msbFirst.byte index < l.bits.length := by
  simp only [msbFirst, Covered] at *
  omega

/-- **Reading** an entry of a list in bounds. -/
theorem get_eq (h : l.Covered) {index : ℕ} (hi : index < l.size) :
    ∃ v, readEntry msbFirst l.bits index = some v ∧ l.get index = .ok (v != 0) := by
  have hb := byte_lt h hi
  refine ⟨_, readEntry_of_lt hb, ?_⟩
  simp only [get, bind_eq_ok, ensure_eq_ok, exists_unit, okOr_eq_ok, pure_eq_ok]
  exact ⟨hi, _, List.getElem?_eq_getElem hb, testBit_eq _ (by omega)⟩

/-- **Writing** an entry of a list in bounds. -/
theorem set_eq (h : l.Covered) {index : ℕ} (hi : index < l.size) (value : Bool) :
    l.set index value =
      .ok { l with bits := writeEntry msbFirst l.bits index (if value then 1#8 else 0#8) } := by
  have hb : index / 8 < l.bits.length := byte_lt h hi
  simp only [set, bind_eq_ok, ensure_eq_ok, exists_unit, okOr_eq_ok, pure_eq_ok, setBit_eq]
  refine ⟨hi, l.bits[index / 8], List.getElem?_eq_getElem hb, ?_⟩
  rw [writeEntry_eq_set (L := msbFirst) (List.getElem?_eq_getElem hb)]
  rfl

lemma set_of_size_le {index : ℕ} (hi : l.size ≤ index) (value : Bool) :
    l.set index value = .error (.err (.indexOutOfBounds index l.size)) := by
  rw [set, ensure_of_not (by omega)]
  rfl

end StatusList

end Oid4vc.StatusList2021
