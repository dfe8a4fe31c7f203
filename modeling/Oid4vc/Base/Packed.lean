import Oid4vc.Base.Bitfield
import Oid4vc.Base.Json

/-!
Arrays of small numbers packed into bytes. A layout says where each entry lies; writing one
entry changes that entry and no other.
-/

namespace Oid4vc.Packed

open Oid4vc.JsonValue Oid4vc.Bitfield

/-- Where the entries lie: entry `i` is the field of `width` bits at `offset i` of byte
`byte i`. Fields stay inside their byte and do not overlap. -/
structure Layout where
  width : ℕ
  byte : ℕ → ℕ
  offset : ℕ → ℕ
  fits : ∀ i, offset i + width ≤ 8
  apart : ∀ i j, i ≠ j → byte i = byte j →
    offset i + width ≤ offset j ∨ offset j + width ≤ offset i

/-- One bit an entry, most significant bit first. -/
def msbFirst : Layout where
  width := 1
  byte i := i / 8
  offset i := 7 - i % 8
  fits i := by omega
  apart i j h hb := by omega

/-- Fields of `w` bits, least significant bits first. -/
def lsbFirst (w : ℕ) (hw : w ∈ [1, 2, 4, 8]) : Layout where
  width := w
  byte i := i / (8 / w)
  offset i := i % (8 / w) * w
  fits i := by
    simp only [List.mem_cons, List.not_mem_nil, or_false] at hw
    rcases hw with rfl | rfl | rfl | rfl <;> omega
  apart i j h hb := by
    simp only [List.mem_cons, List.not_mem_nil, or_false] at hw
    rcases hw with rfl | rfl | rfl | rfl <;> omega

variable (L : Layout)

def readEntry (data : Bytes) (i : ℕ) : Option Byte :=
  (data[L.byte i]?).map fun b => getField b (L.offset i) L.width

def writeEntry (data : Bytes) (i : ℕ) (v : Byte) : Bytes :=
  data.modify (L.byte i) fun b => setField b (L.offset i) L.width v

@[simp] lemma length_writeEntry (data : Bytes) (i : ℕ) (v : Byte) :
    (writeEntry L data i v).length = data.length := by simp [writeEntry]

variable {L}

lemma readEntry_of_lt {data : Bytes} {i : ℕ} (hi : L.byte i < data.length) :
    readEntry L data i = some (getField data[L.byte i] (L.offset i) L.width) := by
  simp [readEntry, List.getElem?_eq_getElem hi]

lemma writeEntry_eq_set {data : Bytes} {i : ℕ} {b : Byte} (h : data[L.byte i]? = some b)
    (v : Byte) :
    writeEntry L data i v = data.set (L.byte i) (setField b (L.offset i) L.width v) := by
  apply List.ext_getElem?
  intro n
  rw [writeEntry, List.getElem?_modify, List.getElem?_set]
  by_cases hn : L.byte i = n
  · subst hn
    obtain ⟨hlt, rfl⟩ := List.getElem?_eq_some_iff.mp h
    simp [hlt]
  · simp [hn]

lemma readEntry_writeEntry_self {data : Bytes} {i : ℕ} {v : Byte} (hi : L.byte i < data.length)
    (hv : v &&& mask L.width = v) : readEntry L (writeEntry L data i v) i = some v := by
  simp [readEntry, writeEntry, List.getElem?_eq_getElem hi,
    getField_setField_self (L.fits i) hv]

/-- **Frame.** The other entries are as they were. -/
theorem readEntry_writeEntry_of_ne {data : Bytes} {i j : ℕ} {v : Byte} (h : i ≠ j)
    (hv : v &&& mask L.width = v) : readEntry L (writeEntry L data i v) j = readEntry L data j := by
  simp only [readEntry, writeEntry, List.getElem?_modify]
  by_cases hb : L.byte i = L.byte j
  · cases hd : data[L.byte j]? with
    | none => simp
    | some b =>
      simp [hb, getField_setField_of_disjoint (L.fits i) (L.fits j) hv (L.apart i j h hb)]
  · simp [hb]

lemma readEntry_replicate_zero {n i : ℕ} (hi : L.byte i < n) :
    readEntry L (List.replicate n 0) i = some 0 := by
  simp [readEntry, hi]

end Oid4vc.Packed
