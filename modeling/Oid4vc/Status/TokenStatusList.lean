import Oid4vc.Base.Fallible
import Oid4vc.Base.Packed
import Oid4vc.Crates
import Oid4vc.Types.Status

/-!
The IETF Token Status List: one, two, four or eight bits a token, least significant bits
first.
-/

namespace Oid4vc.TokenStatusList

open Oid4vc.JsonValue Oid4vc.Bitfield Oid4vc.Packed Oid4vc.Fallible Oid4vc.External
open Oid4vc.StatusTypes

inductive TokenStatusListError
  | invalidBitsPerStatus (bits : ℕ)
  | indexOutOfBounds (index : ℕ)
  | compression (msg : String)
  | decompression (msg : String)
  | base64Error (msg : String)
  | invalidStatus (value : Byte)
  deriving DecidableEq

def TokenStatusListError.toString : TokenStatusListError → String
  | .invalidBitsPerStatus bits =>
    "invalid bits_per_status: " ++ bits.repr ++ " (must be 1, 2, 4, or 8)"
  | .indexOutOfBounds index => "index out of bounds: " ++ index.repr
  | .compression msg => "compression error: " ++ msg
  | .decompression msg => "decompression error: " ++ msg
  | .base64Error msg => "base64 decode error: " ++ msg
  | .invalidStatus value => "invalid status value: " ++ value.toNat.repr

/-- A list as it is kept: only the widths that divide a byte can be built. -/
structure TokenStatusListImpl where
  data : Bytes
  bitsPerStatus : ℕ
  capacity : ℕ
  width : bitsPerStatus ∈ [1, 2, 4, 8]

namespace TokenStatusListImpl

/-- A list of this many entries, all zero. -/
def new (capacity bitsPerStatus : ℕ) : Except TokenStatusListError TokenStatusListImpl :=
  if h : bitsPerStatus ∈ [1, 2, 4, 8] then
    let entriesPerByte := 8 / bitsPerStatus
    let byteLen := (capacity + entriesPerByte - 1) / entriesPerByte
    .ok ⟨List.replicate byteLen 0, bitsPerStatus, capacity, h⟩
  else .error (.invalidBitsPerStatus bitsPerStatus)

variable (l : TokenStatusListImpl)

/-- The status value of an entry. Reading past the bytes panics. -/
def get (index : ℕ) : Except (Fault TokenStatusListError) Byte := do
  ensure (index < l.capacity) (.err (.indexOutOfBounds index))
  let entriesPerByte := 8 / l.bitsPerStatus
  let byteIndex := index / entriesPerByte
  let bitOffset := index % entriesPerByte * l.bitsPerStatus
  let mask := BitVec.ofNat 8 (2 ^ l.bitsPerStatus - 1)
  let byte ← okOr .panic l.data[byteIndex]?
  pure ((byte >>> bitOffset) &&& mask)

def set (index : ℕ) (value : Byte) : Except (Fault TokenStatusListError) TokenStatusListImpl := do
  ensure (index < l.capacity) (.err (.indexOutOfBounds index))
  let maxValue := BitVec.ofNat 8 (2 ^ l.bitsPerStatus - 1)
  ensure (value ≤ maxValue) (.err (.invalidStatus value))
  let entriesPerByte := 8 / l.bitsPerStatus
  let byteIndex := index / entriesPerByte
  let bitOffset := index % entriesPerByte * l.bitsPerStatus
  let mask := BitVec.ofNat 8 (2 ^ l.bitsPerStatus - 1)
  let byte ← okOr .panic l.data[byteIndex]?
  -- clear the existing bits, then set the new ones
  let cleared := byte &&& ~~~(mask <<< bitOffset)
  pure { l with data := l.data.set byteIndex (cleared ||| (value <<< bitOffset)) }

def setStatus (index : ℕ) (status : TokenStatus) :
    Except (Fault TokenStatusListError) TokenStatusListImpl :=
  l.set index status.toByte

/-- The compressed status array. -/
def compress (X : Crates) : Except TokenStatusListError Bytes :=
  (X.zlib l.data).mapError .compression

/-- The `lst` value: compressed and base64url-encoded. -/
def encode (X : Crates) : Except TokenStatusListError String := do
  let compressed ← l.compress X
  pure (X.base64UrlEncode compressed)

def layout : Layout := lsbFirst l.bitsPerStatus l.width

/-- There is a field for every entry. -/
def Covered : Prop := ∀ index < l.capacity, l.layout.byte index < l.data.length

variable {l}

lemma covered_of_new {capacity bits : ℕ} (h : new capacity bits = .ok l) : l.Covered := by
  unfold new at h
  split_ifs at h with hw
  simp only [Except.ok.injEq] at h
  subst h
  intro index hi
  simp only [layout, lsbFirst, List.length_replicate]
  simp only [List.mem_cons, List.not_mem_nil, or_false] at hw hi
  rcases hw with rfl | rfl | rfl | rfl <;> omega

/-- **Reading** an entry of a list in bounds. -/
theorem get_eq (h : l.Covered) {index : ℕ} (hi : index < l.capacity) :
    ∃ v, readEntry l.layout l.data index = some v ∧ l.get index = .ok v := by
  have hb := h index hi
  refine ⟨_, readEntry_of_lt hb, ?_⟩
  simp only [get, bind_eq_ok, ensure_eq_ok, exists_unit, okOr_eq_ok, pure_eq_ok]
  exact ⟨hi, _, List.getElem?_eq_getElem hb, rfl⟩

lemma and_mask {value : Byte} (hv : value ≤ BitVec.ofNat 8 (2 ^ l.bitsPerStatus - 1)) :
    value &&& mask l.bitsPerStatus = value := by
  have hw : l.bitsPerStatus ≤ 8 := by
    have := l.width
    simp only [List.mem_cons, List.not_mem_nil, or_false] at this
    omega
  have hpos := Nat.two_pow_pos l.bitsPerStatus
  have hlt : 2 ^ l.bitsPerStatus ≤ 2 ^ 8 := Nat.pow_le_pow_right (by omega) hw
  rw [BitVec.le_def, BitVec.toNat_ofNat, Nat.mod_eq_of_lt (by omega)] at hv
  exact and_mask_of_lt hw (by omega)

/-- **Writing** an entry of a list in bounds. -/
theorem set_eq (h : l.Covered) {index : ℕ} (hi : index < l.capacity) {value : Byte}
    (hv : value ≤ BitVec.ofNat 8 (2 ^ l.bitsPerStatus - 1)) :
    l.set index value = .ok { l with data := writeEntry l.layout l.data index value } := by
  have hb := h index hi
  simp only [set, bind_eq_ok, ensure_eq_ok, exists_unit, okOr_eq_ok, pure_eq_ok]
  refine ⟨hi, hv, _, List.getElem?_eq_getElem hb, ?_⟩
  rw [writeEntry_eq_set (L := l.layout) (List.getElem?_eq_getElem hb)]
  rfl

lemma set_of_capacity_le {index : ℕ} (hi : l.capacity ≤ index) (value : Byte) :
    l.set index value = .error (.err (.indexOutOfBounds index)) := by
  rw [set, ensure_of_not (by omega)]
  rfl

end TokenStatusListImpl

end Oid4vc.TokenStatusList
