import Oid4vc.Base.Json

/-!
The data model of CBOR as a decoder leaves it. A map is its entries in order: keys may be
any value, and may repeat.
-/

namespace Oid4vc.CborValue

open Oid4vc.JsonValue

/-- An integer of CBOR's major types 0 and 1: from `-2 ^ 64` up to `2 ^ 64 - 1`. -/
structure CborInt where
  val : ℤ
  lower : -2 ^ 64 ≤ val
  upper : val < 2 ^ 64

lemma CborInt.ext_val {a b : CborInt} (h : a.val = b.val) : a = b := by
  obtain ⟨a, _, _⟩ := a
  obtain ⟨b, _, _⟩ := b
  simp only at h
  subst h
  rfl

instance : DecidableEq CborInt := fun a b =>
  decidable_of_iff (a.val = b.val) ⟨CborInt.ext_val, fun h => h ▸ rfl⟩

inductive Cbor
  | integer (i : CborInt)
  | bytes (b : Bytes)
  | float (f : F64)
  | text (s : String)
  | bool (b : Bool)
  | null
  | tag (t : BitVec 64) (inner : Cbor)
  | array (items : List Cbor)
  | map (entries : List (Cbor × Cbor))

/-- A non-negative 64-bit integer. -/
def ofU64 (n : BitVec 64) : CborInt := ⟨n.toNat, by omega, by omega⟩

/-- A small integer label. -/
def ofI64 (n : BitVec 64) : CborInt :=
  ⟨n.toInt, by have := BitVec.le_toInt n; omega, by have := BitVec.toInt_lt (x := n); omega⟩

namespace Cbor

def asMap : Cbor → Option (List (Cbor × Cbor))
  | .map entries => some entries
  | _ => none

def asArray : Cbor → Option (List Cbor)
  | .array items => some items
  | _ => none

def asText : Cbor → Option String
  | .text s => some s
  | _ => none

def asBytes : Cbor → Option Bytes
  | .bytes b => some b
  | _ => none

def asInteger : Cbor → Option CborInt
  | .integer i => some i
  | _ => none

@[simp] lemma asMap_map (entries : List (Cbor × Cbor)) :
    (Cbor.map entries).asMap = some entries := rfl
@[simp] lemma asArray_array (items : List Cbor) : (Cbor.array items).asArray = some items := rfl
@[simp] lemma asText_text (s : String) : (Cbor.text s).asText = some s := rfl
@[simp] lemma asBytes_bytes (b : Bytes) : (Cbor.bytes b).asBytes = some b := rfl
@[simp] lemma asInteger_integer (i : CborInt) : (Cbor.integer i).asInteger = some i := rfl

end Cbor

end Oid4vc.CborValue
