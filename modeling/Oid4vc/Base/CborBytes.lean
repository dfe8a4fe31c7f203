import Oid4vc.Base.Cbor
import Oid4vc.Base.Text

/-!
CBOR as bytes: an encoder, and a decoder that reads back what it writes. Numbers and lengths
take the shortest head that holds them.
-/

namespace Oid4vc.CborBytes

open Oid4vc.JsonValue Oid4vc.Text Oid4vc.CborValue

/-- The bytes of a number modulo `256 ^ k`, the highest first. -/
def bigEndian : ℕ → ℕ → Bytes
  | 0, _ => []
  | k + 1, n => bigEndian k (n / 256) ++ [BitVec.ofNat 8 n]

/-- The number that bytes stand for, the highest first. -/
def ofBigEndian (bytes : Bytes) : ℕ := bytes.foldl (fun n b => n * 256 + b.toNat) 0

@[simp] lemma length_bigEndian (k n : ℕ) : (bigEndian k n).length = k := by
  induction k generalizing n with
  | zero => rfl
  | succ k ih => simp [bigEndian, ih]

lemma ofBigEndian_snoc (bytes : Bytes) (b : Byte) :
    ofBigEndian (bytes ++ [b]) = ofBigEndian bytes * 256 + b.toNat := by
  simp [ofBigEndian]

lemma ofBigEndian_bigEndian {k n : ℕ} (h : n < 256 ^ k) : ofBigEndian (bigEndian k n) = n := by
  induction k generalizing n with
  | zero =>
    have : n = 0 := by omega
    subst this
    rfl
  | succ k ih =>
    have hdiv : n / 256 < 256 ^ k := by
      rw [Nat.div_lt_iff_lt_mul (by omega), ← Nat.pow_succ]
      exact h
    rw [bigEndian, ofBigEndian_snoc, ih hdiv, BitVec.toNat_ofNat]
    omega

def readNumber (k : ℕ) (bytes : Bytes) : Option (ℕ × Bytes) :=
  if k ≤ bytes.length then some (ofBigEndian (bytes.take k), bytes.drop k) else none

lemma readNumber_bigEndian {k n : ℕ} (h : n < 256 ^ k) (rest : Bytes) :
    readNumber k (bigEndian k n ++ rest) = some (n, rest) := by
  have hlen : k ≤ (bigEndian k n ++ rest).length := by simp
  rw [readNumber, if_pos hlen, List.take_left' (length_bigEndian k n),
    List.drop_left' (length_bigEndian k n), ofBigEndian_bigEndian h]

/-- The first byte of a head. -/
def initial (major info : ℕ) : Byte := BitVec.ofNat 8 (major * 32 + info)

/-- A head: the major type of an item, and its number. No item has more than `2 ^ 64` parts;
for a number that large the head goes on in unary. -/
def head (major n : ℕ) : Bytes :=
  if n < 24 then [initial major n]
  else if n < 256 ^ 1 then initial major 24 :: bigEndian 1 n
  else if n < 256 ^ 2 then initial major 25 :: bigEndian 2 n
  else if n < 256 ^ 4 then initial major 26 :: bigEndian 4 n
  else if n < 256 ^ 8 then initial major 27 :: bigEndian 8 n
  else initial major 28 :: (List.replicate n 1#8 ++ [0#8])

/-- Count the ones before a zero. -/
def readUnary : Bytes → Option (ℕ × Bytes)
  | [] => none
  | b :: rest => if b = 0#8 then some (0, rest) else (readUnary rest).map fun r => (r.1 + 1, r.2)

/-- Read the number of a head whose first byte says this much. -/
def readArgument (info : ℕ) (rest : Bytes) : Option (ℕ × Bytes) :=
  if info < 24 then some (info, rest)
  else if info = 24 then readNumber 1 rest
  else if info = 25 then readNumber 2 rest
  else if info = 26 then readNumber 4 rest
  else if info = 27 then readNumber 8 rest
  else if info = 28 then readUnary rest
  else none

/-- Read a head: its major type, its number, and the rest. -/
def readHead : Bytes → Option (ℕ × ℕ × Bytes)
  | [] => none
  | b :: rest => (readArgument (b.toNat % 32) rest).map fun r => (b.toNat / 32, r)

lemma readUnary_replicate (n : ℕ) (rest : Bytes) :
    readUnary (List.replicate n 1#8 ++ 0#8 :: rest) = some (n, rest) := by
  induction n with
  | zero => simp [readUnary]
  | succ n ih =>
    rw [List.replicate_succ, List.cons_append, readUnary, ih]
    simp

lemma toNat_initial {major : ℕ} (hm : major < 8) (info : ℕ) (hi : info < 32) :
    (initial major info).toNat % 32 = info ∧ (initial major info).toNat / 32 = major := by
  rw [initial, BitVec.toNat_ofNat]
  omega

/-- **A head is read back.** -/
lemma readHead_head {major : ℕ} (hm : major < 8) (n : ℕ) (rest : Bytes) :
    readHead (head major n ++ rest) = some (major, n, rest) := by
  unfold head
  split_ifs with h0 h1 h2 h4 h8
  · obtain ⟨hmod, hdiv⟩ := toNat_initial hm n (by omega)
    simp [readHead, readArgument, hmod, hdiv, h0]
  · obtain ⟨hmod, hdiv⟩ := toNat_initial hm 24 (by omega)
    simp [readHead, readArgument, hmod, hdiv, readNumber_bigEndian h1]
  · obtain ⟨hmod, hdiv⟩ := toNat_initial hm 25 (by omega)
    simp [readHead, readArgument, hmod, hdiv, readNumber_bigEndian h2]
  · obtain ⟨hmod, hdiv⟩ := toNat_initial hm 26 (by omega)
    simp [readHead, readArgument, hmod, hdiv, readNumber_bigEndian h4]
  · obtain ⟨hmod, hdiv⟩ := toNat_initial hm 27 (by omega)
    simp [readHead, readArgument, hmod, hdiv, readNumber_bigEndian h8]
  · obtain ⟨hmod, hdiv⟩ := toNat_initial hm 28 (by omega)
    simp [readHead, readArgument, hmod, hdiv, readUnary_replicate]

lemma head_length_pos (major n : ℕ) : 1 ≤ (head major n).length := by
  unfold head
  split_ifs <;> simp

mutual

def encode : Cbor → Bytes
  | .integer i => if 0 ≤ i.val then head 0 i.val.toNat else head 1 (-1 - i.val).toNat
  | .bytes b => head 2 b.length ++ b
  | .text s => head 3 (utf8 s).length ++ utf8 s
  | .array items => head 4 items.length ++ encodeItems items
  | .map entries => head 5 entries.length ++ encodeEntries entries
  | .tag t inner => head 6 t.toNat ++ encode inner
  | .bool b => head 7 (if b then 21 else 20)
  | .null => head 7 22
  | .float f => 0xFB#8 :: bigEndian 8 f.bits.toNat

def encodeItems : List Cbor → Bytes
  | [] => []
  | v :: vs => encode v ++ encodeItems vs

def encodeEntries : List (Cbor × Cbor) → Bytes
  | [] => []
  | (k, v) :: es => encode k ++ encode v ++ encodeEntries es

end

/-- A byte string of this length. -/
def readBytes (n : ℕ) (bytes : Bytes) : Option (Bytes × Bytes) :=
  if n ≤ bytes.length then some (bytes.take n, bytes.drop n) else none

/-- The integer `-1 - n`. -/
def negU64 (n : BitVec 64) : CborInt := ⟨-1 - n.toNat, by omega, by omega⟩

def readSimple (n : ℕ) (rest : Bytes) : Option (Cbor × Bytes) :=
  if n = 20 then some (.bool false, rest)
  else if n = 21 then some (.bool true, rest)
  else if n = 22 then some (.null, rest)
  else none

mutual

/-- Read an item, with a bound on its size. -/
def read : ℕ → Bytes → Option (Cbor × Bytes)
  | 0, _ => none
  | _ + 1, [] => none
  | fuel + 1, b :: bs =>
    if b = 0xFB#8 then (readNumber 8 bs).map fun r => (.float ⟨BitVec.ofNat 64 r.1⟩, r.2)
    else
      match readHead (b :: bs) with
      | some (0, n, rest) => some (.integer (ofU64 (BitVec.ofNat 64 n)), rest)
      | some (1, n, rest) => some (.integer (negU64 (BitVec.ofNat 64 n)), rest)
      | some (2, n, rest) => (readBytes n rest).map fun r => (.bytes r.1, r.2)
      | some (3, n, rest) =>
        (readBytes n rest).bind fun r => (decodeUtf8 r.1).map fun s => (.text s, r.2)
      | some (4, n, rest) => (readItems fuel n rest).map fun r => (.array r.1, r.2)
      | some (5, n, rest) => (readEntries fuel n rest).map fun r => (.map r.1, r.2)
      | some (6, n, rest) => (read fuel rest).map fun r => (.tag (BitVec.ofNat 64 n) r.1, r.2)
      | some (7, n, rest) => readSimple n rest
      | _ => none

def readItems : ℕ → ℕ → Bytes → Option (List Cbor × Bytes)
  | _, 0, bs => some ([], bs)
  | 0, _ + 1, _ => none
  | fuel + 1, n + 1, bs =>
    (read fuel bs).bind fun r => (readItems fuel n r.2).map fun q => (r.1 :: q.1, q.2)

def readEntries : ℕ → ℕ → Bytes → Option (List (Cbor × Cbor) × Bytes)
  | _, 0, bs => some ([], bs)
  | 0, _ + 1, _ => none
  | fuel + 1, n + 1, bs =>
    (read fuel bs).bind fun k => (read fuel k.2).bind fun v =>
      (readEntries fuel n v.2).map fun q => ((k.1, v.1) :: q.1, q.2)

end

/-- The first item of the bytes. -/
def decode (bytes : Bytes) : Option Cbor := (read (2 * bytes.length) bytes).map Prod.fst

mutual

/-- A bound that is enough to read an item. -/
def size : Cbor → ℕ
  | .array items => 1 + sizeItems items
  | .map entries => 1 + sizeEntries entries
  | .tag _ inner => 1 + size inner
  | _ => 1

def sizeItems : List Cbor → ℕ
  | [] => 0
  | v :: vs => 1 + size v + sizeItems vs

def sizeEntries : List (Cbor × Cbor) → ℕ
  | [] => 0
  | (k, v) :: es => 1 + size k + size v + sizeEntries es

end

/-! ### Round trip -/

/-- What is read after the head of an item. -/
def readRest (fuel : ℕ) : ℕ → ℕ → Bytes → Option (Cbor × Bytes)
  | 0, n, rest => some (.integer (ofU64 (BitVec.ofNat 64 n)), rest)
  | 1, n, rest => some (.integer (negU64 (BitVec.ofNat 64 n)), rest)
  | 2, n, rest => (readBytes n rest).map fun r => (.bytes r.1, r.2)
  | 3, n, rest => (readBytes n rest).bind fun r => (decodeUtf8 r.1).map fun s => (.text s, r.2)
  | 4, n, rest => (readItems fuel n rest).map fun r => (.array r.1, r.2)
  | 5, n, rest => (readEntries fuel n rest).map fun r => (.map r.1, r.2)
  | 6, n, rest => (read fuel rest).map fun r => (.tag (BitVec.ofNat 64 n) r.1, r.2)
  | 7, n, rest => readSimple n rest
  | _, _, _ => none

lemma head_eq_cons {major n : ℕ} (h : major < 7 ∨ major = 7 ∧ n < 24) :
    ∃ b bs, head major n = b :: bs ∧ b ≠ 0xFB#8 := by
  have hne : ∀ info < 32, (major < 7 ∨ info < 24) → initial major info ≠ 0xFB#8 := by
    intro info hi hm heq
    have := congrArg BitVec.toNat heq
    simp only [initial, BitVec.toNat_ofNat] at this
    omega
  unfold head
  split_ifs with h0
  · exact ⟨_, _, rfl, hne n (by omega) (by omega)⟩
  · exact ⟨_, _, rfl, hne 24 (by omega) (by omega)⟩
  · exact ⟨_, _, rfl, hne 25 (by omega) (by omega)⟩
  · exact ⟨_, _, rfl, hne 26 (by omega) (by omega)⟩
  · exact ⟨_, _, rfl, hne 27 (by omega) (by omega)⟩
  · exact ⟨_, _, rfl, hne 28 (by omega) (by omega)⟩

lemma read_head {major n : ℕ} (h : major < 7 ∨ major = 7 ∧ n < 24) (fuel : ℕ) (rest : Bytes) :
    read (fuel + 1) (head major n ++ rest) = readRest fuel major n rest := by
  obtain ⟨b, bs, hb, hne⟩ := head_eq_cons h
  have hread := readHead_head (by omega : major < 8) n rest
  rw [hb, List.cons_append] at hread ⊢
  simp only [read, if_neg hne, hread]
  have hmajor : major = 0 ∨ major = 1 ∨ major = 2 ∨ major = 3 ∨ major = 4 ∨ major = 5 ∨
      major = 6 ∨ major = 7 := by omega
  rcases hmajor with rfl | rfl | rfl | rfl | rfl | rfl | rfl | rfl <;> rfl

lemma readBytes_append (bytes rest : Bytes) :
    readBytes bytes.length (bytes ++ rest) = some (bytes, rest) := by
  simp [readBytes]

lemma read_integer (i : CborInt) (fuel : ℕ) (rest : Bytes) :
    read (fuel + 1) (encode (.integer i) ++ rest) = some (.integer i, rest) := by
  obtain ⟨val, hlow, hhigh⟩ := i
  unfold encode
  dsimp only
  split_ifs with hi
  · have hval : ofU64 (BitVec.ofNat 64 val.toNat) = ⟨val, hlow, hhigh⟩ := by
      apply CborInt.ext_val
      simp only [ofU64, BitVec.toNat_ofNat]
      omega
    rw [read_head (Or.inl (by omega)), readRest, hval]
  · have hval : negU64 (BitVec.ofNat 64 (-1 - val).toNat) = ⟨val, hlow, hhigh⟩ := by
      apply CborInt.ext_val
      simp only [negU64, BitVec.toNat_ofNat]
      omega
    rw [read_head (Or.inl (by omega)), readRest, hval]

mutual

/-- **An item is read back**, whatever follows it. -/
theorem read_encode : ∀ (v : Cbor) {fuel : ℕ}, size v ≤ fuel → ∀ rest,
    read fuel (encode v ++ rest) = some (v, rest)
  | v, 0, h, _ => by cases v <;> simp [size] at h
  -- the bound pays for the items within: each of them has a smaller one
  | .integer i, fuel + 1, _, rest => read_integer i fuel rest
  | .bytes b, fuel + 1, _, rest => by
    rw [encode, List.append_assoc, read_head (Or.inl (by omega)), readRest, readBytes_append]
    rfl
  | .text s, fuel + 1, _, rest => by
    rw [encode, List.append_assoc, read_head (Or.inl (by omega)), readRest, readBytes_append]
    simp [decodeUtf8_utf8]
  | .array items, fuel + 1, h, rest => by
    have hitems := readItems_encode items (by simp only [size] at h; omega : _ ≤ fuel) rest
    rw [encode, List.append_assoc, read_head (Or.inl (by omega)), readRest, hitems]
    rfl
  | .map entries, fuel + 1, h, rest => by
    have hentries := readEntries_encode entries (by simp only [size] at h; omega : _ ≤ fuel) rest
    rw [encode, List.append_assoc, read_head (Or.inl (by omega)), readRest, hentries]
    rfl
  | .tag t inner, fuel + 1, h, rest => by
    have hinner := read_encode inner (by simp only [size] at h; omega : _ ≤ fuel) rest
    rw [encode, List.append_assoc, read_head (Or.inl (by omega)), readRest, hinner]
    simp
  | .bool b, fuel + 1, _, rest => by
    rw [encode, read_head (Or.inr ⟨rfl, by split_ifs <;> omega⟩)]
    cases b <;> rfl
  | .null, fuel + 1, _, rest => by
    rw [encode, read_head (Or.inr ⟨rfl, by omega⟩)]
    rfl
  | .float f, fuel + 1, _, rest => by
    have hbits : f.bits.toNat < 256 ^ 8 := by
      have := f.bits.isLt
      omega
    rw [encode, List.cons_append, read, if_pos rfl, readNumber_bigEndian hbits]
    simp

theorem readItems_encode : ∀ (vs : List Cbor) {fuel : ℕ}, sizeItems vs ≤ fuel → ∀ rest,
    readItems fuel vs.length (encodeItems vs ++ rest) = some (vs, rest)
  | [], fuel, _, rest => by cases fuel <;> simp [readItems, encodeItems]
  | v :: vs, 0, h, _ => by simp [sizeItems] at h
  | v :: vs, fuel + 1, h, rest => by
    simp only [sizeItems] at h
    rw [encodeItems, List.length_cons, List.append_assoc, readItems,
      read_encode v (by omega), Option.bind_some, readItems_encode vs (by omega)]
    rfl

theorem readEntries_encode : ∀ (es : List (Cbor × Cbor)) {fuel : ℕ}, sizeEntries es ≤ fuel →
    ∀ rest, readEntries fuel es.length (encodeEntries es ++ rest) = some (es, rest)
  | [], fuel, _, rest => by cases fuel <;> simp [readEntries, encodeEntries]
  | (k, v) :: es, 0, h, _ => by simp [sizeEntries] at h
  | (k, v) :: es, fuel + 1, h, rest => by
    simp only [sizeEntries] at h
    rw [encodeEntries, List.length_cons, List.append_assoc, List.append_assoc, readEntries,
      read_encode k (by omega), Option.bind_some, read_encode v (by omega), Option.bind_some,
      readEntries_encode es (by omega)]
    rfl

end

mutual

/-- An item is not much larger than its text. -/
lemma size_lt : ∀ v : Cbor, size v < 2 * (encode v).length
  | .integer i => by
    unfold encode size
    have h0 := head_length_pos 0 i.val.toNat
    have h1 := head_length_pos 1 (-1 - i.val).toNat
    split_ifs <;> omega
  | .bytes b => by
    have := head_length_pos 2 b.length
    simp only [encode, size, List.length_append]
    omega
  | .text s => by
    have := head_length_pos 3 (utf8 s).length
    simp only [encode, size, List.length_append]
    omega
  | .array items => by
    have := head_length_pos 4 items.length
    have := sizeItems_le items
    simp only [encode, size, List.length_append]
    omega
  | .map entries => by
    have := head_length_pos 5 entries.length
    have := sizeEntries_le entries
    simp only [encode, size, List.length_append]
    omega
  | .tag t inner => by
    have := head_length_pos 6 t.toNat
    have := size_lt inner
    simp only [encode, size, List.length_append]
    omega
  | .bool b => by
    have := head_length_pos 7 (if b then 21 else 20)
    simp only [encode, size]
    omega
  | .null => by
    have := head_length_pos 7 22
    simp only [encode, size]
    omega
  | .float f => by simp [encode, size]

lemma sizeItems_le : ∀ vs : List Cbor, sizeItems vs ≤ 2 * (encodeItems vs).length
  | [] => by simp [sizeItems]
  | v :: vs => by
    have := size_lt v
    have := sizeItems_le vs
    simp only [encodeItems, sizeItems, List.length_append]
    omega

lemma sizeEntries_le : ∀ es : List (Cbor × Cbor), sizeEntries es ≤ 2 * (encodeEntries es).length
  | [] => by simp [sizeEntries]
  | (k, v) :: es => by
    have := size_lt k
    have := size_lt v
    have := sizeEntries_le es
    simp only [encodeEntries, sizeEntries, List.length_append]
    omega

end

/-- **Decoding reads back what was encoded.** -/
theorem decode_encode (v : Cbor) : decode (encode v) = some v := by
  have := read_encode v (size_lt v).le []
  rw [List.append_nil] at this
  rw [decode, this]
  rfl

end Oid4vc.CborBytes
