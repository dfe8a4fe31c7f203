import Oid4vc.Base.Cells
import Oid4vc.Status.Decoded

/-!
The bit-packed lists as plain arrays.

A list is related to an array if every field that its bytes have room for holds the entry of
the array; past the last entry, the array is zero, and so are the bits that are left over.
-/

namespace Oid4vc.StatusArrays

open Oid4vc.JsonValue Oid4vc.Bitfield Oid4vc.Packed Oid4vc.Fallible Oid4vc.PlainArray
open Oid4vc.External Oid4vc.Codecs Oid4vc.CborBytes Oid4vc.StatusList2021 Oid4vc.TokenStatusList

/-! ### Token status lists -/

/-- The operations of a token status list. -/
def tokenCells : Cells TokenStatusListImpl Byte (Fault TokenStatusListError) where
  get := TokenStatusListImpl.get
  set := TokenStatusListImpl.set

/-- The writes that a list of `capacity` entries of `bits` bits refuses. -/
def tokenRefusal (capacity bits index : ℕ) (value : Byte) : Option (Fault TokenStatusListError) :=
  if capacity ≤ index then some (.err (.indexOutOfBounds index))
  else if 2 ^ bits - 1 < value.toNat then some (.err (.invalidStatus value))
  else none

/-- The list holds the entries of the array. -/
structure TokenHolds (capacity bits : ℕ) (l : TokenStatusListImpl) (a : ℕ → Byte) : Prop where
  sameCapacity : l.capacity = capacity
  sameBits : l.bitsPerStatus = bits
  length : l.data.length = (capacity + 8 / bits - 1) / (8 / bits)
  entry : ∀ i, l.layout.byte i < l.data.length → readEntry l.layout l.data i = some (a i)
  beyond : ∀ i, capacity ≤ i → a i = 0

variable {capacity bits : ℕ} {l : TokenStatusListImpl} {a : ℕ → Byte}

lemma TokenHolds.covered (h : TokenHolds capacity bits l a) : l.Covered := by
  have hwidth := l.width
  have hlength := h.length
  have hcapacity := h.sameCapacity
  rw [← h.sameBits] at hlength
  simp only [List.mem_cons, List.not_mem_nil, or_false] at hwidth
  intro i hi
  simp only [TokenStatusListImpl.layout, lsbFirst, hlength]
  rcases hwidth with hw | hw | hw | hw <;> rw [hw] <;> omega

lemma tokenHolds_new (capacity : ℕ) (hbits : bits ∈ [1, 2, 4, 8]) :
    ∃ l, TokenStatusListImpl.new capacity bits = .ok l ∧ TokenHolds capacity bits l fun _ => 0 := by
  refine ⟨_, dif_pos hbits, rfl, rfl, by simp, fun i hi => ?_, fun _ _ => rfl⟩
  simp only [List.length_replicate] at hi
  exact readEntry_replicate_zero hi

lemma le_max_iff (l : TokenStatusListImpl) (value : Byte) :
    value ≤ BitVec.ofNat 8 (2 ^ l.bitsPerStatus - 1) ↔ ¬ 2 ^ l.bitsPerStatus - 1 < value.toNat := by
  have hwidth := l.width
  simp only [List.mem_cons, List.not_mem_nil, or_false] at hwidth
  rw [BitVec.le_def, BitVec.toNat_ofNat]
  rcases hwidth with hw | hw | hw | hw <;> rw [hw] <;> omega

/-- **Frame.** Writing an entry is an update of the array. -/
lemma TokenHolds.write (h : TokenHolds capacity bits l a) {i : ℕ} (hi : i < capacity) {v : Byte}
    (hv : v &&& mask l.bitsPerStatus = v) :
    TokenHolds capacity bits { l with data := writeEntry l.layout l.data i v }
      (Function.update a i v) := by
  refine ⟨h.sameCapacity, h.sameBits, ?_, fun j hj => ?_, fun j hj => ?_⟩
  · rw [length_writeEntry]
    exact h.length
  · rw [length_writeEntry] at hj
    have hj' : l.layout.byte j < l.data.length := hj
    by_cases hij : i = j
    · subst hij
      rw [Function.update_self]
      exact readEntry_writeEntry_self hj' hv
    · rw [Function.update_of_ne (Ne.symm hij), ← h.entry j hj']
      exact readEntry_writeEntry_of_ne hij hv
  · have hne : j ≠ i := by omega
    rw [Function.update_of_ne hne, h.beyond j hj]

/-- **One operation.** A list that holds an array answers as the array does. -/
theorem tokenRefines : Refines tokenCells
    (plain capacity (tokenRefusal capacity bits) fun i => .err (.indexOutOfBounds i))
    (TokenHolds capacity bits) where
  get l a h i := by
    have hcapacity := h.sameCapacity
    by_cases hi : i < capacity
    · obtain ⟨v, hread, hget⟩ := TokenStatusListImpl.get_eq h.covered (hcapacity.symm ▸ hi)
      rw [h.entry i (h.covered i (hcapacity.symm ▸ hi)), Option.some.injEq] at hread
      simp only [tokenCells, plain, if_pos hi, hget, hread]
    · simp only [tokenCells, plain, if_neg hi, TokenStatusListImpl.get]
      rw [ensure_of_not (by omega)]
      rfl
  write l a h i v := by
    have hcapacity := h.sameCapacity
    have hbits := h.sameBits
    rw [write_plain]
    simp only [Cells.write, tokenCells, tokenRefusal]
    -- refused for the index, refused for the value, or written
    by_cases hi : capacity ≤ i
    · rw [TokenStatusListImpl.set_of_capacity_le (by omega), if_pos hi]
      exact ⟨rfl, h⟩
    have hi' : i < l.capacity := by omega
    by_cases hv : 2 ^ bits - 1 < v.toNat
    · have hle : ¬ v ≤ BitVec.ofNat 8 (2 ^ l.bitsPerStatus - 1) := by
        rw [le_max_iff, hbits]
        exact fun hn => hn hv
      rw [TokenStatusListImpl.set_of_lt_value hi' hle, if_neg hi, if_pos hv]
      exact ⟨rfl, h⟩
    have hle : v ≤ BitVec.ofNat 8 (2 ^ l.bitsPerStatus - 1) := by
      rw [le_max_iff, hbits]
      exact hv
    rw [TokenStatusListImpl.set_eq h.covered hi' hle, if_neg hi, if_neg hv]
    exact ⟨rfl, h.write (by omega) (TokenStatusListImpl.and_mask hle)⟩

/-- A bit of the data, the least significant bit of each byte first. -/
def lsbAt (data : Bytes) (k : ℕ) : Bool := (data[k / 8]?.getD 0).getLsbD (k % 8)

lemma getLsbD_getField {b : Byte} {o w j : ℕ} (hw : w ≤ 8) (hj : j < w) :
    (getField b o w).getLsbD j = b.getLsbD (o + j) := by
  rw [getField, BitVec.getLsbD_and, BitVec.getLsbD_ushiftRight, getLsbD_mask _ _ hw]
  simp [hj]

/-- **Layout.** Entry `i` starts at bit `i * bits`. -/
lemma TokenHolds.lsbAt (h : TokenHolds capacity bits l a) {i j : ℕ} (hj : j < bits) :
    lsbAt l.data (i * bits + j) = (a i).getLsbD j := by
  have hwidth := l.width
  have hlength := h.length
  simp only [List.mem_cons, List.not_mem_nil, or_false, h.sameBits] at hwidth
  have hbyte : (i * bits + j) / 8 = l.layout.byte i := by
    simp only [TokenStatusListImpl.layout, lsbFirst, h.sameBits]
    rcases hwidth with hw | hw | hw | hw <;> subst hw <;> omega
  have hoffset : (i * bits + j) % 8 = l.layout.offset i + j := by
    simp only [TokenStatusListImpl.layout, lsbFirst, h.sameBits]
    rcases hwidth with hw | hw | hw | hw <;> subst hw <;> omega
  rw [StatusArrays.lsbAt, hbyte, hoffset]
  rcases Nat.lt_or_ge (l.layout.byte i) l.data.length with hlt | hge
  · have hentry := h.entry i hlt
    have hw8 : l.bitsPerStatus ≤ 8 := by rw [h.sameBits]; omega
    have hj' : j < l.bitsPerStatus := by rw [h.sameBits]; exact hj
    rw [readEntry_of_lt hlt, Option.some.injEq] at hentry
    rw [List.getElem?_eq_getElem hlt, Option.getD_some, ← hentry]
    exact (getLsbD_getField hw8 hj').symm
  · -- past the bytes there is no entry
    have hbeyond : capacity ≤ i := by
      rw [hlength] at hge
      simp only [TokenStatusListImpl.layout, lsbFirst, h.sameBits] at hge
      rcases hwidth with hw | hw | hw | hw <;> subst hw <;> omega
    rw [List.getElem?_eq_none hge, h.beyond i hbeyond]
    simp

lemma TokenHolds.lsbAt_beyond (h : TokenHolds capacity bits l a) {k : ℕ}
    (hk : capacity * bits ≤ k) : StatusArrays.lsbAt l.data k = false := by
  have hpos : 0 < bits := by
    have hwidth := l.width
    simp only [List.mem_cons, List.not_mem_nil, or_false, h.sameBits] at hwidth
    omega
  have hindex : capacity ≤ k / bits := (Nat.le_div_iff_mul_le hpos).mpr hk
  have hentry := h.lsbAt (i := k / bits) (j := k % bits) (Nat.mod_lt _ hpos)
  rw [Nat.div_add_mod' k bits, h.beyond _ hindex] at hentry
  rw [hentry]
  simp

/-! ### Bitstring status lists -/

/-- The operations of a bitstring status list. -/
def bitCells : Cells StatusList Bool (Fault StatusListError) where
  get := StatusList.get
  set := StatusList.set

/-- The writes that a list of `size` entries refuses. -/
def bitRefusal (size index : ℕ) (_ : Bool) : Option (Fault StatusListError) :=
  if size ≤ index then some (.err (.indexOutOfBounds index size)) else none

structure BitHolds (size : ℕ) (l : StatusList) (a : ℕ → Bool) : Prop where
  sameSize : l.size = size
  length : l.bits.length = (size + 7) / 8
  entry : ∀ i, i / 8 < l.bits.length →
    readEntry msbFirst l.bits i = some (if a i then 1#8 else 0#8)
  beyond : ∀ i, size ≤ i → a i = false

variable {size : ℕ} {b : StatusList} {f : ℕ → Bool}

lemma BitHolds.covered (h : BitHolds size b f) : b.Covered := by
  have hsize := h.sameSize
  have hlength := h.length
  unfold StatusList.Covered
  omega

lemma bitHolds_new (size : ℕ) : BitHolds size (StatusList.new size) fun _ => false := by
  refine ⟨rfl, by simp [StatusList.new], fun i hi => ?_, fun _ _ => rfl⟩
  simp only [StatusList.new, List.length_replicate] at hi
  exact readEntry_replicate_zero hi

lemma BitHolds.write (h : BitHolds size b f) {i : ℕ} (hi : i < size) (v : Bool) :
    BitHolds size { b with bits := writeEntry msbFirst b.bits i (if v then 1#8 else 0#8) }
      (Function.update f i v) := by
  have hv : (if v then 1#8 else 0#8) &&& mask msbFirst.width = if v then 1#8 else 0#8 := by
    cases v <;> rfl
  refine ⟨h.sameSize, ?_, fun j hj => ?_, fun j hj => ?_⟩
  · rw [length_writeEntry]
    exact h.length
  · rw [length_writeEntry] at hj
    by_cases hij : i = j
    · subst hij
      rw [Function.update_self]
      exact readEntry_writeEntry_self hj hv
    · rw [Function.update_of_ne (Ne.symm hij), ← h.entry j hj]
      exact readEntry_writeEntry_of_ne hij hv
  · have hne : j ≠ i := by omega
    rw [Function.update_of_ne hne, h.beyond j hj]

/-- **One operation**, on single bits. -/
theorem bitRefines : Refines bitCells
    (plain size (bitRefusal size) fun i => .err (.indexOutOfBounds i size)) (BitHolds size) where
  get l a h i := by
    have hsize := h.sameSize
    by_cases hi : i < size
    · obtain ⟨v, hread, hget⟩ := StatusList.get_eq h.covered (hsize.symm ▸ hi)
      rw [h.entry i (StatusList.byte_lt h.covered (hsize.symm ▸ hi)), Option.some.injEq] at hread
      subst hread
      simp only [bitCells, plain, if_pos hi, hget]
      cases a i <;> rfl
    · simp only [bitCells, plain, if_neg hi, StatusList.get]
      rw [ensure_of_not (by omega), hsize]
      rfl
  write l a h i v := by
    have hsize := h.sameSize
    rw [write_plain]
    simp only [Cells.write, bitCells, bitRefusal]
    by_cases hi : size ≤ i
    · rw [StatusList.set_of_size_le (by omega), if_pos hi, hsize]
      exact ⟨rfl, h⟩
    have hi' : i < l.size := by omega
    rw [StatusList.set_eq h.covered hi', if_neg hi]
    exact ⟨rfl, h.write (by omega) v⟩

/-- A bit of the data, the most significant bit of each byte first. -/
def msbAt (data : Bytes) (k : ℕ) : Bool := (data[k / 8]?.getD 0).getMsbD (k % 8)

/-- **Layout.** Entry `i` is bit `i`. -/
lemma BitHolds.msbAt (h : BitHolds size b f) (i : ℕ) : msbAt b.bits i = f i := by
  have hlength := h.length
  rw [StatusArrays.msbAt]
  rcases Nat.lt_or_ge (i / 8) b.bits.length with hlt | hge
  · have hentry := h.entry i hlt
    have hrange : i % 8 < 8 := Nat.mod_lt _ (by omega)
    rw [readEntry_of_lt (L := msbFirst) hlt, Option.some.injEq] at hentry
    simp only [msbFirst, getField_one] at hentry
    rw [List.getElem?_eq_getElem hlt, Option.getD_some, BitVec.getMsbD]
    have hindex : 8 - 1 - i % 8 = 7 - i % 8 := by omega
    rw [hindex]
    cases hf : f i <;> simp_all
  · have hbeyond : size ≤ i := by omega
    rw [List.getElem?_eq_none hge, h.beyond i hbeyond]
    simp

/-! ### Whole runs -/

/-- Compression is lossless. -/
structure Lossless (X : Crates) (D : Decompressors) : Prop where
  gzip : ∀ bytes, ∃ compressed, X.gzip bytes = .ok compressed ∧ D.gunzip compressed = .ok bytes
  zlib : ∀ bytes, ∃ compressed, X.zlib bytes = .ok compressed ∧ D.inflate compressed = .ok bytes

def answer {ν ε : Type} (refusal : ℕ → ν → Option ε) (op : ℕ × ν) : Except ε Unit :=
  match refusal op.1 op.2 with
  | some e => .error e
  | none => .ok ()

/-- A token status list after these writes, from the first on, is an array. -/
structure TokenListAfter (X : Crates) (D : Decompressors) (capacity bits : ℕ)
    (ops : List (ℕ × Byte)) (answers : List (Except (Fault TokenStatusListError) Unit))
    (l : TokenStatusListImpl) : Prop where
  answers : answers = ops.map (answer (tokenRefusal capacity bits))
  get : ∀ i, l.get i =
    if i < capacity then .ok (lastWritten (tokenRefusal capacity bits) 0 ops i)
    else .error (.err (.indexOutOfBounds i))
  layout : ∀ i < capacity, ∀ j < bits,
    (l.data[i * bits / 8]?.getD 0).getLsbD (i * bits % 8 + j) =
      (lastWritten (tokenRefusal capacity bits) 0 ops i).getLsbD j
  length : l.data.length = (capacity * bits + 7) / 8
  padding : ∀ k, capacity * bits ≤ k → lsbAt l.data k = false
  roundTrip : ∃ encoded, l.encode X = .ok encoded ∧
    TokenStatusListImpl.decode X D encoded capacity bits = .ok l

/-- A bitstring status list after these writes. -/
structure BitListAfter (X : Crates) (D : Decompressors) (size : ℕ) (ops : List (ℕ × Bool))
    (answers : List (Except (Fault StatusListError) Unit)) (l : StatusList) : Prop where
  answers : answers = ops.map (answer (bitRefusal size))
  get : ∀ i, l.get i =
    if i < size then .ok (lastWritten (bitRefusal size) false ops i)
    else .error (.err (.indexOutOfBounds i size))
  layout : ∀ i < size, msbAt l.bits i = lastWritten (bitRefusal size) false ops i
  length : l.bits.length = (size + 7) / 8
  padding : ∀ k, size ≤ k → msbAt l.bits k = false
  roundTrip : ∃ encoded, l.encode X = .ok encoded ∧ StatusList.decode X D encoded size = .ok l

variable {X : Crates} {D : Decompressors}

lemma token_round_trip (hb64 : Base64Url X)
    (hzlib : ∀ bytes, ∃ compressed, X.zlib bytes = .ok compressed ∧ D.inflate compressed = .ok bytes)
    (l : TokenStatusListImpl) : ∃ encoded, l.encode X = .ok encoded ∧
      TokenStatusListImpl.decode X D encoded l.capacity l.bitsPerStatus = .ok l := by
  obtain ⟨compressed, hzlib, hinflate⟩ := hzlib l.data
  refine ⟨X.base64UrlEncode compressed, ?_, TokenStatusListImpl.decode_eq_ok.mpr ?_⟩
  · rw [TokenStatusListImpl.encode, TokenStatusListImpl.compress, hzlib]
    rfl
  · exact ⟨l.width, compressed, l.data, hb64.decode_encode compressed, hinflate, rfl⟩

lemma bit_round_trip (hb64 : Base64Url X) (hlossless : Lossless X D) (l : StatusList) :
    ∃ encoded, l.encode X = .ok encoded ∧ StatusList.decode X D encoded l.size = .ok l := by
  obtain ⟨compressed, hgzip, hgunzip⟩ := hlossless.gzip l.bits
  refine ⟨X.base64UrlEncode compressed, ?_, StatusList.decode_eq_ok.mpr ?_⟩
  · rw [StatusList.encode, hgzip]
    rfl
  · exact ⟨compressed, l.bits, hb64.decode_encode compressed, hgunzip, rfl⟩

/-- What holds an array has its layout, and is read back. -/
lemma tokenListAfter_of_holds (hb64 : Base64Url X) (hlossless : Lossless X D)
    {ops : List (ℕ × Byte)} {answers : List (Except (Fault TokenStatusListError) Unit)}
    (hanswers : answers = ops.map (answer (tokenRefusal capacity bits)))
    (h : TokenHolds capacity bits l (lastWritten (tokenRefusal capacity bits) 0 ops)) :
    TokenListAfter X D capacity bits ops answers l := by
  have hwidth := l.width
  simp only [List.mem_cons, List.not_mem_nil, or_false, h.sameBits] at hwidth
  refine ⟨hanswers, fun i => tokenRefines.get l _ h i, fun i hi j hj => ?_, ?_,
    fun k hk => h.lsbAt_beyond hk, ?_⟩
  · have hbit := h.lsbAt (i := i) hj
    have hbyte : (i * bits + j) / 8 = i * bits / 8 := by
      rcases hwidth with hw | hw | hw | hw <;> subst hw <;> omega
    have hoffset : (i * bits + j) % 8 = i * bits % 8 + j := by
      rcases hwidth with hw | hw | hw | hw <;> subst hw <;> omega
    rwa [lsbAt, hbyte, hoffset] at hbit
  · rw [h.length]
    rcases hwidth with hw | hw | hw | hw <;> subst hw <;> omega
  · have hround := token_round_trip hb64 hlossless.zlib l
    rwa [h.sameCapacity, h.sameBits] at hround

lemma bitListAfter_of_holds (hb64 : Base64Url X) (hlossless : Lossless X D)
    {ops : List (ℕ × Bool)} {answers : List (Except (Fault StatusListError) Unit)}
    (hanswers : answers = ops.map (answer (bitRefusal size)))
    (h : BitHolds size b (lastWritten (bitRefusal size) false ops)) :
    BitListAfter X D size ops answers b := by
  refine ⟨hanswers, fun i => bitRefines.get b _ h i, fun i _ => h.msbAt i, h.length,
    fun k hk => ?_, ?_⟩
  · rw [h.msbAt, h.beyond k hk]
  · have hround := bit_round_trip hb64 hlossless b
    rwa [h.sameSize] at hround

/-- **The packed lists are plain arrays.** After any writes to a new list, an entry is the
last value written to it that was not refused, and lies at its place among bits that are
otherwise zero; and the list is read back from its encoding. -/
theorem packed_lists_are_arrays (hb64 : Base64Url X) (hlossless : Lossless X D) :
    (∀ capacity, ∀ bits ∈ [1, 2, 4, 8], ∃ l, TokenStatusListImpl.new capacity bits = .ok l ∧
      ∀ ops, TokenListAfter X D capacity bits ops (tokenCells.writes l ops).1
        (tokenCells.writes l ops).2) ∧
    ∀ size ops, BitListAfter X D size ops (bitCells.writes (StatusList.new size) ops).1
      (bitCells.writes (StatusList.new size) ops).2 := by
  refine ⟨fun capacity bits hbits => ?_, fun size ops => ?_⟩
  · obtain ⟨l, hnew, hholds⟩ := tokenHolds_new capacity hbits
    refine ⟨l, hnew, fun ops => ?_⟩
    obtain ⟨hanswers, hafter⟩ := tokenRefines.writes hholds ops
    rw [answers_plain] at hanswers
    refine tokenListAfter_of_holds hb64 hlossless hanswers ?_
    have hentries := funext (entries_plain capacity (tokenRefusal capacity bits)
      (fun i => .err (.indexOutOfBounds i)) (fun _ => 0) ops)
    rwa [hentries] at hafter
  · obtain ⟨hanswers, hafter⟩ := bitRefines.writes (bitHolds_new size) ops
    rw [answers_plain] at hanswers
    refine bitListAfter_of_holds hb64 hlossless hanswers ?_
    have hentries := funext (entries_plain size (bitRefusal size)
      (fun i => .err (.indexOutOfBounds i size)) (fun _ => false) ops)
    rwa [hentries] at hafter

/-! ### The list of the specification -/

/-- A compressor that agrees with one example; anything else it marks and keeps. -/
def compressLike (raw compressed : Bytes) (bytes : Bytes) : Except String Bytes :=
  .ok (if bytes = raw then compressed else 0 :: bytes)

def decompressLike (raw compressed : Bytes) (bytes : Bytes) : Except String Bytes :=
  .ok (if bytes = compressed then raw else bytes.tail)

lemma decompressLike_compressLike {raw compressed : Bytes} (h : compressed.head? ≠ some 0)
    (bytes : Bytes) : ∃ c, compressLike raw compressed bytes = .ok c ∧
      decompressLike raw compressed c = .ok bytes := by
  refine ⟨_, rfl, ?_⟩
  by_cases hraw : bytes = raw
  · simp [decompressLike, hraw]
  · have hne : 0 :: bytes ≠ compressed := by
      rintro rfl
      exact h rfl
    rw [if_neg hraw, decompressLike, if_neg hne, List.tail_cons]

def zlibExample : Bytes := bigEndian 10 0x78dadbb918000217015d

def gzipExample : Bytes :=
  bigEndian 10 0x1f8b08000000000000ff ++ bigEndian 12 0x635000003732b77a02000000

def exampleCrates : Crates :=
  { codecs with
    gzip := compressLike [0x00, 0x20] gzipExample
    zlib := compressLike [0xb9, 0xa3] zlibExample }

def exampleDecompressors : Decompressors where
  gunzip := decompressLike [0x00, 0x20] gzipExample
  inflate := decompressLike [0xb9, 0xa3] zlibExample

/-- The sixteen statuses of the example, and two writes that are refused. -/
def exampleWrites : List (ℕ × Byte) :=
  [(0, 1), (3, 1), (4, 1), (5, 1), (7, 1), (16, 1), (8, 1), (9, 1), (9, 2), (13, 1), (15, 1)]

/-- The example of one bit an entry, and a bitstring with one entry set. -/
theorem example_is_array :
    (∃ l, TokenStatusListImpl.new 16 1 = .ok l ∧
      TokenListAfter exampleCrates exampleDecompressors 16 1 exampleWrites
        (tokenCells.writes l exampleWrites).1 (tokenCells.writes l exampleWrites).2) ∧
    BitListAfter exampleCrates exampleDecompressors 16 [(10, true), (16, true)]
      (bitCells.writes (StatusList.new 16) [(10, true), (16, true)]).1
      (bitCells.writes (StatusList.new 16) [(10, true), (16, true)]).2 := by
  have hb64 : Base64Url exampleCrates :=
    ⟨base64Url_codecs.decode_encode, base64Url_codecs.alphabet, base64Url_codecs.nonempty⟩
  have hlossless : Lossless exampleCrates exampleDecompressors :=
    ⟨decompressLike_compressLike (by decide), decompressLike_compressLike (by decide)⟩
  obtain ⟨htokens, hbits⟩ := packed_lists_are_arrays hb64 hlossless
  obtain ⟨l, hnew, hafter⟩ := htokens 16 1 (by decide)
  exact ⟨⟨l, hnew, hafter exampleWrites⟩, hbits 16 _⟩

end Oid4vc.StatusArrays
