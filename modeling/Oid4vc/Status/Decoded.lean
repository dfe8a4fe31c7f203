import Oid4vc.Codecs
import Oid4vc.Status.StatusList2021
import Oid4vc.Status.TokenStatusList

/-!
Decoding a published list.

The index checks compare with the size that the reader claims, and the accesses go to the
bytes that came out of the decompressor. Nothing compares the two.
-/

namespace Oid4vc.External

open Oid4vc.JsonValue

/-- `flate2`, reading what it wrote or anything else. -/
structure Decompressors where
  gunzip : Bytes → Except String Bytes
  inflate : Bytes → Except String Bytes

end Oid4vc.External

namespace Oid4vc.StatusList2021.StatusList

open Oid4vc.JsonValue Oid4vc.Packed Oid4vc.Fallible Oid4vc.External

/-- Decode a list of this many entries. -/
def decode (X : Crates) (D : Decompressors) (encoded : String) (size : ℕ) :
    Except StatusListError StatusList := do
  let compressed ← (X.base64UrlDecode encoded).mapError .base64Error
  let bits ← (D.gunzip compressed).mapError .decompression
  pure ⟨bits, size⟩

/-- No access to an entry below the size is out of bounds. -/
def Safe (l : StatusList) : Prop :=
  ∀ index < l.size, l.get index ≠ .error .panic ∧ ∀ value, l.set index value ≠ .error .panic

variable {X : Crates} {D : Decompressors} {l : StatusList}

lemma decode_eq_ok {encoded : String} {size : ℕ} : decode X D encoded size = .ok l ↔
    ∃ compressed bits, X.base64UrlDecode encoded = .ok compressed ∧
      D.gunzip compressed = .ok bits ∧ ⟨bits, size⟩ = l := by
  simp only [decode, bind_eq_ok, mapError_eq_ok, pure_eq_ok]
  constructor
  · rintro ⟨compressed, hcompressed, bits, hbits, rfl⟩
    exact ⟨compressed, bits, hcompressed, hbits, rfl⟩
  · rintro ⟨compressed, bits, hcompressed, hbits, rfl⟩
    exact ⟨compressed, hcompressed, bits, hbits, rfl⟩

lemma get_eq_panic {index : ℕ} (hi : index < l.size) (hbyte : l.bits.length ≤ index / 8) :
    l.get index = .error .panic := by
  have hnone : l.bits[index / 8]? = none := List.getElem?_eq_none hbyte
  rw [get, ensure_of hi, hnone]
  rfl

/-- **Safe** lists are those with a bit for every entry. -/
theorem safe_iff_covered : l.Safe ↔ l.Covered := by
  constructor
  · intro h
    by_contra hcovered
    have hlong : 8 * l.bits.length < l.size := by simpa [Covered] using hcovered
    -- the first entry past the bytes
    have hindex : 8 * l.bits.length / 8 = l.bits.length := by omega
    exact (h (8 * l.bits.length) hlong).1 (get_eq_panic hlong (by omega))
  · intro h index hi
    obtain ⟨v, -, hget⟩ := get_eq h hi
    refine ⟨by rw [hget]; simp, fun value => ?_⟩
    rw [set_eq h hi]
    simp

end Oid4vc.StatusList2021.StatusList

namespace Oid4vc.TokenStatusList.TokenStatusListImpl

open Oid4vc.JsonValue Oid4vc.Packed Oid4vc.Fallible Oid4vc.External

/-- Decode a list of this many entries of this width. -/
def decode (X : Crates) (D : Decompressors) (encoded : String) (capacity bitsPerStatus : ℕ) :
    Except TokenStatusListError TokenStatusListImpl :=
  if h : bitsPerStatus ∈ [1, 2, 4, 8] then do
    let compressed ← (X.base64UrlDecode encoded).mapError .base64Error
    let data ← (D.inflate compressed).mapError .decompression
    pure ⟨data, bitsPerStatus, capacity, h⟩
  else .error (.invalidBitsPerStatus bitsPerStatus)

/-- No access to an entry below the capacity is out of bounds. -/
def Safe (l : TokenStatusListImpl) : Prop :=
  ∀ index < l.capacity, l.get index ≠ .error .panic ∧ ∀ value, l.set index value ≠ .error .panic

variable {X : Crates} {D : Decompressors} {l : TokenStatusListImpl}

lemma decode_eq_ok {encoded : String} {capacity bits : ℕ} :
    decode X D encoded capacity bits = .ok l ↔
      ∃ (h : bits ∈ [1, 2, 4, 8]) (compressed data : Bytes),
        X.base64UrlDecode encoded = .ok compressed ∧ D.inflate compressed = .ok data ∧
        ⟨data, bits, capacity, h⟩ = l := by
  unfold decode
  split_ifs with hbits
  · simp only [bind_eq_ok, mapError_eq_ok, pure_eq_ok]
    constructor
    · rintro ⟨compressed, hcompressed, data, hdata, rfl⟩
      exact ⟨hbits, compressed, data, hcompressed, hdata, rfl⟩
    · rintro ⟨-, compressed, data, hcompressed, hdata, rfl⟩
      exact ⟨compressed, hcompressed, data, hdata, rfl⟩
  · simp [hbits]

lemma get_eq_panic {index : ℕ} (hi : index < l.capacity)
    (hbyte : l.data.length ≤ index / (8 / l.bitsPerStatus)) : l.get index = .error .panic := by
  have hnone : l.data[index / (8 / l.bitsPerStatus)]? = none := List.getElem?_eq_none hbyte
  rw [get, ensure_of hi]
  simp only [hnone]
  rfl

lemma set_of_lt_value {index : ℕ} (hi : index < l.capacity) {value : Byte}
    (hv : ¬ value ≤ BitVec.ofNat 8 (2 ^ l.bitsPerStatus - 1)) :
    l.set index value = .error (.err (.invalidStatus value)) := by
  simp only [set, ensure_of hi, ensure_of_not hv]
  rfl

lemma set_ne_panic (h : l.Covered) {index : ℕ} (hi : index < l.capacity) (value : Byte) :
    l.set index value ≠ .error .panic := by
  by_cases hv : value ≤ BitVec.ofNat 8 (2 ^ l.bitsPerStatus - 1)
  · rw [set_eq h hi hv]
    simp
  · rw [set_of_lt_value hi hv]
    simp

/-- **Safe** lists are those with a field for every entry. -/
theorem safe_iff_covered : l.Safe ↔ l.Covered := by
  constructor
  · intro h index hi
    by_contra hbyte
    exact (h index hi).1 (get_eq_panic hi (by simpa [layout, lsbFirst] using hbyte))
  · intro h index hi
    obtain ⟨v, -, hget⟩ := get_eq h hi
    exact ⟨by rw [hget]; simp, set_ne_panic h hi⟩

lemma covered_iff : l.Covered ↔ l.capacity ≤ 8 / l.bitsPerStatus * l.data.length := by
  have hwidth := l.width
  simp only [List.mem_cons, List.not_mem_nil, or_false] at hwidth
  have hpos : 0 < 8 / l.bitsPerStatus := by
    rcases hwidth with h | h | h | h <;> rw [h] <;> omega
  simp only [Covered, layout, lsbFirst, Nat.div_lt_iff_lt_mul hpos]
  rw [Nat.mul_comm]
  constructor
  · intro h
    by_contra hlong
    have := h (l.capacity - 1) (by omega)
    omega
  · intro h index hi
    omega

end Oid4vc.TokenStatusList.TokenStatusListImpl

namespace Oid4vc.Decoded

open Oid4vc.JsonValue Oid4vc.Fallible Oid4vc.External Oid4vc.Codecs Oid4vc.CborBytes
open Oid4vc.StatusList2021 Oid4vc.TokenStatusList

/-- **Decoding is safe** where what is decompressed has a field for every entry of the claimed
size, or nothing is decompressed. -/
theorem decoded_safe_iff_long_enough (X : Crates) (D : Decompressors) (encoded : String) :
    (∀ size : ℕ, (∀ l, StatusList.decode X D encoded size = .ok l → l.Safe) ↔
      ∀ compressed data, X.base64UrlDecode encoded = .ok compressed →
        D.gunzip compressed = .ok data → size ≤ 8 * data.length) ∧
    ∀ capacity bits : ℕ,
      (∀ l, TokenStatusListImpl.decode X D encoded capacity bits = .ok l → l.Safe) ↔
      (bits ∈ [1, 2, 4, 8] → ∀ compressed data, X.base64UrlDecode encoded = .ok compressed →
        D.inflate compressed = .ok data → capacity ≤ 8 / bits * data.length) := by
  refine ⟨fun size => ⟨fun h compressed data hcompressed hdata => ?_, fun h l hl => ?_⟩,
    fun capacity bits => ⟨fun h hbits compressed data hcompressed hdata => ?_, fun h l hl => ?_⟩⟩
  · exact StatusList.safe_iff_covered.mp
      (h _ (StatusList.decode_eq_ok.mpr ⟨compressed, data, hcompressed, hdata, rfl⟩))
  · obtain ⟨compressed, data, hcompressed, hdata, rfl⟩ := StatusList.decode_eq_ok.mp hl
    exact StatusList.safe_iff_covered.mpr (h compressed data hcompressed hdata)
  · exact TokenStatusListImpl.covered_iff.mp (TokenStatusListImpl.safe_iff_covered.mp
      (h _ (TokenStatusListImpl.decode_eq_ok.mpr
        ⟨hbits, compressed, data, hcompressed, hdata, rfl⟩)))
  · obtain ⟨hbits, compressed, data, hcompressed, hdata, rfl⟩ :=
      TokenStatusListImpl.decode_eq_ok.mp hl
    exact TokenStatusListImpl.safe_iff_covered.mpr
      (TokenStatusListImpl.covered_iff.mpr (h hbits compressed data hcompressed hdata))

/-! ### Lists of sixteen entries -/

/-- What two compressed texts decompress to. -/
def sampleDecompressors : Decompressors where
  gunzip := table [(bigEndian 10 0x1f8b08000000000000ff ++ bigEndian 12 0x635000003732b77a02000000,
    [0x00, 0x20])] "corrupt gzip stream"
  inflate := table [(bigEndian 10 0x78dadbb918000217015d, [0xb9, 0xa3])] "corrupt deflate stream"

lemma decode_sample (size : ℕ) :
    StatusList.decode codecs sampleDecompressors "H4sIAAAAAAAA_2NQAAA3Mrd6AgAAAA" size =
      .ok ⟨[0x00, 0x20], size⟩ := by
  have hbase64 : codecs.base64UrlDecode "H4sIAAAAAAAA_2NQAAA3Mrd6AgAAAA" =
      .ok (bigEndian 10 0x1f8b08000000000000ff ++ bigEndian 12 0x635000003732b77a02000000) := by
    decide +kernel
  refine StatusList.decode_eq_ok.mpr ⟨_, [0x00, 0x20], hbase64, ?_, rfl⟩
  exact table_self _ _ _ _

lemma decode_sampleTokens (capacity : ℕ) :
    TokenStatusListImpl.decode codecs sampleDecompressors "eNrbuRgAAhcBXQ" capacity 1 =
      .ok ⟨[0xb9, 0xa3], 1, capacity, by simp⟩ := by
  have hbase64 : codecs.base64UrlDecode "eNrbuRgAAhcBXQ" =
      .ok (bigEndian 10 0x78dadbb918000217015d) := by
    decide +kernel
  refine TokenStatusListImpl.decode_eq_ok.mpr ⟨by simp, _, [0xb9, 0xa3], hbase64, ?_, rfl⟩
  exact table_self _ _ _ _

/-- Read with one entry more than it has, a list of sixteen entries panics at the last. -/
theorem seventeenth_entry_panics :
    (∃ l, StatusList.decode codecs sampleDecompressors "H4sIAAAAAAAA_2NQAAA3Mrd6AgAAAA" 17 =
      .ok l ∧ l.get 16 = .error .panic ∧ l.set 16 true = .error .panic) ∧
    ∃ l, TokenStatusListImpl.decode codecs sampleDecompressors "eNrbuRgAAhcBXQ" 17 1 = .ok l ∧
      l.get 16 = .error .panic ∧ l.set 16 1 = .error .panic :=
  ⟨⟨_, decode_sample 17, rfl, rfl⟩, ⟨_, decode_sampleTokens 17, rfl, rfl⟩⟩

end Oid4vc.Decoded
