import Oid4vc.Base.Json

/-!
Base64: three bytes are four digits, and a text decodes only if it is the encoding of what it
decodes to. Without padding in any alphabet, and with padding in the standard one.
-/

namespace Oid4vc.Base64

open Oid4vc.JsonValue

/-- The digits of the bytes, six bits each, most significant first. -/
def sextets : Bytes → List ℕ
  | [] => []
  | [a] => [a.toNat / 4, a.toNat % 4 * 16]
  | [a, b] => [a.toNat / 4, a.toNat % 4 * 16 + b.toNat / 16, b.toNat % 16 * 4]
  | a :: b :: c :: rest =>
    a.toNat / 4 :: (a.toNat % 4 * 16 + b.toNat / 16) :: (b.toNat % 16 * 4 + c.toNat / 64) ::
      c.toNat % 64 :: sextets rest

/-- The bytes that these digits stand for; the bits left over at the end must be zero. -/
def ofSextets : List ℕ → Option Bytes
  | [] => some []
  | [_] => none
  | [p, q] => if q % 16 = 0 then some [BitVec.ofNat 8 (p * 4 + q / 16)] else none
  | [p, q, r] =>
    if r % 4 = 0 then
      some [BitVec.ofNat 8 (p * 4 + q / 16), BitVec.ofNat 8 (q % 16 * 16 + r / 4)]
    else none
  | p :: q :: r :: s :: rest =>
    (ofSextets rest).map fun bytes =>
      BitVec.ofNat 8 (p * 4 + q / 16) :: BitVec.ofNat 8 (q % 16 * 16 + r / 4) ::
        BitVec.ofNat 8 (r % 4 * 64 + s) :: bytes

/-- The digit with this value, in the alphabet that ends with these two. -/
def digit (plus slash : Char) (i : ℕ) : Char :=
  if i < 26 then Char.ofNat (i + 65)
  else if i < 52 then Char.ofNat (i + 71)
  else if i < 62 then Char.ofNat (i - 4)
  else if i = 62 then plus
  else slash

def digitValue (plus slash c : Char) : Option ℕ :=
  if 65 ≤ c.toNat ∧ c.toNat ≤ 90 then some (c.toNat - 65)
  else if 97 ≤ c.toNat ∧ c.toNat ≤ 122 then some (c.toNat - 71)
  else if 48 ≤ c.toNat ∧ c.toNat ≤ 57 then some (c.toNat + 4)
  else if c = plus then some 62
  else if c = slash then some 63
  else none

def encode (plus slash : Char) (bytes : Bytes) : String :=
  String.ofList ((sextets bytes).map (digit plus slash))

def decode (plus slash : Char) (s : String) : Option Bytes :=
  (s.toList.mapM (digitValue plus slash)).bind ofSextets

lemma sextets_lt {bytes : Bytes} : ∀ i ∈ sextets bytes, i < 64 := by
  induction bytes using sextets.induct with
  | case1 => simp [sextets]
  | case2 a => simp [sextets]; omega
  | case3 a b => simp [sextets]; omega
  | case4 a b c rest ih =>
    simp only [sextets, List.mem_cons]
    rintro i (rfl | rfl | rfl | rfl | h)
    · omega
    · omega
    · omega
    · omega
    · exact ih i h

lemma ofSextets_sextets (bytes : Bytes) : ofSextets (sextets bytes) = some bytes := by
  have byte : ∀ (a : Byte) (n : ℕ), n = a.toNat → BitVec.ofNat 8 n = a := by
    rintro a n rfl
    simp
  induction bytes using sextets.induct with
  | case1 => rfl
  | case2 a =>
    simp only [sextets, ofSextets]
    rw [if_pos (by omega), byte a _ (by omega)]
  | case3 a b =>
    simp only [sextets, ofSextets]
    rw [if_pos (by omega), byte a _ (by omega), byte b _ (by omega)]
  | case4 a b c rest ih =>
    simp only [sextets, ofSextets, ih, Option.map_some]
    rw [byte a _ (by omega), byte b _ (by omega), byte c _ (by omega)]

/-- Every digit of the alphabet has its value. -/
def Alphabet (plus slash : Char) : Prop :=
  ∀ i < 64, digitValue plus slash (digit plus slash i) = some i

lemma alphabet_urlSafe : Alphabet '-' '_' := by
  unfold Alphabet
  decide

lemma mapM_digits {plus slash : Char} (h : Alphabet plus slash) {is : List ℕ}
    (his : ∀ i ∈ is, i < 64) :
    (is.map (digit plus slash)).mapM (digitValue plus slash) = some is := by
  induction is with
  | nil => rfl
  | cons i is ih =>
    have hi := h i (his i (by simp))
    have hrest := ih fun j hj => his j (by simp [hj])
    simp [hi, hrest]

/-- **Round trip.** -/
theorem decode_encode {plus slash : Char} (h : Alphabet plus slash) (bytes : Bytes) :
    decode plus slash (encode plus slash bytes) = some bytes := by
  simp [decode, encode, mapM_digits h sextets_lt, ofSextets_sextets]

/-! ### What decodes is an encoding -/

lemma digit_of_digitValue {plus slash c : Char} {i : ℕ} (h : digitValue plus slash c = some i) :
    digit plus slash i = c ∧ i < 64 := by
  unfold digitValue at h
  split_ifs at h with hupper hlower hdecimal hplus hslash
  · obtain rfl := Option.some.inj h
    have hchar : c.toNat - 65 + 65 = c.toNat := by omega
    rw [digit, if_pos (by omega), hchar, Char.ofNat_toNat]
    exact ⟨rfl, by omega⟩
  · obtain rfl := Option.some.inj h
    have hchar : c.toNat - 71 + 71 = c.toNat := by omega
    rw [digit, if_neg (by omega), if_pos (by omega), hchar, Char.ofNat_toNat]
    exact ⟨rfl, by omega⟩
  · obtain rfl := Option.some.inj h
    have hchar : c.toNat + 4 - 4 = c.toNat := by omega
    rw [digit, if_neg (by omega), if_neg (by omega), if_pos (by omega), hchar, Char.ofNat_toNat]
    exact ⟨rfl, by omega⟩
  · obtain rfl := Option.some.inj h
    exact ⟨by rw [hplus]; rfl, by omega⟩
  · obtain rfl := Option.some.inj h
    exact ⟨by rw [hslash]; rfl, by omega⟩

lemma map_digit_of_mapM {plus slash : Char} {cs : List Char} {is : List ℕ}
    (h : cs.mapM (digitValue plus slash) = some is) :
    is.map (digit plus slash) = cs ∧ ∀ i ∈ is, i < 64 := by
  induction cs generalizing is with
  | nil =>
    obtain rfl : [] = is := by simpa using h
    simp
  | cons c cs ih =>
    simp only [List.mapM_cons, Option.bind_eq_bind, Option.bind_eq_some_iff, Option.pure_def,
      Option.some.injEq] at h
    obtain ⟨i, hi, js, hjs, rfl⟩ := h
    obtain ⟨hdigit, hlt⟩ := digit_of_digitValue hi
    obtain ⟨hmap, hall⟩ := ih hjs
    refine ⟨by rw [List.map_cons, hdigit, hmap], ?_⟩
    rintro j (_ | ⟨_, hj⟩)
    · exact hlt
    · exact hall j hj

lemma sextets_of_ofSextets {is : List ℕ} {bytes : Bytes} (h : ofSextets is = some bytes)
    (hlt : ∀ i ∈ is, i < 64) : sextets bytes = is := by
  induction is using ofSextets.induct generalizing bytes with
  | case1 =>
    obtain rfl : [] = bytes := by simpa [ofSextets] using h
    rfl
  | case2 p => simp [ofSextets] at h
  | case3 p q hq =>
    simp only [List.mem_cons, forall_eq_or_imp] at hlt
    obtain ⟨hp, hq64, -⟩ := hlt
    rw [ofSextets, if_pos hq, Option.some.injEq] at h
    subst h
    simp only [sextets, BitVec.toNat_ofNat, List.cons.injEq, and_true]
    omega
  | case4 p q hq => simp [ofSextets, hq] at h
  | case5 p q r hr =>
    simp only [List.mem_cons, forall_eq_or_imp] at hlt
    obtain ⟨hp, hq, hr64, -⟩ := hlt
    rw [ofSextets, if_pos hr, Option.some.injEq] at h
    subst h
    simp only [sextets, BitVec.toNat_ofNat, List.cons.injEq, and_true]
    omega
  | case6 p q r hr => simp [ofSextets, hr] at h
  | case7 p q r s rest ih =>
    simp only [List.mem_cons, forall_eq_or_imp] at hlt
    obtain ⟨hp, hq, hr, hs, hrest⟩ := hlt
    rw [ofSextets, Option.map_eq_some_iff] at h
    obtain ⟨tail, htail, rfl⟩ := h
    simp only [sextets, BitVec.toNat_ofNat, List.cons.injEq, ih htail hrest, and_true]
    omega

/-- **Canonical.** A text that decodes is the encoding of what it decodes to. -/
theorem encode_of_decode {plus slash : Char} {text : String} {bytes : Bytes}
    (h : decode plus slash text = some bytes) : encode plus slash bytes = text := by
  rw [decode, Option.bind_eq_some_iff] at h
  obtain ⟨is, his, hbytes⟩ := h
  obtain ⟨hmap, hlt⟩ := map_digit_of_mapM his
  rw [encode, sextets_of_ofSextets hbytes hlt, hmap, String.ofList_toList]

/-! ### Padding -/

/-- The standard alphabet, padded to a multiple of four digits. -/
def encodePadded (bytes : Bytes) : String :=
  encode '+' '/' bytes ++ String.ofList (List.replicate ((3 - bytes.length % 3) % 3) '=')

/-- The bytes whose padded encoding the text is. -/
def decodePadded (text : String) : Option Bytes :=
  (decode '+' '/' (String.ofList (text.toList.takeWhile (· != '=')))).filter
    fun bytes => encodePadded bytes == text

lemma alphabet_standard : Alphabet '+' '/' := by
  unfold Alphabet
  decide

lemma digit_standard : ∀ i < 64, (digit '+' '/' i).isAlphanum = true ∨ digit '+' '/' i = '+' ∨
    digit '+' '/' i = '/' := by decide

lemma mem_encode {c : Char} {bytes : Bytes} (h : c ∈ (encode '+' '/' bytes).toList) :
    c.isAlphanum = true ∨ c = '+' ∨ c = '/' := by
  rw [encode, String.toList_ofList] at h
  obtain ⟨i, hi, rfl⟩ := List.mem_map.mp h
  exact digit_standard i (sextets_lt i hi)

lemma mem_encodePadded {c : Char} {bytes : Bytes} (h : c ∈ (encodePadded bytes).toList) :
    c.isAlphanum = true ∨ c = '+' ∨ c = '/' ∨ c = '=' := by
  rw [encodePadded, String.toList_append, String.toList_ofList, List.mem_append] at h
  rcases h with h | h
  · rcases mem_encode h with halnum | hplus | hslash
    · exact Or.inl halnum
    · exact Or.inr (Or.inl hplus)
    · exact Or.inr (Or.inr (Or.inl hslash))
  · exact Or.inr (Or.inr (Or.inr (List.eq_of_mem_replicate h)))

/-- **Round trip** with padding. -/
theorem decodePadded_encodePadded (bytes : Bytes) :
    decodePadded (encodePadded bytes) = some bytes := by
  have hdigits : ∀ c ∈ (encode '+' '/' bytes).toList, (c != '=') = true := by
    intro c hc
    rw [bne_iff_ne]
    rintro rfl
    rcases mem_encode hc with h | h | h
    · exact absurd h (by decide)
    · exact absurd h (by decide)
    · exact absurd h (by decide)
  have hbody : (encodePadded bytes).toList.takeWhile (· != '=') =
      (encode '+' '/' bytes).toList := by
    rw [encodePadded, String.toList_append, String.toList_ofList,
      List.takeWhile_append_of_pos hdigits]
    cases (3 - bytes.length % 3) % 3 with
    | zero => exact List.append_nil _
    | succ n => exact List.append_nil _
  rw [decodePadded, hbody, String.ofList_toList, decode_encode alphabet_standard]
  simp

end Oid4vc.Base64
