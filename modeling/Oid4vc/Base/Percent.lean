import Oid4vc.Base.Text

/-!
Percent-encoding, and the pairs in the query of a link.

A byte that may stand for itself does; any other is written as two digits after a percent sign. So
what is encoded has no character with a meaning of its own in a query, and pairs are read back from
the query they are written in.
-/

namespace Oid4vc.Percent

open Oid4vc.JsonValue Oid4vc.Text

/-- A letter, a digit, or one of `-`, `.`, `_` and `~`. -/
def unreserved (b : Byte) : Bool :=
  let n := b.toNat
  (48 ≤ n && n ≤ 57) || (65 ≤ n && n ≤ 90) || (97 ≤ n && n ≤ 122) || n == 45 || n == 46 ||
    n == 95 || n == 126

def hexDigit (n : ℕ) : Char := if n < 10 then Char.ofNat (48 + n) else Char.ofNat (55 + n)

def encodeByte (b : Byte) : List Char :=
  if unreserved b = true then [Char.ofNat b.toNat]
  else ['%', hexDigit (b.toNat / 16), hexDigit (b.toNat % 16)]

def encode (bytes : Bytes) : String := String.ofList (bytes.flatMap encodeByte)

/-! ### Reading a query -/

def hexValue (c : Char) : Option ℕ :=
  let n := c.toNat
  if 48 ≤ n ∧ n ≤ 57 then some (n - 48)
  else if 65 ≤ n ∧ n ≤ 70 then some (n - 55)
  else if 97 ≤ n ∧ n ≤ 102 then some (n - 87)
  else none

/-- The bytes of a part of a query: a plus sign is a blank, and a percent sign that no two digits
follow stands for itself. -/
def decodeChars : List Char → Bytes
  | [] => []
  | c :: cs =>
    match c, cs with
    | '%', high :: low :: rest =>
      match hexValue high, hexValue low with
      | some h, some l => BitVec.ofNat 8 (16 * h + l) :: decodeChars rest
      | _, _ => BitVec.ofNat 8 37 :: decodeChars (high :: low :: rest)
    | '+', rest => BitVec.ofNat 8 32 :: decodeChars rest
    | c, rest => (String.utf8EncodeChar c).map UInt8.toBitVec ++ decodeChars rest

def decode (text : String) : Bytes := decodeChars text.toList

/-- A pair of a query: what stands before its first `=`, and what stands after it. -/
def readPair (text : String) : Bytes × Bytes :=
  match splitn 2 '=' text with
  | [name, value] => (decode name, decode value)
  | _ => (decode text, [])

def readQuery (query : String) : List (Bytes × Bytes) :=
  ((split '&' query).filter fun part => part != "").map readPair

/-- The query of a link: what stands between its first question mark and a number sign. -/
def queryOf (link : String) : String :=
  ((splitn 2 '?' ((splitn 2 '#' link).headD "")).drop 1).headD ""

/-- A query of these pairs. -/
def query (pairs : List (Bytes × Bytes)) : String :=
  join "&" (pairs.map fun p => encode p.1 ++ "=" ++ encode p.2)

/-! ### What is encoded -/

/-- A character that stands for itself, or begins or continues an encoded byte. -/
def Plain (c : Char) : Prop := c = '%' ∨ ∃ b : Byte, unreserved b = true ∧ c = Char.ofNat b.toNat

lemma hexValue_hexDigit : ∀ n < 16, hexValue (hexDigit n) = some n := by decide

lemma hexDigit_unreserved : ∀ n < 16, unreserved (BitVec.ofNat 8 (hexDigit n).toNat) = true ∧
    hexDigit n = Char.ofNat (BitVec.ofNat 8 (hexDigit n).toNat).toNat := by decide

lemma plain_of_mem_encodeByte {b : Byte} {c : Char} (h : c ∈ encodeByte b) : Plain c := by
  unfold encodeByte at h
  split_ifs at h with hb
  · exact Or.inr ⟨b, hb, List.mem_singleton.mp h⟩
  · simp only [List.mem_cons, List.not_mem_nil, or_false] at h
    rcases h with rfl | rfl | rfl
    · exact Or.inl rfl
    · have hdigit := hexDigit_unreserved (b.toNat / 16) (by omega)
      exact Or.inr ⟨_, hdigit.1, hdigit.2⟩
    · have hdigit := hexDigit_unreserved (b.toNat % 16) (by omega)
      exact Or.inr ⟨_, hdigit.1, hdigit.2⟩

lemma plain_encode {bytes : Bytes} {c : Char} (h : c ∈ (encode bytes).toList) : Plain c := by
  rw [encode, String.toList_ofList, List.mem_flatMap] at h
  obtain ⟨b, -, hc⟩ := h
  exact plain_of_mem_encodeByte hc

lemma ofNat_toNat {b : Byte} : (Char.ofNat b.toNat).toNat = b.toNat := by
  have hvalid : b.toNat.isValidChar := Or.inl (by omega)
  rw [Char.ofNat, dif_pos hvalid]
  rfl

lemma not_mem_encode {c : Char} (hpercent : c ≠ '%')
    (hreserved : unreserved (BitVec.ofNat 8 c.toNat) = false) (bytes : Bytes) :
    c ∉ (encode bytes).toList := by
  intro h
  rcases plain_encode h with rfl | ⟨b, hb, rfl⟩
  · exact hpercent rfl
  · rw [ofNat_toNat, BitVec.ofNat_toNat, BitVec.setWidth_eq] at hreserved
    rw [hb] at hreserved
    cases hreserved

/-! ### Reading back -/

lemma decodeChars_percent {high low : Char} {h l : ℕ} (hhigh : hexValue high = some h)
    (hlow : hexValue low = some l) (rest : List Char) :
    decodeChars ('%' :: high :: low :: rest) = BitVec.ofNat 8 (16 * h + l) :: decodeChars rest := by
  rw [decodeChars, hhigh, hlow]

lemma decodeChars_plain {b : Byte} (hb : unreserved b = true) (rest : List Char) :
    decodeChars (Char.ofNat b.toNat :: rest) = b :: decodeChars rest := by
  have hlow : b.toNat < 128 := by
    unfold unreserved at hb
    simp only [Bool.or_eq_true, Bool.and_eq_true, decide_eq_true_eq, beq_iff_eq] at hb
    omega
  have hpercent : Char.ofNat b.toNat ≠ '%' := by
    intro h
    have hn := congrArg Char.toNat h
    rw [ofNat_toNat] at hn
    unfold unreserved at hb
    rw [hn] at hb
    cases hb
  have hplus : Char.ofNat b.toNat ≠ '+' := by
    intro h
    have hn := congrArg Char.toNat h
    rw [ofNat_toNat] at hn
    unfold unreserved at hb
    rw [hn] at hb
    cases hb
  have hone : String.utf8EncodeChar (Char.ofNat b.toNat) = [UInt8.ofNat b.toNat] := by
    have hsmall : (Char.ofNat b.toNat).val.toNat ≤ 0x7f := by
      have := ofNat_toNat (b := b)
      rw [Char.toNat] at this
      omega
    unfold String.utf8EncodeChar
    rw [if_pos hsmall]
    exact congrArg (fun n => [UInt8.ofNat n]) ofNat_toNat
  rw [decodeChars]
  · rw [hone]
    simp
  all_goals
    intros
    simp_all

lemma decodeChars_encodeByte (b : Byte) (rest : List Char) :
    decodeChars (encodeByte b ++ rest) = b :: decodeChars rest := by
  unfold encodeByte
  split_ifs with hb
  · exact decodeChars_plain hb rest
  · have hhigh := hexValue_hexDigit (b.toNat / 16) (by omega)
    have hlow := hexValue_hexDigit (b.toNat % 16) (by omega)
    simp only [List.cons_append, List.nil_append]
    rw [decodeChars_percent hhigh hlow, Nat.div_add_mod, BitVec.ofNat_toNat, BitVec.setWidth_eq]

/-- **Bytes that were encoded are read back.** -/
theorem decode_encode (bytes : Bytes) : decode (encode bytes) = bytes := by
  rw [decode, encode, String.toList_ofList]
  induction bytes with
  | nil => rfl
  | cons b bytes ih => rw [List.flatMap_cons, decodeChars_encodeByte, ih]

lemma readPair_pair (p : Bytes × Bytes) : readPair (encode p.1 ++ "=" ++ encode p.2) = p := by
  have hname : '=' ∉ (encode p.1).toList := not_mem_encode (by decide) (by decide) _
  have hsplit : splitn 2 '=' (encode p.1 ++ "=" ++ encode p.2) = [encode p.1, encode p.2] := by
    have hchars : (encode p.1 ++ "=" ++ encode p.2).toList =
        (encode p.1).toList ++ '=' :: (encode p.2).toList := by
      rw [String.toList_append, String.toList_append, List.append_assoc]
      rfl
    rw [splitn, hchars, splitFirst_append hname]
    simp [splitFirst]
  rw [readPair, hsplit]
  simp only [decode_encode]

lemma query_singleton (p : Bytes × Bytes) : query [p] = encode p.1 ++ "=" ++ encode p.2 := by
  apply String.toList_inj.mp
  rw [query, show ("&" : String) = String.singleton '&' from rfl, toList_join]
  simp [List.intercalate]

lemma query_pair (p q : Bytes × Bytes) : query [p, q] =
    encode p.1 ++ "=" ++ encode p.2 ++ "&" ++ (encode q.1 ++ "=" ++ encode q.2) := by
  apply String.toList_inj.mp
  rw [query, show ("&" : String) = String.singleton '&' from rfl, toList_join]
  simp [List.intercalate]

/-- **Pairs are read back** from the query they are written in. -/
theorem readQuery_query {pairs : List (Bytes × Bytes)} (hne : pairs ≠ []) :
    readQuery (query pairs) = pairs := by
  have hparts : ∀ part ∈ pairs.map fun p => encode p.1 ++ "=" ++ encode p.2,
      '&' ∉ part.toList ∧ part ≠ "" := by
    intro part hpart
    obtain ⟨p, -, rfl⟩ := List.mem_map.mp hpart
    refine ⟨not_mem_append (not_mem_append ?_ (by decide)) ?_, fun hempty => ?_⟩
    · exact not_mem_encode (by decide) (by decide) _
    · exact not_mem_encode (by decide) (by decide) _
    · have := congrArg String.toList hempty
      simp [String.toList_append] at this
  have hsplit : split '&' (query pairs) = pairs.map fun p => encode p.1 ++ "=" ++ encode p.2 :=
    split_join (by simpa using hne) fun part hpart => (hparts part hpart).1
  have hkeep : (pairs.map fun p => encode p.1 ++ "=" ++ encode p.2).filter (fun part => part != "") =
      pairs.map fun p => encode p.1 ++ "=" ++ encode p.2 :=
    List.filter_eq_self.mpr fun part hpart => by simpa using (hparts part hpart).2
  rw [readQuery, hsplit, hkeep, List.map_map]
  calc pairs.map (readPair ∘ fun p => encode p.1 ++ "=" ++ encode p.2)
    _ = pairs.map id := List.map_congr_left fun p _ => readPair_pair p
    _ = pairs := List.map_id _

/-- A character that ends a query, or begins one, is in no query of pairs. -/
lemma not_mem_query {c : Char} (hpercent : c ≠ '%') (hequals : c ≠ '=') (hand : c ≠ '&')
    (hreserved : unreserved (BitVec.ofNat 8 c.toNat) = false) (pairs : List (Bytes × Bytes)) :
    c ∉ (query pairs).toList := by
  have hencode := not_mem_encode hpercent hreserved
  have hchars := toList_join '&' (pairs.map fun p => encode p.1 ++ "=" ++ encode p.2)
  rw [query, show ("&" : String) = String.singleton '&' from rfl, hchars]
  induction pairs with
  | nil => simp [List.intercalate]
  | cons p pairs ih =>
    have hpart : c ∉ (encode p.1 ++ "=" ++ encode p.2).toList := by
      refine not_mem_append (not_mem_append (hencode _) ?_) (hencode _)
      have hone : "=".toList = ['='] := rfl
      rw [hone, List.mem_singleton]
      exact hequals
    cases pairs with
    | nil => simpa [List.intercalate] using hpart
    | cons q pairs =>
      have hrest := ih (toList_join '&' _)
      simp only [List.map_cons, List.intercalate, List.intersperse_cons_cons, List.flatten_cons,
        List.mem_append, List.mem_singleton, not_or] at hrest ⊢
      exact ⟨hpart, hand, hrest⟩

/-- **The query of a link** is what was written after its question mark. -/
theorem queryOf_link {front : String} (hfront : '?' ∉ front.toList ∧ '#' ∉ front.toList)
    (pairs : List (Bytes × Bytes)) : queryOf (front ++ "?" ++ query pairs) = query pairs := by
  have hmark : '#' ∉ (front ++ "?" ++ query pairs).toList := by
    refine not_mem_append (not_mem_append hfront.2 (by decide)) ?_
    exact not_mem_query (by decide) (by decide) (by decide) (by decide) pairs
  have hchars : (front ++ "?" ++ query pairs).toList =
      front.toList ++ '?' :: (query pairs).toList := by
    rw [String.toList_append, String.toList_append, List.append_assoc]
    rfl
  have hwhole : splitn 2 '#' (front ++ "?" ++ query pairs) = [front ++ "?" ++ query pairs] := by
    rw [splitn, splitFirst_of_not_mem hmark]
    simp only [List.map_cons, List.map_nil, String.ofList_toList]
  have hparts : splitn 2 '?' (front ++ "?" ++ query pairs) = [front, query pairs] := by
    rw [splitn, hchars, splitFirst_append hfront.1]
    simp [splitFirst]
  rw [queryOf, hwhole, List.headD_cons, hparts]
  rfl

end Oid4vc.Percent
