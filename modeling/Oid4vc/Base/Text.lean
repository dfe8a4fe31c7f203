import Oid4vc.Base.Json
import Mathlib.Data.List.Infix
import Mathlib.Data.List.TakeWhile

/-!
Text operations, read off the list of characters of a string.
-/

namespace Oid4vc.Text

open Oid4vc.JsonValue

def utf8 (s : String) : Bytes :=
  s.toList.flatMap fun c => (String.utf8EncodeChar c).map UInt8.toBitVec

/-- Every part between two separators, empty parts included. -/
def split (sep : Char) (s : String) : List String := (s.toList.splitOn sep).map String.ofList

/-- Split at the first `n` separators only. -/
def splitFirst (sep : Char) : ℕ → List Char → List (List Char)
  | 0, cs => [cs]
  | n + 1, cs =>
    match cs.dropWhile (· != sep) with
    | [] => [cs]
    | _ :: rest => cs.takeWhile (· != sep) :: splitFirst sep n rest

/-- At most `n` parts, the last of which keeps its separators. -/
def splitn (n : ℕ) (sep : Char) (s : String) : List String :=
  (splitFirst sep (n - 1) s.toList).map String.ofList

def join (sep : String) (parts : List String) : String := sep.intercalate parts

def containsChar (c : Char) (s : String) : Bool := s.toList.contains c

def countChar (c : Char) (s : String) : ℕ := s.toList.count c

/-- `sub` occurs in `s`. -/
def containsStr (s sub : String) : Bool := s.toList.tails.any fun t => sub.toList.isPrefixOf t

def stripPrefix (s p : String) : Option String :=
  if p.toList.isPrefixOf s.toList then some (String.ofList (s.toList.drop p.toList.length))
  else none

def stripSuffix (s suf : String) : Option String :=
  if suf.toList.isSuffixOf s.toList then
    some (String.ofList (s.toList.take (s.toList.length - suf.toList.length)))
  else none

/-- Up to and including the last `c`, if there is one. -/
def upToLast? (c : Char) (s : String) : Option String :=
  if containsChar c s then
    some (String.ofList (s.toList.reverse.dropWhile (· != c)).reverse)
  else none

/-- Drop every `c` at the end. -/
def trimEndMatches (c : Char) (s : String) : String :=
  String.ofList (s.toList.reverse.dropWhile (· == c)).reverse

/-- The characters of Unicode with the property White_Space. -/
def isWhitespace (c : Char) : Bool :=
  let n := c.toNat
  (9 ≤ n && n ≤ 13) || n == 32 || n == 0x85 || n == 0xA0 || n == 0x1680 ||
    (0x2000 ≤ n && n ≤ 0x200A) || n == 0x2028 || n == 0x2029 || n == 0x202F || n == 0x205F ||
    n == 0x3000

/-- Drop the white space at both ends. -/
def trim (s : String) : String :=
  String.ofList (((s.toList.dropWhile isWhitespace).reverse.dropWhile isWhitespace).reverse)

/-- The non-empty parts between white space. -/
def splitWhitespace (s : String) : List String :=
  ((s.toList.splitOnP isWhitespace).filter fun part => !part.isEmpty).map String.ofList

/-- What comes before and after the first separator. -/
def splitOnce (sep : Char) (s : String) : Option (String × String) :=
  match splitn 2 sep s with
  | [before, after] => some (before, after)
  | _ => none

def toAsciiLower (s : String) : List Char :=
  s.toList.map fun c => if 'A' ≤ c ∧ c ≤ 'Z' then Char.ofNat (c.toNat + 32) else c

def eqIgnoreAsciiCase (s t : String) : Bool := toAsciiLower s == toAsciiLower t

/-- Read a decimal number of at most 64 bits; a sign `+` may come first. -/
def parseU64 (s : String) : Option ℕ :=
  let digits := match s.toList with
    | '+' :: rest => rest
    | cs => cs
  if digits ≠ [] ∧ (digits.all fun c => c.isDigit) = true ∧ Nat.ofDigitChars 10 digits 0 < 2 ^ 64 then
    some (Nat.ofDigitChars 10 digits 0)
  else none

lemma ofDigitChars_repr (n : ℕ) : Nat.ofDigitChars 10 n.repr.toList 0 = n := by
  rw [Nat.toList_repr, Nat.ofDigitChars_toDigits (by omega) (by omega)]

/-- Reading back a number that was written. -/
lemma parseU64_repr {n : ℕ} (h : n < 2 ^ 64) : parseU64 n.repr = some n := by
  have hdigit : ∀ c ∈ n.repr.toList, c.isDigit = true := by
    intro c hc
    rw [Nat.toList_repr] at hc
    exact Nat.isDigit_of_mem_toDigits (by omega) (by omega) hc
  have hne : n.repr.toList ≠ [] := by
    rw [Nat.toList_repr]
    exact Nat.toDigits_ne_nil
  have hplus : (match n.repr.toList with | '+' :: rest => rest | cs => cs) = n.repr.toList := by
    split
    · next rest heq =>
      have := hdigit '+' (by simp [heq])
      simp [Char.isDigit] at this
    · rfl
  simp only [parseU64, hplus, ofDigitChars_repr, List.all_eq_true]
  rw [if_pos ⟨hne, hdigit, h⟩]

lemma natRepr_inj {m n : ℕ} (h : m.repr = n.repr) : m = n := by
  rw [← ofDigitChars_repr m, h, ofDigitChars_repr n]

def decodeUtf8 (bytes : Bytes) : Option String :=
  ((bytes.map UInt8.ofBitVec).toByteArray.utf8Decode?).map fun cs => String.ofList cs.toList

lemma decodeUtf8_utf8 (s : String) : decodeUtf8 (utf8 s) = some s := by
  have hbytes : ((utf8 s).map UInt8.ofBitVec).toByteArray = s.toList.utf8Encode := by
    rw [List.utf8Encode, utf8, List.map_flatMap]
    simp [Function.comp_def]
  rw [decodeUtf8, hbytes, List.utf8Decode?_utf8Encode]
  simp

lemma utf8_inj {s t : String} (h : utf8 s = utf8 t) : s = t := by
  have := congrArg decodeUtf8 h
  rwa [decodeUtf8_utf8, decodeUtf8_utf8, Option.some.injEq] at this

/-- A text is free of a character if its characters are: for texts given as literals. -/
lemma not_mem_ofList {c : Char} {cs : List Char} (h : c ∉ cs) : c ∉ (String.ofList cs).toList := by
  rwa [String.toList_ofList]

lemma not_mem_append {c : Char} {s t : String} (hs : c ∉ s.toList) (ht : c ∉ t.toList) :
    c ∉ (s ++ t).toList := by
  simp [hs, ht]

lemma stripSuffix_append (pre suf : String) : stripSuffix (pre ++ suf) suf = some pre := by
  simp [stripSuffix, String.toList_append, List.isSuffixOf_iff_suffix]

lemma containsChar_eq_false {c : Char} {s : String} :
    containsChar c s = false ↔ c ∉ s.toList := by
  simp [containsChar]

lemma upToLast?_of_snoc {c : Char} {s : String} {t : List Char} (h : s.toList = t ++ [c]) :
    upToLast? c s = some s := by
  have hmem : containsChar c s = true := by simp [containsChar, h]
  have hlist : (s.toList.reverse.dropWhile (· != c)).reverse = s.toList := by simp [h]
  rw [upToLast?, if_pos hmem, hlist, String.ofList_toList]

lemma split_ne_nil (sep : Char) (s : String) : split sep s ≠ [] := by
  simp [split]

lemma toList_eq_intercalate_split (sep : Char) (s : String) :
    [sep].intercalate ((split sep s).map String.toList) = s.toList := by
  have hid : String.toList ∘ String.ofList = id := by
    funext l
    simp
  rw [split, List.map_map, hid, List.map_id, List.intercalate_splitOn]

lemma toList_join (sep : Char) (parts : List String) :
    (join (String.singleton sep) parts).toList = [sep].intercalate (parts.map String.toList) := by
  simp [join, String.toList_intercalate]

lemma split_join {sep : Char} {parts : List String} (hne : parts ≠ [])
    (h : ∀ p ∈ parts, sep ∉ p.toList) : split sep (join (String.singleton sep) parts) = parts := by
  rw [split, toList_join, List.splitOn_intercalate]
  · simp
  · simpa using h
  · simpa using hne

lemma intercalate_snoc {α : Type} (sep : α) (ls : List (List α)) (hne : ls ≠ []) (l : List α) :
    [sep].intercalate (ls ++ [l]) = [sep].intercalate ls ++ [sep] ++ l := by
  induction ls with
  | nil => exact absurd rfl hne
  | cons a as ih =>
    cases as with
    | nil => simp [List.intercalate]
    | cons b bs =>
      have := ih (by simp)
      simp only [List.intercalate, List.cons_append, List.intersperse_cons_cons, List.flatten_cons]
        at this ⊢
      rw [this]
      simp

/-- **The last part.** A text with at least one separator ends with one followed by the
last part. -/
lemma exists_prefix_of_split {sep : Char} {s last : String} {init : List String}
    (h : split sep s = init ++ [last]) (hne : init ≠ []) :
    ∃ t, s.toList = t ++ [sep] ++ last.toList := by
  refine ⟨[sep].intercalate (init.map String.toList), ?_⟩
  rw [← toList_eq_intercalate_split sep s, h, List.map_append,
    List.map_singleton, intercalate_snoc _ _ (by simpa using hne)]

lemma splitFirst_append {sep : Char} {l rest : List Char} (h : sep ∉ l) (n : ℕ) :
    splitFirst sep (n + 1) (l ++ sep :: rest) = l :: splitFirst sep n rest := by
  have hall : ∀ c ∈ l, (c != sep) = true := by
    intro c hc
    simpa using fun he : c = sep => h (he ▸ hc)
  simp [splitFirst, List.dropWhile_append_of_pos hall, List.takeWhile_append_of_pos hall]

lemma splitFirst_of_not_mem {sep : Char} {cs : List Char} (h : sep ∉ cs) (n : ℕ) :
    splitFirst sep n cs = [cs] := by
  cases n with
  | zero => rfl
  | succ n =>
    have : cs.dropWhile (· != sep) = [] := by
      rw [List.dropWhile_eq_nil_iff]
      intro c hc
      simpa using fun he : c = sep => h (he ▸ hc)
    simp [splitFirst, this]

/-- Two parts or more: a first one without separators, and what the rest splits into. -/
lemma splitFirst_eq_cons_cons {sep : Char} {n : ℕ} {cs l l' : List Char} {ls : List (List Char)} :
    splitFirst sep (n + 1) cs = l :: l' :: ls ↔
      ∃ rest, cs = l ++ sep :: rest ∧ sep ∉ l ∧ splitFirst sep n rest = l' :: ls := by
  constructor
  · intro h
    by_cases hmem : sep ∈ cs
    · obtain ⟨as, bs, rfl, has⟩ := List.eq_append_cons_of_mem hmem
      rw [splitFirst_append has] at h
      simp only [List.cons.injEq] at h
      obtain ⟨rfl, h⟩ := h
      exact ⟨bs, rfl, has, h⟩
    · simp [splitFirst_of_not_mem hmem] at h
  · rintro ⟨rest, rfl, hl, h⟩
    rw [splitFirst_append hl, h]

/-- **Three parts.** The first two have no separator; the third is all the rest. -/
theorem splitn_three {sep : Char} {s a b c : String} :
    splitn 3 sep s = [a, b, c] ↔
      s.toList = a.toList ++ sep :: (b.toList ++ sep :: c.toList) ∧
        sep ∉ a.toList ∧ sep ∉ b.toList := by
  have hmap : splitn 3 sep s = [a, b, c] ↔
      splitFirst sep 2 s.toList = [a.toList, b.toList, c.toList] := by
    simp only [splitn]
    constructor
    · intro h
      have := congrArg (List.map String.toList) h
      simpa [List.map_map, Function.comp_def] using this
    · intro h
      simp [h]
  rw [hmap, splitFirst_eq_cons_cons]
  constructor
  · rintro ⟨rest, hs, ha, h⟩
    obtain ⟨rest', rfl, hb, h⟩ := splitFirst_eq_cons_cons.mp h
    simp only [splitFirst, List.cons.injEq, and_true] at h
    rw [h] at hs
    exact ⟨hs, ha, hb⟩
  · rintro ⟨hs, ha, hb⟩
    exact ⟨_, hs, ha, splitFirst_eq_cons_cons.mpr ⟨_, rfl, hb, rfl⟩⟩

lemma split_snoc {sep : Char} {s last : String} {t : List Char}
    (h : s.toList = t ++ sep :: last.toList) (hlast : sep ∉ last.toList) :
    split sep s = split sep (String.ofList t) ++ [last] := by
  simp [split, h, List.splitOn_append_cons_self, List.splitOn_eq_singleton hlast]

lemma split_of_not_mem {sep : Char} {s : String} (h : sep ∉ s.toList) : split sep s = [s] := by
  simp [split, List.splitOn_eq_singleton h]

lemma trim_of_ends {s : String} (hhead : ∀ c, s.toList.head? = some c → isWhitespace c = false)
    (hlast : ∀ c, s.toList.getLast? = some c → isWhitespace c = false) : trim s = s := by
  have hdrop : ∀ cs : List Char, (∀ c, cs.head? = some c → isWhitespace c = false) →
      cs.dropWhile isWhitespace = cs := by
    intro cs h
    cases cs with
    | nil => rfl
    | cons c cs => rw [List.dropWhile_cons_of_neg (by simp [h c rfl])]
  have hback : s.toList.reverse.dropWhile isWhitespace = s.toList.reverse :=
    hdrop _ fun c hc => hlast c (List.head?_reverse ▸ hc)
  rw [trim, hdrop _ hhead, hback, List.reverse_reverse, String.ofList_toList]

end Oid4vc.Text
