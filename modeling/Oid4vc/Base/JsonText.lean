import Oid4vc.Base.Text

/-!
JSON as text: a printer without white space, and a parser that reads back what it prints.

Numbers with a fraction are not written in decimal here: their bits stand for them, as they do
for a negative number that is not negative.
-/

namespace Oid4vc.JsonText

open Oid4vc.JsonValue Oid4vc.Text

/-! ### The printer -/

def digits (n : ℕ) : List Char := n.repr.toList

def hexDigit (n : ℕ) : Char := n.digitChar

/-- A character inside a string. -/
def escape (c : Char) : List Char :=
  if c = '\x22' then ['\\', '\x22']
  else if c = '\\' then ['\\', '\\']
  else if c = '\x08' then ['\\', 'b']
  else if c = '\x0c' then ['\\', 'f']
  else if c = '\n' then ['\\', 'n']
  else if c = '\r' then ['\\', 'r']
  else if c = '\t' then ['\\', 't']
  else if c.toNat < 32 then
    ['\\', 'u', '0', '0', hexDigit (c.toNat / 16), hexDigit (c.toNat % 16)]
  else [c]

def quote (s : String) : List Char := '\x22' :: (s.toList.flatMap escape ++ ['\x22'])

def printNumber : Number → List Char
  | .posInt n => digits n.toNat
  | .negInt n => if n.toInt < 0 then '-' :: digits n.toInt.natAbs else '~' :: digits n.toNat
  | .float f => '#' :: digits f.bits.toNat

/-- What follows an item of a sequence: more items, or its end. -/
def more (close : Char) : List (List Char) → List Char
  | [] => [close]
  | t :: ts => ',' :: (t ++ more close ts)

/-- The items of a sequence, and its end. -/
def sequence (close : Char) : List (List Char) → List Char
  | [] => [close]
  | t :: ts => t ++ more close ts

mutual

def print : Json → List Char
  | .null => ['n', 'u', 'l', 'l']
  | .bool true => ['t', 'r', 'u', 'e']
  | .bool false => ['f', 'a', 'l', 's', 'e']
  | .num n => printNumber n
  | .str s => quote s
  | .arr items => '[' :: sequence ']' (printItems items)
  | .obj members => '\x7b' :: sequence '\x7d' (printMembers members)

def printItems : List Json → List (List Char)
  | [] => []
  | v :: vs => print v :: printItems vs

def printMembers : List (String × Json) → List (List Char)
  | [] => []
  | (name, v) :: ms => (quote name ++ ':' :: print v) :: printMembers ms

end

/-! ### The parser -/

/-- A reader of the start of a text: what it reads, and the rest. -/
abbrev Reader (α : Type) := List Char → Option (α × List Char)

def readNat : Reader ℕ := fun cs =>
  match cs.takeWhile Char.isDigit with
  | [] => none
  | ds => some (Nat.ofDigitChars 10 ds 0, cs.dropWhile Char.isDigit)

def hexValue (c : Char) : Option ℕ :=
  if c.isDigit then some (c.toNat - 48)
  else if 'a' ≤ c ∧ c ≤ 'f' then some (c.toNat - 87)
  else none

/-- The rest of a string, after its opening quote. -/
def readQuoted : List Char → Option (List Char × List Char)
  | [] => none
  | '\x22' :: rest => some ([], rest)
  | '\\' :: 'u' :: '0' :: '0' :: h :: l :: rest => do
    let high ← hexValue h
    let low ← hexValue l
    (readQuoted rest).map fun p => (Char.ofNat (16 * high + low) :: p.1, p.2)
  | '\\' :: c :: rest => do
    let c ← match c with
      | '\x22' => some '\x22'
      | '\\' => some '\\'
      | 'b' => some '\x08'
      | 'f' => some '\x0c'
      | 'n' => some '\n'
      | 'r' => some '\r'
      | 't' => some '\t'
      | _ => none
    (readQuoted rest).map fun p => (c :: p.1, p.2)
  | c :: rest => (readQuoted rest).map fun p => (c :: p.1, p.2)

def readString : Reader String
  | '\x22' :: rest => (readQuoted rest).map fun p => (String.ofList p.1, p.2)
  | _ => none

/-- The items after the first. -/
def readMore {α : Type} (close : Char) (item : Reader α) : ℕ → Reader (List α)
  | 0, _ => none
  | _, [] => none
  | n + 1, c :: rest =>
    if c = close then some ([], rest)
    else if c = ',' then do
      let (v, rest) ← item rest
      let (vs, rest) ← readMore close item n rest
      some (v :: vs, rest)
    else none

def readSequence {α : Type} (close : Char) (item : Reader α) (n : ℕ) : Reader (List α)
  | [] => none
  | c :: rest =>
    if c = close then some ([], rest)
    else do
      let (v, rest) ← item (c :: rest)
      let (vs, rest) ← readMore close item n rest
      some (v :: vs, rest)

def readMember (value : Reader Json) : Reader (String × Json) := fun cs => do
  let (name, rest) ← readString cs
  match rest with
  | ':' :: rest => (value rest).map fun p => ((name, p.1), p.2)
  | _ => none

def readLiteral (text : List Char) (v : Json) : Reader Json := fun cs =>
  if text.isPrefixOf cs then some (v, cs.drop text.length) else none

/-- A value; `n` bounds how deep and how long it may be. -/
def readValue : ℕ → Reader Json
  | 0, _ => none
  | _, [] => none
  | n + 1, c :: rest =>
    if c = 'n' then readLiteral ['u', 'l', 'l'] .null rest
    else if c = 't' then readLiteral ['r', 'u', 'e'] (.bool true) rest
    else if c = 'f' then readLiteral ['a', 'l', 's', 'e'] (.bool false) rest
    else if c = '\x22' then (readString (c :: rest)).map fun p => (.str p.1, p.2)
    else if c = '[' then (readSequence ']' (readValue n) n rest).map fun p => (.arr p.1, p.2)
    else if c = '\x7b' then
      (readSequence '\x7d' (readMember (readValue n)) n rest).map fun p => (.obj p.1, p.2)
    else if c = '-' then
      (readNat rest).map fun p => (.num (.negInt (BitVec.ofInt 64 (-p.1))), p.2)
    else if c = '~' then
      (readNat rest).map fun p => (.num (.negInt (BitVec.ofNat 64 p.1)), p.2)
    else if c = '#' then
      (readNat rest).map fun p => (.num (.float ⟨BitVec.ofNat 64 p.1⟩), p.2)
    else (readNat (c :: rest)).map fun p => (.num (.posInt (BitVec.ofNat 64 p.1)), p.2)

/-- A text that is one value and nothing else. -/
def parse (cs : List Char) : Option Json :=
  match readValue cs.length cs with
  | some (v, []) => some v
  | _ => none

/-! ### Reading back -/

lemma digits_isDigit {n : ℕ} : ∀ c ∈ digits n, c.isDigit = true := by
  intro c hc
  rw [digits, Nat.toList_repr] at hc
  exact Nat.isDigit_of_mem_toDigits (by omega) (by omega) hc

lemma digits_ne_nil (n : ℕ) : digits n ≠ [] := by
  rw [digits, Nat.toList_repr]
  exact Nat.toDigits_ne_nil

/-- The text goes on with no digit. -/
def Stops (cs : List Char) : Prop := ∀ c ∈ cs.head?, c.isDigit = false

lemma stops_cons {c : Char} (h : c.isDigit = false) (cs : List Char) : Stops (c :: cs) := by
  simpa [Stops] using h

lemma readNat_digits {n : ℕ} {cs : List Char} (h : Stops cs) :
    readNat (digits n ++ cs) = some (n, cs) := by
  have htake : (digits n ++ cs).takeWhile Char.isDigit = digits n := by
    rw [List.takeWhile_append_of_pos digits_isDigit]
    cases cs with
    | nil => simp
    | cons c cs => simp [h c rfl]
  have hdrop : (digits n ++ cs).dropWhile Char.isDigit = cs := by
    rw [List.dropWhile_append_of_pos digits_isDigit]
    cases cs with
    | nil => rfl
    | cons c cs => simp [h c rfl]
  unfold readNat
  rw [htake, hdrop]
  cases hd : digits n with
  | nil => exact absurd hd (digits_ne_nil n)
  | cons d ds =>
    simp only [← hd]
    rw [digits, ofDigitChars_repr]

lemma hexValue_hexDigit : ∀ n < 16, hexValue (hexDigit n) = some n := by decide

lemma readQuoted_escape (c : Char) (cs : List Char) :
    readQuoted (escape c ++ cs) = (readQuoted cs).map fun p => (c :: p.1, p.2) := by
  unfold escape
  split_ifs with h₁ h₂ h₃ h₄ h₅ h₆ h₇ h₈
  · subst h₁; rfl
  · subst h₂; rfl
  · subst h₃; rfl
  · subst h₄; rfl
  · subst h₅; rfl
  · subst h₆; rfl
  · subst h₇; rfl
  · have hhigh := hexValue_hexDigit (c.toNat / 16) (by omega)
    have hlow := hexValue_hexDigit (c.toNat % 16) (by omega)
    have hc : Char.ofNat (16 * (c.toNat / 16) + c.toNat % 16) = c := by
      rw [show 16 * (c.toNat / 16) + c.toNat % 16 = c.toNat by omega, Char.ofNat_toNat]
    simp only [List.cons_append, List.nil_append]
    rw [readQuoted]
    simp [hhigh, hlow, hc]
  · simp only [List.cons_append, List.nil_append]
    rw [readQuoted]
    · exact fun h => absurd h h₁
    · exact fun _ _ _ h => absurd h h₂
    · exact fun _ _ h => absurd h h₂

lemma readQuoted_flatMap (s cs : List Char) :
    readQuoted (s.flatMap escape ++ '\x22' :: cs) = some (s, cs) := by
  induction s with
  | nil => rfl
  | cons c s ih =>
    rw [List.flatMap_cons, List.append_assoc, readQuoted_escape, ih]
    rfl

lemma readString_quote (s : String) (cs : List Char) :
    readString (quote s ++ cs) = some (s, cs) := by
  have := readQuoted_flatMap s.toList cs
  simp only [quote, List.cons_append, List.append_assoc, List.nil_append, readString, this]
  simp

/-- The text is read as this value, whatever follows. -/
def ReadAs {α : Type} (close : Char) (item : Reader α) (text : List Char) (v : α) : Prop :=
  text.head? ≠ some close ∧ text ≠ [] ∧ ∀ cs, Stops cs → item (text ++ cs) = some (v, cs)

lemma stops_more {close : Char} (h : close.isDigit = false) (ts : List (List Char))
    (cs : List Char) : Stops (more close ts ++ cs) := by
  cases ts with
  | nil => exact stops_cons h cs
  | cons t ts => exact stops_cons (by decide) _

lemma readMore_more {α : Type} {close : Char} {item : Reader α} (hdigit : close.isDigit = false)
    (hcomma : close ≠ ',') {ts : List (List Char)} {vs : List α}
    (h : List.Forall₂ (ReadAs close item) ts vs) (cs : List Char) {n : ℕ} (hn : ts.length < n) :
    readMore close item n (more close ts ++ cs) = some (vs, cs) := by
  induction h generalizing n with
  | nil =>
    obtain ⟨n, rfl⟩ := Nat.exists_eq_add_of_lt hn
    simp [more, readMore]
  | @cons t v ts vs ht _ ih =>
    obtain ⟨n, rfl⟩ : ∃ k, n = k + 1 := ⟨n - 1, by omega⟩
    have hread := ht.2.2 (more close ts ++ cs) (stops_more hdigit ts cs)
    have hrest := ih (n := n) (by simp only [List.length_cons] at hn; omega)
    simp [more, readMore, hcomma.symm, hread, hrest]

lemma readSequence_sequence {α : Type} {close : Char} {item : Reader α}
    (hdigit : close.isDigit = false) (hcomma : close ≠ ',') {ts : List (List Char)} {vs : List α}
    (h : List.Forall₂ (ReadAs close item) ts vs) (cs : List Char) {n : ℕ} (hn : ts.length ≤ n) :
    readSequence close item n (sequence close ts ++ cs) = some (vs, cs) := by
  cases h with
  | nil => simp [sequence, readSequence]
  | @cons t v ts vs ht hts =>
    have hread := ht.2.2 (more close ts ++ cs) (stops_more hdigit ts cs)
    have hrest := readMore_more hdigit hcomma hts cs (n := n)
      (by simp only [List.length_cons] at hn; omega)
    obtain ⟨c, t, rfl⟩ := List.exists_cons_of_ne_nil ht.2.1
    have hc : c ≠ close := by simpa using ht.1
    simp only [sequence, List.cons_append, List.append_assoc] at hread ⊢
    simp [readSequence, hc, hread, hrest]

/-- A value starts with no closing bracket. -/
lemma print_head (v : Json) : ∃ c cs, print v = c :: cs ∧ c ≠ ']' ∧ c ≠ '\x7d' := by
  have hdigit : ∀ n, ∃ c cs, digits n = c :: cs ∧ c ≠ ']' ∧ c ≠ '\x7d' := by
    intro n
    obtain ⟨c, cs, hc⟩ := List.exists_cons_of_ne_nil (digits_ne_nil n)
    have hd : c.isDigit = true := digits_isDigit c (by rw [hc]; exact List.mem_cons_self)
    refine ⟨c, cs, hc, ?_, ?_⟩ <;>
    · rintro rfl
      revert hd
      decide
  match v with
  | .null => exact ⟨_, _, rfl, by decide, by decide⟩
  | .bool true => exact ⟨_, _, rfl, by decide, by decide⟩
  | .bool false => exact ⟨_, _, rfl, by decide, by decide⟩
  | .num (.posInt n) => exact hdigit n.toNat
  | .num (.negInt n) =>
    simp only [print, printNumber]
    split_ifs
    · exact ⟨_, _, rfl, by decide, by decide⟩
    · exact ⟨_, _, rfl, by decide, by decide⟩
  | .num (.float f) => exact ⟨_, _, rfl, by decide, by decide⟩
  | .str s => exact ⟨_, _, rfl, by decide, by decide⟩
  | .arr items => exact ⟨_, _, by rw [print], by decide, by decide⟩
  | .obj members => exact ⟨_, _, by rw [print], by decide, by decide⟩

lemma length_sequence (close : Char) (ts : List (List Char)) :
    (∀ t ∈ ts, t.length < (sequence close ts).length) ∧ ts.length < (sequence close ts).length + 1 ∧
      (∀ t ∈ ts, t.length < (more close ts).length) ∧ ts.length < (more close ts).length := by
  induction ts with
  | nil => simp [sequence, more]
  | cons t ts ih =>
    obtain ⟨-, -, hmore, hlen⟩ := ih
    refine ⟨fun u hu => ?_, ?_, fun u hu => ?_, ?_⟩
    · rcases List.mem_cons.mp hu with rfl | hu
      · simp only [sequence, List.length_append]
        omega
      · have := hmore u hu
        simp only [sequence, List.length_append]
        omega
    · simp only [sequence, List.length_append, List.length_cons]
      omega
    · rcases List.mem_cons.mp hu with rfl | hu
      · simp only [more, List.length_append, List.length_cons]
        omega
      · have := hmore u hu
        simp only [more, List.length_append, List.length_cons]
        omega
    · simp only [more, List.length_append, List.length_cons]
      omega

mutual

/-- **A value is read back**, with a bound that its text is not longer than. -/
theorem readValue_print : ∀ (v : Json) {n : ℕ}, (print v).length ≤ n → ∀ cs, Stops cs →
    readValue n (print v ++ cs) = some (v, cs)
  | v, 0, hn, cs, _ => by
    obtain ⟨c, t, ht, -⟩ := print_head v
    simp [ht] at hn
  | .null, n + 1, _, cs, _ => by simp [print, readValue, readLiteral]
  | .bool true, n + 1, _, cs, _ => by simp [print, readValue, readLiteral]
  | .bool false, n + 1, _, cs, _ => by simp [print, readValue, readLiteral]
  | .num (.posInt k), n + 1, _, cs, hcs => by
    -- the first digit is not the first character of any other kind of value
    obtain ⟨c, t, hc⟩ := List.exists_cons_of_ne_nil (digits_ne_nil k.toNat)
    have hd : c.isDigit = true := digits_isDigit c (by rw [hc]; exact List.mem_cons_self)
    have hne : ∀ d : Char, d.isDigit = false → c ≠ d := by
      rintro d hd' rfl
      rw [hd] at hd'
      cases hd'
    have hread := readNat_digits (n := k.toNat) hcs
    rw [hc, List.cons_append] at hread
    simp only [print, printNumber, hc, List.cons_append, readValue, hread,
      if_neg (hne 'n' (by decide)), if_neg (hne 't' (by decide)), if_neg (hne 'f' (by decide)),
      if_neg (hne '\x22' (by decide)), if_neg (hne '[' (by decide)),
      if_neg (hne '\x7b' (by decide)), if_neg (hne '-' (by decide)), if_neg (hne '~' (by decide)),
      if_neg (hne '#' (by decide))]
    simp
  | .num (.negInt k), n + 1, _, cs, hcs => by
    by_cases hneg : k.toInt < 0
    · have hneg' : BitVec.ofInt 64 (-(k.toInt.natAbs : ℤ)) = k := by
        rw [Int.ofNat_natAbs_of_nonpos (by omega), neg_neg, BitVec.ofInt_toInt]
      simp only [print, printNumber, if_pos hneg, List.cons_append, readValue, Char.reduceEq,
        reduceIte, readNat_digits hcs, Option.map_some, hneg']
    · simp [print, printNumber, hneg, readValue, readNat_digits hcs]
  | .num (.float f), n + 1, _, cs, hcs => by
    simp [print, printNumber, readValue, readNat_digits hcs]
  | .str s, n + 1, _, cs, _ => by
    have hread := readString_quote s cs
    simp only [quote, List.cons_append, List.append_assoc, List.nil_append] at hread
    simp [print, quote, readValue, hread]
  | .arr items, n + 1, hn, cs, _ => by
    simp only [print, List.length_cons] at hn
    obtain ⟨hall, hlen, -⟩ := length_sequence ']' (printItems items)
    have hitems := readItems_print items (n := n) fun t ht => by have := hall t ht; omega
    have hread := readSequence_sequence (by decide) (by decide) hitems cs (n := n) (by omega)
    simp [print, readValue, hread]
  | .obj members, n + 1, hn, cs, _ => by
    simp only [print, List.length_cons] at hn
    obtain ⟨hall, hlen, -⟩ := length_sequence '\x7d' (printMembers members)
    have hmembers := readMembers_print members (n := n) fun t ht => by have := hall t ht; omega
    have hread := readSequence_sequence (by decide) (by decide) hmembers cs (n := n) (by omega)
    simp [print, readValue, hread]

theorem readItems_print : ∀ (vs : List Json) {n : ℕ}, (∀ t ∈ printItems vs, t.length ≤ n) →
    List.Forall₂ (ReadAs ']' (readValue n)) (printItems vs) vs
  | [], _, _ => List.Forall₂.nil
  | v :: vs, n, hn => by
    simp only [printItems, List.mem_cons, forall_eq_or_imp] at hn ⊢
    obtain ⟨c, t, ht, hc, -⟩ := print_head v
    refine List.Forall₂.cons ⟨by simpa [ht] using hc, by simp [ht], fun cs hcs => ?_⟩
      (readItems_print vs hn.2)
    exact readValue_print v hn.1 cs hcs

theorem readMembers_print : ∀ (ms : List (String × Json)) {n : ℕ},
    (∀ t ∈ printMembers ms, t.length ≤ n) →
    List.Forall₂ (ReadAs '\x7d' (readMember (readValue n))) (printMembers ms) ms
  | [], _, _ => List.Forall₂.nil
  | (name, v) :: ms, n, hn => by
    simp only [printMembers, List.mem_cons, forall_eq_or_imp] at hn ⊢
    refine List.Forall₂.cons ⟨by simp [quote], by simp [quote], fun cs hcs => ?_⟩
      (readMembers_print ms hn.2)
    have hlen : (print v).length ≤ n := by
      have := hn.1
      simp only [List.length_append, List.length_cons] at this
      omega
    have hread := readValue_print v hlen cs hcs
    simp [readMember, readString_quote, hread]

end

/-- **Round trip.** -/
theorem parse_print (v : Json) : parse (print v) = some v := by
  have := readValue_print v (le_refl _) [] (by simp [Stops])
  rw [List.append_nil] at this
  rw [parse, this]

end Oid4vc.JsonText
