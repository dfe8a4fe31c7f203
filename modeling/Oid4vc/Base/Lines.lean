import Oid4vc.Base.Text

/-!
Texts by the line, and texts cut into pieces of one length.
-/

namespace Oid4vc.Lines

open Oid4vc.Text

variable {α : Type*}

/-- A line without a carriage return at its end. -/
def stripReturn (line : List Char) : List Char :=
  if line.getLast? = some '\r' then line.dropLast else line

/-- The lines of a text, after what was read of the first one. The last one need not be ended. -/
def linesFrom (line : List Char) : List Char → List (List Char)
  | [] => if line = [] then [] else [line]
  | c :: cs => if c = '\n' then stripReturn line :: linesFrom [] cs else linesFrom (line ++ [c]) cs

def lines (s : String) : List String := (linesFrom [] s.toList).map String.ofList

/-- Lines put together, each of them ended. -/
def unlines (ls : List (List Char)) : List Char := ls.flatMap (· ++ ['\n'])

/-- The pieces of a list, all of length `n` but the last, after the start of the first one. -/
def chunksFrom (n : ℕ) (piece : List α) : List α → List (List α)
  | [] => if piece.isEmpty then [] else [piece]
  | a :: as =>
    if piece.length + 1 = n then (piece ++ [a]) :: chunksFrom n [] as
    else chunksFrom n (piece ++ [a]) as

def chunks (n : ℕ) (l : List α) : List (List α) := chunksFrom n [] l

/-- A line that is no more than itself: it has no line feed, and no carriage return at its end. -/
structure IsLine (line : List Char) : Prop where
  single : '\n' ∉ line
  ended : line.getLast? ≠ some '\r'

lemma stripReturn_of_isLine {line : List Char} (h : IsLine line) : stripReturn line = line :=
  if_neg h.ended

lemma linesFrom_append {line : List Char} (start cs : List Char) (h : '\n' ∉ line) :
    linesFrom start (line ++ '\n' :: cs) = stripReturn (start ++ line) :: linesFrom [] cs := by
  induction line generalizing start with
  | nil => rw [List.nil_append, linesFrom, if_pos rfl, List.append_nil]
  | cons c line ih =>
    obtain ⟨hc, hline⟩ : '\n' ≠ c ∧ '\n' ∉ line := by simpa using h
    rw [List.cons_append, linesFrom, if_neg hc.symm, ih _ hline, List.append_assoc,
      List.singleton_append]

/-- **Lines that were put together are read one by one.** -/
theorem linesFrom_unlines {ls : List (List Char)} (h : ∀ line ∈ ls, IsLine line) :
    linesFrom [] (unlines ls) = ls := by
  induction ls with
  | nil => rfl
  | cons line ls ih =>
    have hline := h line List.mem_cons_self
    have hrest : unlines (line :: ls) = line ++ '\n' :: unlines ls := by
      rw [unlines, List.flatMap_cons, List.append_assoc, List.singleton_append]
      rfl
    rw [hrest, linesFrom_append [] _ hline.single, List.nil_append, stripReturn_of_isLine hline,
      ih fun l hl => h l (List.mem_cons_of_mem line hl)]

lemma unlines_append (ls ls' : List (List Char)) : unlines (ls ++ ls') = unlines ls ++ unlines ls' :=
  List.flatMap_append

/-- **Pieces make up the whole**, whatever their length. -/
theorem flatten_chunksFrom (n : ℕ) (piece l : List α) :
    (chunksFrom n piece l).flatten = piece ++ l := by
  induction l generalizing piece with
  | nil =>
    rw [chunksFrom]
    cases piece with
    | nil => rfl
    | cons a as => simp
  | cons a as ih =>
    rw [chunksFrom]
    split_ifs with hfull
    · rw [List.flatten_cons, ih, List.append_assoc]
      rfl
    · rw [ih, List.append_assoc]
      rfl

lemma flatten_chunks (n : ℕ) (l : List α) : (chunks n l).flatten = l := flatten_chunksFrom n [] l

lemma mem_of_mem_chunks {n : ℕ} {l piece : List α} (hpiece : piece ∈ chunks n l) {a : α}
    (ha : a ∈ piece) : a ∈ l := by
  rw [← flatten_chunks n l]
  exact List.mem_flatten_of_mem hpiece ha

end Oid4vc.Lines
