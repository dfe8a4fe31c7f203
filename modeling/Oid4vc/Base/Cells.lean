import Mathlib.Data.Nat.Notation
import Mathlib.Logic.Function.Basic
import Mathlib.Tactic.Lemma

/-!
Arrays that are written one entry at a time, however they are kept, and the plain array that
each of them stands for.
-/

namespace Oid4vc.PlainArray

variable {σ τ ν ε : Type}

/-- How entries are read and written. A write may be refused. -/
structure Cells (σ ν ε : Type) where
  get : σ → ℕ → Except ε ν
  set : σ → ℕ → ν → Except ε σ

/-- A write in place: what it answers, and what is there afterwards. -/
def Cells.write (C : Cells σ ν ε) (s : σ) (i : ℕ) (v : ν) : Except ε Unit × σ :=
  match C.set s i v with
  | .ok s' => (.ok (), s')
  | .error e => (.error e, s)

/-- Several writes in order, with what each of them answers. -/
def Cells.writes (C : Cells σ ν ε) (s : σ) : List (ℕ × ν) → List (Except ε Unit) × σ
  | [] => ([], s)
  | (i, v) :: ops =>
    let rest := C.writes (C.write s i v).2 ops
    ((C.write s i v).1 :: rest.1, rest.2)

/-- The plain array: it reads its entries below `n`, and writes what is not refused. -/
def plain (n : ℕ) (refusal : ℕ → ν → Option ε) (outOfBounds : ℕ → ε) : Cells (ℕ → ν) ν ε where
  get a i := if i < n then .ok (a i) else .error (outOfBounds i)
  set a i v :=
    match refusal i v with
    | some e => .error e
    | none => .ok (Function.update a i v)

/-- The last value written to an entry without being refused. -/
def lastWritten (refusal : ℕ → ν → Option ε) (zero : ν) (ops : List (ℕ × ν)) (i : ℕ) : ν :=
  ((ops.filter fun op => op.1 == i && (refusal op.1 op.2).isNone).getLast?.map Prod.snd).getD zero

/-- Related states answer alike, and stay related. -/
structure Refines (C : Cells σ ν ε) (A : Cells τ ν ε) (R : σ → τ → Prop) : Prop where
  get : ∀ s a, R s a → ∀ i, C.get s i = A.get a i
  write : ∀ s a, R s a → ∀ i v,
    (C.write s i v).1 = (A.write a i v).1 ∧ R (C.write s i v).2 (A.write a i v).2

/-- **Runs.** Any number of writes is answered alike, and leads to related states. -/
theorem Refines.writes {C : Cells σ ν ε} {A : Cells τ ν ε} {R : σ → τ → Prop}
    (h : Refines C A R) {s : σ} {a : τ} (hR : R s a) (ops : List (ℕ × ν)) :
    (C.writes s ops).1 = (A.writes a ops).1 ∧ R (C.writes s ops).2 (A.writes a ops).2 := by
  induction ops generalizing s a with
  | nil => exact ⟨rfl, hR⟩
  | cons op ops ih =>
    obtain ⟨i, v⟩ := op
    obtain ⟨hanswer, hnext⟩ := h.write s a hR i v
    obtain ⟨hanswers, hlast⟩ := ih hnext
    simp only [Cells.writes]
    exact ⟨by rw [hanswer, hanswers], hlast⟩

variable (n : ℕ) (refusal : ℕ → ν → Option ε) (outOfBounds : ℕ → ε)

lemma write_plain (a : ℕ → ν) (i : ℕ) (v : ν) :
    (plain n refusal outOfBounds).write a i v =
      match refusal i v with
      | some e => (.error e, a)
      | none => (.ok (), Function.update a i v) := by
  simp only [Cells.write, plain]
  split
  · next heq =>
    split at heq
    · cases heq
    · next hnone => simp_all
  · next heq =>
    split at heq
    · next hsome => simp_all
    · cases heq

lemma answers_plain (a : ℕ → ν) (ops : List (ℕ × ν)) :
    ((plain n refusal outOfBounds).writes a ops).1 = ops.map fun op =>
      match refusal op.1 op.2 with
      | some e => .error e
      | none => .ok () := by
  induction ops generalizing a with
  | nil => rfl
  | cons op ops ih =>
    simp only [Cells.writes, List.map_cons, ih, write_plain]
    cases refusal op.1 op.2 <;> rfl

/-- An entry of a plain array is what was written to it last. -/
lemma entries_plain (a : ℕ → ν) (ops : List (ℕ × ν)) (i : ℕ) :
    ((plain n refusal outOfBounds).writes a ops).2 i = lastWritten refusal (a i) ops i := by
  induction ops generalizing a with
  | nil => rfl
  | cons op ops ih =>
    obtain ⟨j, v⟩ := op
    simp only [Cells.writes, ih, write_plain, lastWritten]
    cases hrefusal : refusal j v with
    | some e => simp [hrefusal]
    | none =>
      by_cases hij : j = i
      · subst hij
        -- the write counts, unless a later one does
        simp only [Function.update_self, List.filter_cons, beq_self_eq_true, hrefusal,
          Option.isNone_none, Bool.and_self, if_true, List.getLast?_cons]
        cases (ops.filter _).getLast? <;> rfl
      · simp [Function.update_of_ne (Ne.symm hij), hij]

end Oid4vc.PlainArray
