import Mathlib.Data.List.Basic
import Mathlib.Tactic.Lemma

/-!
Runs of a machine: what a list of inputs does to a state, one step after another.

A step is deterministic once its input is fixed, so whatever the outside decides (a clock
reading, a random draw, which thread goes next) is part of the input. `Every` says that
each step of a run meets a condition on the state before it; `log` keeps, for every step,
the state before it, the input and the answer, for properties of a whole history.
-/

namespace Oid4vc.Run

universe u v w

/-- What one input does to the state, and what it answers. -/
structure Machine (σ : Type u) (ι : Type v) (ο : Type w) where
  step : σ → ι → σ × ο

/-- One step of a run, as an observer with a view of the state records it. -/
structure Entry (σ : Type u) (ι : Type v) (ο : Type w) where
  before : σ
  input : ι
  answer : ο

variable {σ : Type u} {ι : Type v} {ο : Type w} (M : Machine σ ι ο)

def run : σ → List ι → σ
  | s, [] => s
  | s, i :: is => run (M.step s i).1 is

/-- The entry a step leaves in the log. -/
def entry (s : σ) (i : ι) : Entry σ ι ο := ⟨s, i, (M.step s i).2⟩

def log : σ → List ι → List (Entry σ ι ο)
  | _, [] => []
  | s, i :: is => entry M s i :: log (M.step s i).1 is

/-- Every step of the run meets `P`, a condition on the state before it and its input. -/
def Every (P : σ → ι → Prop) : σ → List ι → Prop
  | _, [] => True
  | s, i :: is => P s i ∧ Every P (M.step s i).1 is

@[simp] lemma run_nil (s : σ) : run M s [] = s := rfl
@[simp] lemma run_cons (s : σ) (i : ι) (is : List ι) :
    run M s (i :: is) = run M (M.step s i).1 is := rfl
@[simp] lemma log_nil (s : σ) : log M s [] = [] := rfl
@[simp] lemma log_cons (s : σ) (i : ι) (is : List ι) :
    log M s (i :: is) = entry M s i :: log M (M.step s i).1 is := rfl
@[simp] lemma every_nil (P : σ → ι → Prop) (s : σ) : Every M P s [] := trivial
@[simp] lemma every_cons (P : σ → ι → Prop) (s : σ) (i : ι) (is : List ι) :
    Every M P s (i :: is) ↔ P s i ∧ Every M P (M.step s i).1 is := Iff.rfl

lemma run_append (s : σ) (is js : List ι) : run M s (is ++ js) = run M (run M s is) js := by
  induction is generalizing s with
  | nil => rfl
  | cons i is ih => exact ih (M.step s i).1

lemma log_append (s : σ) (is js : List ι) :
    log M s (is ++ js) = log M s is ++ log M (run M s is) js := by
  induction is generalizing s with
  | nil => rfl
  | cons i is ih => simp [ih]

variable {M}

lemma every_true (s : σ) (is : List ι) : Every M (fun _ _ => True) s is := by
  induction is generalizing s with
  | nil => trivial
  | cons i is ih => exact ⟨trivial, ih _⟩

lemma every_append (P : σ → ι → Prop) (s : σ) (is js : List ι) :
    Every M P s (is ++ js) ↔ Every M P s is ∧ Every M P (run M s is) js := by
  induction is generalizing s with
  | nil => simp
  | cons i is ih => simp only [List.cons_append, every_cons, run_cons, ih, and_assoc]

lemma Every.mono {P Q : σ → ι → Prop} (hPQ : ∀ s i, P s i → Q s i) {s : σ} {is : List ι}
    (h : Every M P s is) : Every M Q s is := by
  induction is generalizing s with
  | nil => trivial
  | cons i is ih => exact ⟨hPQ s i h.1, ih h.2⟩

/-- **The run rule.** What every step that meets `P` preserves, a run of such steps
preserves. -/
theorem run_inv {P : σ → ι → Prop} {Inv : σ → Prop}
    (hstep : ∀ s i, Inv s → P s i → Inv (M.step s i).1) {s : σ} {is : List ι}
    (hs : Inv s) (hP : Every M P s is) : Inv (run M s is) := by
  induction is generalizing s with
  | nil => exact hs
  | cons i is ih => exact ih (hstep s i hs hP.1) hP.2

/-- **The history rule.** An invariant between the log so far and the state that every
step keeps, once it has added its entry, holds after every run. -/
theorem log_inv {P : σ → ι → Prop} {Inv : List (Entry σ ι ο) → σ → Prop}
    (hstep : ∀ l s i, Inv l s → P s i → Inv (l ++ [entry M s i]) (M.step s i).1)
    {s : σ} {is : List ι} (hs : Inv [] s) (hP : Every M P s is) :
    Inv (log M s is) (run M s is) := by
  suffices h : ∀ l, Inv l s → Inv (l ++ log M s is) (run M s is) by simpa using h [] hs
  clear hs
  induction is generalizing s with
  | nil => intro l hl; simpa using hl
  | cons i is ih =>
    intro l hl
    have := ih hP.2 (l ++ [entry M s i]) (hstep l s i hl hP.1)
    simpa using this

/-- A log that is split at an entry splits the run at the step that left it. -/
lemma exists_split_of_log {s : σ} {is : List ι} {l l' : List (Entry σ ι ο)} {e : Entry σ ι ο}
    (h : log M s is = l ++ e :: l') :
    ∃ as i bs, is = as ++ i :: bs ∧ l = log M s as ∧ e = entry M (run M s as) i := by
  induction is generalizing s l with
  | nil => simp at h
  | cons i is ih =>
    cases l with
    | nil =>
      rw [log_cons, List.nil_append, List.cons.injEq] at h
      exact ⟨[], i, is, rfl, rfl, h.1.symm⟩
    | cons e' l =>
      rw [log_cons, List.cons_append, List.cons.injEq] at h
      obtain ⟨rfl, h⟩ := h
      obtain ⟨as, j, bs, rfl, rfl, rfl⟩ := ih h
      exact ⟨i :: as, j, bs, rfl, rfl, rfl⟩

lemma exists_split_of_mem_log {s : σ} {is : List ι} {e : Entry σ ι ο} (h : e ∈ log M s is) :
    ∃ as i bs, is = as ++ i :: bs ∧ e = entry M (run M s as) i := by
  obtain ⟨l, l', hlog⟩ := List.append_of_mem h
  obtain ⟨as, i, bs, his, -, he⟩ := exists_split_of_log hlog
  exact ⟨as, i, bs, his, he⟩

lemma input_mem_of_mem_log {s : σ} {is : List ι} {e : Entry σ ι ο} (h : e ∈ log M s is) :
    e.input ∈ is := by
  obtain ⟨as, i, bs, rfl, rfl⟩ := exists_split_of_mem_log h
  exact List.mem_append_right _ List.mem_cons_self

/-- What holds of every entry of the log, each step of the run leaves. -/
lemma forall_mem_log_iff {P : Entry σ ι ο → Prop} {s : σ} {is : List ι} :
    (∀ e ∈ log M s is, P e) ↔ ∀ as i bs, is = as ++ i :: bs → P (entry M (run M s as) i) := by
  constructor
  · rintro h as i bs rfl
    refine h _ ?_
    rw [log_append, log_cons]
    exact List.mem_append_right _ List.mem_cons_self
  · intro h e he
    obtain ⟨as, i, bs, his, rfl⟩ := exists_split_of_mem_log he
    exact h as i bs his

/-- What holds of every two entries of the log, every two steps of the run leave. -/
lemma pairwise_log_iff {R : Entry σ ι ο → Entry σ ι ο → Prop} {s : σ} {is : List ι} :
    (log M s is).Pairwise R ↔ ∀ as i bs j cs, is = as ++ i :: (bs ++ j :: cs) →
      R (entry M (run M s as) i) (entry M (run M (M.step (run M s as) i).1 bs) j) := by
  induction is generalizing s with
  | nil =>
    refine iff_of_true List.Pairwise.nil fun as i bs j cs his => ?_
    simp at his
  | cons i is ih =>
    rw [log_cons, List.pairwise_cons, forall_mem_log_iff, ih]
    constructor
    · rintro ⟨hhead, htail⟩ as i' bs j cs his
      cases as with
      | nil =>
        rw [List.nil_append, List.cons.injEq] at his
        obtain ⟨rfl, rfl⟩ := his
        exact hhead bs j cs rfl
      | cons a as =>
        rw [List.cons_append, List.cons.injEq] at his
        obtain ⟨rfl, rfl⟩ := his
        exact htail as i' bs j cs rfl
    · intro h
      refine ⟨fun bs j cs his => ?_, fun as i' bs j cs his => ?_⟩
      · exact h [] i bs j cs (by rw [his, List.nil_append])
      · exact h (i :: as) i' bs j cs (by rw [his, List.cons_append])

end Oid4vc.Run
