import Oid4vc.Base.Run
import Mathlib.Logic.Function.Basic

/-!
Programs made of atomic calls on a shared state.

A program is its next call and what it does with the answer. Run on its own it takes the
state through all its calls (`exec`); in a pool, the calls of several programs interleave
in any order, and the outside may act on the state between any two of them. Both readings
are of one definition, so a function is written once and used sequentially and under
concurrency.
-/

namespace Oid4vc.Atomic

open Oid4vc.Run

/-- A program over the shared state `σ` that answers an `α`. -/
inductive Prog (σ : Type) (α : Type) : Type 1
  | ret (a : α)
  | call {β : Type} (op : σ → β × σ) (k : β → Prog σ α)

namespace Prog

variable {σ α β γ : Type}

/-- What a program does when nothing else runs. -/
def exec : Prog σ α → σ → α × σ
  | ret a, s => (a, s)
  | call op k, s => exec (k (op s).1) (op s).2

def bind : Prog σ α → (α → Prog σ β) → Prog σ β
  | ret a, f => f a
  | call op k, f => call op fun b => bind (k b) f

/-- The program that makes one call. -/
def lift (op : σ → α × σ) : Prog σ α := call op ret

/-- A call on a part of the state. -/
def through {τ : Type} (get : τ → σ) (set : τ → σ → τ) (op : σ → β × σ) (t : τ) : β × τ :=
  ((op (get t)).1, set t (op (get t)).2)

/-- The program on a part of the state. -/
def zoom {τ : Type} (get : τ → σ) (set : τ → σ → τ) : Prog σ α → Prog τ α
  | ret a => ret a
  | call op k => call (through get set op) fun b => zoom get set (k b)

@[simp] lemma exec_ret (a : α) (s : σ) : (ret a : Prog σ α).exec s = (a, s) := rfl
@[simp] lemma exec_call (op : σ → β × σ) (k : β → Prog σ α) (s : σ) :
    (call op k).exec s = (k (op s).1).exec (op s).2 := rfl
@[simp] lemma exec_lift (op : σ → α × σ) (s : σ) : (lift op).exec s = op s := rfl

@[simp] lemma exec_bind (p : Prog σ α) (f : α → Prog σ β) (s : σ) :
    (p.bind f).exec s = (f (p.exec s).1).exec (p.exec s).2 := by
  induction p generalizing s with
  | ret a => rfl
  | call op k ih => simp only [bind, exec_call, ih]

lemma exec_zoom {τ : Type} {get : τ → σ} {set : τ → σ → τ} (hget : ∀ t s, get (set t s) = s)
    (hset : ∀ t s s', set (set t s) s' = set t s') (hself : ∀ t, set t (get t) = t) (p : Prog σ α)
    (t : τ) : (p.zoom get set).exec t = ((p.exec (get t)).1, set t (p.exec (get t)).2) := by
  induction p generalizing t with
  | ret a => rw [zoom, exec_ret, exec_ret, hself]
  | call op k ih =>
    rw [zoom, exec_call, exec_call, ih]
    simp only [through, hget, hset]

/-- The answer of a program that has finished. -/
def answer : Prog σ α → Option α
  | ret a => some a
  | call _ _ => none

@[simp] lemma answer_ret (a : α) : (ret a : Prog σ α).answer = some a := rfl
@[simp] lemma answer_call (op : σ → β × σ) (k : β → Prog σ α) :
    (call op k : Prog σ α).answer = none := rfl

lemma eq_ret_of_answer {p : Prog σ α} {a : α} (h : p.answer = some a) : p = ret a := by
  cases p with
  | ret b => simp only [answer_ret, Option.some.injEq] at h; rw [h]
  | call op k => simp at h

end Prog

/-- Threads over one shared state, each with the program it has left. -/
structure Pool (θ : Type) (σ : Type) (α : Type) where
  shared : σ
  prog : θ → Prog σ α

/-- What happens next: a thread makes its next call, or the outside acts. -/
inductive Event (θ ε : Type)
  | thread (t : θ)
  | outside (e : ε)

variable {θ σ α ε : Type} [DecidableEq θ]

/-- One call of thread `t`; nothing if it has finished. -/
def Pool.advance (p : Pool θ σ α) (t : θ) : Pool θ σ α :=
  match p.prog t with
  | .ret _ => p
  | .call op k => ⟨(op p.shared).2, Function.update p.prog t (k (op p.shared).1)⟩

/-- The pool as a machine; `act` is what the outside can do to the shared state. -/
def machine (θ σ α : Type) [DecidableEq θ] (act : ε → σ → σ) :
    Machine (Pool θ σ α) (Event θ ε) Unit where
  step p e := match e with
    | .thread t => (p.advance t, ())
    | .outside e => ({ p with shared := act e p.shared }, ())

@[simp] lemma step_thread (act : ε → σ → σ) (p : Pool θ σ α) (t : θ) :
    ((machine θ σ α act).step p (.thread t)).1 = p.advance t := rfl
@[simp] lemma step_outside (act : ε → σ → σ) (p : Pool θ σ α) (e : ε) :
    ((machine θ σ α act).step p (.outside e)).1 = { p with shared := act e p.shared } := rfl

lemma advance_of_ret {p : Pool θ σ α} {t : θ} {a : α} (h : p.prog t = .ret a) :
    p.advance t = p := by
  unfold Pool.advance
  rw [h]

lemma advance_of_call {β : Type} {p : Pool θ σ α} {t : θ} {op : σ → β × σ}
    {k : β → Prog σ α} (h : p.prog t = .call op k) :
    p.advance t = ⟨(op p.shared).2, Function.update p.prog t (k (op p.shared).1)⟩ := by
  unfold Pool.advance
  rw [h]

lemma advance_prog_self {β : Type} {p : Pool θ σ α} {t : θ} {op : σ → β × σ}
    {k : β → Prog σ α} (h : p.prog t = .call op k) :
    (p.advance t).prog t = k (op p.shared).1 := by
  rw [advance_of_call h]
  exact Function.update_self t _ _

lemma advance_shared {β : Type} {p : Pool θ σ α} {t : θ} {op : σ → β × σ}
    {k : β → Prog σ α} (h : p.prog t = .call op k) :
    (p.advance t).shared = (op p.shared).2 := by
  rw [advance_of_call h]

lemma advance_prog_of_ne (p : Pool θ σ α) {t u : θ} (h : u ≠ t) :
    (p.advance t).prog u = p.prog u := by
  unfold Pool.advance
  split
  · rfl
  · exact Function.update_of_ne h _ _

/-- What a thread would answer on its own is what it would answer after its next call. -/
lemma exec_advance (p : Pool θ σ α) (t : θ) :
    ((p.advance t).prog t).exec (p.advance t).shared = (p.prog t).exec p.shared := by
  cases hp : p.prog t with
  | ret a => rw [advance_of_ret hp, hp]
  | call op k => rw [advance_prog_self hp, advance_shared hp, Prog.exec_call]

lemma answer_advance {p : Pool θ σ α} (t : θ) {u : θ} {a : α} (h : (p.prog u).answer = some a) :
    ((p.advance t).prog u).answer = some a := by
  by_cases hut : u = t
  · rw [← hut, advance_of_ret (Prog.eq_ret_of_answer h)]
    exact h
  · rw [advance_prog_of_ne p hut]
    exact h

lemma run_prog_of_ne (act : ε → σ → σ) (p : Pool θ σ α) {t u : θ} (h : u ≠ t) (n : ℕ) :
    (run (machine θ σ α act) p (List.replicate n (.thread t))).prog u = p.prog u := by
  induction n generalizing p with
  | zero => rfl
  | succ n ih =>
    rw [List.replicate_succ, run_cons, step_thread, ih, advance_prog_of_ne p h]

/-- **A thread alone.** Run for enough steps, a thread that nothing interferes with ends as
`exec` says. -/
theorem exec_alone (act : ε → σ → σ) (p : Pool θ σ α) (t : θ) :
    ∃ n, run (machine θ σ α act) p (List.replicate n (.thread t)) =
      ⟨((p.prog t).exec p.shared).2,
        Function.update p.prog t (.ret ((p.prog t).exec p.shared).1)⟩ := by
  obtain ⟨s, f⟩ := p
  suffices h : ∀ q s, f t = q → ∃ n, run (machine θ σ α act) ⟨s, f⟩ (List.replicate n (.thread t)) =
      ⟨(q.exec s).2, Function.update f t (.ret (q.exec s).1)⟩ from h (f t) s rfl
  intro q
  induction q generalizing f with
  | ret a =>
    intro s hq
    have hf : Function.update f t (.ret a) = f := by rw [← hq, Function.update_eq_self]
    exact ⟨0, by simp [hf]⟩
  | call op k ih =>
    intro s hq
    obtain ⟨n, hn⟩ := ih (op s).1 (Function.update f t (k (op s).1)) (op s).2 (by simp)
    refine ⟨n + 1, ?_⟩
    have hcall : (⟨s, f⟩ : Pool θ σ α).prog t = .call op k := hq
    rw [List.replicate_succ, run_cons, step_thread, advance_of_call hcall, hn]
    simp

end Oid4vc.Atomic
