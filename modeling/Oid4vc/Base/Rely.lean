import Oid4vc.Base.Spending

/-!
Rely and guarantee: what a thread counts on while others run, and what they count on from it.

An outline puts an assertion before each call of a program. The assertion survives whatever the
others do, the call does what the thread guarantees, and the answer is as promised, and stays so.
Threads that guarantee what the others rely on keep their outlines in every run.
-/

namespace Oid4vc.Rely

open Oid4vc.Run Oid4vc.Atomic Oid4vc.Spending

variable {θ σ τ α β ε : Type}

/-- The assertion survives what the others do. -/
def Stable (rely : σ → σ → Prop) (P : σ → Prop) : Prop := ∀ s s', rely s s' → P s → P s'

/-- A proof outline of a program that starts where the first assertion holds. -/
inductive Outline (rely guar : σ → σ → Prop) (Q : α → σ → Prop) : (σ → Prop) → Prog σ α → Prop
  | ret {P : σ → Prop} {a : α} (hP : ∀ s, P s → Q a s) (hQ : Stable rely (Q a)) :
    Outline rely guar Q P (.ret a)
  | call {P : σ → Prop} {β : Type} {op : σ → β × σ} {k : β → Prog σ α} (before : σ → Prop)
    (after : β → σ → Prop) (hP : ∀ s, P s → before s) (hstable : Stable rely before)
    (hguar : ∀ s, before s → guar s (op s).2) (hop : ∀ s, before s → after (op s).1 (op s).2)
    (hk : ∀ b, (∃ s, before s ∧ (op s).1 = b) → Outline rely guar Q (after b) (k b)) :
    Outline rely guar Q P (.call op k)

/-- The program stands where an outline of it says. -/
def Stands (rely guar : σ → σ → Prop) (Q : α → σ → Prop) (s : σ) (p : Prog σ α) : Prop :=
  ∃ P : σ → Prop, P s ∧ Outline rely guar Q P p

/-- A program that makes no more calls than these. -/
inductive Bounded : ℕ → Prog σ α → Prop
  | ret (n : ℕ) (a : α) : Bounded n (.ret a)
  | call {n : ℕ} {β : Type} {op : σ → β × σ} {k : β → Prog σ α} (hk : ∀ b, Bounded n (k b)) :
    Bounded (n + 1) (.call op k)

/-- How often it is this thread's turn. -/
def turns [DecidableEq θ] (t : θ) : List (Event θ ε) → ℕ
  | [] => 0
  | .thread u :: events => (if u = t then 1 else 0) + turns t events
  | .outside _ :: events => turns t events

variable {rely guar : σ → σ → Prop} {Q : α → σ → Prop} {P : σ → Prop} {p : Prog σ α}

/-! ### Outlines -/

lemma stable_const (c : Prop) : Stable rely fun _ => c := fun _ _ _ h => h

lemma Outline.strengthen (h : Outline rely guar Q P p) {P' : σ → Prop} (hP : ∀ s, P' s → P s) :
    Outline rely guar Q P' p := by
  cases h with
  | ret hQ hstable => exact .ret (fun s hs => hQ s (hP s hs)) hstable
  | call before after hbefore hstable hguar hop hk =>
    exact .call before after (fun s hs => hbefore s (hP s hs)) hstable hguar hop hk

lemma outline_ret {a : α} (h : ∀ s, Q a s) : Outline rely guar Q P (.ret a) :=
  .ret (fun s _ => h s) fun _ s' _ _ => h s'

lemma outline_read {op : σ → β × σ} {k : β → Prog σ α} (hsame : ∀ s, (op s).2 = s)
    (hguar : ∀ s, guar s s) (hP : Stable rely P)
    (hk : ∀ s, P s → Outline rely guar Q P (k (op s).1)) : Outline rely guar Q P (.call op k) := by
  refine .call P (fun _ => P) (fun _ h => h) hP (fun s _ => ?_) (fun s hs => ?_) ?_
  · rw [hsame]
    exact hguar s
  · rw [hsame]
    exact hs
  · rintro b ⟨s, hs, rfl⟩
    exact hk s hs

lemma Outline.bind {Q' : β → σ → Prop} {f : α → Prog σ β} (h : Outline rely guar Q P p)
    (hf : ∀ a, Outline rely guar Q' (Q a) (f a)) : Outline rely guar Q' P (p.bind f) := by
  induction h with
  | @ret P a hQ hstable => exact (hf a).strengthen hQ
  | call before after hbefore hstable hguar hop _ ih =>
    exact .call before after hbefore hstable hguar hop ih

/-- A program of calls of a kind that is guaranteed, which promises no more than what they keep. -/
lemma outline_of_within {C : Calls σ} (h : Within C p) (hP : Stable rely P)
    (hguar : ∀ β op, C β op → ∀ s, P s → guar s (op s).2)
    (hkeeps : ∀ β op, C β op → ∀ s, P s → P (op s).2) :
    Outline rely guar (fun _ => P) P p := by
  induction h with
  | ret a => exact .ret (fun _ h => h) hP
  | call hop _ ih =>
    exact .call P (fun _ => P) (fun _ h => h) hP (hguar _ _ hop) (hkeeps _ _ hop) fun b _ => ih b

lemma Bounded.mono {m n : ℕ} (h : Bounded m p) (hmn : m ≤ n) : Bounded n p := by
  induction h generalizing n with
  | ret _ a => exact .ret n a
  | call _ ih =>
    obtain ⟨n, rfl⟩ : ∃ n', n = n' + 1 := ⟨n - 1, by omega⟩
    exact .call fun b => ih b (by omega)

/-! ### Threads -/

lemma Stands.others {s s' : σ} (h : Stands rely guar Q s p) (hrely : rely s s') :
    Stands rely guar Q s' p := by
  obtain ⟨P, hs, houtline⟩ := h
  cases houtline with
  | @ret _ a hQ hstable =>
    exact ⟨Q a, hstable s s' hrely (hQ s hs), .ret (fun _ h => h) hstable⟩
  | call before after hbefore hstable hguar hop hk =>
    exact ⟨before, hstable s s' hrely (hbefore s hs),
      .call before after (fun _ h => h) hstable hguar hop hk⟩

lemma Stands.call {op : σ → β × σ} {k : β → Prog σ α} {s : σ}
    (h : Stands rely guar Q s (.call op k)) :
    guar s (op s).2 ∧ Stands rely guar Q (op s).2 (k (op s).1) := by
  obtain ⟨P, hs, houtline⟩ := h
  cases houtline with
  | call before after hbefore hstable hguar hop hk =>
    have hs := hbefore s hs
    exact ⟨hguar s hs, after _, hop s hs, hk _ ⟨s, hs, rfl⟩⟩

lemma Stands.answered {s : σ} {a : α} (h : Stands rely guar Q s p) (ha : p.answer = some a) :
    Q a s := by
  rw [Prog.eq_ret_of_answer ha] at h
  obtain ⟨P, hs, houtline⟩ := h
  cases houtline with
  | ret hQ _ => exact hQ s hs

section Threads

variable [DecidableEq θ] {relies guars : θ → σ → σ → Prop} {Qs : θ → α → σ → Prop}
  {act : ε → σ → σ} {pool : Pool θ σ α}

/-- Threads that guarantee what the others rely on. -/
def Compatible (relies guars : θ → σ → σ → Prop) : Prop :=
  ∀ t u, t ≠ u → ∀ s s', guars u s s' → relies t s s'

/-- What happens next is relied on, if it is the outside that acts. -/
def ActsAsRelied (rely : σ → σ → Prop) (act : ε → σ → σ) (pool : Pool θ σ α) (event : Event θ ε) :
    Prop :=
  ∀ e, event = .outside e → rely pool.shared (act e pool.shared)

/-- Every thread stands where its outline says. -/
def AllStand (relies guars : θ → σ → σ → Prop) (Qs : θ → α → σ → Prop) (pool : Pool θ σ α) :
    Prop :=
  ∀ t, Stands (relies t) (guars t) (Qs t) pool.shared (pool.prog t)

lemma AllStand.advance (hcompatible : Compatible relies guars)
    (h : AllStand relies guars Qs pool) (u : θ) : AllStand relies guars Qs (pool.advance u) := by
  cases hu : pool.prog u with
  | ret a => rwa [advance_of_ret hu]
  | call op k =>
    have hself := h u
    rw [hu] at hself
    obtain ⟨hguar, hnext⟩ := hself.call
    intro t
    rw [advance_shared hu]
    by_cases ht : t = u
    · rw [ht, advance_prog_self hu]
      exact hnext
    · rw [advance_prog_of_ne pool ht]
      exact (h t).others (hcompatible t u ht _ _ hguar)

/-- **The parallel rule.** In a run of threads that guarantee what the others rely on, every thread
stands where its outline says. -/
theorem run_allStand (hcompatible : Compatible relies guars) (h : AllStand relies guars Qs pool)
    {events : List (Event θ ε)}
    (hacts : Every (machine θ σ α act) (fun pool event => ∀ t, ActsAsRelied (relies t) act pool event)
      pool events) : AllStand relies guars Qs (run (machine θ σ α act) pool events) := by
  refine run_inv (fun pool event (h : AllStand relies guars Qs pool) hact => ?_) h hacts
  cases event with
  | thread u => exact h.advance hcompatible u
  | outside e => exact fun t => (h t).others (hact t e rfl)

/-- **A thread in focus.** It may rely on more than it does among the others, as long as those whose
turn comes guarantee it: then it stands where an outline of its own says. -/
theorem run_focused (hcompatible : Compatible relies guars) (h : AllStand relies guars Qs pool)
    {events : List (Event θ ε)}
    (hacts : Every (machine θ σ α act) (fun pool event => ∀ t, ActsAsRelied (relies t) act pool event)
      pool events) {t : θ} (hself : Stands rely (guars t) Q pool.shared (pool.prog t))
    (hothers : ∀ u, u ≠ t → .thread u ∈ events → ∀ s s', guars u s s' → rely s s')
    (hrelied : Every (machine θ σ α act) (ActsAsRelied rely act) pool events) :
    Stands rely (guars t) Q (run (machine θ σ α act) pool events).shared
      ((run (machine θ σ α act) pool events).prog t) := by
  induction events generalizing pool with
  | nil => exact hself
  | cons event events ih =>
    rw [run_cons]
    rw [every_cons] at hacts hrelied
    refine ih ?_ hacts.2 ?_ (fun u hu hmem => hothers u hu (List.mem_cons_of_mem _ hmem)) hrelied.2
    · cases event with
      | thread u => exact h.advance hcompatible u
      | outside e => exact fun u => (h u).others (hacts.1 u e rfl)
    · cases event with
      | outside e => exact hself.others (hrelied.1 e rfl)
      | thread u =>
        rw [step_thread]
        cases hprog : pool.prog u with
        | ret a => rwa [advance_of_ret hprog]
        | call op k =>
          rw [advance_shared hprog]
          -- its own step leads on in its outline, and those of the others are relied on
          by_cases hu : u = t
          · subst hu
            rw [hprog] at hself
            rw [advance_prog_self hprog]
            exact hself.call.2
          · have hguar := h u
            rw [hprog] at hguar
            rw [advance_prog_of_ne pool (Ne.symm hu)]
            exact hself.others (hothers u hu List.mem_cons_self _ _ hguar.call.1)

/-- What the outside keeps, and every thread whose turn comes, holds in the whole run. -/
lemma run_invariant {Inv : σ → Prop} (hcompatible : Compatible relies guars)
    (h : AllStand relies guars Qs pool) {events : List (Event θ ε)}
    (hacts : Every (machine θ σ α act) (fun pool event => ∀ t, ActsAsRelied (relies t) act pool event)
      pool events) (hguars : ∀ t, .thread t ∈ events → ∀ s s', guars t s s' → Inv s → Inv s')
    (hact : ∀ e s, Inv s → Inv (act e s)) (hinv : Inv pool.shared) :
    Inv (run (machine θ σ α act) pool events).shared := by
  induction events generalizing pool with
  | nil => exact hinv
  | cons event events ih =>
    rw [run_cons]
    rw [every_cons] at hacts
    have hrest := fun t hmem => hguars t (List.mem_cons_of_mem event hmem)
    cases event with
    | outside e => exact ih (fun t => (h t).others (hacts.1 t e rfl)) hacts.2 hrest (hact e _ hinv)
    | thread u =>
      refine ih (h.advance hcompatible u) hacts.2 hrest ?_
      rw [step_thread]
      cases hprog : pool.prog u with
      | ret a => rwa [advance_of_ret hprog]
      | call op k =>
        have hstands := h u
        rw [hprog] at hstands
        rw [advance_shared hprog]
        exact hguars u List.mem_cons_self _ _ hstands.call.1 hinv

lemma advance_of_read {t : θ} {op : σ → β × σ} {k : β → Prog σ α} (h : pool.prog t = .call op k)
    (hsame : (op pool.shared).2 = pool.shared) :
    pool.advance t = ⟨pool.shared, Function.update pool.prog t (k (op pool.shared).1)⟩ := by
  rw [advance_of_call h, hsame]

lemma run_prog_of_not_mem {t : θ} {events : List (Event θ ε)} (h : .thread t ∉ events) :
    (run (machine θ σ α act) pool events).prog t = pool.prog t := by
  induction events generalizing pool with
  | nil => rfl
  | cons event events ih =>
    rw [List.mem_cons, not_or] at h
    rw [run_cons, ih h.2]
    cases event with
    | outside e => rfl
    | thread u => exact advance_prog_of_ne pool fun heq => h.1 (by rw [heq])

lemma answer_run {t : θ} {a : α} (h : (pool.prog t).answer = some a) (events : List (Event θ ε)) :
    ((run (machine θ σ α act) pool events).prog t).answer = some a := by
  induction events generalizing pool with
  | nil => exact h
  | cons event events ih =>
    rw [run_cons]
    refine ih ?_
    cases event with
    | outside e => exact h
    | thread u => exact answer_advance u h

lemma turns_replicate (t : θ) (n : ℕ) : turns t (List.replicate n (.thread t : Event θ ε)) = n := by
  induction n with
  | zero => rfl
  | succ n ih =>
    rw [List.replicate_succ, turns, ih, if_pos rfl, Nat.add_comm]

lemma turns_pos {t : θ} {events : List (Event θ ε)} (h : .thread t ∈ events) : 1 ≤ turns t events := by
  induction events with
  | nil => cases h
  | cons event events ih =>
    rcases List.mem_cons.mp h with rfl | h
    · simp only [turns, if_true]
      omega
    · have := ih h
      cases event with
      | outside e => exact this
      | thread u =>
        rw [turns]
        omega

/-- **Everyone's turn comes.** A thread that had as many turns as it makes calls has answered. -/
theorem answered_of_turns {t : θ} {n : ℕ} (h : Bounded n (pool.prog t))
    {events : List (Event θ ε)} (hturns : n ≤ turns t events) :
    ∃ a, ((run (machine θ σ α act) pool events).prog t).answer = some a := by
  induction events generalizing n pool with
  | nil =>
    have hzero : n = 0 := Nat.le_zero.mp hturns
    rw [run_nil]
    generalize pool.prog t = p at h
    cases h with
    | ret _ a => exact ⟨a, rfl⟩
    | call _ => cases hzero
  | cons event events ih =>
    rw [run_cons]
    cases event with
    | outside e => exact ih h hturns
    | thread u =>
      rw [step_thread]
      by_cases hu : u = t
      · subst hu
        simp only [turns, if_true] at hturns
        generalize hp : pool.prog u = p at h
        cases h with
        | ret _ a =>
          rw [advance_of_ret hp]
          exact ih (by rw [hp]; exact .ret 0 a) (Nat.zero_le _)
        | call hk =>
          refine ih (by rw [advance_prog_self hp]; exact hk _) ?_
          omega
      · simp only [turns, if_neg hu, Nat.zero_add] at hturns
        exact ih (by rwa [advance_prog_of_ne pool (Ne.symm hu)]) hturns

end Threads

end Oid4vc.Rely
