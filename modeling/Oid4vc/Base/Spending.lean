import Oid4vc.Base.Atomic

/-!
What programs that interleave can get only once.

A ledger says which resources the shared state shows as spent. A call that gains a resource finds
it unspent and leaves it spent, and no call makes a spent resource unspent; so, whatever the
interleaving, no two threads gain the same one. A program pays what it owes if it has gained,
by the time it answers, all that its answer is worth.
-/

namespace Oid4vc.Spending

open Oid4vc.Run Oid4vc.Atomic

/-- The invariant of the shared state, and what is spent in it. -/
structure Ledger (σ ρ : Type) where
  inv : σ → Prop
  spent : σ → ρ → Prop

variable {θ σ α β ρ ε : Type}

abbrev Calls (σ : Type) := ∀ β : Type, (σ → β × σ) → Prop

/-- Every call that the program can make is of this kind. -/
inductive Within (C : Calls σ) : Prog σ α → Prop
  | ret (a : α) : Within C (.ret a)
  | call {β : Type} {op : σ → β × σ} {k : β → Prog σ α} (hop : C β op)
    (hk : ∀ b, Within C (k b)) : Within C (.call op k)

namespace Ledger

variable (L : Ledger σ ρ)

/-- The call keeps the invariant, and spends nothing back. -/
def Keeps (β : Type) (op : σ → β × σ) : Prop :=
  ∀ s, L.inv s → L.inv (op s).2 ∧ ∀ r, L.spent s r → L.spent (op s).2 r

/-- What a call that is answered so has gained was unspent, and is spent now. -/
def Gains (op : σ → β × σ) (gain : β → Option ρ) : Prop :=
  ∀ s, L.inv s → ∀ r, gain (op s).1 = some r → ¬ L.spent s r ∧ L.spent (op s).2 r

/-- A program of such calls that has gained what it holds, and by the time that it answers holds
what it owes for the answer. -/
inductive Pays (C : Calls σ) (owes : α → ρ → Prop) : (ρ → Prop) → Prog σ α → Prop
  | ret {held : ρ → Prop} {a : α} (h : ∀ r, owes a r → held r) : Pays C owes held (.ret a)
  | call {β : Type} {held : ρ → Prop} {op : σ → β × σ} {k : β → Prog σ α} (gain : β → Option ρ)
    (hop : C β op) (hgain : L.Gains op gain)
    (hk : ∀ b, Pays C owes (fun r => gain b = some r ∨ held r) (k b)) : Pays C owes held (.call op k)

end Ledger

variable {L : Ledger σ ρ} {C D : Calls σ} {owes : α → ρ → Prop} {held : ρ → Prop}

/-! ### Kinds of calls -/

lemma Within.mono (hCD : ∀ β op, C β op → D β op) {p : Prog σ α} (h : Within C p) : Within D p := by
  induction h with
  | ret a => exact .ret a
  | call hop _ ih => exact .call (hCD _ _ hop) ih

lemma Within.and {p : Prog σ α} (h : Within C p) (h' : Within D p) :
    Within (fun β op => C β op ∧ D β op) p := by
  induction h with
  | ret a => exact .ret a
  | call hop _ ih =>
    cases h' with
    | call hop' hk' => exact .call ⟨hop, hop'⟩ fun b => ih b (hk' b)

lemma Within.bind {p : Prog σ α} {f : α → Prog σ β} (h : Within C p) (hf : ∀ a, Within C (f a)) :
    Within C (p.bind f) := by
  induction h with
  | ret a => exact hf a
  | call hop _ ih => exact .call hop ih

lemma Within.zoom {τ : Type} {get : τ → σ} {set : τ → σ → τ} {E : Calls τ}
    (hCE : ∀ β op, C β op → E β (Prog.through get set op)) {p : Prog σ α} (h : Within C p) :
    Within E (p.zoom get set) := by
  induction h with
  | ret a => exact .ret a
  | call hop _ ih => exact .call (hCE _ _ hop) ih

lemma Ledger.Pays.mono (hCD : ∀ β op, C β op → D β op) {p : Prog σ α} (h : L.Pays C owes held p) :
    L.Pays D owes held p := by
  induction h with
  | ret h => exact .ret h
  | call gain hop hgain _ ih => exact .call gain (hCD _ _ hop) hgain ih

lemma Ledger.Pays.within {p : Prog σ α} (h : L.Pays C owes held p) : Within C p := by
  induction h with
  | ret h => exact .ret _
  | call gain hop hgain _ ih => exact .call hop ih

lemma pays_of_within {p : Prog σ α} (h : Within C p) (howes : ∀ a r, owes a r → held r) :
    L.Pays C owes held p := by
  induction h generalizing held with
  | ret a => exact .ret (howes a)
  | call hop _ ih =>
    refine .call (fun _ => none) hop (fun _ _ _ h => by cases h) fun b => ih b fun a r h => ?_
    exact Or.inr (howes a r h)

lemma Ledger.Pays.weaken {p : Prog σ α} (h : L.Pays C owes held p) {held' : ρ → Prop}
    (hheld : ∀ r, held r → held' r) : L.Pays C owes held' p := by
  induction h generalizing held' with
  | ret h => exact .ret fun r hr => hheld r (h r hr)
  | call gain hop hgain _ ih =>
    exact .call gain hop hgain fun b => ih b fun r hr => hr.imp_right (hheld r)

lemma pays_call {op : σ → β × σ} {k : β → Prog σ α} (hop : C β op)
    (hk : ∀ b, L.Pays C owes held (k b)) : L.Pays C owes held (.call op k) :=
  .call (fun _ => none) hop (fun _ _ _ h => by cases h) fun b =>
    (hk b).weaken fun _ hr => Or.inr hr

lemma Ledger.Pays.map {f : α → β} {owes' : β → ρ → Prop} (howes : ∀ a r, owes' (f a) r → owes a r)
    {p : Prog σ α} (h : L.Pays C owes held p) :
    L.Pays C owes' held (p.bind fun a => .ret (f a)) := by
  induction h with
  | ret h => exact .ret fun r hr => h r (howes _ r hr)
  | call gain hop hgain _ ih => exact .call gain hop hgain ih

/-! ### Threads -/

/-- The threads hold what is spent, no two of them the same; and they pay what they owe. -/
structure Settled (L : Ledger σ ρ) (owes : θ → α → ρ → Prop) (held : θ → ρ → Prop)
    (p : Pool θ σ α) : Prop where
  inv : L.inv p.shared
  pays : ∀ t, L.Pays L.Keeps (owes t) (held t) (p.prog t)
  spent : ∀ t r, held t r → L.spent p.shared r
  single : ∀ t u r, held t r → held u r → t = u

variable {owes : θ → α → ρ → Prop} {held : θ → ρ → Prop} {p : Pool θ σ α}

/-- What a thread owes for its answer is spent, and it is the only one. -/
theorem Settled.paid (h : Settled L owes held p) {t : θ} {a : α} {r : ρ}
    (ha : (p.prog t).answer = some a) (hr : owes t a r) : held t r ∧ L.spent p.shared r := by
  have hpays := h.pays t
  rw [Prog.eq_ret_of_answer ha] at hpays
  cases hpays with
  | ret howes => exact ⟨howes r hr, h.spent t r (howes r hr)⟩

/-- **At most once.** No two threads answer with what is worth the same resource. -/
theorem Settled.eq_of_owes (h : Settled L owes held p) {t u : θ} {a b : α} {r : ρ}
    (ha : (p.prog t).answer = some a) (hb : (p.prog u).answer = some b) (hr : owes t a r)
    (hr' : owes u b r) : t = u :=
  h.single t u r (h.paid ha hr).1 (h.paid hb hr').1

variable [DecidableEq θ]

/-- A step of a program of this kind is a call of this kind, if it has not answered. -/
lemma Within.advance {t : θ} (h : Within C (p.prog t)) :
    Within C ((p.advance t).prog t) ∧ ((p.advance t).shared = p.shared ∨
      ∃ (β : Type) (op : σ → β × σ), C β op ∧ (p.advance t).shared = (op p.shared).2) := by
  cases hprog : p.prog t with
  | ret a =>
    rw [advance_of_ret hprog, hprog]
    exact ⟨.ret a, Or.inl rfl⟩
  | @call β op k =>
    rw [hprog] at h
    cases h with
    | call hop hk =>
      rw [advance_prog_self hprog, advance_shared hprog]
      exact ⟨hk _, Or.inr ⟨β, op, hop, rfl⟩⟩

/-- **A step of a thread.** What it gains was unspent, so nobody else holds it. -/
lemma Settled.advance (h : Settled L owes held p) (t : θ) :
    ∃ held', Settled L owes held' (p.advance t) := by
  have hpays := h.pays t
  cases hprog : p.prog t with
  | ret a =>
    rw [advance_of_ret hprog]
    exact ⟨held, h⟩
  | @call β op k =>
    rw [hprog] at hpays
    cases hpays with
    | call gain hkeeps hgain hk =>
      obtain ⟨hinv, hpermanent⟩ := hkeeps p.shared h.inv
      have hgained := hgain p.shared h.inv
      let new : ρ → Prop := fun r => gain (op p.shared).1 = some r
      refine ⟨fun u r => (u = t ∧ new r) ∨ held u r, ?_, fun u => ?_, fun u r hu => ?_,
        fun u v r hu hv => ?_⟩
      · rw [advance_shared hprog]
        exact hinv
      · by_cases hut : u = t
        · rw [hut, advance_prog_self hprog]
          exact (hk _).weaken fun r hr => hr.imp_left fun hnew => ⟨rfl, hnew⟩
        · rw [advance_prog_of_ne p hut]
          exact (h.pays u).weaken fun r hr => Or.inr hr
      · rw [advance_shared hprog]
        rcases hu with ⟨-, hnew⟩ | hold
        · exact (hgained r hnew).2
        · exact hpermanent r (h.spent u r hold)
      · -- two threads with one resource: what is new was unspent, what is old was not
        rcases hu with ⟨rfl, hnew⟩ | hold
        · rcases hv with ⟨rfl, -⟩ | hold'
          · rfl
          · exact absurd (h.spent v r hold') (hgained r hnew).1
        · rcases hv with ⟨rfl, hnew'⟩ | hold'
          · exact absurd (h.spent u r hold) (hgained r hnew').1
          · exact h.single u v r hold hold'

lemma Settled.spent_advance (h : Settled L owes held p) (t : θ) {r : ρ} (hr : L.spent p.shared r) :
    L.spent (p.advance t).shared r := by
  have hpays := h.pays t
  cases hprog : p.prog t with
  | ret a =>
    rw [advance_of_ret hprog]
    exact hr
  | @call β op k =>
    rw [hprog] at hpays
    cases hpays with
    | call gain hkeeps hgain hk =>
      rw [advance_shared hprog]
      exact (hkeeps p.shared h.inv).2 r hr

variable {act : ε → σ → σ}

/-- **Settled threads stay settled**, and what is spent stays spent. -/
theorem Settled.run (hact : ∀ e s, L.inv s → L.inv (act e s) ∧ ∀ r, L.spent s r → L.spent (act e s) r)
    (h : Settled L owes held p) (events : List (Event θ ε)) :
    (∃ held', Settled L owes held' (run (machine θ σ α act) p events)) ∧
      ∀ r, L.spent p.shared r → L.spent (run (machine θ σ α act) p events).shared r := by
  have hstep : ∀ (q : Pool θ σ α) (e : Event θ ε),
      ((∃ held', Settled L owes held' q) ∧ ∀ r, L.spent p.shared r → L.spent q.shared r) → True →
      (∃ held', Settled L owes held' ((machine θ σ α act).step q e).1) ∧
        ∀ r, L.spent p.shared r → L.spent ((machine θ σ α act).step q e).1.shared r := by
    rintro q e ⟨⟨held', hq⟩, hspent⟩ -
    cases e with
    | thread t => exact ⟨hq.advance t, fun r hr => hq.spent_advance t (hspent r hr)⟩
    | outside e =>
      obtain ⟨hinv, hpermanent⟩ := hact e q.shared hq.inv
      exact ⟨⟨held', hinv, hq.pays, fun t r hr => hpermanent r (hq.spent t r hr), hq.single⟩,
        fun r hr => hpermanent r (hspent r hr)⟩
  exact run_inv hstep ⟨⟨held, h⟩, fun _ hr => hr⟩ (every_true p events)

end Oid4vc.Spending
