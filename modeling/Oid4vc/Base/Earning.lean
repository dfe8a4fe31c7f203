import Oid4vc.Base.Spending

/-!
What programs that interleave have gained, one resource after the other.

Where a program pays what it owes, it may owe one resource twice. Here it answers with all that it
has gained, in order; so whatever the interleaving, the answers share nothing, and none of them has
anything twice.
-/

namespace Oid4vc.Spending

open Oid4vc.Run Oid4vc.Atomic

variable {θ σ α β ρ ε : Type} {L : Ledger σ ρ} {C D : Calls σ}

namespace Ledger

variable (L : Ledger σ ρ)

/-- A program of such calls that has gained what it holds, one after the other, and answers what is
worth all that it holds by then, if its calls are answered as they are where the invariant holds. -/
inductive Earns (C : Calls σ) (worth : α → List ρ → Prop) : List ρ → Prog σ α → Prop
  | ret {held : List ρ} {a : α} (h : worth a held) : Earns C worth held (.ret a)
  | call {β : Type} {held : List ρ} {op : σ → β × σ} {k : β → Prog σ α} (gain : β → Option ρ)
    (hop : C β op) (hgain : L.Gains op gain)
    (hk : ∀ s, L.inv s → Earns C worth (held ++ (gain (op s).1).toList) (k (op s).1)) :
    Earns C worth held (.call op k)

end Ledger

section Earning

variable {worth : α → List ρ → Prop} {held : List ρ}

lemma earns_call {op : σ → β × σ} {k : β → Prog σ α} (hop : C β op)
    (hk : ∀ s, L.inv s → L.Earns C worth held (k (op s).1)) : L.Earns C worth held (.call op k) := by
  refine .call (fun _ => none) hop (fun _ _ _ h => by cases h) fun s hs => ?_
  rw [Option.toList_none, List.append_nil]
  exact hk s hs

lemma earns_of_within {p : Prog σ α} (h : Within C p) (hworth : ∀ a, worth a held) :
    L.Earns C worth held p := by
  induction h with
  | ret a => exact .ret (hworth a)
  | call hop _ ih => exact earns_call hop fun s _ => ih _

lemma Ledger.Earns.bind {worth' : β → List ρ → Prop} {f : α → Prog σ β} {p : Prog σ α}
    (h : L.Earns C worth held p)
    (hf : ∀ a held', worth a held' → L.Earns C worth' held' (f a)) :
    L.Earns C worth' held (p.bind f) := by
  induction h with
  | ret h => exact hf _ _ h
  | call gain hop hgain _ ih => exact .call gain hop hgain ih

lemma Within.bind_earns {worth' : β → List ρ → Prop} {f : α → Prog σ β} {p : Prog σ α}
    (h : Within C p) (hf : ∀ a, L.Earns C worth' held (f a)) : L.Earns C worth' held (p.bind f) := by
  induction h with
  | ret a => exact hf a
  | call hop _ ih => exact earns_call hop fun s _ => ih _

lemma Ledger.Earns.mono (hCD : ∀ β op, C β op → D β op) {worth' : α → List ρ → Prop}
    (hworth : ∀ a held', worth a held' → worth' a held') {p : Prog σ α}
    (h : L.Earns C worth held p) : L.Earns D worth' held p := by
  induction h with
  | ret h => exact .ret (hworth _ _ h)
  | call gain hop hgain _ ih => exact .call gain (hCD _ _ hop) hgain ih

end Earning

/-- The threads hold what is spent, each of them once, and no two of them the same. -/
structure Earning (L : Ledger σ ρ) (worth : θ → α → List ρ → Prop) (held : θ → List ρ)
    (p : Pool θ σ α) : Prop where
  inv : L.inv p.shared
  earns : ∀ t, L.Earns L.Keeps (worth t) (held t) (p.prog t)
  nodup : ∀ t, (held t).Nodup
  spent : ∀ t, ∀ r ∈ held t, L.spent p.shared r
  single : ∀ t u r, r ∈ held t → r ∈ held u → t = u

section Earning

variable {worth : θ → α → List ρ → Prop} {held : θ → List ρ} {p : Pool θ σ α}

lemma Earning.worth_of_answer (h : Earning L worth held p) {t : θ} {a : α}
    (ha : (p.prog t).answer = some a) : worth t a (held t) := by
  have hearns := h.earns t
  rw [Prog.eq_ret_of_answer ha] at hearns
  cases hearns with
  | ret hworth => exact hworth

variable [DecidableEq θ]

/-- **A step of a thread.** What it gains was unspent, so neither it nor anybody else holds it. -/
lemma Earning.advance (h : Earning L worth held p) (t : θ) :
    ∃ held', Earning L worth held' (p.advance t) := by
  have hearns := h.earns t
  cases hprog : p.prog t with
  | ret a =>
    rw [advance_of_ret hprog]
    exact ⟨held, h⟩
  | @call β op k =>
    rw [hprog] at hearns
    cases hearns with
    | call gain hkeeps hgain hk =>
      obtain ⟨hinv, hpermanent⟩ := hkeeps p.shared h.inv
      have hgained := hgain p.shared h.inv
      set new := (gain (op p.shared).1).toList with hnew
      have hfresh : ∀ r ∈ new, ¬ L.spent p.shared r ∧ L.spent (op p.shared).2 r :=
        fun r hr => hgained r (Option.mem_toList.mp hr)
      have hself : Function.update held t (held t ++ new) t = held t ++ new := Function.update_self t _ _
      have hother : ∀ u, u ≠ t → Function.update held t (held t ++ new) u = held u := fun u hu =>
        Function.update_of_ne hu _ _
      -- what a thread holds it held before, or `t` has just gained it
      have hcases : ∀ u r, r ∈ Function.update held t (held t ++ new) u →
          r ∈ held u ∨ (u = t ∧ r ∈ new) := by
        intro u r hr
        by_cases hut : u = t
        · rw [hut, hself, List.mem_append] at hr
          rw [hut]
          exact hr.imp_right fun hr => ⟨rfl, hr⟩
        · rw [hother u hut] at hr
          exact Or.inl hr
      refine ⟨Function.update held t (held t ++ new), ?_, fun u => ?_, fun u => ?_, fun u r hr => ?_,
        fun u v r hu hv => ?_⟩
      · rw [advance_shared hprog]
        exact hinv
      · by_cases hut : u = t
        · rw [hut, hself, advance_prog_self hprog]
          exact hk p.shared h.inv
        · rw [hother u hut, advance_prog_of_ne p hut]
          exact h.earns u
      · by_cases hut : u = t
        · have hnodup : new.Nodup := by
            rw [hnew]
            cases gain (op p.shared).1 <;> simp
          rw [hut, hself]
          refine List.nodup_append.mpr ⟨h.nodup t, hnodup, fun r hr r' hr' hsame => ?_⟩
          rw [← hsame] at hr'
          exact (hfresh r hr').1 (h.spent t r hr)
        · rw [hother u hut]
          exact h.nodup u
      · rw [advance_shared hprog]
        rcases hcases u r hr with hr | ⟨-, hr⟩
        · exact hpermanent r (h.spent u r hr)
        · exact (hfresh r hr).2
      · -- two threads with one resource: what is new was unspent, what is old was not
        rcases hcases u r hu with hold | ⟨hut, hnew⟩
        · rcases hcases v r hv with hold' | ⟨-, hnew'⟩
          · exact h.single u v r hold hold'
          · exact absurd (h.spent u r hold) (hfresh r hnew').1
        · rcases hcases v r hv with hold' | ⟨hvt, -⟩
          · exact absurd (h.spent v r hold') (hfresh r hnew).1
          · rw [hut, hvt]

variable {act : ε → σ → σ}

/-- **Threads go on earning**, each for itself. -/
theorem Earning.run (hact : ∀ e s, L.inv s → L.inv (act e s) ∧ ∀ r, L.spent s r → L.spent (act e s) r)
    (h : Earning L worth held p) (events : List (Event θ ε)) :
    ∃ held', Earning L worth held' (run (machine θ σ α act) p events) := by
  have hstep : ∀ (q : Pool θ σ α) (e : Event θ ε), (∃ held', Earning L worth held' q) → True →
      ∃ held', Earning L worth held' ((machine θ σ α act).step q e).1 := by
    rintro q e ⟨held', hq⟩ -
    cases e with
    | thread t => exact hq.advance t
    | outside e =>
      obtain ⟨hinv, hpermanent⟩ := hact e q.shared hq.inv
      exact ⟨held', hinv, hq.earns, hq.nodup, fun t r hr => hpermanent r (hq.spent t r hr), hq.single⟩
  exact run_inv hstep ⟨held, h⟩ (every_true p events)

end Earning

end Oid4vc.Spending
