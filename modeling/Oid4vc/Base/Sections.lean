import Oid4vc.Base.Atomic
import Oid4vc.Base.Locks

/-!
Critical sections of routines that take mutexes.

A section lasts from the mutex a routine takes while it holds none to the one it releases last. A
routine that releases nothing before its section has taken all that it needs might as well run the
section at once, when it takes its last mutex: whatever the other threads do meanwhile, they neither
see nor change what the routine has taken. So threads that run such routines are threads that make
atomic calls, one for each section.
-/

namespace Oid4vc.Sections

open Oid4vc.Run Oid4vc.Locks Oid4vc.Locks.Routine Oid4vc.Atomic

variable {θ μ σ α β : Type}

/-! ### What a mutex guards -/

/-- Two stores agree on what a mutex guards; if they do so for every mutex, they are the same. -/
structure Guard (μ σ : Type) where
  Agree : μ → σ → σ → Prop
  equivalence : ∀ m, Equivalence (Agree m)
  ext : ∀ {s s'}, (∀ m, Agree m s s') → s = s'

namespace Guard

variable (G : Guard μ σ)

/-- The stores agree on what all these mutexes guard. -/
def AgreeOn (held : List μ) (s s' : σ) : Prop := ∀ m ∈ held, G.Agree m s s'

variable {G} {held : List μ} {s s' s'' : σ}

lemma refl (m : μ) (s : σ) : G.Agree m s s := (G.equivalence m).refl s

lemma symm {m : μ} (h : G.Agree m s s') : G.Agree m s' s := (G.equivalence m).symm h

lemma trans {m : μ} (h : G.Agree m s s') (h' : G.Agree m s' s'') : G.Agree m s s'' :=
  (G.equivalence m).trans h h'

lemma AgreeOn.symm (h : G.AgreeOn held s s') : G.AgreeOn held s' s := fun m hm => G.symm (h m hm)

lemma AgreeOn.trans (h : G.AgreeOn held s s') (h' : G.AgreeOn held s' s'') :
    G.AgreeOn held s s'' := fun m hm => G.trans (h m hm) (h' m hm)

end Guard

variable [DecidableEq μ] {G : Guard μ σ} {E : μ → μ → Prop}

/-- The effect under the mutexes `held` changes and reads only what they guard. -/
structure Confined (G : Guard μ σ) (held : List μ) (effect : σ → σ) : Prop where
  frame : ∀ s m, m ∉ held → G.Agree m s (effect s)
  reads : ∀ s s', G.AgreeOn held s s' → G.AgreeOn held (effect s) (effect s')

/-- The routine reads and changes only what the mutexes that it holds guard. -/
def Keeps (G : Guard μ σ) : List μ → Routine μ σ α → Prop
  | _, ret _ => True
  | held, acquire m effect next => Confined G (m :: held) effect ∧
      (∀ s s', G.AgreeOn (m :: held) s s' → next s = next s') ∧ ∀ s, Keeps G (m :: held) (next s)
  | held, release m next => Keeps G (held.erase m) next

/-! ### Sections -/

/-- Run on until the mutexes held, `n` of them, are all released: what is left of the routine, and
the store. -/
def toEnd : ℕ → Routine μ σ α → σ → Routine μ σ α × σ
  | _, ret a, s => (ret a, s)
  | n, acquire _ effect next, s => toEnd (n + 1) (next s) (effect s)
  | 0, release _ next, s => toEnd 0 next s
  | 1, release _ next, s => (next, s)
  | n + 2, release _ next, s => toEnd (n + 1) next s

omit [DecidableEq μ] in
@[simp] lemma toEnd_ret (n : ℕ) (a : α) (s : σ) : toEnd n (ret a : Routine μ σ α) s = (ret a, s) := by
  unfold toEnd
  rfl

omit [DecidableEq μ] in
@[simp] lemma toEnd_acquire (n : ℕ) (m : μ) (effect : σ → σ) (next : σ → Routine μ σ α) (s : σ) :
    toEnd n (acquire m effect next) s = toEnd (n + 1) (next s) (effect s) := by
  conv_lhs => unfold toEnd

omit [DecidableEq μ] in
@[simp] lemma toEnd_release_last (m : μ) (next : Routine μ σ α) (s : σ) :
    toEnd 1 (release m next) s = (next, s) := by
  unfold toEnd
  rfl

omit [DecidableEq μ] in
@[simp] lemma toEnd_release (n : ℕ) (m : μ) (next : Routine μ σ α) (s : σ) :
    toEnd (n + 2) (release m next) s = toEnd (n + 1) next s := by
  conv_lhs => unfold toEnd

/-- Each call of the program is the next section of the routine. -/
def Implements : Prog σ α → Routine μ σ α → Prop
  | .ret a, r => r = ret a
  | .call op k, r => (∃ m effect next, r = acquire m effect next) ∧
      ∀ s, (toEnd 0 r s).2 = (op s).2 ∧ Implements (k (op s).1) (toEnd 0 r s).1

/-- On its way through a section that it began in the store `a`, the routine holds `held`: what is
left of it, and the store if nothing else has run. -/
inductive Into (a : σ) (r : Routine μ σ α) : List μ → Routine μ σ α → σ → Prop
  | start : Into a r [] r a
  | take {held : List μ} {m : μ} {effect : σ → σ} {next : σ → Routine μ σ α} {s : σ}
    (h : Into a r held (acquire m effect next) s) : Into a r (m :: held) (next s) (effect s)

section Into

variable {a a' s : σ} {r r' : Routine μ σ α} {held : List μ}

omit [DecidableEq μ] in
lemma Into.toEnd_eq (h : Into a r held r' s) : toEnd 0 r a = toEnd held.length r' s := by
  induction h with
  | start => rfl
  | take h ih => rw [ih, toEnd_acquire, List.length_cons]

omit [DecidableEq μ] in
lemma Into.of_nil (h : Into a r [] r' s) : r' = r ∧ s = a := by
  cases h
  exact ⟨rfl, rfl⟩

omit [DecidableEq μ] in
lemma Into.of_ret {b : α} (h : Into a (ret b) held r' s) : r' = ret b := by
  induction h with
  | start => rfl
  | take h ih => cases ih

lemma Into.frame (h : Into a r held r' s) (hkeeps : Keeps G [] r) :
    Keeps G held r' ∧ ∀ m, m ∉ held → G.Agree m a s := by
  induction h with
  | start => exact ⟨hkeeps, fun m _ => G.refl m a⟩
  | take h ih =>
    obtain ⟨⟨hconfined, hreads, hnext⟩, hframe⟩ := ih
    refine ⟨hnext _, fun m hm => ?_⟩
    exact G.trans (hframe m fun hin => hm (List.mem_cons_of_mem _ hin)) (hconfined.frame _ m hm)

/-- **A section does not see** what others do to what it does not hold. -/
lemma Into.congr (h : Into a r held r' s) (hkeeps : Keeps G [] r) (hagree : G.AgreeOn held a a') :
    ∃ s', Into a' r held r' s' ∧ G.AgreeOn held s s' := by
  induction h with
  | start => exact ⟨a', .start, fun m hm => absurd hm List.not_mem_nil⟩
  | @take held m effect next s h ih =>
    obtain ⟨s', hinto, hsame⟩ := ih fun k hk => hagree k (List.mem_cons_of_mem _ hk)
    obtain ⟨⟨hconfined, hreads, -⟩, hframe⟩ := h.frame hkeeps
    have hsame' : G.AgreeOn (m :: held) s s' := by
      intro k hk
      by_cases hin : k ∈ held
      · exact hsame k hin
      · -- nobody has touched it on either way
        have hback := (hinto.frame hkeeps).2 k hin
        exact G.trans (G.symm (hframe k hin)) (G.trans (hagree k hk) hback)
    refine ⟨effect s', ?_, hconfined.reads s s' hsame'⟩
    rw [hreads s s' hsame']
    exact .take hinto

end Into

/-! ### Threads that take mutexes -/

/-- Threads over a store, each with the routine it has left, and who holds which mutex. -/
structure Locked (θ μ σ α : Type) where
  store : σ
  holder : μ → Option θ
  routine : θ → Routine μ σ α

variable [DecidableEq θ]

/-- One step of a thread; nothing if it has finished or must wait. -/
def Locked.advance (c : Locked θ μ σ α) (t : θ) : Locked θ μ σ α :=
  match c.routine t with
  | .ret _ => c
  | .acquire m effect next =>
    match c.holder m with
    | some _ => c
    | none => ⟨effect c.store, Function.update c.holder m (some t),
        Function.update c.routine t (next c.store)⟩
  | .release m next => { c with
      holder := Function.update c.holder m none
      routine := Function.update c.routine t next }

/-- The threads as a machine: who goes next is its input. -/
def locked (θ μ σ α : Type) [DecidableEq θ] [DecidableEq μ] :
    Machine (Locked θ μ σ α) θ Unit where
  step c t := (c.advance t, ())

/-- The threads at the start: nobody holds anything. -/
def Locked.start (s : σ) (routine : θ → Routine μ σ α) : Locked θ μ σ α := ⟨s, fun _ => none, routine⟩

@[simp] lemma step_locked (c : Locked θ μ σ α) (t : θ) :
    ((locked θ μ σ α).step c t).1 = c.advance t := rfl

/-- What a step can do. -/
lemma advance_cases (c : Locked θ μ σ α) (t : θ) :
    c.advance t = c ∨
      (∃ m effect next, c.routine t = .acquire m effect next ∧ c.holder m = none ∧
        c.advance t = ⟨effect c.store, Function.update c.holder m (some t),
          Function.update c.routine t (next c.store)⟩) ∨
      ∃ m next, c.routine t = .release m next ∧
        c.advance t = ⟨c.store, Function.update c.holder m none,
          Function.update c.routine t next⟩ := by
  unfold Locked.advance
  cases hr : c.routine t with
  | ret a => exact Or.inl rfl
  | acquire m effect next =>
    cases hm : c.holder m with
    | none => exact Or.inr (Or.inl ⟨m, effect, next, rfl, hm, by simp only [hm]⟩)
    | some u => exact Or.inl (by simp only [hm])
  | release m next => exact Or.inr (Or.inr ⟨m, next, rfl, rfl⟩)

/-- Who holds what: each thread its list, each mutex once. -/
structure Owned (holder : μ → Option θ) (held : θ → List μ) : Prop where
  holder_iff : ∀ m t, holder m = some t ↔ m ∈ held t
  nodup : ∀ t, (held t).Nodup

section Owned

variable {holder : μ → Option θ} {held : θ → List μ} {m : μ} {t : θ}

omit [DecidableEq μ] [DecidableEq θ] in
lemma Owned.eq_of_mem (h : Owned holder held) {u : θ} (ht : m ∈ held t) (hu : m ∈ held u) : u = t := by
  have ht := (h.holder_iff m t).mpr ht
  rw [(h.holder_iff m u).mpr hu, Option.some.injEq] at ht
  exact ht

omit [DecidableEq μ] [DecidableEq θ] in
lemma Owned.not_mem_of_free (h : Owned holder held) (hm : holder m = none) (u : θ) : m ∉ held u := by
  intro hin
  rw [(h.holder_iff m u).mpr hin] at hm
  cases hm

/-- Taking a free mutex. -/
lemma Owned.take (h : Owned holder held) (hm : holder m = none) (t : θ) :
    Owned (Function.update holder m (some t)) (Function.update held t (m :: held t)) where
  holder_iff m' u := by
    have hfree := h.not_mem_of_free hm
    have hheld := h.holder_iff m' u
    rcases eq_or_ne m' m with rfl | hm'
    · rcases eq_or_ne u t with rfl | hu
      · simp
      · simp [Function.update_of_ne hu, hfree u, hu.symm]
    · rcases eq_or_ne u t with rfl | hu
      · simp [hheld, hm']
      · simp [Function.update_of_ne hm', Function.update_of_ne hu, hheld]
  nodup u := by
    rcases eq_or_ne u t with rfl | hu
    · rw [Function.update_self]
      exact List.nodup_cons.mpr ⟨h.not_mem_of_free hm u, h.nodup u⟩
    · rw [Function.update_of_ne hu]
      exact h.nodup u

/-- Releasing a mutex that is held. -/
lemma Owned.drop (h : Owned holder held) (hm : m ∈ held t) :
    Owned (Function.update holder m none) (Function.update held t ((held t).erase m)) where
  holder_iff m' u := by
    have hheld := h.holder_iff m' u
    rcases eq_or_ne m' m with rfl | hm'
    · rcases eq_or_ne u t with rfl | hu
      · simp [(h.nodup u).mem_erase_iff]
      · have hno : m' ∉ held u := fun hin => hu (h.eq_of_mem hm hin)
        simp [Function.update_of_ne hu, hno]
    · rcases eq_or_ne u t with rfl | hu
      · simp [hheld, (h.nodup u).mem_erase_iff, hm']
      · simp [Function.update_of_ne hm', Function.update_of_ne hu, hheld]
  nodup u := by
    rcases eq_or_ne u t with rfl | hu
    · rw [Function.update_self]
      exact (h.nodup u).erase m
    · rw [Function.update_of_ne hu]
      exact h.nodup u

end Owned

/-! ### Every section at once -/

/-- A routine that releases only, until it holds nothing. -/
lemma exists_rest {r : Routine μ σ α} {held : List μ} (hnests : Nests E held r) (hheld : held ≠ [])
    (hr : r.Releases) : ∃ rest, ∀ s, toEnd held.length r s = (rest, s) := by
  induction r generalizing held with
  | ret a => exact absurd hnests hheld
  | acquire m effect next => exact absurd hr id
  | release m next ih =>
    obtain ⟨hm, hreleases, hnext⟩ := hnests
    have hlength := List.length_erase_of_mem hm
    match hn : held.length with
    | 0 => exact absurd (List.length_eq_zero_iff.mp hn) hheld
    | 1 => exact ⟨next, fun s => toEnd_release_last m next s⟩
    | n + 2 =>
      have hne : held.erase m ≠ [] := by
        intro hnil
        rw [hnil, hn] at hlength
        simp at hlength
      obtain ⟨rest, hrest⟩ := ih hnext hne (hreleases hne)
      refine ⟨rest, fun s => ?_⟩
      rw [toEnd_release, ← hrest s, hlength, hn]
      rfl

/-- The thread has not taken all that its section needs, or stands between two: it is where it
would be had it begun the section in `a` and nothing else had run. -/
structure Opening (G : Guard μ σ) (store a : σ) (q r : Routine μ σ α) (held : List μ) : Prop where
  keeps : Keeps G [] q
  into : ∃ s, Into a q held r s ∧ G.AgreeOn held store s
  takes : held ≠ [] → ¬ r.Releases

/-- The thread has taken all that its section needs, and goes on with `q`. -/
structure Closing (q r : Routine μ σ α) (held : List μ) : Prop where
  holds : held ≠ []
  releases : r.Releases
  rest : ∀ s, toEnd held.length r s = (q, s)

/-- The threads that take mutexes, and those that make atomic calls instead: `q` is what a thread
has left once its section is over, if it has taken all that the section needs. -/
structure Sim (G : Guard μ σ) (E : μ → μ → Prop) (c : Locked θ μ σ α) (p : Pool θ σ α)
    (q : θ → Routine μ σ α) (held : θ → List μ) : Prop where
  owned : Owned c.holder held
  nests : ∀ t, Nests E (held t) (c.routine t)
  keeps : ∀ t, Keeps G (held t) (c.routine t)
  implements : ∀ t, Implements (p.prog t) (q t)
  phase : ∀ t, Opening G c.store p.shared (q t) (c.routine t) (held t) ∨
    Closing (q t) (c.routine t) (held t)
  /-- What no thread on its way through a section holds is the same. -/
  agree : ∀ m, (∀ t, m ∈ held t → (c.routine t).Releases) → G.Agree m c.store p.shared

section Sim

variable {c : Locked θ μ σ α} {p : Pool θ σ α} {q : θ → Routine μ σ α} {held : θ → List μ} {t : θ}
  {m : μ}

lemma Opening.congr {store store' a a' : σ} {q r : Routine μ σ α} {held : List μ}
    (h : Opening G store a q r held) (hstore : G.AgreeOn held store store')
    (hshared : G.AgreeOn held a a') : Opening G store' a' q r held := by
  obtain ⟨s, hinto, hsame⟩ := h.into
  obtain ⟨s', hinto', hsame'⟩ := hinto.congr h.keeps hshared
  exact ⟨h.keeps, ⟨s', hinto', hstore.symm.trans (hsame.trans hsame')⟩, h.takes⟩

omit [DecidableEq θ] in
/-- What a thread that takes a free mutex finds. -/
lemma Sim.found (h : Sim G E c p q held) {effect : σ → σ} {next : σ → Routine μ σ α}
    (hr : c.routine t = .acquire m effect next) (hm : c.holder m = none) :
    Keeps G [] (q t) ∧ ∃ s, Into p.shared (q t) (held t) (.acquire m effect next) s ∧
      G.AgreeOn (m :: held t) c.store s := by
  have hfree := h.owned.not_mem_of_free hm
  rcases h.phase t with hopening | hclosing
  · rw [hr] at hopening
    obtain ⟨hkeeps, ⟨s, hinto, hsame⟩, -⟩ := hopening
    refine ⟨hkeeps, s, hinto, fun k hk => ?_⟩
    rcases List.mem_cons.mp hk with rfl | hk
    · have hstore := h.agree k fun u hu => absurd hu (hfree u)
      exact G.trans hstore ((hinto.frame hkeeps).2 k (hfree t))
    · exact hsame k hk
  · have hreleases := hclosing.releases
    rw [hr] at hreleases
    exact absurd hreleases id

omit [DecidableEq μ] [DecidableEq θ] in
lemma agreeOn_of_confined (h : Owned c.holder held) (hm : c.holder m = none) {effect : σ → σ}
    (hconfined : Confined G (m :: held t) effect) {u : θ} (hu : u ≠ t) (s : σ) :
    G.AgreeOn (held u) s (effect s) := by
  refine fun k hk => hconfined.frame s k fun hin => ?_
  rcases List.mem_cons.mp hin with rfl | hin
  · exact h.not_mem_of_free hm u hk
  · exact hu (h.eq_of_mem hin hk)

/-- **A step on the way** through a section changes nothing for the atomic calls. -/
lemma Sim.take (h : Sim G E c p q held) {effect : σ → σ} {next : σ → Routine μ σ α}
    (hr : c.routine t = .acquire m effect next) (hm : c.holder m = none)
    (hopen : ¬ (next c.store).Releases) :
    Sim G E ⟨effect c.store, Function.update c.holder m (some t),
      Function.update c.routine t (next c.store)⟩ p q (Function.update held t (m :: held t)) := by
  obtain ⟨hkeeps, s, hinto, hsame⟩ := h.found hr hm
  have hnests := h.nests t
  have hown := h.keeps t
  rw [hr] at hnests hown
  obtain ⟨hconfined, hreads, hnext⟩ := hown
  refine ⟨h.owned.take hm t, fun u => ?_, fun u => ?_, h.implements, fun u => ?_, fun k hk => ?_⟩
  · rcases eq_or_ne u t with rfl | hu
    · simpa using hnests.2.2 c.store
    · simpa [Function.update_of_ne hu] using h.nests u
  · rcases eq_or_ne u t with rfl | hu
    · simpa using hnext c.store
    · simpa [Function.update_of_ne hu] using h.keeps u
  · rcases eq_or_ne u t with rfl | hu
    · refine Or.inl ⟨hkeeps, ⟨effect s, ?_, ?_⟩, fun _ => ?_⟩
      · simp only [Function.update_self, hreads c.store s hsame]
        exact .take hinto
      · simpa using hconfined.reads c.store s hsame
      · simpa using hopen
    · simp only [Function.update_of_ne hu]
      refine (h.phase u).imp_left fun hopening => ?_
      exact hopening.congr (agreeOn_of_confined h.owned hm hconfined hu c.store) fun k _ => G.refl k _
  · -- a mutex of an open section is held, so `k` is another
    have hnot : k ∉ m :: held t := by
      intro hin
      have hreleases := hk t
      simp only [Function.update_self] at hreleases
      exact hopen (hreleases hin)
    refine G.trans (G.symm (hconfined.frame c.store k hnot)) (h.agree k fun u hu => ?_)
    rcases eq_or_ne u t with rfl | hne
    · exact absurd (List.mem_cons_of_mem _ hu) hnot
    · have hreleases := hk u
      simp only [Function.update_of_ne hne] at hreleases
      exact hreleases hu

/-- **The last mutex** of a section: the atomic call is made. -/
lemma Sim.commit (h : Sim G E c p q held) {effect : σ → σ} {next : σ → Routine μ σ α}
    (hr : c.routine t = .acquire m effect next) (hm : c.holder m = none)
    (hclose : (next c.store).Releases) :
    ∃ q', Sim G E ⟨effect c.store, Function.update c.holder m (some t),
      Function.update c.routine t (next c.store)⟩ (p.advance t) q'
        (Function.update held t (m :: held t)) := by
  obtain ⟨hkeeps, s, hinto, hsame⟩ := h.found hr hm
  have hnests := h.nests t
  have hown := h.keeps t
  rw [hr] at hnests hown
  obtain ⟨hconfined, hreads, hnext⟩ := hown
  have hframe := (hinto.frame hkeeps).2
  have hnests' := hnests.2.2 c.store
  -- from here on the section only releases, so its end is known
  obtain ⟨rest, hrest⟩ := exists_rest hnests' (List.cons_ne_nil m (held t)) hclose
  have hend : toEnd 0 (q t) p.shared = (rest, effect s) := by
    rw [hinto.toEnd_eq, toEnd_acquire, ← hreads c.store s hsame]
    exact hrest (effect s)
  have himpl := h.implements t
  cases hprog : p.prog t with
  | ret a =>
    rw [hprog] at himpl
    -- a routine that has nothing to do takes no mutex
    rw [Implements] at himpl
    rw [himpl] at hinto
    cases hinto.of_ret
  | call op k =>
    rw [hprog] at himpl
    obtain ⟨-, hcalls⟩ := himpl
    obtain ⟨hstore, hgoes⟩ := hcalls p.shared
    rw [hend] at hstore hgoes
    refine ⟨Function.update q t rest, ?_⟩
    rw [advance_of_call hprog, ← hstore]
    refine ⟨h.owned.take hm t, fun u => ?_, fun u => ?_, fun u => ?_, fun u => ?_, fun k' hk => ?_⟩
    · rcases eq_or_ne u t with rfl | hu
      · simpa using hnests'
      · simpa [Function.update_of_ne hu] using h.nests u
    · rcases eq_or_ne u t with rfl | hu
      · simpa using hnext c.store
      · simpa [Function.update_of_ne hu] using h.keeps u
    · rcases eq_or_ne u t with rfl | hu
      · simpa using hgoes
      · simpa [Function.update_of_ne hu] using h.implements u
    · rcases eq_or_ne u t with rfl | hu
      · simp only [Function.update_self]
        exact Or.inr ⟨List.cons_ne_nil _ _, hclose, hrest⟩
      · -- the effect is confined to what `t` holds, so the sections of the others do not see it
        simp only [Function.update_of_ne hu]
        refine (h.phase u).imp_left fun hopening => ?_
        have hothers := agreeOn_of_confined h.owned hm hconfined hu
        refine hopening.congr (hothers c.store) fun k' hk => ?_
        have hnot : k' ∉ held t := fun hin => hu (h.owned.eq_of_mem hin hk)
        exact G.trans (hframe k' hnot) (hothers s k' hk)
    · by_cases hin : k' ∈ m :: held t
      · exact hconfined.reads c.store s hsame k' hin
      · -- what the section does not hold is as the atomic store has it
        have hnot : k' ∉ held t := fun hin' => hin (List.mem_cons_of_mem _ hin')
        have hshared : G.Agree k' c.store p.shared := by
          refine h.agree k' fun u hu => ?_
          rcases eq_or_ne u t with rfl | hne
          · exact absurd hu hnot
          · have hreleases := hk u
            simp only [Function.update_of_ne hne] at hreleases
            exact hreleases hu
        refine G.trans (G.symm (hconfined.frame c.store k' hin)) (G.trans hshared ?_)
        exact G.trans (hframe k' hnot) (hconfined.frame s k' hin)

/-- **Releasing** changes nothing for the atomic calls. -/
lemma Sim.drop (h : Sim G E c p q held) {next : Routine μ σ α}
    (hr : c.routine t = .release m next) :
    Sim G E ⟨c.store, Function.update c.holder m none, Function.update c.routine t next⟩ p q
      (Function.update held t ((held t).erase m)) := by
  have hnests := h.nests t
  have hown := h.keeps t
  rw [hr] at hnests hown
  obtain ⟨hm, hreleases, hnext⟩ := hnests
  have hown : Keeps G ((held t).erase m) next := hown
  have hclosing : Closing (q t) (.release m next) (held t) := by
    rcases h.phase t with hopening | hclosing
    · rw [hr] at hopening
      exact absurd trivial (hopening.takes (List.ne_nil_of_mem hm))
    · rwa [hr] at hclosing
  have hlength := List.length_erase_of_mem hm
  refine ⟨h.owned.drop hm, fun u => ?_, fun u => ?_, h.implements, fun u => ?_, fun k hk => ?_⟩
  · rcases eq_or_ne u t with rfl | hu
    · simpa using hnext
    · simpa [Function.update_of_ne hu] using h.nests u
  · rcases eq_or_ne u t with rfl | hu
    · simpa using hown
    · simpa [Function.update_of_ne hu] using h.keeps u
  · rcases eq_or_ne u t with rfl | hu
    · simp only [Function.update_self]
      have hrest := hclosing.rest c.store
      by_cases hnil : (held u).erase m = []
      · -- the section is over
        rw [hnil] at hlength hown ⊢
        have hone : (held u).length = 1 := by
          have := List.length_pos_of_mem hm
          simp only [List.length_nil] at hlength
          omega
        rw [hone, toEnd_release_last, Prod.mk.injEq] at hrest
        obtain ⟨rfl, -⟩ := hrest
        exact Or.inl ⟨hown, ⟨p.shared, .start, fun k hk => absurd hk List.not_mem_nil⟩,
          fun hne => absurd rfl hne⟩
      · refine Or.inr ⟨hnil, hreleases hnil, fun s => ?_⟩
        obtain ⟨n, hn⟩ : ∃ n, (held u).length = n + 2 := by
          have := List.length_pos_iff.mpr hnil
          exact ⟨(held u).length - 2, by omega⟩
        have hrest := hclosing.rest s
        rw [hn, toEnd_release] at hrest
        rw [hlength, hn]
        exact hrest
    · simp only [Function.update_of_ne hu]
      exact h.phase u
  · refine h.agree k fun u hu => ?_
    rcases eq_or_ne u t with rfl | hne
    · rw [hr]
      exact trivial
    · have hreleases' := hk u
      simp only [Function.update_of_ne hne] at hreleases'
      exact hreleases' hu

/-- **The step lemma.** A step of a thread is an atomic call of it, or none. -/
theorem Sim.step (h : Sim G E c p q held) (t : θ) :
    ∃ q' held', Sim G E (c.advance t) p q' held' ∨ Sim G E (c.advance t) (p.advance t) q' held' := by
  rcases advance_cases c t with hsame | ⟨m, effect, next, hr, hm, hadvance⟩ | ⟨m, next, hr, hadvance⟩
  · rw [hsame]
    exact ⟨q, held, Or.inl h⟩
  · rw [hadvance]
    by_cases hreleases : (next c.store).Releases
    · obtain ⟨q', hsim⟩ := h.commit hr hm hreleases
      exact ⟨q', _, Or.inr hsim⟩
    · exact ⟨q, _, Or.inl (h.take hr hm hreleases)⟩
  · rw [hadvance]
    exact ⟨q, _, Or.inl (h.drop hr)⟩

/-- **The run lemma.** A run of the threads that take mutexes is one of those that make atomic calls,
each made during a step of its thread. -/
theorem Sim.run {ε : Type} (act : ε → σ → σ) (h : Sim G E c p q held) (schedule : List θ) :
    ∃ (calls : List θ) (q' : θ → Routine μ σ α) (held' : θ → List μ), calls.Sublist schedule ∧
      Sim G E (Run.run (locked θ μ σ α) c schedule)
        (Run.run (Atomic.machine θ σ α act) p (calls.map .thread)) q' held' := by
  induction schedule generalizing c p q held with
  | nil => exact ⟨[], q, held, .slnil, h⟩
  | cons t schedule ih =>
    obtain ⟨q', held', hsim | hsim⟩ := h.step t
    · obtain ⟨calls, q'', held'', hsub, hrun⟩ := ih hsim
      exact ⟨calls, q'', held'', hsub.cons t, hrun⟩
    · obtain ⟨calls, q'', held'', hsub, hrun⟩ := ih hsim
      exact ⟨t :: calls, q'', held'', hsub.cons_cons t, hrun⟩

omit [DecidableEq θ] in
lemma sim_start {s : σ} {routine : θ → Routine μ σ α} {prog : θ → Prog σ α}
    (hnests : ∀ t, Nests E [] (routine t)) (hkeeps : ∀ t, Keeps G [] (routine t))
    (himplements : ∀ t, Implements (prog t) (routine t)) :
    Sim G E (Locked.start s routine) ⟨s, prog⟩ routine fun _ => [] where
  owned := ⟨fun m t => by simp [Locked.start], fun _ => List.nodup_nil⟩
  nests := hnests
  keeps := hkeeps
  implements := himplements
  phase t := Or.inl ⟨hkeeps t, ⟨s, .start, fun k hk => absurd hk List.not_mem_nil⟩,
    fun hne => absurd rfl hne⟩
  agree m _ := G.refl m s

omit [DecidableEq θ] in
/-- A thread that has answered has answered its atomic calls so. -/
lemma Sim.answer (h : Sim G E c p q held) {a : α} (hr : c.routine t = .ret a) :
    p.prog t = .ret a := by
  have hnil : held t = [] := by
    have hnests := h.nests t
    rwa [hr] at hnests
  have hq : q t = .ret a := by
    rcases h.phase t with ⟨-, ⟨s, hinto, -⟩, -⟩ | hclosing
    · rw [hnil, hr] at hinto
      exact hinto.of_nil.1.symm
    · exact absurd hnil hclosing.holds
  have himpl := h.implements t
  rw [hq] at himpl
  cases hprog : p.prog t with
  | ret b =>
    rw [hprog, Implements, ret.injEq] at himpl
    rw [himpl]
  | call op k =>
    rw [hprog] at himpl
    obtain ⟨⟨m, effect, next, hacquire⟩, -⟩ := himpl
    cases hacquire

omit [DecidableEq θ] in
lemma Sim.store_eq (h : Sim G E c p q held) (hfree : ∀ m, c.holder m = none) :
    c.store = p.shared :=
  G.ext fun m => h.agree m fun t ht => absurd ht (h.owned.not_mem_of_free (hfree m) t)

end Sim

/-- **Sections are atomic.** Of threads whose routines read and change only what the mutexes they
hold guard, and release nothing before a section has taken all that it needs, every run is a run of
threads that make an atomic call for each section: each call during a step of its thread, with the
same answers, and with the same store while nobody holds a mutex. -/
theorem sections_atomic {ε : Type} (act : ε → σ → σ) {routine : θ → Routine μ σ α}
    {prog : θ → Prog σ α} (hnests : ∀ t, Nests E [] (routine t))
    (hkeeps : ∀ t, Keeps G [] (routine t)) (himplements : ∀ t, Implements (prog t) (routine t)) (s : σ)
    (schedule : List θ) : ∃ calls : List θ, calls.Sublist schedule ∧
      let c := run (locked θ μ σ α) (Locked.start s routine) schedule
      let p := run (Atomic.machine θ σ α act) ⟨s, prog⟩ (calls.map .thread)
      (∀ t a, c.routine t = .ret a → p.prog t = .ret a) ∧
        ((∀ m, c.holder m = none) → c.store = p.shared) := by
  obtain ⟨calls, q, held, hsub, hsim⟩ :=
    (sim_start hnests hkeeps himplements).run act schedule
  exact ⟨calls, hsub, fun t a => hsim.answer, hsim.store_eq⟩

end Oid4vc.Sections
