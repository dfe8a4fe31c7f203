import Oid4vc.Base.Sections

/-!
Scripts: threads that make one call of a service after another, where each next call may depend on
the answers so far.

A service gives every call a routine of mutexes and a program of atomic calls. Where each routine
does call by call what its program does, scripts cannot tell the two apart.
-/

namespace Oid4vc.Scripts

open Oid4vc.Run Oid4vc.Locks Oid4vc.Locks.Routine Oid4vc.Atomic Oid4vc.Sections

variable {θ μ σ α β : Type}

/-! ### One routine after another -/

/-- Go on with the answer of a routine. -/
def andThen : Routine μ σ α → (α → Routine μ σ β) → Routine μ σ β
  | ret a, f => f a
  | acquire m effect next, f => acquire m effect fun s => andThen (next s) f
  | release m next, f => release m (andThen next f)

variable [DecidableEq μ] {G : Guard μ σ} {E : μ → μ → Prop} {r : Routine μ σ α}
  {f : α → Routine μ σ β} {held : List μ}

omit [DecidableEq μ] in
lemma releases_andThen (hr : r.Releases) (hnot : ∀ a, r ≠ ret a) : (andThen r f).Releases := by
  cases r with
  | ret a => exact absurd rfl (hnot a)
  | acquire m effect next => exact absurd hr id
  | release m next => exact trivial

lemma ne_ret_of_nests (h : Nests E held r) (hheld : held ≠ []) (a : α) : r ≠ ret a := by
  rintro rfl
  exact hheld h

lemma nests_andThen (h : Nests E held r) (hf : ∀ a, Nests E [] (f a)) :
    Nests E held (andThen r f) := by
  induction r generalizing held with
  | ret a =>
    rw [show held = [] from h]
    exact hf a
  | acquire m effect next ih =>
    obtain ⟨hm, hE, hnext⟩ := h
    exact ⟨hm, hE, fun s => ih s (hnext s)⟩
  | release m next ih =>
    obtain ⟨hm, hreleases, hnext⟩ := h
    exact ⟨hm, fun hne => releases_andThen (hreleases hne) (ne_ret_of_nests hnext hne), ih hnext⟩

lemma keeps_andThen (h : Keeps G held r) (hnests : Nests E held r) (hf : ∀ a, Keeps G [] (f a)) :
    Keeps G held (andThen r f) := by
  induction r generalizing held with
  | ret a =>
    rw [show held = [] from hnests]
    exact hf a
  | acquire m effect next ih =>
    obtain ⟨hconfined, hreads, hnext⟩ := h
    refine ⟨hconfined, fun s s' hs => ?_, fun s => ih s (hnext s) (hnests.2.2 s)⟩
    simp only [hreads s s' hs]
  | release m next ih => exact ih h hnests.2.2

/-- What is left after a section holds nothing. -/
lemma nests_toEnd (h : Nests E held r) (s : σ) : Nests E [] (toEnd held.length r s).1 := by
  induction r generalizing held s with
  | ret a =>
    rw [toEnd_ret]
    exact rfl
  | acquire m effect next ih =>
    rw [toEnd_acquire]
    exact ih s (h.2.2 s) (effect s)
  | release m next ih =>
    obtain ⟨hm, -, hnext⟩ := h
    have hlength := List.length_erase_of_mem hm
    match hn : held.length with
    | 0 => exact absurd (List.length_eq_zero_iff.mp hn) (List.ne_nil_of_mem hm)
    | 1 =>
      rw [hn] at hlength
      rw [List.length_eq_zero_iff.mp hlength] at hnext
      rw [toEnd_release_last]
      exact hnext
    | n + 2 =>
      rw [hn] at hlength
      have := ih hnext s
      rw [hlength] at this
      rw [toEnd_release]
      exact this

/-- The section of a routine, with what follows. -/
lemma toEnd_andThen (h : Nests E held r) (hne : held ≠ [] ∨ ∀ a, r ≠ ret a) (s : σ) :
    toEnd held.length (andThen r f) s =
      (andThen (toEnd held.length r s).1 f, (toEnd held.length r s).2) := by
  induction r generalizing held s with
  | ret a =>
    rcases hne with hheld | hnot
    · exact absurd h hheld
    · exact absurd rfl (hnot a)
  | acquire m effect next ih =>
    rw [andThen, toEnd_acquire, toEnd_acquire]
    exact ih s (h.2.2 s) (Or.inl (List.cons_ne_nil _ _)) (effect s)
  | release m next ih =>
    obtain ⟨hm, -, hnext⟩ := h
    have hlength := List.length_erase_of_mem hm
    match hn : held.length with
    | 0 => exact absurd (List.length_eq_zero_iff.mp hn) (List.ne_nil_of_mem hm)
    | 1 => rw [andThen, toEnd_release_last, toEnd_release_last]
    | n + 2 =>
      rw [hn] at hlength
      have hne' : held.erase m ≠ [] := by
        intro hnil
        rw [hnil] at hlength
        simp at hlength
      have := ih hnext (Or.inl hne') s
      rw [hlength] at this
      rw [andThen, toEnd_release, toEnd_release]
      exact this

lemma implements_andThen {p : Prog σ α} {g : α → Prog σ β} (h : Implements p r)
    (hnests : Nests E [] r) (hf : ∀ a, Implements (g a) (f a)) :
    Implements (p.bind g) (andThen r f) := by
  induction p generalizing r with
  | ret a =>
    rw [Implements] at h
    rw [h]
    exact hf a
  | call op k ih =>
    obtain ⟨⟨m, effect, next, rfl⟩, hcalls⟩ := h
    refine ⟨⟨m, effect, _, rfl⟩, fun s => ?_⟩
    obtain ⟨hstore, hgoes⟩ := hcalls s
    have hend := @toEnd_andThen _ _ _ _ _ _ _ f _ hnests (Or.inr fun a => by simp) s
    rw [List.length_nil] at hend
    rw [hend]
    exact ⟨hstore, ih _ hgoes (nests_toEnd hnests s)⟩

/-! ### One section -/

/-- With `n` mutexes held, the routine answers as soon as it has released them all. -/
def Single : ℕ → Routine μ σ α → Prop
  | n, ret _ => n = 0
  | n, acquire _ _ next => ∀ s, Single (n + 1) (next s)
  | 0, release _ _ => False
  | 1, release _ next => ∃ a, next = ret a
  | n + 2, release _ next => Single (n + 1) next

omit [DecidableEq μ] in
/-- The section is all that the routine does. -/
lemma toEnd_of_single {n : ℕ} (h : Single n r) (s : σ) :
    toEnd n r s = (ret (r.exec s).1, (r.exec s).2) := by
  induction r generalizing n s with
  | ret a => rw [toEnd_ret, exec_ret]
  | acquire m effect next ih =>
    rw [toEnd_acquire, exec_acquire]
    exact ih s (h s) (effect s)
  | release m next ih =>
    match n with
    | 0 => exact absurd h id
    | 1 =>
      obtain ⟨a, rfl⟩ := h
      rw [toEnd_release_last, exec_release, exec_ret]
    | n + 2 =>
      rw [toEnd_release, exec_release]
      exact ih h s

omit [DecidableEq μ] in
/-- **A routine of one section is a call**: of what it does when nothing else runs. -/
lemma implements_of_single {m : μ} {effect : σ → σ} {next : σ → Routine μ σ α} {op : σ → α × σ}
    (h : Single 0 (acquire m effect next)) (hexec : ∀ s, (acquire m effect next).exec s = op s) :
    Implements (Prog.lift op) (acquire m effect next) := by
  refine ⟨⟨m, effect, next, rfl⟩, fun s => ?_⟩
  rw [toEnd_of_single h, hexec]
  exact ⟨rfl, rfl⟩

omit [DecidableEq μ] in
lemma implements_guarded (m : μ) (op : σ → α × σ) : Implements (Prog.lift op) (guarded m op) :=
  implements_of_single (fun s => ⟨(op s).1, rfl⟩) fun _ => rfl

omit [DecidableEq μ] in
lemma confined_singleton {m : μ} {effect : σ → σ} (hframe : ∀ s k, k ≠ m → G.Agree k s (effect s))
    (hreads : ∀ s s', G.Agree m s s' → G.Agree m (effect s) (effect s')) :
    Confined G [m] effect where
  frame s k hk := hframe s k fun heq => hk (List.mem_singleton.mpr heq)
  reads s s' hs k hk := by
    rw [List.mem_singleton.mp hk]
    exact hreads s s' (hs m List.mem_cons_self)

lemma keeps_guarded {m : μ} {op : σ → α × σ} (hframe : ∀ s k, k ≠ m → G.Agree k s (op s).2)
    (hreads : ∀ s s', G.Agree m s s' → (op s).1 = (op s').1 ∧ G.Agree m (op s).2 (op s').2) :
    Keeps G [] (guarded m op) := by
  refine ⟨confined_singleton hframe fun s s' hs => (hreads s s' hs).2, fun s s' hs => ?_, fun s => ?_⟩
  · simp only [(hreads s s' (hs m List.mem_cons_self)).1]
  · exact trivial

/-! ### Scripts -/

/-- What a thread does with the calls `C`, each of which has a type of answers. -/
inductive Script (C : Type → Type) (α : Type) : Type 1
  | done (a : α)
  | call {γ : Type} (c : C γ) (k : γ → Script C α)

/-- How each call is made: with mutexes, and atomically. -/
structure Service (C : Type → Type) (μ σ : Type) where
  routine : ∀ {γ : Type}, C γ → Routine μ σ γ
  program : ∀ {γ : Type}, C γ → Prog σ γ

variable {C : Type → Type}

def Script.routine (S : Service C μ σ) : Script C α → Routine μ σ α
  | done a => ret a
  | call c k => andThen (S.routine c) fun b => (k b).routine S

/-- The script, with atomic calls. -/
def Script.program (S : Service C μ σ) : Script C α → Prog σ α
  | done a => .ret a
  | call c k => (S.program c).bind fun b => (k b).program S

/-- Every routine of the service does what its program does, in sections that keep to what they
hold. -/
structure Service.Sound (S : Service C μ σ) (G : Guard μ σ) (E : μ → μ → Prop) : Prop where
  nests : ∀ {γ : Type} (c : C γ), Nests E [] (S.routine c)
  keeps : ∀ {γ : Type} (c : C γ), Keeps G [] (S.routine c)
  implements : ∀ {γ : Type} (c : C γ), Implements (S.program c) (S.routine c)

namespace Service.Sound

variable {S : Service C μ σ} (h : S.Sound G E)

include h

lemma nests_script (p : Script C α) : Nests E [] (p.routine S) := by
  induction p with
  | done a => exact rfl
  | call c k ih => exact nests_andThen (h.nests c) ih

lemma keeps_script (p : Script C α) : Keeps G [] (p.routine S) := by
  induction p with
  | done a => exact trivial
  | call c k ih => exact keeps_andThen (h.keeps c) (h.nests c) ih

lemma implements_script (p : Script C α) : Implements (p.program S) (p.routine S) := by
  induction p with
  | done a => exact rfl
  | call c k ih => exact implements_andThen (h.implements c) (h.nests c) ih

/-- **Scripts run atomically.** Whatever threads do with the calls of a sound service, every run of
them with mutexes is a run with atomic calls, each made during a step of its thread, with the same
answers, and with the same store while nobody holds a mutex. -/
theorem scripts_atomic [DecidableEq θ] {ε : Type} (act : ε → σ → σ) (scripts : θ → Script C α) (s : σ)
    (schedule : List θ) : ∃ calls : List θ, calls.Sublist schedule ∧
      let c := run (locked θ μ σ α) (Locked.start s fun t => (scripts t).routine S) schedule
      let p := run (Atomic.machine θ σ α act) ⟨s, fun t => (scripts t).program S⟩
        (calls.map .thread)
      (∀ t a, c.routine t = .ret a → p.prog t = .ret a) ∧
        ((∀ m, c.holder m = none) → c.store = p.shared) :=
  sections_atomic act (fun t => h.nests_script (scripts t)) (fun t => h.keeps_script (scripts t))
    (fun t => h.implements_script (scripts t)) s schedule

end Service.Sound

end Oid4vc.Scripts
