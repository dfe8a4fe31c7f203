import Oid4vc.Base.Run
import Mathlib.Data.Set.Basic
import Mathlib.Logic.Function.Basic

/-!
Routines that take and release mutexes, interleaved between any number of threads.

What a routine does to the data a mutex guards happens when it takes the mutex: nobody else
sees that data before the mutex is released. A deadlock is a set of threads that each hold a
mutex and wait for one that another thread of the set holds.
-/

namespace Oid4vc.Locks

open Oid4vc.Run

/-- What a thread has left to do inside a routine that answers an `α`: `next` reads the store
as the mutex finds it, and `effect` is what is done to it. -/
inductive Routine (μ σ α : Type)
  | ret (a : α)
  | acquire (m : μ) (effect : σ → σ) (next : σ → Routine μ σ α)
  | release (m : μ) (next : Routine μ σ α)

namespace Routine

variable {μ σ α : Type}

/-- What a routine does when nothing else runs. -/
def exec : Routine μ σ α → σ → α × σ
  | ret a, s => (a, s)
  | acquire _ effect next, s => exec (next s) (effect s)
  | release _ next, s => exec next s

/-- The routine without its answer. -/
def forget : Routine μ σ α → Routine μ σ Unit
  | ret _ => ret ()
  | acquire m effect next => acquire m effect fun s => forget (next s)
  | release m next => release m (forget next)

/-- Do all of it under one mutex. -/
def guarded (m : μ) (op : σ → α × σ) : Routine μ σ α :=
  acquire m (fun s => (op s).2) fun s => release m (ret (op s).1)

@[simp] lemma exec_ret (a : α) (s : σ) : (ret a : Routine μ σ α).exec s = (a, s) := rfl
@[simp] lemma exec_acquire (m : μ) (effect : σ → σ) (next : σ → Routine μ σ α) (s : σ) :
    (acquire m effect next).exec s = (next s).exec (effect s) := rfl
@[simp] lemma exec_release (m : μ) (next : Routine μ σ α) (s : σ) :
    (release m next).exec s = next.exec s := rfl
@[simp] lemma exec_guarded (m : μ) (op : σ → α × σ) (s : σ) : (guarded m op).exec s = op s := rfl

/-- The routine takes its next mutex only after it has released all it holds. -/
def Releases : Routine μ σ α → Prop
  | acquire _ _ _ => False
  | _ => True

/-- With the mutexes `held`, the routine takes `m` only where `E h m` for each `h` it holds,
takes none twice, and once it releases one it releases all. -/
def Nests [DecidableEq μ] (E : μ → μ → Prop) : List μ → Routine μ σ α → Prop
  | held, ret _ => held = []
  | held, acquire m _ next => m ∉ held ∧ (∀ h ∈ held, E h m) ∧ ∀ s, Nests E (m :: held) (next s)
  | held, release m next =>
    m ∈ held ∧ (held.erase m ≠ [] → next.Releases) ∧ Nests E (held.erase m) next

lemma releases_forget {r : Routine μ σ α} : r.forget.Releases ↔ r.Releases := by
  cases r <;> exact Iff.rfl

lemma nests_forget [DecidableEq μ] {E : μ → μ → Prop} {held : List μ} {r : Routine μ σ α} :
    Nests E held r.forget ↔ Nests E held r := by
  induction r generalizing held with
  | ret a => exact Iff.rfl
  | acquire m effect next ih => simp only [forget, Nests, ih]
  | release m next ih => simp only [forget, Nests, ih, releases_forget]

lemma nests_guarded [DecidableEq μ] (E : μ → μ → Prop) (m : μ) (op : σ → α × σ) :
    Nests E [] (guarded m op) := by
  simp [guarded, Nests]

end Routine

open Routine

/-- The threads, the store they share, and who holds which mutex. -/
structure Config (μ σ : Type) where
  store : σ
  holder : μ → Option ℕ
  routine : ℕ → Routine μ σ Unit

/-- What happens next: an idle thread starts an operation, or a thread goes on with its own. -/
inductive Event (ω : Type)
  | start (t : ℕ) (op : ω)
  | advance (t : ℕ)

variable {μ σ ω : Type} [DecidableEq μ]

/-- Nobody does anything. -/
def Config.idle (s : σ) : Config μ σ := ⟨s, fun _ => none, fun _ => .ret ()⟩

/-- One step of a thread; nothing if it has finished or must wait. -/
def Config.advance (c : Config μ σ) (t : ℕ) : Config μ σ :=
  match c.routine t with
  | .ret _ => c
  | .acquire m effect next =>
    match c.holder m with
    | some _ => c
    | none => ⟨effect c.store, Function.update c.holder m (some t),
        Function.update c.routine t (next c.store)⟩
  | .release m next => { c with
      holder := Function.update c.holder m none
      routine := Function.update c.routine t next }

def Config.start (c : Config μ σ) (t : ℕ) (r : Routine μ σ Unit) : Config μ σ :=
  match c.routine t with
  | .ret _ => { c with routine := Function.update c.routine t r }
  | _ => c

/-- Threads that run the operations `ops`, in any interleaving. -/
def machine (ops : ω → Routine μ σ Unit) : Machine (Config μ σ) (Event ω) Unit where
  step c e := match e with
    | .start t op => (c.start t (ops op), ())
    | .advance t => (c.advance t, ())

/-- The thread waits for a mutex that `u` holds. -/
def Config.WaitsFor (c : Config μ σ) (t u : ℕ) : Prop :=
  ∃ m effect next, c.routine t = .acquire m effect next ∧ c.holder m = some u

/-- There is a set of threads, each holding a mutex and waiting for one that another thread
of the set holds. -/
def Config.Deadlocked (c : Config μ σ) : Prop :=
  ∃ S : Set ℕ, S.Nonempty ∧ ∀ t ∈ S, (∃ m, c.holder m = some t) ∧ ∃ u ∈ S, u ≠ t ∧ c.WaitsFor t u

/-- Two threads wait for each other. -/
def Config.Crossing (c : Config μ σ) (t u : ℕ) : Prop := t ≠ u ∧ c.WaitsFor t u ∧ c.WaitsFor u t

/-- The step takes a mutex that another thread waits for, by a thread whose next need is a
mutex that this other thread holds. -/
def Crosses (c : Config μ σ) : Event ω → Prop
  | .start _ _ => False
  | .advance t => ∃ m effect next m' effect' next' u effect'' next'', u ≠ t ∧
      c.routine t = .acquire m effect next ∧ c.holder m = none ∧
      next c.store = .acquire m' effect' next' ∧ c.holder m' = some u ∧
      c.routine u = .acquire m effect'' next''

/-- Every thread holds what its routine still releases, and nests as `E` says. -/
structure Config.Disciplined (E : μ → μ → Prop) (c : Config μ σ) (held : ℕ → List μ) : Prop where
  holder_iff : ∀ m t, c.holder m = some t ↔ m ∈ held t
  nodup : ∀ t, (held t).Nodup
  nests : ∀ t, Nests E (held t) (c.routine t)

variable {E : μ → μ → Prop} {c : Config μ σ} {held : ℕ → List μ} {t u : ℕ}

lemma disciplined_idle (s : σ) : (Config.idle s : Config μ σ).Disciplined E fun _ => [] :=
  ⟨fun m t => by simp [Config.idle], fun _ => List.nodup_nil, fun _ => rfl⟩

/-! ### What a step does -/

lemma advance_of_free {m : μ} {effect : σ → σ} {next : σ → Routine μ σ Unit}
    (hr : c.routine t = .acquire m effect next) (hm : c.holder m = none) :
    c.advance t = ⟨effect c.store, Function.update c.holder m (some t),
      Function.update c.routine t (next c.store)⟩ := by
  unfold Config.advance
  rw [hr]
  simp only [hm]

lemma advance_of_release {m : μ} {next : Routine μ σ Unit} (hr : c.routine t = .release m next) :
    c.advance t = { c with
      holder := Function.update c.holder m none
      routine := Function.update c.routine t next } := by
  unfold Config.advance
  rw [hr]

lemma advance_cases (c : Config μ σ) (t : ℕ) :
    c.advance t = c ∨
      (∃ m effect next, c.routine t = .acquire m effect next ∧ c.holder m = none) ∨
      ∃ m next, c.routine t = .release m next := by
  cases hr : c.routine t with
  | ret a => exact Or.inl (by unfold Config.advance; rw [hr])
  | acquire m effect next =>
    cases hm : c.holder m with
    | none => exact Or.inr (Or.inl ⟨m, effect, next, rfl, hm⟩)
    | some u => exact Or.inl (by unfold Config.advance; rw [hr]; simp only [hm])
  | release m next => exact Or.inr (Or.inr ⟨m, next, rfl⟩)

omit [DecidableEq μ] in
lemma start_cases (c : Config μ σ) (t : ℕ) (r : Routine μ σ Unit) :
    c.start t r = c ∨ (c.routine t = .ret () ∧
      c.start t r = { c with routine := Function.update c.routine t r }) := by
  cases hr : c.routine t with
  | ret a => exact Or.inr ⟨rfl, by unfold Config.start; rw [hr]⟩
  | acquire m effect next => exact Or.inl (by unfold Config.start; rw [hr])
  | release m next => exact Or.inl (by unfold Config.start; rw [hr])

/-- Taking a mutex keeps the discipline. -/
lemma Config.Disciplined.acquire (h : c.Disciplined E held) {m : μ} {effect : σ → σ}
    {next : σ → Routine μ σ Unit} (hr : c.routine t = .acquire m effect next)
    (hm : c.holder m = none) :
    (c.advance t).Disciplined E (Function.update held t (m :: held t)) := by
  have hnest := h.nests t
  rw [hr] at hnest
  obtain ⟨hnot, -, hnext⟩ := hnest
  rw [advance_of_free hr hm]
  refine ⟨fun m' u => ?_, fun u => ?_, fun u => ?_⟩
  · have hheld := h.holder_iff m' u
    by_cases hm' : m' = m
    · subst hm'
      rw [hm] at hheld
      by_cases hu : u = t
      · subst hu
        simp
      · have hut : ¬ t = u := fun h => hu h.symm
        simp only [Function.update_self, Function.update_of_ne hu, Option.some.injEq, hut, false_iff]
        -- the mutex was free, so no other thread holds it
        exact fun hin => by simp [hin] at hheld
    · simp only [Function.update_of_ne hm']
      by_cases hu : u = t
      · subst hu
        simp [hheld, hm']
      · rw [Function.update_of_ne hu]
        exact hheld
  · by_cases hu : u = t
    · subst hu
      simp [hnot, h.nodup u]
    · rw [Function.update_of_ne hu]
      exact h.nodup u
  · by_cases hu : u = t
    · subst hu
      simpa using hnext c.store
    · simp only [Function.update_of_ne hu]
      exact h.nests u

/-- Releasing a mutex keeps the discipline. -/
lemma Config.Disciplined.release (h : c.Disciplined E held) {m : μ} {next : Routine μ σ Unit}
    (hr : c.routine t = .release m next) :
    (c.advance t).Disciplined E (Function.update held t ((held t).erase m)) := by
  have hnest := h.nests t
  rw [hr] at hnest
  obtain ⟨hin, -, hnext⟩ := hnest
  rw [advance_of_release hr]
  refine ⟨fun m' u => ?_, fun u => ?_, fun u => ?_⟩
  · have hheld := h.holder_iff m' u
    by_cases hm' : m' = m
    · subst hm'
      rw [(h.holder_iff m' t).mpr hin] at hheld
      by_cases hu : u = t
      · subst hu
        simp [(h.nodup u).mem_erase_iff]
      · have hut : ¬ t = u := fun h => hu h.symm
        simp only [Option.some.injEq, hut, false_iff] at hheld
        simp [Function.update_of_ne hu, hheld]
    · simp only [Function.update_of_ne hm']
      by_cases hu : u = t
      · subst hu
        simp [hheld, (h.nodup u).mem_erase_iff, hm']
      · rw [Function.update_of_ne hu]
        exact hheld
  · by_cases hu : u = t
    · subst hu
      simpa using (h.nodup u).erase m
    · rw [Function.update_of_ne hu]
      exact h.nodup u
  · by_cases hu : u = t
    · subst hu
      simpa using hnext
    · simp only [Function.update_of_ne hu]
      exact h.nests u

/-- **The step rule.** Operations that nest as `E` says keep the discipline. -/
theorem Config.Disciplined.step {ops : ω → Routine μ σ Unit} (hops : ∀ op, Nests E [] (ops op))
    (h : c.Disciplined E held) (e : Event ω) :
    ∃ held', ((machine ops).step c e).1.Disciplined E held' := by
  cases e with
  | start t op =>
    rcases start_cases c t (ops op) with hs | ⟨hr, hs⟩
    · exact ⟨held, by simpa only [machine, hs] using h⟩
    · refine ⟨held, ?_⟩
      have hnil : held t = [] := by
        have := h.nests t
        rwa [hr] at this
      simp only [machine, hs]
      refine ⟨h.holder_iff, h.nodup, fun u => ?_⟩
      by_cases hu : u = t
      · subst hu
        simpa [hnil] using hops op
      · simp only [Function.update_of_ne hu]
        exact h.nests u
  | advance t =>
    rcases advance_cases c t with hs | ⟨m, effect, next, hr, hm⟩ | ⟨m, next, hr⟩
    · exact ⟨held, by simpa only [machine, hs] using h⟩
    · exact ⟨_, h.acquire hr hm⟩
    · exact ⟨_, h.release hr⟩

/-! ### Two mutexes -/

omit [DecidableEq μ] in
lemma Config.Crossing.deadlocked (h : c.Crossing t u) : c.Deadlocked := by
  obtain ⟨htu, h₁, h₂⟩ := h
  obtain ⟨a, _, _, -, ha⟩ := id h₁
  obtain ⟨b, _, _, -, hb⟩ := id h₂
  refine ⟨{t, u}, ⟨t, Or.inl rfl⟩, ?_⟩
  rintro v (rfl | rfl)
  · exact ⟨⟨b, hb⟩, u, Or.inr rfl, htu.symm, h₁⟩
  · exact ⟨⟨a, ha⟩, t, Or.inl rfl, htu, h₂⟩

/-- **A deadlock is a crossing.** Where a routine that holds a mutex needs only one more, and
the one that needs that in turn needs the first, threads are deadlocked just if two of them
wait for each other. -/
theorem deadlocked_iff (hE : ∀ {a b d : μ}, E a b → E b d → d = a) (h : c.Disciplined E held) :
    c.Deadlocked ↔ ∃ t u, c.Crossing t u := by
  constructor
  · rintro ⟨S, ⟨t, ht⟩, hS⟩
    obtain ⟨⟨a, ha⟩, u, hu, hut, b, e₁, n₁, hr₁, hb⟩ := hS t ht
    obtain ⟨-, v, hv, hvu, d, e₂, n₂, hr₂, hd⟩ := hS u hu
    have hn₁ := h.nests t
    have hn₂ := h.nests u
    rw [hr₁] at hn₁
    rw [hr₂] at hn₂
    have hab : E a b := hn₁.2.1 a ((h.holder_iff a t).mp ha)
    have hbd : E b d := hn₂.2.1 b ((h.holder_iff b u).mp hb)
    obtain rfl := hE hab hbd
    exact ⟨t, u, hut.symm, ⟨b, e₁, n₁, hr₁, hb⟩, d, e₂, n₂, hr₂, ha⟩
  · rintro ⟨t, u, h⟩
    exact h.deadlocked

omit [DecidableEq μ] in
lemma Config.Crossing.symm (h : c.Crossing t u) : c.Crossing u t := ⟨h.1.symm, h.2.2, h.2.1⟩

omit [DecidableEq μ] in
/-- A step of `t` that makes no crossing with `t`, and leaves how the others wait, makes no
crossing. -/
lemma not_crossing_of {c' : Config μ σ} (t : ℕ) (hno : ∀ v w, ¬ c.Crossing v w)
    (hself : ∀ w, ¬ c'.Crossing t w)
    (hother : ∀ v w, v ≠ t → w ≠ t → c'.WaitsFor v w → c.WaitsFor v w) (v w : ℕ) :
    ¬ c'.Crossing v w := by
  intro hc
  by_cases hv : v = t
  · subst hv
    exact hself w hc
  · by_cases hw : w = t
    · subst hw
      exact hself v hc.symm
    · exact hno v w ⟨hc.1, hother v w hv hw hc.2.1, hother w v hw hv hc.2.2⟩

/-- A step that does not cross makes no crossing. -/
lemma not_crossing_step (hE : ∀ {a b d : μ}, E a b → E b d → d = a)
    (ops : ω → Routine μ σ Unit) (h : c.Disciplined E held) (hno : ∀ v w, ¬ c.Crossing v w)
    {e : Event ω} (hcross : ¬ Crosses c e) (v w : ℕ) :
    ¬ ((machine ops).step c e).1.Crossing v w := by
  cases e with
  | start t op =>
    rcases start_cases c t (ops op) with hs | ⟨hr, hs⟩
    · simp only [machine, hs]
      exact hno v w
    · simp only [machine, hs]
      have hnil : held t = [] := by
        have := h.nests t
        rwa [hr] at this
      refine not_crossing_of t hno (fun w hc => ?_) (fun v w hv _ hw => ?_) v w
      · -- `t` holds nothing, so nobody waits for it
        obtain ⟨-, -, a, _, _, -, ha⟩ := hc
        have := (h.holder_iff a t).mp ha
        simp [hnil] at this
      · simpa only [Config.WaitsFor, Function.update_of_ne hv] using hw
  | advance t =>
    rcases advance_cases c t with hs | ⟨m, effect, next, hr, hm⟩ | ⟨m, next, hr⟩
    · simp only [machine, hs]
      exact hno v w
    · have hnest := h.nests t
      rw [hr] at hnest
      obtain ⟨-, hheld, hnext⟩ := hnest
      simp only [machine, advance_of_free hr hm]
      refine not_crossing_of t hno (fun w hc => ?_) (fun v w hv hw hwait => ?_) v w
      · obtain ⟨htw, ⟨b, e₁, n₁, hrt, hb⟩, a, e₂, n₂, hrw, ha⟩ := hc
        have hwt : w ≠ t := htw.symm
        simp only [Function.update_self] at hrt
        simp only [Function.update_of_ne hwt] at hrw
        have hbm : b ≠ m := by
          rintro rfl
          simp only [Function.update_self, Option.some.injEq] at hb
          exact htw hb
        simp only [Function.update_of_ne hbm] at hb
        by_cases ham : a = m
        · subst ham
          exact hcross ⟨a, effect, next, b, e₁, n₁, w, e₂, n₂, hwt, hr, hm, hrt, hb, hrw⟩
        · -- `t` held `a`, took `m` and needs `b`: then `b` is `a` again
          simp only [Function.update_of_ne ham] at ha
          have ha' := (h.holder_iff a t).mp ha
          have hn := hnext c.store
          rw [hrt] at hn
          obtain rfl := hE (hheld a ha') (hn.2.1 m List.mem_cons_self)
          exact hn.1 (List.mem_cons_of_mem _ ha')
      · obtain ⟨a, e₁, n₁, hrv, ha⟩ := hwait
        simp only [Function.update_of_ne hv] at hrv
        have ham : a ≠ m := by
          rintro rfl
          simp only [Function.update_self, Option.some.injEq] at ha
          exact hw ha.symm
        simp only [Function.update_of_ne ham] at ha
        exact ⟨a, e₁, n₁, hrv, ha⟩
    · have hnest := h.nests t
      rw [hr] at hnest
      obtain ⟨-, hrel, -⟩ := hnest
      simp only [machine, advance_of_release hr]
      have hne : ∀ {a w}, Function.update c.holder m none a = some w →
          a ≠ m ∧ c.holder a = some w := by
        intro a w ha
        have ham : a ≠ m := by
          rintro rfl
          simp at ha
        exact ⟨ham, by simpa [ham] using ha⟩
      refine not_crossing_of t hno (fun w hc => ?_) (fun v w hv hw hwait => ?_) v w
      · -- `t` still holds a mutex, so it goes on releasing
        obtain ⟨-, ⟨b, e₁, n₁, hrt, -⟩, a, e₂, n₂, -, ha⟩ := hc
        simp only [Function.update_self] at hrt
        obtain ⟨ham, ha'⟩ := hne ha
        have hmem : a ∈ (held t).erase m :=
          (h.nodup t).mem_erase_iff.mpr ⟨ham, (h.holder_iff a t).mp ha'⟩
        have := hrel (List.ne_nil_of_mem hmem)
        rw [hrt] at this
        exact this
      · obtain ⟨a, e₁, n₁, hrv, ha⟩ := hwait
        simp only [Function.update_of_ne hv] at hrv
        exact ⟨a, e₁, n₁, hrv, (hne ha).2⟩

lemma crossing_of_crosses (ops : ω → Routine μ σ Unit) {e : Event ω} (hcross : Crosses c e) :
    ∃ v w, ((machine ops).step c e).1.Crossing v w := by
  cases e with
  | start t op => exact hcross.elim
  | advance t =>
    obtain ⟨m, effect, next, m', e₁, n₁, u, e₂, n₂, hut, hr, hm, hrt, hm', hru⟩ := hcross
    refine ⟨t, u, hut.symm, ?_⟩
    have hne : m' ≠ m := by
      rintro rfl
      rw [hm] at hm'
      cases hm'
    simp only [machine, advance_of_free hr hm]
    refine ⟨⟨m', e₁, n₁, by simpa using hrt, by simpa [hne] using hm'⟩, m, e₂, n₂, ?_, by simp⟩
    simpa [hut] using hru

/-- **Which runs deadlock.** Where a routine that holds a mutex needs only one more, and the
one that needs that in turn needs the first, no state of a run is deadlocked just if no step
of it crosses. -/
theorem never_deadlocked_iff (hE : ∀ {a b d : μ}, E a b → E b d → d = a)
    {ops : ω → Routine μ σ Unit} (hops : ∀ op, Nests E [] (ops op)) (s : σ)
    (es : List (Event ω)) :
    (∀ before after, es = before ++ after →
      ¬ (run (machine ops) (Config.idle s) before).Deadlocked) ↔
    Every (machine ops) (fun c e => ¬ Crosses c e) (Config.idle s) es := by
  -- from any state without a crossing, by induction on the events
  suffices h : ∀ (c : Config μ σ) held, c.Disciplined E held → (∀ v w, ¬ c.Crossing v w) →
      ((∀ before after, es = before ++ after → ¬ (run (machine ops) c before).Deadlocked) ↔
        Every (machine ops) (fun c e => ¬ Crosses c e) c es) by
    refine h _ _ (disciplined_idle s) fun v w hc => ?_
    obtain ⟨-, ⟨m, e, n, hr, -⟩, -⟩ := hc
    cases hr
  induction es with
  | nil =>
    intro c held hd hno
    refine ⟨fun _ => trivial, fun _ before after heq => ?_⟩
    obtain ⟨rfl, -⟩ := List.append_eq_nil_iff.mp heq.symm
    rw [run_nil, deadlocked_iff hE hd]
    rintro ⟨v, w, hc⟩
    exact hno v w hc
  | cons e es ih =>
    intro c held hd hno
    obtain ⟨held', hd'⟩ := hd.step hops e
    rw [every_cons]
    constructor
    · intro hrun
      have hcross : ¬ Crosses c e := by
        intro hcross
        -- a step that crosses deadlocks at once
        apply hrun [e] es rfl
        rw [run_cons, run_nil, deadlocked_iff hE hd']
        exact crossing_of_crosses ops hcross
      have hno' := not_crossing_step hE ops hd hno hcross
      refine ⟨hcross, (ih _ held' hd' hno').mp fun before after heq => ?_⟩
      have := hrun (e :: before) after (by rw [heq]; rfl)
      rwa [run_cons] at this
    · rintro ⟨hcross, hevery⟩ before after heq
      have hno' := not_crossing_step hE ops hd hno hcross
      cases before with
      | nil =>
        rw [run_nil, deadlocked_iff hE hd]
        rintro ⟨v, w, hc⟩
        exact hno v w hc
      | cons e' before =>
        simp only [List.cons_append, List.cons.injEq] at heq
        obtain ⟨rfl, rfl⟩ := heq
        rw [run_cons]
        exact (ih _ held' hd' hno').mpr hevery before after rfl

end Oid4vc.Locks
