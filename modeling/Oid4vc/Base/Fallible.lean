import Mathlib.Data.List.Forall2
import Mathlib.Tactic.Lemma

/-!
Computations that stop at the first error, and what their success says of each step.
-/

namespace Oid4vc.Fallible

universe u

variable {ε ε' α β : Type}

/-- Why a computation stopped: an error it reports, or a panic. -/
inductive Fault (ε : Type)
  | err (e : ε)
  | panic
  deriving DecidableEq

/-- Translate the reported errors; a panic goes on as it is. -/
def Fault.map (f : ε → ε') : Fault ε → Fault ε'
  | .err e => .err (f e)
  | .panic => .panic

/-- The value, or this error if there is none. -/
def okOr (e : ε) : Option α → Except ε α
  | some a => .ok a
  | none => .error e

/-- Go on only if the condition holds. -/
def ensure (p : Prop) [Decidable p] (e : ε) : Except ε Unit :=
  if p then .ok () else .error e

@[simp] lemma bind_eq_ok {x : Except ε α} {f : α → Except ε β} {b : β} :
    (x >>= f) = .ok b ↔ ∃ a, x = .ok a ∧ f a = .ok b := by
  cases x <;> simp [bind, Except.bind]

@[simp] lemma exists_unit {p : Unit → Prop} : (∃ u, p u) ↔ p () :=
  ⟨fun ⟨_, h⟩ => h, fun h => ⟨(), h⟩⟩

@[simp] lemma pure_eq_ok {a b : α} : (pure a : Except ε α) = .ok b ↔ a = b := by
  simp [pure, Except.pure]

@[simp] lemma mapError_eq_ok {f : ε → ε'} {x : Except ε α} {a : α} :
    x.mapError f = .ok a ↔ x = .ok a := by
  cases x with
  | error e => constructor <;> intro h <;> cases h
  | ok b => constructor <;> intro h <;> cases h <;> rfl

lemma toOption_eq_some {x : Except ε α} {a : α} : x.toOption = some a ↔ x = .ok a := by
  cases x <;> simp [Except.toOption]

@[simp] lemma okOr_some {e : ε} {a : α} : okOr e (some a) = .ok a := rfl

@[simp] lemma okOr_eq_ok {e : ε} {o : Option α} {a : α} : okOr e o = .ok a ↔ o = some a := by
  cases o <;> simp [okOr]

@[simp] lemma ensure_eq_ok {p : Prop} [Decidable p] {e : ε} {u : Unit} :
    ensure p e = .ok u ↔ p := by
  by_cases h : p <;> simp [ensure, h]

@[simp] lemma ensure_true {e : ε} : ensure True e = .ok () := rfl

lemma ensure_of {p : Prop} [Decidable p] {e : ε} (h : p) : ensure p e = .ok () := if_pos h

lemma ensure_of_not {p : Prop} [Decidable p] {e : ε} (h : ¬ p) : ensure p e = .error e := if_neg h

lemma bind_eq_error {x : Except ε α} {f : α → Except ε β} {e : ε} :
    (x >>= f) = .error e ↔ x = .error e ∨ ∃ a, x = .ok a ∧ f a = .error e := by
  cases x <;> simp [bind, Except.bind]

@[simp] lemma map_eq_error {x : Except ε α} {f : α → β} {e : ε} :
    f <$> x = .error e ↔ x = .error e := by
  cases x <;> simp [Functor.map, Except.map]

@[simp] lemma okOr_eq_error {e e' : ε} {o : Option α} :
    okOr e o = .error e' ↔ o = none ∧ e = e' := by
  cases o <;> simp [okOr]

@[simp] lemma ensure_eq_error {p : Prop} [Decidable p] {e e' : ε} :
    ensure p e = .error e' ↔ ¬ p ∧ e = e' := by
  by_cases h : p <;> simp [ensure, h]

/-- A computation on every element of a list succeeds if each of them does. -/
lemma mapM_eq_ok {f : α → Except ε β} {as : List α} {bs : List β} :
    as.mapM f = .ok bs ↔ List.Forall₂ (fun a b => f a = .ok b) as bs := by
  induction as generalizing bs with
  | nil =>
    rw [List.mapM_nil, pure_eq_ok, List.forall₂_nil_left_iff]
    exact eq_comm
  | cons a as ih =>
    simp only [List.mapM_cons, bind_eq_ok, pure_eq_ok, ih]
    constructor
    · rintro ⟨b, hb, bs, hbs, rfl⟩
      exact .cons hb hbs
    · rintro (_ | ⟨hb, hbs⟩)
      exact ⟨_, hb, _, hbs, rfl⟩

lemma exists_mapM_of_forall {f : α → Except ε β} {as : List α} (h : ∀ a ∈ as, ∃ b, f a = .ok b) :
    ∃ bs, as.mapM f = .ok bs := by
  induction as with
  | nil => exact ⟨[], rfl⟩
  | cons a as ih =>
    obtain ⟨b, hb⟩ := h a List.mem_cons_self
    obtain ⟨bs, hbs⟩ := ih fun a' ha' => h a' (List.mem_cons_of_mem _ ha')
    exact ⟨b :: bs, mapM_eq_ok.mpr (.cons hb (mapM_eq_ok.mp hbs))⟩

/-! ### Lists that correspond -/

variable {R : α → β → Prop} {as : List α} {bs : List β}

lemma exists_of_mem_right (h : List.Forall₂ R as bs) {b : β} (hb : b ∈ bs) : ∃ a ∈ as, R a b := by
  induction h with
  | nil => simp at hb
  | @cons a b' as bs hab _ ih =>
    rcases List.mem_cons.mp hb with rfl | hb
    · exact ⟨a, List.mem_cons_self, hab⟩
    · obtain ⟨a', ha', hr⟩ := ih hb
      exact ⟨a', List.mem_cons_of_mem _ ha', hr⟩

lemma exists_of_mem_left (h : List.Forall₂ R as bs) {a : α} (ha : a ∈ as) : ∃ b ∈ bs, R a b :=
  exists_of_mem_right h.flip ha

/-- What holds of every two elements in a row holds along two lists that correspond. -/
lemma forall₂_trans {γ : Type} {S : β → γ → Prop} {T : α → γ → Prop} {cs : List γ}
    (h : ∀ a b c, R a b → S b c → T a c) (hR : List.Forall₂ R as bs) (hS : List.Forall₂ S bs cs) :
    List.Forall₂ T as cs := by
  induction hR generalizing cs with
  | nil =>
    rw [List.forall₂_nil_left_iff] at hS
    rw [hS]
    exact .nil
  | cons hab _ ih =>
    cases hS with
    | cons hbc hS => exact .cons (h _ _ _ hab hbc) (ih hS)

/-- Along two lists that correspond, what depends on the left element only is the same for all. -/
lemma forall₂_iff_forall {S : α → β → Prop} {P : α → Prop} (h : ∀ a b, R a b → (S a b ↔ P a))
    (hR : List.Forall₂ R as bs) : List.Forall₂ S as bs ↔ ∀ a ∈ as, P a := by
  induction hR with
  | nil => simp
  | cons hab _ ih => rw [List.forall₂_cons, List.forall_mem_cons, h _ _ hab, ih]

end Oid4vc.Fallible
