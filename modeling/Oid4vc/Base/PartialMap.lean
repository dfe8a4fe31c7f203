import Mathlib.Data.List.Induction
import Mathlib.Data.List.Nodup
import Mathlib.Logic.Function.Basic
import Mathlib.Tactic.Lemma
import Mathlib.Tactic.SplitIfs

/-!
Maps with at most one value a key, as their readers see them: what a hash map or an
ordered map behind a lock amounts to when nothing depends on the order of its entries.
-/

namespace Oid4vc.PartialMap

universe u v

/-- A map from keys to values. -/
structure PMap (κ : Type u) (ν : Type v) where
  get : κ → Option ν

variable {κ : Type u} {ν : Type v}

@[ext] lemma PMap.ext {m n : PMap κ ν} (h : ∀ k, m.get k = n.get k) : m = n := by
  obtain ⟨f⟩ := m
  obtain ⟨g⟩ := n
  have : f = g := funext h
  rw [this]

def empty : PMap κ ν := ⟨fun _ => none⟩

@[simp] lemma get_empty (k : κ) : (empty : PMap κ ν).get k = none := rfl

/-- Keep the entries that pass a test. -/
def PMap.retain (m : PMap κ ν) (p : κ → ν → Bool) : PMap κ ν :=
  ⟨fun k => (m.get k).filter (p k)⟩

@[simp] lemma get_retain (m : PMap κ ν) (p : κ → ν → Bool) (k : κ) :
    (m.retain p).get k = (m.get k).filter (p k) := rfl

def PMap.containsKey (m : PMap κ ν) (k : κ) : Bool := (m.get k).isSome

@[simp] lemma containsKey_eq (m : PMap κ ν) (k : κ) :
    m.containsKey k = (m.get k).isSome := rfl

variable [DecidableEq κ]

def PMap.insert (m : PMap κ ν) (k : κ) (v : ν) : PMap κ ν :=
  ⟨fun k' => if k' = k then some v else m.get k'⟩

def PMap.remove (m : PMap κ ν) (k : κ) : PMap κ ν :=
  ⟨fun k' => if k' = k then none else m.get k'⟩

/-- Change the value under a key, if there is one. -/
def PMap.modify (m : PMap κ ν) (k : κ) (f : ν → ν) : PMap κ ν :=
  ⟨fun k' => if k' = k then (m.get k).map f else m.get k'⟩

lemma get_insert (m : PMap κ ν) (k k' : κ) (v : ν) :
    (m.insert k v).get k' = if k' = k then some v else m.get k' := rfl

@[simp] lemma get_insert_self (m : PMap κ ν) (k : κ) (v : ν) :
    (m.insert k v).get k = some v := by simp [get_insert]

@[simp] lemma get_insert_of_ne (m : PMap κ ν) {k k' : κ} (v : ν) (h : k' ≠ k) :
    (m.insert k v).get k' = m.get k' := by simp [get_insert, h]

lemma get_remove (m : PMap κ ν) (k k' : κ) :
    (m.remove k).get k' = if k' = k then none else m.get k' := rfl

@[simp] lemma get_remove_self (m : PMap κ ν) (k : κ) : (m.remove k).get k = none := by
  simp [get_remove]

@[simp] lemma get_remove_of_ne (m : PMap κ ν) {k k' : κ} (h : k' ≠ k) :
    (m.remove k).get k' = m.get k' := by simp [get_remove, h]

lemma get_modify (m : PMap κ ν) (k k' : κ) (f : ν → ν) :
    (m.modify k f).get k' = if k' = k then (m.get k).map f else m.get k' := rfl

@[simp] lemma get_modify_self (m : PMap κ ν) (k : κ) (f : ν → ν) :
    (m.modify k f).get k = (m.get k).map f := by simp [get_modify]

@[simp] lemma get_modify_of_ne (m : PMap κ ν) {k k' : κ} (f : ν → ν) (h : k' ≠ k) :
    (m.modify k f).get k' = m.get k' := by simp [get_modify, h]

lemma get_of_get_remove {m : PMap κ ν} {k k' : κ} {v : ν} (h : (m.remove k).get k' = some v) :
    k' ≠ k ∧ m.get k' = some v := by
  by_cases hk : k' = k
  · simp [hk] at h
  · exact ⟨hk, by simpa [hk] using h⟩

lemma get_of_get_insert {m : PMap κ ν} {k k' : κ} {v w : ν}
    (h : (m.insert k v).get k' = some w) :
    (k' = k ∧ w = v) ∨ (k' ≠ k ∧ m.get k' = some w) := by
  by_cases hk : k' = k
  · subst hk
    simp only [get_insert_self, Option.some.injEq] at h
    exact Or.inl ⟨rfl, h.symm⟩
  · exact Or.inr ⟨hk, by simpa [hk] using h⟩

/-- Insert the entries of a list, one after another. -/
def PMap.insertAll (m : PMap κ ν) (entries : List (κ × ν)) : PMap κ ν :=
  entries.foldl (fun m e => m.insert e.1 e.2) m

@[simp] lemma insertAll_nil (m : PMap κ ν) : m.insertAll [] = m := rfl
@[simp] lemma insertAll_cons (m : PMap κ ν) (e : κ × ν) (es : List (κ × ν)) :
    m.insertAll (e :: es) = (m.insert e.1 e.2).insertAll es := rfl

lemma insertAll_append (m : PMap κ ν) (es fs : List (κ × ν)) :
    m.insertAll (es ++ fs) = (m.insertAll es).insertAll fs := by
  simp [PMap.insertAll, List.foldl_append]

lemma get_insertAll_of_not_mem {m : PMap κ ν} {es : List (κ × ν)} {k : κ}
    (h : k ∉ es.map Prod.fst) : (m.insertAll es).get k = m.get k := by
  induction es generalizing m with
  | nil => rfl
  | cons e es ih =>
    simp only [List.map_cons, List.mem_cons, not_or] at h
    rw [insertAll_cons, ih h.2, get_insert_of_ne _ _ h.1]

/-- What a map holds under a key, after the same insertions, does not depend on what it held
before if the key is inserted or held the same. -/
lemma get_insertAll_congr {m n : PMap κ ν} {es : List (κ × ν)} {k : κ}
    (h : k ∈ es.map Prod.fst ∨ m.get k = n.get k) :
    (m.insertAll es).get k = (n.insertAll es).get k := by
  induction es generalizing m n with
  | nil => simpa using h
  | cons e es ih =>
    refine ih ?_
    by_cases hk : k = e.1
    · exact Or.inr (by rw [hk, get_insert_self, get_insert_self])
    · rw [get_insert_of_ne _ _ hk, get_insert_of_ne _ _ hk]
      simpa [hk] using h

lemma mem_of_get_insertAll {m : PMap κ ν} {es : List (κ × ν)} {k : κ} {v : ν}
    (h : (m.insertAll es).get k = some v) : (k, v) ∈ es ∨ m.get k = some v := by
  induction es generalizing m with
  | nil => exact Or.inr h
  | cons e es ih =>
    rcases ih h with hes | hm
    · exact Or.inl (List.mem_cons_of_mem _ hes)
    · rcases get_of_get_insert hm with ⟨rfl, rfl⟩ | ⟨-, hm⟩
      · exact Or.inl List.mem_cons_self
      · exact Or.inr hm

/-- **Entries of distinct keys** are all there, with their values. -/
lemma get_insertAll_of_mem {m : PMap κ ν} {es : List (κ × ν)} (hnodup : (es.map Prod.fst).Nodup)
    {k : κ} {v : ν} (h : (k, v) ∈ es) : (m.insertAll es).get k = some v := by
  induction es generalizing m with
  | nil => simp at h
  | cons e es ih =>
    simp only [List.map_cons, List.nodup_cons] at hnodup
    rcases List.mem_cons.mp h with rfl | h
    · rw [insertAll_cons, get_insertAll_of_not_mem hnodup.1, get_insert_self]
    · exact ih hnodup.2 h

lemma get_insertAll_empty {es : List (κ × ν)} (hnodup : (es.map Prod.fst).Nodup) {k : κ} {v : ν} :
    (empty.insertAll es).get k = some v ↔ (k, v) ∈ es := by
  constructor
  · intro h
    rcases mem_of_get_insertAll h with h | h
    · exact h
    · cases h
  · exact get_insertAll_of_mem hnodup

lemma get_insertAll_isSome {m : PMap κ ν} {es : List (κ × ν)} {k : κ}
    (h : k ∈ es.map Prod.fst) : ((m.insertAll es).get k).isSome = true := by
  induction es using List.reverseRecOn with
  | nil => simp at h
  | append_singleton es e ih =>
    rw [insertAll_append, insertAll_cons, insertAll_nil]
    by_cases hk : k = e.1
    · rw [hk, get_insert_self]
      rfl
    · rw [get_insert_of_ne _ _ hk]
      refine ih ?_
      simpa [hk] using h

lemma get_insertAll_eq_none {m : PMap κ ν} {es : List (κ × ν)} {k : κ} :
    (m.insertAll es).get k = none ↔ k ∉ es.map Prod.fst ∧ m.get k = none := by
  by_cases hk : k ∈ es.map Prod.fst
  · have hsome := get_insertAll_isSome (m := m) hk
    constructor
    · intro h
      rw [h] at hsome
      cases hsome
    · exact fun h => absurd hk h.1
  · rw [get_insertAll_of_not_mem hk]
    simp [hk]

lemma insert_insert (m : PMap κ ν) (k : κ) (v w : ν) : (m.insert k v).insert k w = m.insert k w := by
  ext1 k'
  by_cases hk : k' = k
  · rw [hk, get_insert_self, get_insert_self]
  · rw [get_insert_of_ne _ _ hk, get_insert_of_ne _ _ hk, get_insert_of_ne _ _ hk]

/-! ### Maps of maps -/

universe w

variable {μ : Type w} [DecidableEq μ]

def PMap.flat (m : PMap κ (PMap μ ν)) : PMap (κ × μ) ν :=
  ⟨fun p => (m.get p.1).bind fun n => n.get p.2⟩

omit [DecidableEq κ] [DecidableEq μ] in
lemma get_flat (m : PMap κ (PMap μ ν)) (k : κ) (l : μ) :
    m.flat.get (k, l) = (m.get k).bind fun n => n.get l := rfl

omit [DecidableEq κ] [DecidableEq μ] in
@[simp] lemma flat_empty : (empty : PMap κ (PMap μ ν)).flat = empty := rfl

/-- Insert entries into the map under a key, which is empty if there is none. -/
def PMap.insertUnder (m : PMap κ (PMap μ ν)) (k : κ) (es : List (μ × ν)) : PMap κ (PMap μ ν) :=
  m.insert k (((m.get k).getD empty).insertAll es)

/-- The entries of groups, each under the key of its group. -/
def pairs (groups : List (κ × List (μ × ν))) : List ((κ × μ) × ν) :=
  groups.flatMap fun g => g.2.map fun e => ((g.1, e.1), e.2)

omit [DecidableEq κ] [DecidableEq μ] in
lemma pairs_cons (k : κ) (es : List (μ × ν)) (groups : List (κ × List (μ × ν))) :
    pairs ((k, es) :: groups) = (es.map fun e => ((k, e.1), e.2)) ++ pairs groups := rfl

omit [DecidableEq κ] [DecidableEq μ] in
lemma nodup_group {k : κ} {es : List (μ × ν)} :
    ((es.map fun e => ((k, e.1), e.2)).map Prod.fst).Nodup ↔ (es.map Prod.fst).Nodup := by
  have hmap : (es.map fun e => ((k, e.1), e.2)).map Prod.fst = (es.map Prod.fst).map (Prod.mk k) := by
    simp [Function.comp_def]
  rw [hmap]
  exact List.nodup_map_iff fun _ _ h => (Prod.mk.inj h).2

omit [DecidableEq κ] [DecidableEq μ] in
lemma mem_pairs {groups : List (κ × List (μ × ν))} {k : κ} {l : μ} {v : ν} :
    ((k, l), v) ∈ pairs groups ↔ ∃ es, (k, es) ∈ groups ∧ (l, v) ∈ es := by
  simp only [pairs, List.mem_flatMap, List.mem_map, Prod.mk.injEq, Prod.exists]
  constructor
  · rintro ⟨k', es, hg, l', v', he, ⟨rfl, rfl⟩, rfl⟩
    exact ⟨es, hg, he⟩
  · rintro ⟨es, hg, he⟩
    exact ⟨k, es, hg, l, v, he, ⟨rfl, rfl⟩, rfl⟩

lemma flat_insertUnder (m : PMap κ (PMap μ ν)) (k : κ) (es : List (μ × ν)) :
    (m.insertUnder k es).flat = m.flat.insertAll (es.map fun e => ((k, e.1), e.2)) := by
  induction es generalizing m with
  | nil =>
    ext1 ⟨k', l⟩
    rw [get_flat, PMap.insertUnder, List.map_nil, insertAll_nil, insertAll_nil, get_flat]
    by_cases hk : k' = k
    · subst hk
      rw [get_insert_self]
      cases m.get k' <;> rfl
    · rw [get_insert_of_ne _ _ hk]
  | cons e es ih =>
    have hstep : (m.insertUnder k [e]).flat = m.flat.insert (k, e.1) e.2 := by
      ext1 ⟨k', l⟩
      rw [get_flat, PMap.insertUnder, insertAll_cons, insertAll_nil]
      by_cases hk : k' = k
      · subst hk
        rw [get_insert_self, Option.bind_some]
        by_cases hl : l = e.1
        · rw [hl, get_insert_self, get_insert_self]
        · rw [get_insert_of_ne _ _ hl, get_insert_of_ne _ _ (by simp [hl]), get_flat]
          cases m.get k' <;> rfl
      · rw [get_insert_of_ne _ _ hk, get_insert_of_ne _ _ (by simp [hk]), get_flat]
    have hsplit : m.insertUnder k (e :: es) = (m.insertUnder k [e]).insertUnder k es := by
      simp only [PMap.insertUnder, insertAll_cons, insertAll_nil, get_insert_self, Option.getD_some,
        insert_insert]
    rw [hsplit, ih, hstep]
    rfl

/-- Insert the entries of groups, each under the key of its group. -/
def PMap.insertGroups (m : PMap κ (PMap μ ν)) (groups : List (κ × List (μ × ν))) :
    PMap κ (PMap μ ν) :=
  groups.foldl (fun m g => m.insertUnder g.1 g.2) m

@[simp] lemma insertGroups_nil (m : PMap κ (PMap μ ν)) : m.insertGroups [] = m := rfl
@[simp] lemma insertGroups_cons (m : PMap κ (PMap μ ν)) (g : κ × List (μ × ν))
    (groups : List (κ × List (μ × ν))) :
    m.insertGroups (g :: groups) = (m.insertUnder g.1 g.2).insertGroups groups := rfl

/-- **Groups are their pairs.** -/
lemma flat_insertGroups (m : PMap κ (PMap μ ν)) (groups : List (κ × List (μ × ν))) :
    (m.insertGroups groups).flat = m.flat.insertAll (pairs groups) := by
  induction groups generalizing m with
  | nil => rfl
  | cons g groups ih =>
    rw [insertGroups_cons, ih, flat_insertUnder, ← insertAll_append]
    rfl

end Oid4vc.PartialMap
