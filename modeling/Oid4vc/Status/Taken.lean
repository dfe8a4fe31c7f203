import Oid4vc.Status.Birth

/-!
The indices that are taken.

An allocation takes one index of its list that was free, and nothing else takes any; none is ever
given back. So a list is exhausted when each of its indices has been allocated, and not before.
-/

namespace Oid4vc.Taken

open Oid4vc.Run Oid4vc.Fallible Oid4vc.PartialMap Oid4vc.External Oid4vc.StatusTypes
open Oid4vc.Manager Oid4vc.Lists Oid4vc.Birth

/-- The indices of a list that are taken. -/
def takenIn (m : StatusManager) (t : ListName) : Finset ℕ :=
  match t with
  | .entries p => ((m.lists.get p.toString).map ManagedList.allocated).getD ∅
  | .mdoc => m.mdoc.allocated

/-- The list that an operation is about. -/
def listOf : StatusOp → ListName
  | .allocateEntry p _ => .entries p
  | .revoke _ => .entries .revocation
  | .suspend _ | .reinstate _ => .entries .suspension
  | .allocateMdocIndex _ | .revokeMdoc _ => .mdoc

/-- Every list is there, and indices are taken within its capacity. -/
structure WithinCapacity (m : StatusManager) : Prop where
  shows : ∃ marks, Shows m marks
  lt : ∀ t, ∀ i ∈ takenIn m t, i < listCapacity

variable {m : StatusManager} {t : ListName} {i : ℕ}

lemma takenIn_of_get {p : StatusPurpose} {l : ManagedList} (h : m.lists.get p.toString = some l) :
    takenIn m (.entries p) = l.allocated := by
  simp only [takenIn, h, Option.map_some, Option.getD_some]

lemma withinCapacity_new (issuerUrl : String) : WithinCapacity (StatusManager.new issuerUrl) where
  shows := ⟨_, shows_new issuerUrl⟩
  lt t i hi := by
    cases t with
    | mdoc => exact absurd hi (Finset.notMem_empty i)
    | entries p =>
      have hget : (StatusManager.new issuerUrl).lists.get p.toString = some (newList p) := by
        cases p <;> simp [StatusManager.new, StatusPurpose.toString]
      rw [takenIn_of_get hget] at hi
      exact absurd hi (Finset.notMem_empty i)

lemma takenIn_new (issuerUrl : String) (t : ListName) :
    takenIn (StatusManager.new issuerUrl) t = ∅ := by
  cases t with
  | mdoc => rfl
  | entries p => cases p <;> simp [takenIn, StatusManager.new, StatusPurpose.toString, newList]

lemma takenIn_insert {p : StatusPurpose} {l : ManagedList} (l' : ManagedList)
    (hget : m.lists.get p.toString = some l) (hsame : l'.allocated = l.allocated) (t : ListName) :
    takenIn { m with lists := m.lists.insert p.toString l' } t = takenIn m t := by
  cases t with
  | mdoc => rfl
  | entries q =>
    by_cases hq : q = p
    · rw [hq, takenIn_of_get hget, ← hsame]
      exact takenIn_of_get (get_insert_self _ _ _)
    · have hne : q.toString ≠ p.toString := fun h => hq (purpose_toString_inj h)
      simp only [takenIn, get_insert_of_ne _ _ hne]

/-- **An update takes nothing.** -/
lemma takenIn_updateStatus (p : StatusPurpose) (index : ℕ) (value : Bool) (t : ListName) :
    takenIn (m.updateStatus p.toString index value).2 t = takenIn m t := by
  unfold StatusManager.updateStatus
  cases hget : m.lists.get p.toString with
  | none => rfl
  | some l =>
    simp only
    cases l.sl2021.set index value with
    | error e => rfl
    | ok sl2021 =>
      simp only
      cases l.tsl.setStatus index (StatusManager.statusOf p.toString value) with
      | error e => exact takenIn_insert { l with sl2021 := sl2021 } hget rfl t
      | ok tsl => exact takenIn_insert { l with sl2021 := sl2021, tsl := tsl } hget rfl t

lemma takenIn_revokeMdoc (index : ℕ) (t : ListName) :
    takenIn (m.revokeMdoc index).2 t = takenIn m t := by
  unfold StatusManager.revokeMdoc
  cases m.mdoc.tsl.set index 1 with
  | error e => rfl
  | ok tsl => cases t <;> rfl

lemma notMem_of_takes {op : StatusOp} (h : Takes m op t i) : i ∉ takenIn m t := by
  cases op with
  | allocateEntry p draws =>
    obtain ⟨rfl, l, allocated, hget, hd⟩ := h
    rw [takenIn_of_get hget]
    exact (drawIndex_ok hd).2.1
  | allocateMdocIndex draws =>
    obtain ⟨rfl, allocated, hd⟩ := h
    exact (drawIndex_ok hd).2.1
  | _ => exact absurd h id

lemma lt_of_takes {op : StatusOp} (h : Takes m op t i) (hm : WithinCapacity m) : i < listCapacity := by
  obtain ⟨marks, hshows⟩ := hm.shows
  exact h.lt hshows

lemma takes_entry {p : StatusPurpose} {l : ManagedList} {index : ℕ} {allocated : Finset ℕ}
    {draws : List ℕ} (hget : m.lists.get p.toString = some l)
    (hd : drawIndex l.allocated l.capacity draws = some (.ok (index, allocated))) :
    Takes m (.allocateEntry p draws) t i ↔ t = .entries p ∧ i = index := by
  constructor
  · rintro ⟨ht, l', allocated', hget', hd'⟩
    obtain rfl := Option.some.inj (hget.symm.trans hget')
    rw [hd, Option.some.injEq, Except.ok.injEq, Prod.mk.injEq] at hd'
    exact ⟨ht, hd'.1.symm⟩
  · rintro ⟨ht, rfl⟩
    exact ⟨ht, l, allocated, hget, hd⟩

lemma takes_mdoc {index : ℕ} {allocated : Finset ℕ} {draws : List ℕ}
    (hd : drawIndex m.mdoc.allocated listCapacity draws = some (.ok (index, allocated))) :
    Takes m (.allocateMdocIndex draws) t i ↔ t = .mdoc ∧ i = index := by
  constructor
  · rintro ⟨ht, allocated', hd'⟩
    rw [hd, Option.some.injEq, Except.ok.injEq, Prod.mk.injEq] at hd'
    exact ⟨ht, hd'.1.symm⟩
  · rintro ⟨ht, rfl⟩
    exact ⟨ht, allocated, hd⟩

lemma mem_takenIn_insert {p : StatusPurpose} {l : ManagedList} (index : ℕ)
    (hget : m.lists.get p.toString = some l) :
    i ∈ takenIn (StatusManager.mk (m.lists.insert p.toString
        { l with allocated := insert index l.allocated }) m.mdoc m.issuerUrl) t ↔
      i ∈ takenIn m t ∨ (t = .entries p ∧ i = index) := by
  cases t with
  | mdoc => simp [takenIn]
  | entries q =>
    by_cases hq : q = p
    · subst hq
      rw [takenIn_of_get hget, takenIn_of_get (get_insert_self _ _ _), Finset.mem_insert]
      simp only [true_and]
      exact Or.comm
    · have hne : q.toString ≠ p.toString := fun h => hq (purpose_toString_inj h)
      simp [takenIn, get_insert_of_ne _ _ hne, hq]

/-- **One operation** takes what it allocates. -/
theorem mem_takenIn_step (X : Crates) (m : StatusManager) (op : StatusOp) (t : ListName) (i : ℕ) :
    i ∈ takenIn ((statusMachine X).step m op).1 t ↔ i ∈ takenIn m t ∨ Takes m op t i := by
  have hstill : ∀ {m' : StatusManager}, takenIn m' t = takenIn m t → ¬ Takes m op t i →
      (i ∈ takenIn m' t ↔ i ∈ takenIn m t ∨ Takes m op t i) := by
    intro m' hsame hno
    rw [hsame]
    exact ⟨Or.inl, fun h => h.resolve_right hno⟩
  cases op with
  | allocateEntry p draws =>
    simp only [statusMachine]
    cases ha : m.allocateEntry X p draws with
    | none =>
      refine hstill rfl ?_
      rintro ⟨-, l, allocated, hget, hd⟩
      simp [StatusManager.allocateEntry, hget, hd] at ha
    | some r =>
      obtain ⟨r, m'⟩ := r
      rcases allocateEntry_cases ha with ⟨e, rfl, rfl⟩ |
        ⟨l, index, allocated, entry, hget, hd, rfl, -, rfl⟩
      · refine hstill rfl ?_
        rintro ⟨-, l, allocated, hget, hd⟩
        simp [StatusManager.allocateEntry, hget, hd] at ha
      · rw [takes_entry hget hd, (drawIndex_ok hd).2.2]
        exact mem_takenIn_insert index hget
  | allocateMdocIndex draws =>
    simp only [statusMachine]
    cases ha : m.allocateMdocIndex draws with
    | none =>
      refine hstill rfl ?_
      rintro ⟨-, allocated, hd⟩
      simp [StatusManager.allocateMdocIndex, hd] at ha
    | some r =>
      obtain ⟨r, m'⟩ := r
      rcases allocateMdocIndex_cases ha with ⟨e, rfl, rfl⟩ | ⟨index, allocated, hd, rfl, rfl⟩
      · refine hstill rfl ?_
        rintro ⟨-, allocated, hd⟩
        simp [StatusManager.allocateMdocIndex, hd] at ha
      · rw [takes_mdoc hd, (drawIndex_ok hd).2.2]
        cases t with
        | mdoc =>
          simp only [takenIn, Finset.mem_insert, true_and]
          exact Or.comm
        | entries p => simp [takenIn]
  -- an update of a list writes an entry, and takes none
  | revoke index =>
    simp only [statusMachine, updateAnswer_fst]
    exact hstill (takenIn_updateStatus .revocation index true t) id
  | suspend index =>
    simp only [statusMachine, updateAnswer_fst]
    exact hstill (takenIn_updateStatus .suspension index true t) id
  | reinstate index =>
    simp only [statusMachine, updateAnswer_fst]
    exact hstill (takenIn_updateStatus .suspension index false t) id
  | revokeMdoc index =>
    simp only [statusMachine, updateAnswer_fst]
    exact hstill (takenIn_revokeMdoc index t) id

/-- **The capacity is kept.** -/
theorem WithinCapacity.step (X : Crates) (h : WithinCapacity m) (op : StatusOp) :
    WithinCapacity ((statusMachine X).step m op).1 where
  shows := by
    obtain ⟨marks, hshows⟩ := h.shows
    exact ⟨_, step_shows X op hshows⟩
  lt t i hi := by
    rcases (mem_takenIn_step X m op t i).mp hi with hold | htakes
    · exact h.lt t i hold
    · exact lt_of_takes htakes h

/-- A draw fails when as many indices are taken as there are. -/
lemma drawIndex_eq_full {allocated : Finset ℕ} {capacity : ℕ} {draws : List ℕ}
    (h : ∀ i ∈ allocated, i < capacity) :
    drawIndex allocated capacity draws = some (.error .noAvailableIndex) ↔
      ∀ i < capacity, i ∈ allocated := by
  have hsub : allocated ⊆ Finset.range capacity := fun i hi => Finset.mem_range.mpr (h i hi)
  have hfull : capacity ≤ allocated.card ↔ ∀ i < capacity, i ∈ allocated := by
    constructor
    · intro hcard i hi
      have hsame : allocated = Finset.range capacity := by
        refine Finset.eq_of_subset_of_card_le hsub ?_
        rw [Finset.card_range]
        exact hcard
      rw [hsame]
      exact Finset.mem_range.mpr hi
    · intro hall
      have hrange : Finset.range capacity ⊆ allocated := fun i hi => hall i (Finset.mem_range.mp hi)
      calc capacity
        _ = (Finset.range capacity).card := (Finset.card_range capacity).symm
        _ ≤ allocated.card := Finset.card_le_card hrange
  rw [← hfull, drawIndex]
  split_ifs with hcard
  · simp [hcard]
  · split <;> simp [hcard]

/-- **Exhausted.** An allocation is refused for want of an index exactly when all of its list are
taken. -/
theorem refused_iff (X : Crates) (h : WithinCapacity m) {op : StatusOp}
    (hop : (∃ p draws, op = .allocateEntry p draws) ∨ ∃ draws, op = .allocateMdocIndex draws) :
    ((statusMachine X).step m op).2 = .refused (.err .noAvailableIndex) ↔
      ∀ i < listCapacity, i ∈ takenIn m (listOf op) := by
  obtain ⟨marks, hshows⟩ := h.shows
  rcases hop with ⟨p, draws, rfl⟩ | ⟨draws, rfl⟩
  · obtain ⟨l, hget, hl, -⟩ := hshows.list p
    have hlt := h.lt (.entries p)
    rw [takenIn_of_get hget, ← hl.capacity] at hlt
    have hfull := @drawIndex_eq_full l.allocated l.capacity draws hlt
    rw [listOf, takenIn_of_get hget, ← hl.capacity, ← hfull]
    simp only [statusMachine, StatusManager.allocateEntry, hget]
    rcases drawIndex l.allocated l.capacity draws with _ | (e | ⟨index, allocated⟩) <;> simp
  · have hfull := @drawIndex_eq_full _ _ draws (h.lt .mdoc)
    have htaken : takenIn m .mdoc = m.mdoc.allocated := rfl
    rw [htaken] at hfull
    rw [listOf, htaken, ← hfull]
    simp only [statusMachine, StatusManager.allocateMdocIndex]
    rcases drawIndex m.mdoc.allocated listCapacity draws with _ | (e | ⟨index, allocated⟩) <;> simp

end Oid4vc.Taken
