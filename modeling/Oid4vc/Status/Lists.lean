import Oid4vc.Base.Run
import Oid4vc.Status.Manager

/-!
What the status lists read, over every run of the manager.

Both formats of a list hold the same array of marks. An update marks or unmarks one entry;
an allocation touches none, so an index is born with the mark that its last update left.
-/

namespace Oid4vc.Lists

open Oid4vc.JsonValue Oid4vc.Run Oid4vc.Fallible Oid4vc.PartialMap Oid4vc.Bitfield Oid4vc.Packed
open Oid4vc.External Oid4vc.StatusTypes Oid4vc.StatusList2021 Oid4vc.TokenStatusList
open Oid4vc.Manager

/-- The operations of the manager, with the numbers drawn. -/
inductive StatusOp
  | allocateEntry (purpose : StatusPurpose) (draws : List ℕ)
  | allocateMdocIndex (draws : List ℕ)
  | revoke (index : ℕ)
  | suspend (index : ℕ)
  | reinstate (index : ℕ)
  | revokeMdoc (index : ℕ)

inductive StatusAnswer
  | entry (e : StatusList2021Entry)
  | index (i : ℕ)
  | updated
  | refused (e : Fault ManagerError)
  | drawing

def updateAnswer (r : Except (Fault ManagerError) Unit × StatusManager) :
    StatusManager × StatusAnswer :=
  match r with
  | (.ok (), m) => (m, .updated)
  | (.error e, m) => (m, .refused e)

def statusMachine (X : Crates) : Machine StatusManager StatusOp StatusAnswer where
  step m op :=
    match op with
    | .allocateEntry purpose draws =>
      match m.allocateEntry X purpose draws with
      | none => (m, .drawing)
      | some (.error e, m) => (m, .refused (.err e))
      | some (.ok entry, m) => (m, .entry entry)
    | .allocateMdocIndex draws =>
      match m.allocateMdocIndex draws with
      | none => (m, .drawing)
      | some (.error e, m) => (m, .refused (.err e))
      | some (.ok index, m) => (m, .index index)
    | .revoke index => updateAnswer (m.revoke index)
    | .suspend index => updateAnswer (m.suspend index)
    | .reinstate index => updateAnswer (m.reinstate index)
    | .revokeMdoc index => updateAnswer (m.revokeMdoc index)

/-- The lists: one for each purpose, and that of the mdocs. -/
inductive ListName
  | entries (purpose : StatusPurpose)
  | mdoc
  deriving DecidableEq

abbrev Marks := ListName → ℕ → Bool

/-- The marks after an update of one list. -/
def setMark (marks : Marks) (t : ListName) (index : ℕ) (value : Bool) : Marks := fun t' i =>
  if t' = t ∧ i = index then value else marks t' i

/-- What an operation does to the marks. -/
def StatusOp.mark (op : StatusOp) (marks : Marks) : Marks :=
  match op with
  | .allocateEntry _ _ => marks
  | .allocateMdocIndex _ => marks
  | .revoke index => setMark marks (.entries .revocation) index true
  | .suspend index => setMark marks (.entries .suspension) index true
  | .reinstate index => setMark marks (.entries .suspension) index false
  | .revokeMdoc index => setMark marks .mdoc index true

/-- The marks after a run of operations, none marked before it. -/
def marksAfter (ops : List StatusOp) : Marks :=
  ops.foldl (fun marks op => op.mark marks) fun _ _ => false

@[simp] lemma marksAfter_snoc (ops : List StatusOp) (op : StatusOp) :
    marksAfter (ops ++ [op]) = op.mark (marksAfter ops) := by simp [marksAfter]

/-- A list as the manager keeps it: full size in both formats, two bits a token. -/
structure Sound (l : ManagedList) : Prop where
  capacity : l.capacity = listCapacity
  size : l.sl2021.size = listCapacity
  covered : l.sl2021.Covered
  tslCapacity : l.tsl.capacity = listCapacity
  tslBits : l.tsl.bitsPerStatus = 2
  tslCovered : l.tsl.Covered

/-- Both formats of a list hold this mark. -/
structure Holds (id : String) (l : ManagedList) (i : ℕ) (mark : Bool) : Prop where
  bit : readEntry msbFirst l.sl2021.bits i = some (if mark then 1#8 else 0#8)
  value : readEntry l.tsl.layout l.tsl.data i = some (StatusManager.statusOf id mark).toByte

/-- The manager shows these marks. -/
structure Shows (m : StatusManager) (marks : Marks) : Prop where
  list : ∀ p : StatusPurpose, ∃ l, m.lists.get p.toString = some l ∧ Sound l ∧
    ∀ i < listCapacity, Holds p.toString l i (marks (.entries p) i)
  mdocCapacity : m.mdoc.tsl.capacity = listCapacity
  mdocBits : m.mdoc.tsl.bitsPerStatus = 1
  mdocCovered : m.mdoc.tsl.Covered
  mdoc : ∀ i < listCapacity,
    readEntry m.mdoc.tsl.layout m.mdoc.tsl.data i = some (if marks .mdoc i then 1#8 else 0#8)

lemma sound_newList (p : StatusPurpose) : Sound (newList p) where
  capacity := rfl
  size := rfl
  covered := StatusList.covered_new _
  tslCapacity := rfl
  tslBits := rfl
  tslCovered := TokenStatusListImpl.covered_of_new (newTsl_eq _)

lemma readEntry_newTsl {bits : ℕ} (h : bits ∈ [1, 2, 4, 8]) {i : ℕ} (hi : i < listCapacity) :
    readEntry (newTsl bits h).layout (newTsl bits h).data i = some 0 := by
  have hc := TokenStatusListImpl.covered_of_new (newTsl_eq h) i hi
  simp only [newTsl, List.length_replicate] at hc
  exact readEntry_replicate_zero hc

lemma holds_newList (id : String) (p : StatusPurpose) {i : ℕ} (hi : i < listCapacity) :
    Holds id (newList p) i false where
  bit := by
    have hi' : i < (StatusList.new listCapacity).size := hi
    have hc := StatusList.byte_lt (StatusList.covered_new listCapacity) hi'
    simp only [StatusList.new, List.length_replicate] at hc
    exact readEntry_replicate_zero hc
  value := readEntry_newTsl _ hi

lemma shows_new (issuerUrl : String) : Shows (StatusManager.new issuerUrl) (marksAfter []) where
  list p := by
    refine ⟨newList p, ?_, sound_newList p, fun i hi => holds_newList _ p hi⟩
    cases p <;> simp [StatusManager.new, StatusPurpose.toString]
  mdocCapacity := rfl
  mdocBits := rfl
  mdocCovered := TokenStatusListImpl.covered_of_new (newTsl_eq _)
  mdoc _ hi := readEntry_newTsl _ hi

/-- A list with one entry updated in both formats. -/
def marked (id : String) (l : ManagedList) (index : ℕ) (value : Bool) : ManagedList :=
  { l with
    sl2021 := { l.sl2021 with
      bits := writeEntry msbFirst l.sl2021.bits index (if value then 1#8 else 0#8) }
    tsl := { l.tsl with
      data := writeEntry l.tsl.layout l.tsl.data index (StatusManager.statusOf id value).toByte } }

lemma Sound.marked {l : ManagedList} (hl : Sound l) (id : String) (index : ℕ) (value : Bool) :
    Sound (marked id l index value) where
  capacity := hl.capacity
  size := hl.size
  covered := by
    have := hl.covered
    simp only [StatusList.Covered, Lists.marked, length_writeEntry] at this ⊢
    exact this
  tslCapacity := hl.tslCapacity
  tslBits := hl.tslBits
  tslCovered i hi := by
    simp only [Lists.marked, length_writeEntry]
    exact hl.tslCovered i hi

/-- The entry after an update, and the others as they were. -/
lemma Holds.marked {id : String} {l : ManagedList} (hl : Sound l) {index i : ℕ} {mark : Bool}
    (hindex : index < listCapacity) (hi : Holds id l i mark) (value : Bool) :
    Holds id (marked id l index value) i (if i = index then value else mark) := by
  have hbit : (if value then 1#8 else 0#8) &&& mask msbFirst.width =
      if value then 1#8 else 0#8 := by
    cases value <;> decide
  have hvalue : (StatusManager.statusOf id value).toByte &&& mask l.tsl.layout.width =
      (StatusManager.statusOf id value).toByte := by
    have hw : l.tsl.layout.width = 2 := hl.tslBits
    rw [hw]
    cases StatusManager.statusOf id value <;> decide
  have hb : msbFirst.byte index < l.sl2021.bits.length :=
    StatusList.byte_lt hl.covered (by rw [hl.size]; exact hindex)
  have ht : l.tsl.layout.byte index < l.tsl.data.length :=
    hl.tslCovered index (by rw [hl.tslCapacity]; exact hindex)
  by_cases heq : i = index
  · subst heq
    rw [if_pos rfl]
    exact ⟨readEntry_writeEntry_self hb hbit, readEntry_writeEntry_self ht hvalue⟩
  · rw [if_neg heq]
    have hne : index ≠ i := fun h => heq h.symm
    exact ⟨(readEntry_writeEntry_of_ne hne hbit).trans hi.bit,
      (readEntry_writeEntry_of_ne hne hvalue).trans hi.value⟩

/-- **An update in bounds** writes both formats. -/
lemma updateStatus_eq {m : StatusManager} {id : String} {l : ManagedList} {index : ℕ}
    (hget : m.lists.get id = some l) (hl : Sound l) (hindex : index < listCapacity) (value : Bool) :
    m.updateStatus id index value =
      (.ok (), { m with lists := m.lists.insert id (marked id l index value) }) := by
  have hset := StatusList.set_eq hl.covered (by rw [hl.size]; exact hindex) value
  have hfits : (StatusManager.statusOf id value).toByte ≤
      BitVec.ofNat 8 (2 ^ l.tsl.bitsPerStatus - 1) := by
    rw [hl.tslBits]
    cases StatusManager.statusOf id value <;> decide
  have htsl := TokenStatusListImpl.set_eq hl.tslCovered (by rw [hl.tslCapacity]; exact hindex) hfits
  simp only [StatusManager.updateStatus, hget, hset, TokenStatusListImpl.setStatus, htsl, marked]

/-- **An update out of bounds** changes nothing. -/
lemma updateStatus_of_le {m : StatusManager} {id : String} {l : ManagedList} {index : ℕ}
    (hget : m.lists.get id = some l) (hl : Sound l) (hindex : listCapacity ≤ index) (value : Bool) :
    ∃ e, m.updateStatus id index value = (.error e, m) := by
  have hset : l.sl2021.set index value = .error (.err (.indexOutOfBounds index l.sl2021.size)) :=
    StatusList.set_of_size_le (hl.size.trans_le hindex) value
  refine ⟨?_, ?_⟩
  rotate_left
  · simp only [StatusManager.updateStatus, hget, hset]
    rfl

lemma purpose_toString_inj {p q : StatusPurpose} (h : p.toString = q.toString) : p = q := by
  cases p <;> cases q <;> first | rfl | (revert h; decide)

/-- What an update of a credential list does to the marks shown. -/
lemma Shows.update {m : StatusManager} {marks : Marks} (h : Shows m marks) (p : StatusPurpose)
    (index : ℕ) (value : Bool) :
    Shows (m.updateStatus p.toString index value).2 (setMark marks (.entries p) index value) := by
  obtain ⟨l, hget, hl, hmarks⟩ := h.list p
  rcases Nat.lt_or_ge index listCapacity with hindex | hindex
  · rw [updateStatus_eq hget hl hindex value]
    refine ⟨fun q => ?_, h.mdocCapacity, h.mdocBits, h.mdocCovered, fun i hi => ?_⟩
    · by_cases hq : q = p
      · subst hq
        refine ⟨marked q.toString l index value, get_insert_self _ _ _, hl.marked _ _ _, ?_⟩
        intro i hi
        have := (hmarks i hi).marked hl hindex value
        simpa [setMark] using this
      · obtain ⟨l', hget', hl', hmarks'⟩ := h.list q
        have hne : q.toString ≠ p.toString := fun h => hq (purpose_toString_inj h)
        refine ⟨l', (get_insert_of_ne _ _ hne).trans hget', hl', fun i hi => ?_⟩
        simpa [setMark, hq] using hmarks' i hi
    · simpa [setMark] using h.mdoc i hi
  · obtain ⟨e, he⟩ := updateStatus_of_le hget hl hindex value
    rw [he]
    refine ⟨fun q => ?_, h.mdocCapacity, h.mdocBits, h.mdocCovered, fun i hi => ?_⟩
    · obtain ⟨l', hget', hl', hmarks'⟩ := h.list q
      refine ⟨l', hget', hl', fun i hi => ?_⟩
      have hne : i ≠ index := by omega
      simpa [setMark, hne] using hmarks' i hi
    · simpa [setMark] using h.mdoc i hi

/-- What revoking an mdoc does to the marks shown. -/
lemma Shows.revokeMdoc {m : StatusManager} {marks : Marks} (h : Shows m marks) (index : ℕ) :
    Shows (m.revokeMdoc index).2 (setMark marks .mdoc index true) := by
  have hlist : ∀ p : StatusPurpose, ∃ l, m.lists.get p.toString = some l ∧ Sound l ∧
      ∀ i < listCapacity, Holds p.toString l i (setMark marks .mdoc index true (.entries p) i) := by
    intro p
    simpa [setMark] using h.list p
  rcases Nat.lt_or_ge index listCapacity with hindex | hindex
  · have hindex' : index < m.mdoc.tsl.capacity := by rw [h.mdocCapacity]; exact hindex
    have hfits : (1 : Byte) ≤ BitVec.ofNat 8 (2 ^ m.mdoc.tsl.bitsPerStatus - 1) := by
      rw [h.mdocBits]
      decide
    have hmask : (1 : Byte) &&& mask m.mdoc.tsl.layout.width = 1 :=
      TokenStatusListImpl.and_mask hfits
    have hb := h.mdocCovered index hindex'
    simp only [StatusManager.revokeMdoc, TokenStatusListImpl.set_eq h.mdocCovered hindex' hfits]
    refine ⟨hlist, h.mdocCapacity, h.mdocBits, fun i hi => ?_, fun i hi => ?_⟩
    · simp only [length_writeEntry]
      exact h.mdocCovered i hi
    · by_cases heq : i = index
      · subst heq
        rw [show setMark marks .mdoc i true .mdoc i = true by simp [setMark]]
        exact readEntry_writeEntry_self hb hmask
      · have hne : index ≠ i := fun h => heq h.symm
        rw [show setMark marks .mdoc index true .mdoc i = marks .mdoc i by simp [setMark, heq]]
        exact (readEntry_writeEntry_of_ne hne hmask).trans (h.mdoc i hi)
  · have hset : m.mdoc.tsl.set index 1 = .error (.err (.indexOutOfBounds index)) :=
      TokenStatusListImpl.set_of_capacity_le (by rw [h.mdocCapacity]; exact hindex) 1
    simp only [StatusManager.revokeMdoc, hset]
    refine ⟨hlist, h.mdocCapacity, h.mdocBits, h.mdocCovered, fun i hi => ?_⟩
    have hne : i ≠ index := by omega
    simpa [setMark, hne] using h.mdoc i hi

lemma updateAnswer_fst (r : Except (Fault ManagerError) Unit × StatusManager) :
    (updateAnswer r).1 = r.2 := by
  obtain ⟨_ | _, m⟩ := r <;> rfl

/-- A draw answers an index of the list that was not taken, or that all are taken. -/
lemma drawIndex_ok {allocated allocated' : Finset ℕ} {capacity index : ℕ} {draws : List ℕ}
    (h : drawIndex allocated capacity draws = some (.ok (index, allocated'))) :
    index < capacity ∧ index ∉ allocated ∧ allocated' = insert index allocated := by
  unfold drawIndex at h
  split_ifs at h with hfull
  · cases h
  · split at h
    · next candidate hfind =>
      simp only [Option.some.injEq, Except.ok.injEq, Prod.mk.injEq] at h
      obtain ⟨rfl, rfl⟩ := h
      obtain ⟨d, -, rfl⟩ := List.mem_map.mp (List.mem_of_find?_eq_some hfind)
      have hfresh := List.find?_some hfind
      exact ⟨Nat.mod_lt _ (by omega), by simpa using hfresh, rfl⟩
    · cases h

lemma Shows.allocated {m : StatusManager} {marks : Marks} (h : Shows m marks) (p : StatusPurpose)
    {l : ManagedList} (hget : m.lists.get p.toString = some l) (allocated : Finset ℕ) :
    Shows { m with lists := m.lists.insert p.toString { l with allocated := allocated } } marks := by
  refine ⟨fun q => ?_, h.mdocCapacity, h.mdocBits, h.mdocCovered, h.mdoc⟩
  obtain ⟨l', hget', hl', hmarks'⟩ := h.list q
  by_cases hq : q = p
  · subst hq
    obtain rfl : l = l' := Option.some.inj (hget.symm.trans hget')
    exact ⟨{ l with allocated := allocated }, get_insert_self _ _ _,
      ⟨hl'.capacity, hl'.size, hl'.covered, hl'.tslCapacity, hl'.tslBits, hl'.tslCovered⟩,
      fun i hi => ⟨(hmarks' i hi).bit, (hmarks' i hi).value⟩⟩
  · have hne : q.toString ≠ p.toString := fun h => hq (purpose_toString_inj h)
    exact ⟨l', (get_insert_of_ne _ _ hne).trans hget', hl', hmarks'⟩

/-- What an allocation of a credential index does: nothing, or one index is taken. -/
lemma allocateEntry_cases {X : Crates} {m m' : StatusManager} {p : StatusPurpose} {draws : List ℕ}
    {r : Except ManagerError StatusList2021Entry}
    (h : m.allocateEntry X p draws = some (r, m')) :
    (∃ e, r = .error e ∧ m' = m) ∨
      ∃ l index allocated entry, m.lists.get p.toString = some l ∧
        drawIndex l.allocated l.capacity draws = some (.ok (index, allocated)) ∧
        r = .ok entry ∧ entry.statusListIndex = index.repr ∧
        m' = { m with lists := m.lists.insert p.toString { l with allocated := allocated } } := by
  unfold StatusManager.allocateEntry at h
  simp only at h
  split at h
  · simp only [Option.some.injEq, Prod.mk.injEq] at h
    exact Or.inl ⟨_, h.1.symm, h.2.symm⟩
  · next l hget =>
    obtain ⟨d, hd, hr⟩ := Option.map_eq_some_iff.mp h
    split at hr
    · simp only [Prod.mk.injEq] at hr
      exact Or.inl ⟨_, hr.1.symm, hr.2.symm⟩
    · next index allocated =>
      simp only [Prod.mk.injEq] at hr
      exact Or.inr ⟨l, index, allocated, _, hget, hd, hr.1.symm, rfl, hr.2.symm⟩

lemma allocateMdocIndex_cases {m m' : StatusManager} {draws : List ℕ}
    {r : Except ManagerError ℕ} (h : m.allocateMdocIndex draws = some (r, m')) :
    (∃ e, r = .error e ∧ m' = m) ∨
      ∃ index allocated,
        drawIndex m.mdoc.allocated listCapacity draws = some (.ok (index, allocated)) ∧
        r = .ok index ∧ m' = { m with mdoc := { m.mdoc with allocated := allocated } } := by
  obtain ⟨d, hd, hr⟩ := Option.map_eq_some_iff.mp h
  split at hr
  · simp only [Prod.mk.injEq] at hr
    exact Or.inl ⟨_, hr.1.symm, hr.2.symm⟩
  · next index allocated =>
    simp only [Prod.mk.injEq] at hr
    exact Or.inr ⟨index, allocated, hd, hr.1.symm, hr.2.symm⟩

/-- **One operation.** The marks shown change as the operation says, and no other way. -/
lemma step_shows (X : Crates) {m : StatusManager} {marks : Marks} (op : StatusOp)
    (h : Shows m marks) : Shows ((statusMachine X).step m op).1 (op.mark marks) := by
  cases op with
  | allocateEntry p draws =>
    simp only [statusMachine, StatusOp.mark]
    cases ha : m.allocateEntry X p draws with
    | none => exact h
    | some r =>
      obtain ⟨r, m'⟩ := r
      rcases allocateEntry_cases ha with ⟨e, rfl, rfl⟩ | ⟨l, index, allocated, entry, hget, -, rfl, -, rfl⟩
      · exact h
      · exact h.allocated p hget allocated
  | allocateMdocIndex draws =>
    simp only [statusMachine, StatusOp.mark]
    cases ha : m.allocateMdocIndex draws with
    | none => exact h
    | some r =>
      obtain ⟨r, m'⟩ := r
      rcases allocateMdocIndex_cases ha with ⟨e, rfl, rfl⟩ | ⟨index, allocated, -, rfl, rfl⟩
      · exact h
      · exact ⟨h.list, h.mdocCapacity, h.mdocBits, h.mdocCovered, h.mdoc⟩
  | revoke index =>
    simp only [statusMachine, updateAnswer_fst]
    exact h.update .revocation index true
  | suspend index =>
    simp only [statusMachine, updateAnswer_fst]
    exact h.update .suspension index true
  | reinstate index =>
    simp only [statusMachine, updateAnswer_fst]
    exact h.update .suspension index false
  | revokeMdoc index =>
    simp only [statusMachine, updateAnswer_fst]
    exact h.revokeMdoc index

/-- **Every run.** After any run from a new manager, the lists show the marks of its
operations. -/
theorem run_shows (X : Crates) (issuerUrl : String) (ops : List StatusOp) :
    Shows (run (statusMachine X) (StatusManager.new issuerUrl) ops) (marksAfter ops) := by
  induction ops using List.reverseRecOn with
  | nil => exact shows_new issuerUrl
  | append_singleton ops op ih =>
    rw [run_append, marksAfter_snoc]
    exact step_shows X op ih

end Oid4vc.Lists
