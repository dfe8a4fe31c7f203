import Oid4vc.Status.Lists

/-!
What an index reads when it is allocated.

The manager checks that an index to be revoked or suspended is in range, not that it has
been allocated. An index is born valid exactly when no update of it came before its
allocation, or the last one was a reinstatement.
-/

namespace Oid4vc.Birth

open Oid4vc.Run Oid4vc.PartialMap Oid4vc.Packed Oid4vc.Text Oid4vc.External Oid4vc.StatusTypes
open Oid4vc.StatusList2021 Oid4vc.TokenStatusList Oid4vc.Manager Oid4vc.Lists

/-- The operation answered with this index of this list. -/
def Allocated (op : StatusOp) (answer : StatusAnswer) (t : ListName) (i : ℕ) : Prop :=
  match op, answer with
  | .allocateEntry p _, .entry e => t = .entries p ∧ e.statusListIndex = i.repr
  | .allocateMdocIndex _, .index j => t = .mdoc ∧ i = j
  | _, _ => False

/-- The entry reads valid in every form in which its list is published. -/
def ReadsValid (m : StatusManager) (t : ListName) (i : ℕ) : Prop :=
  match t with
  | .entries p => ∃ l, m.lists.get p.toString = some l ∧ l.sl2021.get i = .ok false ∧
      l.tsl.get i = .ok TokenStatus.valid.toByte
  | .mdoc => m.mdoc.tsl.get i = .ok TokenStatus.valid.toByte

variable (X : Crates) (issuerUrl : String)

/-- The manager after some operations. -/
def after (ops : List StatusOp) : StatusManager :=
  run (statusMachine X) (StatusManager.new issuerUrl) ops

/-- Every index reads valid at the moment it is allocated. -/
def BornValid (ops : List StatusOp) : Prop :=
  ∀ before op rest t i, ops = before ++ op :: rest →
    Allocated op ((statusMachine X).step (after X issuerUrl before) op).2 t i →
    ReadsValid ((statusMachine X).step (after X issuerUrl before) op).1 t i

/-- The index an allocation is about to take: the first one drawn that is unused. -/
def Takes (m : StatusManager) (op : StatusOp) (t : ListName) (i : ℕ) : Prop :=
  match op with
  | .allocateEntry p draws => t = .entries p ∧ ∃ l allocated, m.lists.get p.toString = some l ∧
      drawIndex l.allocated l.capacity draws = some (.ok (i, allocated))
  | .allocateMdocIndex draws => t = .mdoc ∧ ∃ allocated,
      drawIndex m.mdoc.allocated listCapacity draws = some (.ok (i, allocated))
  | _ => False

/-- The last update of an index before it is taken, if there is one, is a reinstatement. -/
def UnmarkedWhenTaken (ops : List StatusOp) : Prop :=
  ∀ before op rest t i, ops = before ++ op :: rest → Takes (after X issuerUrl before) op t i →
    marksAfter before t i = false

variable {X issuerUrl}

/-- An entry reads valid if it is not marked. -/
lemma readsValid_iff {m : StatusManager} {marks : Marks} (h : Shows m marks) {t : ListName} {i : ℕ}
    (hi : i < listCapacity) : ReadsValid m t i ↔ marks t i = false := by
  cases t with
  | entries p =>
    obtain ⟨l, hget, hl, hmarks⟩ := h.list p
    obtain ⟨b, hb, hget2021⟩ := StatusList.get_eq hl.covered (by rw [hl.size]; exact hi)
    obtain ⟨v, hv, hgetTsl⟩ :=
      TokenStatusListImpl.get_eq hl.tslCovered (by rw [hl.tslCapacity]; exact hi)
    obtain rfl := Option.some.inj (hb.symm.trans (hmarks i hi).bit)
    obtain rfl := Option.some.inj (hv.symm.trans (hmarks i hi).value)
    simp only [ReadsValid, hget, Option.some.injEq, exists_eq_left', hget2021, hgetTsl,
      Except.ok.injEq]
    cases marks (.entries p) i with
    | false => simp [StatusManager.statusOf]
    | true => simp
  | mdoc =>
    obtain ⟨v, hv, hget⟩ :=
      TokenStatusListImpl.get_eq h.mdocCovered (by rw [h.mdocCapacity]; exact hi)
    obtain rfl := Option.some.inj (hv.symm.trans (h.mdoc i hi))
    simp only [ReadsValid, hget, Except.ok.injEq, TokenStatus.toByte]
    cases marks .mdoc i <;> decide

/-- An allocation answers the index it takes, which is in range. -/
lemma allocated_iff_takes {m : StatusManager} {op : StatusOp} {t : ListName} {i : ℕ} :
    Allocated op ((statusMachine X).step m op).2 t i ↔ Takes m op t i := by
  cases op with
  | allocateEntry p draws =>
    constructor
    · intro h
      simp only [statusMachine] at h
      cases ha : m.allocateEntry X p draws with
      | none => rw [ha] at h; exact absurd h id
      | some r =>
        obtain ⟨r, m'⟩ := r
        rw [ha] at h
        rcases allocateEntry_cases ha with ⟨e, rfl, rfl⟩ |
          ⟨l, index, allocated, entry, hget, hd, rfl, hidx, rfl⟩
        · exact absurd h id
        · obtain ⟨rfl, hi⟩ := h
          -- the entry names the index in decimal
          obtain rfl : index = i := natRepr_inj (hidx.symm.trans hi)
          exact ⟨rfl, l, allocated, hget, hd⟩
    · rintro ⟨rfl, l, allocated, hget, hd⟩
      simp only [statusMachine, StatusManager.allocateEntry, hget, hd, Option.map_some]
      exact ⟨rfl, rfl⟩
  | allocateMdocIndex draws =>
    constructor
    · intro h
      simp only [statusMachine] at h
      cases ha : m.allocateMdocIndex draws with
      | none => rw [ha] at h; exact absurd h id
      | some r =>
        obtain ⟨r, m'⟩ := r
        rw [ha] at h
        rcases allocateMdocIndex_cases ha with ⟨e, rfl, rfl⟩ | ⟨index, allocated, hd, rfl, rfl⟩
        · exact absurd h id
        · obtain ⟨rfl, rfl⟩ := h
          exact ⟨rfl, allocated, hd⟩
    · rintro ⟨rfl, allocated, hd⟩
      simp only [statusMachine, StatusManager.allocateMdocIndex, hd, Option.map_some]
      exact ⟨rfl, rfl⟩
  | _ => simp [Allocated, Takes]

lemma Takes.lt {m : StatusManager} {marks : Marks} (h : Shows m marks) {op : StatusOp}
    {t : ListName} {i : ℕ} (ht : Takes m op t i) : i < listCapacity := by
  cases op with
  | allocateEntry p draws =>
    obtain ⟨-, l, allocated, hget, hd⟩ := ht
    obtain ⟨l', hget', hl, -⟩ := h.list p
    obtain rfl := Option.some.inj (hget.symm.trans hget')
    exact (drawIndex_ok hd).1.trans_eq hl.capacity
  | allocateMdocIndex draws =>
    obtain ⟨-, allocated, hd⟩ := ht
    exact (drawIndex_ok hd).1
  | _ => exact absurd ht id

lemma Takes.mark {m : StatusManager} {op : StatusOp} {t : ListName} {i : ℕ} (h : Takes m op t i)
    (marks : Marks) : op.mark marks = marks := by
  cases op with
  | allocateEntry p draws => rfl
  | allocateMdocIndex draws => rfl
  | _ => exact absurd h id

/-- **Born valid.** Every allocated index reads valid when it is allocated exactly when every
index is unmarked when it is taken. -/
theorem bornValid_iff (X : Crates) (issuerUrl : String) (ops : List StatusOp) :
    BornValid X issuerUrl ops ↔ UnmarkedWhenTaken X issuerUrl ops := by
  have hreads : ∀ before op t i, Takes (after X issuerUrl before) op t i →
      (ReadsValid ((statusMachine X).step (after X issuerUrl before) op).1 t i ↔
        marksAfter before t i = false) := by
    intro before op t i ht
    have hshows := run_shows X issuerUrl before
    have hstep := step_shows X op hshows
    rw [ht.mark] at hstep
    exact readsValid_iff hstep (ht.lt hshows)
  constructor
  · intro h before op rest t i hops ht
    exact (hreads before op t i ht).mp (h before op rest t i hops (allocated_iff_takes.mpr ht))
  · intro h before op rest t i hops ha
    have ht := allocated_iff_takes.mp ha
    exact (hreads before op t i ht).mpr (h before op rest t i hops ht)

/-- Crates that join an absolute path to the address of a server. -/
def joinCrates : Crates := { Crates.inert with urlJoin := fun base path => base ++ path }

/-- Revoking index 7 before it is allocated: the credential it goes to is born revoked. -/
theorem revoked_before_allocated :
    ¬ BornValid joinCrates
      "https://issuer.example.com" [.revoke 7, .allocateEntry .revocation [7]] := by
  intro h
  have htakes : Takes (after joinCrates
      "https://issuer.example.com" [.revoke 7]) (.allocateEntry .revocation [7])
      (.entries .revocation) 7 := by
    have hget : (StatusManager.new "https://issuer.example.com").lists.get "revocation" =
        some (newList .revocation) := by simp [StatusManager.new]
    have hup := updateStatus_eq hget (sound_newList .revocation)
      (show 7 < listCapacity by decide) true
    have hafter : (after joinCrates
        "https://issuer.example.com" [.revoke 7]).lists.get "revocation" =
          some (marked "revocation" (newList .revocation) 7 true) := by
      simp [after, statusMachine, StatusManager.revoke, hup, updateAnswer]
    refine ⟨rfl, _, {7}, hafter, ?_⟩
    simp [marked, newList, drawIndex, listCapacity]
  have hvalid := h [.revoke 7] (.allocateEntry .revocation [7]) [] (.entries .revocation) 7 rfl
    (allocated_iff_takes.mpr htakes)
  have hshows := run_shows joinCrates
    "https://issuer.example.com" [.revoke 7]
  have hstep := step_shows joinCrates
    (.allocateEntry .revocation [7]) hshows
  have hfalse := (readsValid_iff hstep (by decide)).mp hvalid
  simp [StatusOp.mark, marksAfter, setMark] at hfalse

end Oid4vc.Birth
