import Oid4vc.Status.Lists

/-!
What the status lists publish, over every run of the manager.

The two formats of a list agree, an operation that is refused changes nothing, one that
succeeds changes one entry of its own list, and what is revoked stays revoked in every form
in which its list is published.
-/

namespace Oid4vc.StatusConsistency

open Oid4vc.JsonValue Oid4vc.Run Oid4vc.Fallible Oid4vc.PartialMap Oid4vc.Bitfield Oid4vc.Packed
open Oid4vc.External Oid4vc.StatusTypes Oid4vc.StatusList2021 Oid4vc.TokenStatusList
open Oid4vc.Manager Oid4vc.Lists

variable (X : Crates) (issuerUrl : String)

/-- The manager after some operations. -/
def reached (ops : List StatusOp) : StatusManager :=
  run (statusMachine X) (StatusManager.new issuerUrl) ops

/-- How an operation answers in a state. -/
def answer (m : StatusManager) (op : StatusOp) : StatusAnswer := ((statusMachine X).step m op).2

/-- The state an operation leaves. -/
def next (m : StatusManager) (op : StatusOp) : StatusManager := ((statusMachine X).step m op).1

def tokenList (m : StatusManager) : ListName → Option TokenStatusListImpl
  | .entries p => (m.lists.get p.toString).map ManagedList.tsl
  | .mdoc => some m.mdoc.tsl

/-- The bitstring of a list, which that of the mdocs does not have. -/
def bitstring (m : StatusManager) : ListName → Option StatusList
  | .entries p => (m.lists.get p.toString).map ManagedList.sl2021
  | .mdoc => none

/-- The value that marks an entry of a list. -/
def markOf : ListName → TokenStatus
  | .entries .revocation => .invalid
  | .entries .suspension => .suspended
  | .mdoc => .invalid

/-- The value of an entry that is marked, or is not. -/
def valueOf (t : ListName) (marked : Bool) : TokenStatus := if marked then markOf t else .valid

/-- The lists read `marked` at this entry, in each of their formats. -/
structure Reads (m : StatusManager) (t : ListName) (i : ℕ) (marked : Bool) : Prop where
  value : ∃ l, tokenList m t = some l ∧ l.get i = .ok (valueOf t marked).toByte
  bit : ∀ l, bitstring m t = some l → l.get i = .ok marked

/-- **The formats agree.** The bit is set just if the token's value is not zero, and then
that value is the one that marks an entry of this list. -/
def FormatsAgree (m : StatusManager) (p : StatusPurpose) (i : ℕ) : Prop :=
  ∃ l bit value, m.lists.get p.toString = some l ∧ l.sl2021.get i = .ok bit ∧
    l.tsl.get i = .ok value ∧ (bit = true ↔ value ≠ 0) ∧
    (value ≠ 0 → value = (markOf (.entries p)).toByte)

/-- The entry an operation writes, and what it writes there. -/
def writes : StatusOp → Option (ListName × ℕ × Bool)
  | .allocateEntry _ _ => none
  | .allocateMdocIndex _ => none
  | .revoke i => some (.entries .revocation, i, true)
  | .suspend i => some (.entries .suspension, i, true)
  | .reinstate i => some (.entries .suspension, i, false)
  | .revokeMdoc i => some (.mdoc, i, true)

/-- Every published form of the list reads revoked at this entry: the bits and the values
are what was compressed. -/
structure PublishedRevoked (m : StatusManager) (t : ListName) (i : ℕ) : Prop where
  token : ∀ p, t = .entries p → ∀ r, m.buildTokenStatusList X p.toString = .ok r →
    ∃ (l : TokenStatusListImpl) (compressed : Bytes), X.zlib l.data = .ok compressed ∧
      r.lst = X.base64UrlEncode compressed ∧ r.bits = l.bitsPerStatus ∧ l.get i = .ok TokenStatus.invalid.toByte
  credential : ∀ p, t = .entries p → ∀ issuer clock r,
    m.buildStatusListCredential X p.toString issuer clock = .ok r →
    ∃ (l : StatusList) (compressed : Bytes), X.gzip l.bits = .ok compressed ∧
      r.credentialSubject.encodedList = X.base64UrlEncode compressed ∧ l.get i = .ok true
  mdoc : t = .mdoc → ∀ bits lst, m.mdocStatusList X = .ok (bits, lst) →
    ∃ l : TokenStatusListImpl, X.zlib l.data = .ok lst ∧ bits = l.bitsPerStatus ∧
      l.get i = .ok TokenStatus.invalid.toByte

/-- A revocation of this entry was answered by success. -/
def Revoked (ops : List StatusOp) (t : ListName) (i : ℕ) : Prop :=
  ∃ before op rest, ops = before ++ op :: rest ∧ answer X (reached X issuerUrl before) op = .updated ∧
    ((op = .revoke i ∧ t = .entries .revocation) ∨ (op = .revokeMdoc i ∧ t = .mdoc))

variable {X issuerUrl}

lemma shows_reached (ops : List StatusOp) : Shows (reached X issuerUrl ops) (marksAfter ops) :=
  run_shows X issuerUrl ops

lemma statusOf_eq (p : StatusPurpose) (marked : Bool) :
    StatusManager.statusOf p.toString marked = valueOf (.entries p) marked := by
  cases p <;> cases marked <;> rfl

/-- What the manager shows, its lists read. -/
lemma reads_of_shows {m : StatusManager} {marks : Marks} (h : Shows m marks) (t : ListName) {i : ℕ}
    (hi : i < listCapacity) : Reads m t i (marks t i) := by
  cases t with
  | entries p =>
    obtain ⟨l, hget, hl, hmarks⟩ := h.list p
    obtain ⟨b, hb, hbit⟩ := StatusList.get_eq hl.covered (by rw [hl.size]; exact hi)
    obtain ⟨v, hv, hval⟩ :=
      TokenStatusListImpl.get_eq hl.tslCovered (by rw [hl.tslCapacity]; exact hi)
    obtain rfl := Option.some.inj (hb.symm.trans (hmarks i hi).bit)
    obtain rfl := Option.some.inj (hv.symm.trans (hmarks i hi).value)
    refine ⟨⟨l.tsl, by simp [tokenList, hget], ?_⟩, fun l' hl' => ?_⟩
    · rw [hval, statusOf_eq]
    · simp only [bitstring, hget, Option.map_some, Option.some.injEq] at hl'
      subst hl'
      rw [hbit]
      cases marks (.entries p) i <;> rfl
  | mdoc =>
    obtain ⟨v, hv, hval⟩ :=
      TokenStatusListImpl.get_eq h.mdocCovered (by rw [h.mdocCapacity]; exact hi)
    obtain rfl := Option.some.inj (hv.symm.trans (h.mdoc i hi))
    refine ⟨⟨m.mdoc.tsl, rfl, ?_⟩, fun l hl => by cases hl⟩
    rw [hval]
    cases marks .mdoc i <;> rfl

lemma formatsAgree_of_shows {m : StatusManager} {marks : Marks} (h : Shows m marks) (p : StatusPurpose)
    {i : ℕ} (hi : i < listCapacity) : FormatsAgree m p i := by
  obtain ⟨l, hget, -⟩ := h.list p
  obtain ⟨⟨tsl, htsl, hval⟩, hbit⟩ := reads_of_shows h (.entries p) hi
  simp only [tokenList, hget, Option.map_some, Option.some.injEq] at htsl
  subst htsl
  refine ⟨l, _, _, hget, hbit l.sl2021 (by simp [bitstring, hget]), hval, ?_, ?_⟩
  · cases marks (.entries p) i <;> cases p <;> decide
  · cases marks (.entries p) i
    · exact fun hne => absurd rfl hne
    · exact fun _ => rfl

/-! ### One operation -/

lemma updateStatus_refused {m : StatusManager} {marks : Marks} (h : Shows m marks)
    (p : StatusPurpose) {index : ℕ} {value : Bool} {e : Fault ManagerError} {m' : StatusManager}
    (hup : m.updateStatus p.toString index value = (.error e, m')) : m' = m := by
  obtain ⟨l, hget, hl, -⟩ := h.list p
  rcases Nat.lt_or_ge index listCapacity with hlt | hge
  · rw [updateStatus_eq hget hl hlt value] at hup
    cases hup
  · obtain ⟨e', he'⟩ := updateStatus_of_le hget hl hge value
    rw [he'] at hup
    exact (Prod.mk.inj hup).2.symm

lemma updateStatus_ok {m : StatusManager} {marks : Marks} (h : Shows m marks)
    (p : StatusPurpose) {index : ℕ} {value : Bool} {m' : StatusManager}
    (hup : m.updateStatus p.toString index value = (.ok (), m')) : index < listCapacity := by
  obtain ⟨l, hget, hl, -⟩ := h.list p
  rcases Nat.lt_or_ge index listCapacity with hlt | hge
  · exact hlt
  · obtain ⟨e', he'⟩ := updateStatus_of_le hget hl hge value
    rw [he'] at hup
    cases hup

lemma revokeMdoc_cases {m : StatusManager} {marks : Marks} (h : Shows m marks) (index : ℕ) :
    (∃ e, m.revokeMdoc index = (.error e, m)) ∨
      (∃ m', m.revokeMdoc index = (.ok (), m')) ∧ index < listCapacity := by
  unfold StatusManager.revokeMdoc
  rcases Nat.lt_or_ge index listCapacity with hlt | hge
  · refine Or.inr ⟨?_, hlt⟩
    cases hset : m.mdoc.tsl.set index 1 with
    | ok tsl => exact ⟨_, rfl⟩
    | error e =>
      have hindex : index < m.mdoc.tsl.capacity := by rw [h.mdocCapacity]; exact hlt
      have hfits : (1 : Byte) ≤ BitVec.ofNat 8 (2 ^ m.mdoc.tsl.bitsPerStatus - 1) := by
        rw [h.mdocBits]
        decide
      rw [TokenStatusListImpl.set_eq h.mdocCovered hindex hfits] at hset
      cases hset
  · left
    have hset : m.mdoc.tsl.set index 1 = .error (.err (.indexOutOfBounds index)) :=
      TokenStatusListImpl.set_of_capacity_le (by rw [h.mdocCapacity]; exact hge) 1
    exact ⟨_, by simp only [hset]; rfl⟩

lemma updateAnswer_refused {r : Except (Fault ManagerError) Unit × StatusManager}
    {e : Fault ManagerError} (h : (updateAnswer r).2 = .refused e) : r = (.error e, r.2) := by
  obtain ⟨_ | _, m⟩ := r
  · simp only [updateAnswer, StatusAnswer.refused.injEq] at h
    rw [h]
  · simp [updateAnswer] at h

lemma updateAnswer_updated {r : Except (Fault ManagerError) Unit × StatusManager}
    (h : (updateAnswer r).2 = .updated) : r = (.ok (), r.2) := by
  obtain ⟨_ | _, m⟩ := r
  · simp [updateAnswer] at h
  · rfl

/-- **Refused, nothing changes.** -/
lemma next_of_refused {m : StatusManager} {marks : Marks} (h : Shows m marks) {op : StatusOp}
    {e : Fault ManagerError} (hans : answer X m op = .refused e) : next X m op = m := by
  cases op with
  | allocateEntry p draws =>
    simp only [answer, next, statusMachine] at hans ⊢
    cases ha : m.allocateEntry X p draws with
    | none => rfl
    | some r =>
      obtain ⟨r, m'⟩ := r
      rw [ha] at hans
      rcases allocateEntry_cases ha with ⟨e', rfl, rfl⟩ | ⟨l, index, taken, entry, -, -, rfl, -, -⟩
      · rfl
      · cases hans
  | allocateMdocIndex draws =>
    simp only [answer, next, statusMachine] at hans ⊢
    cases ha : m.allocateMdocIndex draws with
    | none => rfl
    | some r =>
      obtain ⟨r, m'⟩ := r
      rw [ha] at hans
      rcases allocateMdocIndex_cases ha with ⟨e', rfl, rfl⟩ | ⟨index, taken, -, rfl, -⟩
      · rfl
      · cases hans
  -- the three updates of a list that is found, and refused for the index
  | revoke index =>
    simp only [next, statusMachine, updateAnswer_fst]
    exact updateStatus_refused h .revocation (updateAnswer_refused hans)
  | suspend index =>
    simp only [next, statusMachine, updateAnswer_fst]
    exact updateStatus_refused h .suspension (updateAnswer_refused hans)
  | reinstate index =>
    simp only [next, statusMachine, updateAnswer_fst]
    exact updateStatus_refused h .suspension (updateAnswer_refused hans)
  | revokeMdoc index =>
    simp only [next, statusMachine, updateAnswer_fst]
    have hup := updateAnswer_refused hans
    rcases revokeMdoc_cases h index with ⟨e', he'⟩ | ⟨⟨m', hm'⟩, -⟩
    · rw [he']
    · rw [hm'] at hup
      cases hup

/-- An operation that is answered by success wrote an entry of a list in range. -/
lemma writes_of_updated {m : StatusManager} {marks : Marks} (h : Shows m marks) {op : StatusOp}
    (hans : answer X m op = .updated) :
    ∃ t i value, writes op = some (t, i, value) ∧ i < listCapacity := by
  cases op with
  | allocateEntry p draws =>
    simp only [answer, statusMachine] at hans
    split at hans <;> cases hans
  | allocateMdocIndex draws =>
    simp only [answer, statusMachine] at hans
    split at hans <;> cases hans
  | revoke index =>
    exact ⟨_, _, _, rfl, updateStatus_ok h .revocation (updateAnswer_updated hans)⟩
  | suspend index =>
    exact ⟨_, _, _, rfl, updateStatus_ok h .suspension (updateAnswer_updated hans)⟩
  | reinstate index =>
    exact ⟨_, _, _, rfl, updateStatus_ok h .suspension (updateAnswer_updated hans)⟩
  | revokeMdoc index =>
    have hup := updateAnswer_updated hans
    rcases revokeMdoc_cases h index with ⟨e', he'⟩ | ⟨-, hlt⟩
    · rw [he'] at hup
      cases hup
    · exact ⟨_, _, _, rfl, hlt⟩

lemma mark_eq (op : StatusOp) (marks : Marks) (t : ListName) (i : ℕ) :
    op.mark marks t i =
      match writes op with
      | none => marks t i
      | some (t', i', value) => if t = t' ∧ i = i' then value else marks t i := by
  cases op <;> rfl

/-! ### Every run -/

lemma mark_stays {ops : List StatusOp} {t : ListName} {i : ℕ} (ht : t ≠ .entries .suspension)
    (rest : List StatusOp) (h : marksAfter ops t i = true) : marksAfter (ops ++ rest) t i = true := by
  induction rest using List.reverseRecOn with
  | nil => simpa using h
  | append_singleton rest op ih =>
    rw [← List.append_assoc, marksAfter_snoc, mark_eq]
    cases op with
    | reinstate index => simp [writes, ht, ih]
    | allocateEntry | allocateMdocIndex => exact ih
    | revoke | suspend | revokeMdoc =>
      simp only [writes]
      split_ifs
      · rfl
      · exact ih

lemma marksAfter_of_revoked {ops : List StatusOp} {t : ListName} {i : ℕ}
    (h : Revoked X issuerUrl ops t i) : marksAfter ops t i = true ∧ i < listCapacity := by
  obtain ⟨before, op, rest, rfl, hans, hop⟩ := h
  obtain ⟨t', i', value, hw, hlt⟩ := writes_of_updated (shows_reached before) hans
  have hmark : marksAfter (before ++ [op]) t i = true ∧ t ≠ .entries .suspension ∧ i = i' := by
    rw [marksAfter_snoc, mark_eq]
    rcases hop with ⟨rfl, rfl⟩ | ⟨rfl, rfl⟩
    · simp only [writes, Option.some.injEq, Prod.mk.injEq] at hw
      simp [writes, hw.2.1]
    · simp only [writes, Option.some.injEq, Prod.mk.injEq] at hw
      simp [writes, hw.2.1]
  obtain ⟨hm, ht, rfl⟩ := hmark
  have := mark_stays ht rest hm
  rw [List.append_assoc, List.singleton_append] at this
  exact ⟨this, hlt⟩

/-- A marked entry of a list of revocations is revoked in every published form. -/
lemma publishedRevoked_of_mark {m : StatusManager} {marks : Marks} (h : Shows m marks)
    {t : ListName} {i : ℕ} (ht : markOf t = .invalid) (hi : i < listCapacity)
    (hmark : marks t i = true) : PublishedRevoked X m t i := by
  obtain ⟨⟨tsl, htsl, hval⟩, hbit⟩ := reads_of_shows h t hi
  rw [hmark] at hval hbit
  simp only [valueOf, ht, ↓reduceIte] at hval
  refine ⟨fun p hp r hr => ?_, fun p hp issuer clock r hr => ?_, fun hp bits lst hr => ?_⟩
  · subst hp
    simp only [StatusManager.buildTokenStatusList, TokenStatusListImpl.encode,
      TokenStatusListImpl.compress, bind_eq_ok, okOr_eq_ok, mapError_eq_ok, pure_eq_ok] at hr
    obtain ⟨l, hget, lst, ⟨compressed, hz, rfl⟩, rfl⟩ := hr
    simp only [tokenList, hget, Option.map_some, Option.some.injEq] at htsl
    subst htsl
    exact ⟨l.tsl, compressed, hz, rfl, rfl, hval⟩
  · subst hp
    simp only [StatusManager.buildStatusListCredential, StatusList.encode, bind_eq_ok, okOr_eq_ok,
      mapError_eq_ok, pure_eq_ok] at hr
    obtain ⟨l, hget, lst, ⟨compressed, hz, rfl⟩, rfl⟩ := hr
    exact ⟨l.sl2021, compressed, hz, rfl, hbit l.sl2021 (by simp [bitstring, hget])⟩
  · subst hp
    simp only [StatusManager.mdocStatusList, TokenStatusListImpl.compress, bind_eq_ok,
      mapError_eq_ok, pure_eq_ok, Prod.mk.injEq] at hr
    obtain ⟨compressed, hz, rfl, rfl⟩ := hr
    simp only [tokenList, Option.some.injEq] at htsl
    subst htsl
    exact ⟨m.mdoc.tsl, hz, rfl, hval⟩

/-- **The lists over every run.** After any run of the manager, the two formats of each list
agree at every index; an operation that is refused leaves the manager as it was; one that is
not changes no entry but the one it writes, in its own list; and what a revocation answered by
success has marked is revoked in every published form. -/
theorem lists_consistent (X : Crates) (issuerUrl : String) (ops : List StatusOp) :
    (∀ p, ∀ i < listCapacity, FormatsAgree (reached X issuerUrl ops) p i) ∧
    (∀ op e, answer X (reached X issuerUrl ops) op = .refused e →
      next X (reached X issuerUrl ops) op = reached X issuerUrl ops) ∧
    (∀ op t, ∀ i < listCapacity, ∃ marked,
      Reads (reached X issuerUrl ops) t i marked ∧
      Reads (next X (reached X issuerUrl ops) op) t i
        (match writes op with
        | none => marked
        | some (t', i', value) => if t = t' ∧ i = i' then value else marked)) ∧
    (∀ t i, Revoked X issuerUrl ops t i → PublishedRevoked X (reached X issuerUrl ops) t i) := by
  have hshows : Shows (reached X issuerUrl ops) (marksAfter ops) := shows_reached ops
  refine ⟨fun p i hi => formatsAgree_of_shows hshows p hi, fun op e h => next_of_refused hshows h,
    fun op t i hi => ⟨marksAfter ops t i, reads_of_shows hshows t hi, ?_⟩, fun t i h => ?_⟩
  · have := reads_of_shows (step_shows X op hshows) t hi
    rwa [mark_eq] at this
  · have ht : markOf t = .invalid := by
      obtain ⟨-, -, -, -, -, ⟨-, rfl⟩ | ⟨-, rfl⟩⟩ := h <;> rfl
    obtain ⟨hmark, hi⟩ := marksAfter_of_revoked h
    exact publishedRevoked_of_mark hshows ht hi hmark

end Oid4vc.StatusConsistency
