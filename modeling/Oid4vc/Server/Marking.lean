import Oid4vc.Base.Rely
import Oid4vc.Server.Routes
import Oid4vc.Server.Suspension

/-!
What requests write to the status lists, in any run of the whole server.

A request with the admin token writes its own entry, once; no other request writes any. An update
that was answered stands, as long as nothing else is written to its entry.
-/

namespace Oid4vc.Marking

open Oid4vc.JsonValue Oid4vc.Text Oid4vc.Fallible Oid4vc.Atomic Oid4vc.Spending Oid4vc.Rely
open Oid4vc.External Oid4vc.Keys Oid4vc.Manager Oid4vc.Lists Oid4vc.StatusConsistency Oid4vc.Oid4vp
open Oid4vc.Response Oid4vc.Server Oid4vc.StatusRoutes Oid4vc.Requests Oid4vc.Effects
open Oid4vc.Suspension Oid4vc.Routes

variable {X : Crates} {app : ServerState X}

/-! ### The administrator -/

/-- The token that a request presents to the admin endpoints, which is empty if there is none. -/
def presentedAdmin (X : Crates) (headers : Headers) : String :=
  ((headerText X headers "authorization").bind fun value => stripPrefix value "Bearer ").getD ""

lemma foldl_xor_eq_zero (l : List (Byte × Byte)) (acc : Byte) :
    l.foldl (fun acc p => acc ||| (p.1 ^^^ p.2)) acc = 0 ↔ acc = 0 ∧ ∀ p ∈ l, p.1 = p.2 := by
  induction l generalizing acc with
  | nil => simp
  | cons p l ih =>
    have hor : acc ||| (p.1 ^^^ p.2) = 0 ↔ acc = 0 ∧ p.1 = p.2 :=
      BitVec.or_eq_zero_iff.trans (and_congr_right fun _ => BitVec.xor_eq_zero_iff)
    rw [List.foldl_cons, ih, hor, List.forall_mem_cons, and_assoc]

/-- **The comparison in constant time** is equality. -/
lemma constantTimeEq_iff (a b : Bytes) : constantTimeEq a b = true ↔ a = b := by
  rw [constantTimeEq, Bool.and_eq_true, beq_iff_eq, beq_iff_eq, foldl_xor_eq_zero]
  constructor
  · rintro ⟨hlength, -, hsame⟩
    exact List.ext_getElem hlength fun i hi hi' =>
      hsame (a[i], b[i]) (List.mem_iff_getElem.mpr ⟨i, by simp [hi, hi'], by simp⟩)
  · rintro rfl
    refine ⟨rfl, rfl, fun p hp => ?_⟩
    obtain ⟨i, hi, rfl⟩ := List.mem_iff_getElem.mp hp
    simp

/-- The admin endpoints refuse whoever does not present the admin token. -/
lemma rejectUnauthorizedAdmin_eq_none (app : AppState X) (headers : Headers) :
    rejectUnauthorizedAdmin app headers = none ↔ presentedAdmin X headers = app.adminToken := by
  have hsame : constantTimeEq (utf8 (presentedAdmin X headers)) (utf8 app.adminToken) = true ↔
      presentedAdmin X headers = app.adminToken :=
    (constantTimeEq_iff _ _).trans ⟨fun h => utf8_inj h, congrArg utf8⟩
  rw [← hsame]
  unfold rejectUnauthorizedAdmin presentedAdmin
  dsimp only
  split_ifs with h
  · exact ⟨fun _ => h, fun _ => rfl⟩
  · exact ⟨fun hnone => hnone.elim, fun h' => absurd h' h⟩

/-- The operation of the manager that a request asks for. An mdoc is not suspended. -/
def updateOf : ServerRequest → Option StatusOp
  | .issuer (.revoke _ request) =>
    some (if request.isMdoc = true then .revokeMdoc request.index else .revoke request.index)
  | .issuer (.suspend _ request) =>
    if request.isMdoc = true then none else some (.suspend request.index)
  | .issuer (.reinstate _ request) =>
    if request.isMdoc = true then none else some (.reinstate request.index)
  | _ => none

/-- The entry that a request asks to write, and what. -/
def entryOf (r : ServerRequest) : Option (ListName × ℕ × Bool) := (updateOf r).bind writes

def adminTokenOf (X : Crates) : ServerRequest → Option String
  | .issuer (.revoke headers _) => some (presentedAdmin X headers)
  | .issuer (.suspend headers _) => some (presentedAdmin X headers)
  | .issuer (.reinstate headers _) => some (presentedAdmin X headers)
  | _ => none

/-- The request is one to write this to the entry, and comes with the admin token. -/
def Writing (app : ServerState X) (r : ServerRequest) (t : ListName) (i : ℕ) (marked : Bool) : Prop :=
  entryOf r = some (t, i, marked) ∧ adminTokenOf X r = some app.adminToken

/-! ### The marks -/

/-- The manager keeps its lists. -/
def Kept (m : StatusManager) : Prop := ∃ marks, Shows m marks

/-- What may happen to the lists where only this is written. -/
structure Remarks (written : ListName → ℕ → Bool → Prop) (m m' : StatusManager) : Prop where
  kept : Kept m → Kept m'
  entry : Kept m → ∀ t, ∀ i < listCapacity, ∀ marked, Reads m' t i marked →
    Reads m t i marked ∨ written t i marked

variable {written : ListName → ℕ → Bool → Prop} {m m' : StatusManager}

lemma reads_iff {shown : Marks} (h : Shows m shown) {t : ListName} {i : ℕ} (hi : i < listCapacity)
    {marked : Bool} : Reads m t i marked ↔ shown t i = marked := by
  constructor
  · intro hreads
    obtain ⟨l, hl, hvalue⟩ := hreads.value
    obtain ⟨l', hl', hvalue'⟩ := (reads_of_shows h t hi).value
    obtain rfl := Option.some.inj (hl.symm.trans hl')
    have hsame : valueOf t (shown t i) = valueOf t marked :=
      toByte_inj (Except.ok.inj (hvalue'.symm.trans hvalue))
    revert hsame
    cases shown t i <;> cases marked <;> cases t with
    | mdoc => decide
    | entries p => cases p <;> decide
  · rintro rfl
    exact reads_of_shows h t hi

lemma Remarks.stays (h : Remarks written m m') (hkept : Kept m) {t : ListName} {i : ℕ}
    (hi : i < listCapacity) {marked : Bool} (hwritten : ¬ written t i (!marked))
    (hread : Reads m t i marked) : Reads m' t i marked := by
  obtain ⟨shown, hshows⟩ := hkept
  obtain ⟨shown', hshows'⟩ := h.kept ⟨shown, hshows⟩
  rw [reads_iff hshows hi] at hread
  rw [reads_iff hshows' hi]
  by_contra hne
  have hother : shown' t i = !marked := by
    cases marked <;> cases hs : shown' t i <;> simp_all
  rcases h.entry ⟨shown, hshows⟩ t i hi _ ((reads_iff hshows' hi).mpr hother) with hbefore | hw
  · rw [reads_iff hshows hi, hread] at hbefore
    cases marked <;> cases hbefore
  · exact hwritten hw

lemma Remarks.refl (m : StatusManager) : Remarks written m m := ⟨id, fun _ _ _ _ _ h => .inl h⟩

lemma Remarks.mono {written' : ListName → ℕ → Bool → Prop} (h : Remarks written m m')
    (hwritten : ∀ t i marked, written t i marked → written' t i marked) : Remarks written' m m' :=
  ⟨h.kept, fun hm t i hi marked hread => (h.entry hm t i hi marked hread).imp_right (hwritten t i marked)⟩

/-- **An operation of the manager** writes its entry. -/
lemma remarks_step (X : Crates) (op : StatusOp)
    (hwritten : ∀ t i marked, writes op = some (t, i, marked) → written t i marked) :
    Remarks written m ((statusMachine X).step m op).1 := by
  refine ⟨fun ⟨shown, h⟩ => ⟨_, step_shows X op h⟩, ?_⟩
  rintro ⟨shown, h⟩ t i hi marked hread
  rw [reads_iff (step_shows X op h) hi, mark_eq] at hread
  rw [reads_iff h hi]
  cases hw : writes op with
  | none =>
    rw [hw] at hread
    exact .inl hread
  | some w =>
    obtain ⟨t', i', value⟩ := w
    rw [hw] at hread
    simp only at hread
    split_ifs at hread with hentry
    · obtain ⟨rfl, rfl⟩ := hentry
      exact .inr (hwritten t i marked (by rw [hw, hread]))
    · exact .inl hread

/-! ### The handlers -/

/-- What a request leaves: the clock as it is, and the lists, but for its own entry. -/
def Leaves (app : ServerState X) (r : ServerRequest) (w w' : ServerWorld) : Prop :=
  w'.stores.issuer.clock = w.stores.issuer.clock ∧
    Remarks (Writing app r) w.stores.status w'.stores.status

/-- What a request can count on, as long as the clock is right and nobody else writes but this. -/
def Counted (window : ℤ → Prop) (written : ListName → ℕ → Bool → Prop) (w w' : ServerWorld) : Prop :=
  (window w.stores.issuer.clock → window w'.stores.issuer.clock) ∧
    Remarks written w.stores.status w'.stores.status

lemma leaves_of_same {r : ServerRequest} {w w' : ServerWorld}
    (hclock : w'.stores.issuer.clock = w.stores.issuer.clock)
    (hstatus : w'.stores.status = w.stores.status) : Leaves app r w w' :=
  ⟨hclock, by rw [hstatus]; exact .refl _⟩

lemma Leaves.counted {window : ℤ → Prop} {r : ServerRequest} {w w' : ServerWorld}
    (h : Leaves app r w w') (hwritten : ∀ t i marked, Writing app r t i marked → written t i marked) :
    Counted window written w w' :=
  ⟨fun hw => by rwa [h.1], h.2.mono hwritten⟩

lemma stillClock_handlers (app : AppState X) :
    HandlerCalls (fun _ op => ∀ b : Stores, (op b).2.issuer.clock = b.issuer.clock) app where
  checking := ⟨fun _ => rfl, fun _ _ _ _ _ _ => rfl, fun _ _ _ _ => rfl, fun _ _ => rfl⟩
  issuing := by
    refine ⟨fun _ => rfl, fun draws b => ?_, fun signer _ draws b => ?_⟩
    · unfold Credential.Calls.allocate
      split <;> rfl
    · unfold Credential.Calls.allocate
      split <;> rfl
  nonce _ _ := rfl
  list _ _ := rfl
  issuer _ h b := h b.issuer

lemma remarks_of_quiet {β : Type} {op : Stores → β × Stores} (h : Suspension.Quiet β op) (b : Stores) :
    Remarks written b.status (op b).2.status := by
  refine ⟨fun ⟨shown, hshows⟩ => ⟨shown, h b shown hshows⟩, ?_⟩
  rintro ⟨shown, hshows⟩ t i hi marked hread
  rw [reads_iff (h b shown hshows) hi] at hread
  exact .inl ((reads_iff hshows hi).mpr hread)

/-- The update of the manager is this operation. -/
def Performs (X : Crates) (op : StatusOp)
    (update : StatusManager → Except (Fault ManagerError) Unit × StatusManager) : Prop :=
  ∀ m, updateAnswer (update m) = (statusMachine X).step m op

lemma performs_revocation (X : Crates) (request : StatusUpdateRequest) :
    Performs X (if request.isMdoc = true then .revokeMdoc request.index else .revoke request.index)
      fun manager => if request.isMdoc = true then manager.revokeMdoc request.index
        else manager.revoke request.index := by
  intro m
  dsimp only
  split_ifs <;> rfl

/-- **An update** writes its entry and no other. -/
lemma remarks_update {r : ServerRequest} {op : StatusOp}
    {update : StatusManager → Except (Fault ManagerError) Unit × StatusManager}
    (hupdate : Performs X op update) (hof : updateOf r = some op)
    (htoken : adminTokenOf X r = some app.adminToken) (b : Stores) :
    Remarks (Writing app r) b.status (onStatus update b).2.status := by
  have hstep : (onStatus update b).2.status = ((statusMachine X).step b.status op).1 := by
    rw [← hupdate, updateAnswer_fst]
    rfl
  rw [hstep]
  exact remarks_step X op fun t i marked hwrites => ⟨by rw [entryOf, hof]; exact hwrites, htoken⟩

/-- An endpoint that only an SD-JWT VC has makes its update for the administrator alone. -/
lemma within_suspensionEndpoint {C : Spending.Calls Stores} (app : AppState X) (status : String)
    {update : StatusManager → ℕ → Except (Fault ManagerError) Unit × StatusManager} {headers : Headers}
    {request : StatusUpdateRequest}
    (h : presentedAdmin X headers = app.adminToken → request.isMdoc = false →
      C _ (onStatus fun manager => update manager request.index)) :
    Within C (suspensionEndpoint app status update headers request) := by
  unfold suspensionEndpoint
  cases hadmin : rejectUnauthorizedAdmin app headers with
  | some response => exact .ret _
  | none =>
    dsimp only
    split_ifs with hmdoc
    · exact .ret _
    · exact .call (h ((rejectUnauthorizedAdmin_eq_none app headers).mp hadmin) (by simpa using hmdoc))
        fun _ => .ret _

lemma updateOf_suspend {headers : Headers} {request : StatusUpdateRequest}
    (h : request.isMdoc = false) :
    updateOf (.issuer (.suspend headers request)) = some (.suspend request.index) := by
  simp only [updateOf, h, Bool.false_eq_true, if_false]

lemma updateOf_reinstate {headers : Headers} {request : StatusUpdateRequest}
    (h : request.isMdoc = false) :
    updateOf (.issuer (.reinstate headers request)) = some (.reinstate request.index) := by
  simp only [updateOf, h, Bool.false_eq_true, if_false]

/-- **Every request of the issuer** writes what it may, and nothing else. -/
lemma within_handle_remarks (app : ServerState X) (r : Request) :
    Within (fun _ op => ∀ b : Stores, Remarks (Writing app (.issuer r)) b.status (op b).2.status)
      (handle app.toAppState r) := by
  cases r with
  | revoke headers request =>
    simp only [handle, revokeCredential]
    cases hadmin : rejectUnauthorizedAdmin app.toAppState headers with
    | some response => exact .ret _
    | none =>
      have hpresents := (rejectUnauthorizedAdmin_eq_none app.toAppState headers).mp hadmin
      exact .call (remarks_update (performs_revocation X request) rfl (congrArg some hpresents))
        fun _ => .ret _
  | suspend headers request =>
    exact within_suspensionEndpoint app.toAppState _ fun hpresents hmdoc =>
      remarks_update (fun _ => rfl) (updateOf_suspend hmdoc) (congrArg some hpresents)
  | reinstate headers request =>
    exact within_suspensionEndpoint app.toAppState _ fun hpresents hmdoc =>
      remarks_update (fun _ => rfl) (updateOf_reinstate hmdoc) (congrArg some hpresents)
  | par | authorize | decision | token | nonce | credential | credentialOffer | tokenStatusList =>
    exact (quiet_handle rfl).mono fun _ _ h b => remarks_of_quiet h b

lemma within_processResponse (response : AuthorizationResponse) (key : KeyPair) :
    Within (fun _ op => ∀ w : VerifierWorld, (op w).2.clock = w.clock)
      (processResponse X response key) := by
  have hconclude : ∀ session verified, Within
      (fun _ op => ∀ w : VerifierWorld, (op w).2.clock = w.clock) (conclude session verified) := by
    intro session verified
    rcases conclude_eq_accept session verified with ⟨e, he⟩ | ⟨claims, -, -, haccept⟩
    · rw [he]
      exact .ret _
    · rw [haccept]
      exact .call (fun _ => rfl) fun _ => .ret _
  rw [processResponse]
  cases response.state with
  | none => exact .ret _
  | some state =>
    refine .call (fun _ => rfl) fun found => ?_
    cases found with
    | none => exact .ret _
    | some session =>
      refine .call (fun _ => rfl) fun now => ?_
      split_ifs
      · exact .call (fun _ => rfl) fun _ => .ret _
      · unfold verifyToken
        split
        · exact .ret _
        · split_ifs
          · exact .call (fun _ => rfl) fun _ => hconclude session _
          · exact hconclude session _
        · exact .ret _

attribute [local irreducible] Request.addSeconds

/-- **Every request** leaves the lists as the others count on. -/
theorem within_serve (app : ServerState X) (r : ServerRequest) :
    Within (fun _ op => ∀ w, Leaves app r w (op w).2) (serve app r) := by
  cases r with
  | issuer r =>
    have hclock := within_handle_of (stillClock_handlers app.toAppState) (r := r) fun _ _ _ => rfl
    have hboth := hclock.and (within_handle_remarks app r)
    exact (hboth.zoom fun _ _ h w => ⟨h.1 w.stores, h.2 w.stores⟩).bind fun _ => .ret _
  | statusList id =>
    refine .call (fun w => leaves_of_same rfl rfl) fun answer => ?_
    cases answer <;> exact .ret _
  | mdocStatusList =>
    refine .call (fun w => leaves_of_same rfl rfl) fun answer => ?_
    cases answer with
    | error e => exact .ret _
    | ok list => exact .call (fun w => leaves_of_same rfl rfl) fun _ => .ret _
  | crl => exact .ret _
  | authorization =>
    exact .call (fun w => leaves_of_same rfl rfl) fun _ => .call (fun w => leaves_of_same rfl rfl)
      fun _ => .call (fun w => leaves_of_same rfl rfl) fun _ => .ret _
  | requestObject id => exact .call (fun w => leaves_of_same rfl rfl) fun _ => .ret _
  | response response =>
    have hleaves : ∀ (β : Type) (op : VerifierWorld → β × VerifierWorld),
        (∀ w : VerifierWorld, (op w).2.clock = w.clock) →
        ∀ w, Leaves app (.response response) w (Prog.through verifierView withVerifier op w).2 :=
      fun _ _ h w => leaves_of_same (h (verifierView w)) rfl
    exact ((within_processResponse response app.primaryKey).zoom hleaves).bind fun _ => .ret _

/-! ### Updates that are answered -/

/-- The request was answered by success. -/
def Updated : ServerReply → Prop
  | .reply reply => succeeds reply = true
  | _ => False

/-- Once an update is answered by success, its entry reads so, unless something else is written
to it. -/
def Effective (written : ListName → ℕ → Bool → Prop) (r : ServerRequest) (reply : ServerReply)
    (w : ServerWorld) : Prop :=
  Kept w.stores.status ∧ (Updated reply → ∀ t i marked, entryOf r = some (t, i, marked) →
    ¬ written t i (!marked) → i < listCapacity ∧ Reads w.stores.status t i marked)

variable {window : ℤ → Prop} {r : ServerRequest}

lemma stable_kept : Stable (Counted window written) fun w => Kept w.stores.status :=
  fun _ _ h hkept => h.2.kept hkept

lemma stable_effective (r : ServerRequest) (reply : ServerReply) :
    Stable (Counted window written) (Effective written r reply) := by
  rintro w w' h ⟨hkept, heffective⟩
  refine ⟨h.2.kept hkept, fun hupdated t i marked hentry hwritten => ?_⟩
  obtain ⟨hi, hread⟩ := heffective hupdated t i marked hentry hwritten
  exact ⟨hi, h.2.stays hkept hi hwritten hread⟩

lemma reads_of_updated (hkept : Kept m) {op : StatusOp} {t : ListName} {i : ℕ} {marked : Bool}
    (hwrites : writes op = some (t, i, marked)) (hans : StatusConsistency.answer X m op = .updated) :
    i < listCapacity ∧ Reads ((statusMachine X).step m op).1 t i marked := by
  obtain ⟨shown, hshows⟩ := hkept
  obtain ⟨t', i', value, hwrites', hi⟩ := writes_of_updated hshows hans
  rw [hwrites] at hwrites'
  cases hwrites'
  refine ⟨hi, (reads_iff (step_shows X op hshows) hi).mpr ?_⟩
  rw [mark_eq, hwrites]
  simp only [and_self, if_true]

lemma updated_of_succeeds {status : String} {index : ℕ} {r : Except (Fault ManagerError) Unit}
    (h : succeeds (updateReply status index r) = true) : r = .ok () := by
  cases r with
  | ok u => rfl
  | error e => cases e <;> cases h

lemma outline_refused {reply : ServerReply} (h : ¬ Updated reply) :
    Outline (Counted window written) (Leaves app r) (Effective written r)
      (fun w => Kept w.stores.status) (.ret reply) :=
  .ret (fun _ hkept => ⟨hkept, fun hupdated => absurd hupdated h⟩) (stable_effective r reply)

/-- **An update** is in effect where it is answered so. -/
lemma outline_update {op : StatusOp}
    {update : StatusManager → Except (Fault ManagerError) Unit × StatusManager}
    (hupdate : Performs X op update) (hof : updateOf r = some op)
    (htoken : adminTokenOf X r = some app.adminToken) (status : String) (index : ℕ) :
    Outline (Counted window written) (Leaves app r) (Effective written r)
      (fun w => Kept w.stores.status)
      ((onStores (.call (onStatus update) fun answer =>
        .ret (updateReply status index answer))).bind fun reply => .ret (.reply reply)) := by
  have hremarks := fun w : ServerWorld => remarks_update hupdate hof htoken w.stores
  refine .call (fun w => Kept w.stores.status)
    (fun answer => Effective written r (.reply (updateReply status index answer))) (fun _ h => h)
    stable_kept (fun w _ => ⟨rfl, hremarks w⟩) (fun w hkept => ⟨(hremarks w).kept hkept, ?_⟩)
    fun answer _ => .ret (fun _ h => h) (stable_effective r _)
  intro hupdated t i marked hentry _
  have hanswer : (update w.stores.status).1 = .ok () := updated_of_succeeds hupdated
  have hans : StatusConsistency.answer X w.stores.status op = .updated := by
    rw [StatusConsistency.answer, ← hupdate]
    cases hupdated : update w.stores.status with
    | mk answer m =>
      rw [hupdated] at hanswer
      obtain rfl := hanswer
      rfl
  rw [entryOf, hof] at hentry
  have hreads := reads_of_updated hkept hentry hans
  rw [← hupdate, updateAnswer_fst] at hreads
  exact hreads

lemma not_updated_of_unauthorized {headers : Headers} {response : Response}
    (h : rejectUnauthorizedAdmin app.toAppState headers = some response) :
    ¬ Updated (.reply (.response response)) := by
  unfold rejectUnauthorizedAdmin at h
  dsimp only at h
  split_ifs at h
  cases h
  exact Bool.false_ne_true

lemma outline_suspensionEndpoint {headers : Headers} {request : StatusUpdateRequest} (status : String)
    {op : StatusOp} {update : StatusManager → ℕ → Except (Fault ManagerError) Unit × StatusManager}
    (hupdate : Performs X op fun manager => update manager request.index)
    (hof : request.isMdoc = false → updateOf r = some op)
    (htoken : adminTokenOf X r = some (presentedAdmin X headers)) :
    Outline (Counted window written) (Leaves app r) (Effective written r)
      (fun w => Kept w.stores.status)
      ((onStores (suspensionEndpoint app.toAppState status update headers request)).bind fun reply =>
        .ret (.reply reply)) := by
  unfold suspensionEndpoint
  cases hadmin : rejectUnauthorizedAdmin app.toAppState headers with
  | some response => exact outline_refused (not_updated_of_unauthorized hadmin)
  | none =>
    rw [(rejectUnauthorizedAdmin_eq_none app.toAppState headers).mp hadmin] at htoken
    dsimp only
    split_ifs with hmdoc
    · exact outline_refused Bool.false_ne_true
    · exact outline_update hupdate (hof (by simpa using hmdoc)) htoken status request.index

lemma outline_leaves (app : ServerState X) (hof : updateOf r = none) :
    Outline (Counted window written) (Leaves app r) (Effective written r)
      (fun w => Kept w.stores.status) (serve app r) := by
  have heffective : Effective written r = fun _ w => Kept w.stores.status := by
    funext reply w
    simp only [Effective, entryOf, hof, Option.bind_none, reduceCtorEq, false_implies, implies_true,
      and_true]
  rw [heffective]
  exact outline_of_within (within_serve app r) stable_kept (fun _ _ h w _ => h w)
    fun _ _ h w hkept => (h w).2.kept hkept

/-- **Every handler** has its update in effect where it answers so. -/
theorem outline_effective (app : ServerState X) (r : ServerRequest) :
    Outline (Counted window written) (Leaves app r) (Effective written r)
      (fun w => Kept w.stores.status) (serve app r) := by
  cases r with
  | issuer r =>
    cases r with
    | revoke headers request =>
      simp only [serve, Requests.handle, revokeCredential]
      cases hadmin : rejectUnauthorizedAdmin app.toAppState headers with
      | some response => exact outline_refused (not_updated_of_unauthorized hadmin)
      | none =>
        have htoken : adminTokenOf X (.issuer (.revoke headers request)) = some app.adminToken :=
          congrArg some ((rejectUnauthorizedAdmin_eq_none app.toAppState headers).mp hadmin)
        exact outline_update (performs_revocation X request) rfl htoken _ _
    | suspend headers request =>
      exact outline_suspensionEndpoint _ (fun _ => rfl) updateOf_suspend rfl
    | reinstate headers request =>
      exact outline_suspensionEndpoint _ (fun _ => rfl) updateOf_reinstate rfl
    | par | authorize | decision | token | nonce | credential | credentialOffer | tokenStatusList =>
      exact outline_leaves app rfl
  | statusList | mdocStatusList | crl | authorization | requestObject | response =>
    exact outline_leaves app rfl

end Oid4vc.Marking
