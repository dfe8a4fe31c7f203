import Oid4vc.Crypto.Registered
import Oid4vc.Server.Handles
import Oid4vc.Status.Arrays
import Oid4vc.Status.Consistency

/-!
What the list of a credential reads, after the updates of its index.

A credential is given an index of the revocation list, and points at the token of that list. A
suspension marks the suspension list instead, so the list that the credential points at reads what
it should exactly as long as the credential is revoked, or is not suspended.
-/

namespace Oid4vc.Suspension

open Oid4vc.JsonValue Oid4vc.Text Oid4vc.Fallible Oid4vc.Run Oid4vc.PartialMap Oid4vc.Atomic
open Oid4vc.Spending Oid4vc.Instant Oid4vc.External Oid4vc.Codecs Oid4vc.Jwks Oid4vc.Jws
open Oid4vc.Registered Oid4vc.Mdoc Oid4vc.SdJwt Oid4vc.Selective Oid4vc.StatusTypes
open Oid4vc.TokenStatusList Oid4vc.Oid4vci Oid4vc.IssuerStore Oid4vc.Credential Oid4vc.Manager
open Oid4vc.Lists Oid4vc.StatusConsistency Oid4vc.StatusArrays Oid4vc.Taken Oid4vc.StatusRef
open Oid4vc.Server Oid4vc.IssuerRoutes Oid4vc.StatusRoutes Oid4vc.Requests Oid4vc.Effects
open Oid4vc.Handles

deriving instance DecidableEq for StatusOp

variable {X : Crates} (app : AppState X) {θ β : Type}

/-! ### What was done to an index -/

/-- The operation of the status manager that an admin request is. -/
def adminOp : Request → Option StatusOp
  | .revoke _ request =>
      some (if request.isMdoc = true then .revokeMdoc request.index else .revoke request.index)
  | .suspend _ request => some (.suspend request.index)
  | .reinstate _ request => some (.reinstate request.index)
  | _ => none

/-- The reply to an admin request that succeeded. -/
def succeeds : Reply → Bool
  | .response ⟨200, _, .updated _ _⟩ => true
  | _ => false

/-- The admin operation that succeeded in this step of a thread. -/
def succeededAt [DecidableEq θ] (requests : θ → Request) (e : PoolStep θ) : Option StatusOp :=
  match e.input with
  | .thread t =>
    match (e.before.prog t).answer, ((e.before.advance t).prog t).answer with
    | none, some reply => if succeeds reply = true then adminOp (requests t) else none
    | _, _ => none
  | .outside _ => none

/-- The admin operations that succeeded, in order. -/
def succeeded [DecidableEq θ] (requests : θ → Request) (l : List (PoolStep θ)) : List StatusOp :=
  l.filterMap (succeededAt requests)

/-- The operation suspends or reinstates this index. -/
def concerns (i : ℕ) : StatusOp → Bool
  | .suspend j => j == i
  | .reinstate j => j == i
  | _ => false

/-- The index was revoked. -/
def Revoked (ops : List StatusOp) (i : ℕ) : Prop := .revoke i ∈ ops

/-- The last of the operations that suspend or reinstate the index suspends it. -/
def Suspended (ops : List StatusOp) (i : ℕ) : Prop :=
  (ops.filter (concerns i)).getLast? = some (.suspend i)

instance (ops : List StatusOp) (i : ℕ) : Decidable (Revoked ops i) :=
  inferInstanceAs (Decidable (_ ∈ _))

instance (ops : List StatusOp) (i : ℕ) : Decidable (Suspended ops i) :=
  inferInstanceAs (Decidable (_ = _))

/-- What the list should read at an index after these operations. -/
def expected (ops : List StatusOp) (i : ℕ) : TokenStatus :=
  if Revoked ops i then .invalid else if Suspended ops i then .suspended else .valid

/-! ### What a list reads -/

/-- The value that a Status List Token has at an index. -/
def statusIn (X : Crates) (D : Decompressors) (jwt : String) (i : ℕ) : Option Byte := do
  let claims ← jwtClaims X jwt
  let list ← claims.get "status_list"
  let bits ← i64Claim list "bits"
  let lst ← stringMember list "lst"
  let decoded ← (TokenStatusListImpl.decode X D lst listCapacity bits.toNat).toOption
  (decoded.get i).toOption

/-- Where the token of a list is served. -/
def tokenUrl (p : StatusPurpose) : String := app.urlFor ("/status/" ++ p.toString ++ "/token")

/-- **The Token Status List served at an address reads this** at an index, to whoever asks for it. -/
def Serves (D : Decompressors) (b : Stores) (uri : String) (i : ℕ) (value : TokenStatus) : Prop :=
  ∃ p headers jwt, tokenUrl app p = uri ∧
    ((handle app (.tokenStatusList p.toString)).exec b).1 =
      .response ⟨200, headers, .statusToken jwt⟩ ∧
    statusIn X D jwt i = some value.toByte

variable {app} {D : Decompressors} {b : Stores} {marks : Marks} {p : StatusPurpose} {i : ℕ}

lemma toByte_inj {v w : TokenStatus} (h : v.toByte = w.toByte) : v = w := by
  cases v <;> cases w <;> first | rfl | (revert h; decide)

/-- The claims of a Status List Token are read back. -/
lemma proper_statusTokenClaims (id : String) (list : StatusTypes.TokenStatusList) {now : ℤ}
    (hnow : -2 ^ 62 ≤ now ∧ now < 2 ^ 62) (hbits : list.bits ≤ 8) :
    ∃ members, statusTokenClaims app id list now = .obj members ∧
      (members.map Prod.fst).Nodup ∧ Json.ProperMembers members := by
  refine ⟨_, rfl, ?_, ?_⟩
  · simp only [List.map_cons, List.map_nil]
    decide
  · have hsorted : "bits" < "lst" := by decide
    rw [Json.properMembers_iff]
    intro m hm
    simp only [List.mem_cons, List.not_mem_nil, or_false] at hm
    rcases hm with rfl | rfl | rfl | rfl | rfl | rfl
    · simp [Json.Proper]
    · simp [Json.Proper]
    · exact proper_i64Json (by omega) (by omega)
    · exact proper_i64Json (by omega) (by omega)
    · exact proper_i64Json (by decide) (by decide)
    · rw [Json.Proper, Json.properMembers_iff]
      refine ⟨fun m hm => ?_, List.pairwise_pair.mpr hsorted⟩
      rcases List.mem_pair.mp hm with rfl | rfl
      · exact proper_i64Json (by omega) (by omega)
      · simp [Json.Proper]

/-- **A Status List Token** reads as the list that it was signed with. -/
lemma statusIn_of_signed (hb64 : Base64Url X) (hserde : SerdeJson X) {id jwt : String}
    {list : StatusTypes.TokenStatusList} {l : TokenStatusListImpl} {now : ℤ}
    (hjwt : signCompact X app.primaryKey (statusTokenHeader app) (statusTokenClaims app id list now) =
      .ok jwt)
    (hnow : -2 ^ 62 ≤ now ∧ now < 2 ^ 62) (hbits : list.bits ≤ 8)
    (hdecode : TokenStatusListImpl.decode X D list.lst listCapacity list.bits = .ok l) :
    statusIn X D jwt i = (l.get i).toOption := by
  obtain ⟨members, hmembers, hnodup, hproper⟩ :=
    @proper_statusTokenClaims X app id list now hnow hbits
  rw [hmembers] at hjwt
  obtain ⟨signature, signingInput, hdecoded, -⟩ := decodeCompact_signCompact hb64 hserde hjwt
  obtain ⟨sorted, hperm, hread⟩ := hserde.object members hnodup hproper
  have hclaims : jwtClaims X jwt = some (.obj sorted) := jwtClaims_of_decodes hdecoded hread
  have hlist : (Json.obj sorted).get "status_list" =
      some (.obj [("bits", i64Json list.bits), ("lst", .str list.lst)]) := by
    rw [get_congr hperm ((hperm.map Prod.fst).nodup_iff.mpr hnodup), ← hmembers]
    rfl
  have hwidth : i64Claim (.obj [("bits", i64Json list.bits), ("lst", .str list.lst)]) "bits" =
      some (list.bits : ℤ) := by
    have hread := asI64_i64Json (n := (list.bits : ℤ)) (by omega) (by omega)
    simpa [i64Claim, Json.get] using hread
  have htext : stringMember (.obj [("bits", i64Json list.bits), ("lst", .str list.lst)]) "lst" =
      some list.lst := rfl
  simp only [statusIn, Option.bind_eq_bind, hclaims, hlist, hwidth, htext, Option.bind_some,
    Int.toNat_natCast, hdecode, Except.toOption]

/-- What the server answers to a request for a list that it keeps. -/
lemma statusToken_served (hb64 : Base64Url X) (hserde : SerdeJson X)
    (hzlib : ∀ bytes, ∃ compressed, X.zlib bytes = .ok compressed ∧ D.inflate compressed = .ok bytes)
    (hsign : ∀ m, ∃ s, app.primaryKey.sign m = .ok s) (hshows : Shows b.status marks)
    (hclock : Representable b.issuer.clock) (p : StatusPurpose) (hi : i < listCapacity) :
    ∃ headers jwt, ((handle app (.tokenStatusList p.toString)).exec b).1 =
        .response ⟨200, headers, .statusToken jwt⟩ ∧
      statusIn X D jwt i = some (valueOf (.entries p) (marks (.entries p) i)).toByte := by
  obtain ⟨l, hget, hsound, -⟩ := hshows.list p
  obtain ⟨encoded, hencode, hdecode⟩ := token_round_trip hb64 hzlib l.tsl
  rw [hsound.tslCapacity] at hdecode
  have hbuild : b.status.buildTokenStatusList X p.toString = .ok ⟨l.tsl.bitsPerStatus, encoded⟩ := by
    simp only [StatusManager.buildTokenStatusList, bind_eq_ok, okOr_eq_ok, mapError_eq_ok,
      pure_eq_ok]
    exact ⟨l, hget, encoded, hencode, rfl⟩
  obtain ⟨tsl, htsl, hvalue⟩ := (reads_of_shows hshows (.entries p) hi).value
  simp only [tokenList, hget, Option.map_some, Option.some.injEq] at htsl
  rw [← htsl] at hvalue
  obtain ⟨jwt, hjwt⟩ := signCompact_total (X := X) hsign (statusTokenHeader app)
    (statusTokenClaims app p.toString ⟨l.tsl.bitsPerStatus, encoded⟩ (timestamp b.issuer.clock))
  refine ⟨[("content-type", "application/statuslist+jwt")], jwt, ?_, ?_⟩
  · simp only [handle, getTokenStatusList, Prog.exec_call, onStatus, Prog.through, hbuild,
      Credential.Calls.readClock, Prog.exec_ret, signStatusToken, hjwt]
  · have hwidth : l.tsl.bitsPerStatus ≤ 8 := by rw [hsound.tslBits]; decide
    have hnow : -2 ^ 62 ≤ timestamp b.issuer.clock ∧ timestamp b.issuer.clock < 2 ^ 62 :=
      ⟨le_trans (by decide) hclock.1, lt_of_le_of_lt hclock.2 (by decide)⟩
    rw [statusIn_of_signed hb64 hserde hjwt hnow hwidth hdecode, hvalue]
    rfl

/-- **The list of the credentials** reads revoked where it is marked, and valid elsewhere. -/
theorem serves_iff (hb64 : Base64Url X) (hserde : SerdeJson X)
    (hzlib : ∀ bytes, ∃ compressed, X.zlib bytes = .ok compressed ∧ D.inflate compressed = .ok bytes)
    (hsign : ∀ m, ∃ s, app.primaryKey.sign m = .ok s)
    (hlists : tokenUrl app .suspension ≠ tokenUrl app .revocation) (hshows : Shows b.status marks)
    (hclock : Representable b.issuer.clock) (hi : i < listCapacity) {value : TokenStatus} :
    Serves app D b (tokenUrl app .revocation) i value ↔
      value = valueOf (.entries .revocation) (marks (.entries .revocation) i) := by
  constructor
  · rintro ⟨p, headers, jwt, hurl, hreply, hread⟩
    obtain rfl : p = .revocation := by
      cases p with
      | revocation => rfl
      | suspension => exact absurd hurl hlists
    obtain ⟨headers', jwt', hreply', hread'⟩ :=
      statusToken_served hb64 hserde hzlib hsign hshows hclock .revocation hi
    rw [hreply', Reply.response.injEq, Response.mk.injEq, Body.statusToken.injEq] at hreply
    rw [hreply.2.2, hread, Option.some.injEq] at hread'
    exact toByte_inj hread'
  · rintro rfl
    obtain ⟨headers, jwt, hreply, hread⟩ :=
      statusToken_served hb64 hserde hzlib hsign hshows hclock .revocation hi
    exact ⟨.revocation, headers, jwt, rfl, hreply, hread⟩

/-! ### The marks of a run -/

/-- The call leaves the marks as they are. -/
def Quiet : Spending.Calls Stores := fun _ op => ∀ b marks, Shows b.status marks →
  Shows (op b).2.status marks

lemma quiet_of_status {op : Stores → β × Stores} (h : ∀ b, (op b).2.status = b.status) :
    Quiet β op := by
  intro b marks hshows
  rw [h b]
  exact hshows

lemma quiet_getAccessGrant (token : String) :
    Quiet (Option AccessGrant) (Credential.Calls.getAccessGrant token) :=
  quiet_of_status fun _ => rfl

lemma quiet_checking : CheckingCalls Quiet X where
  readClock := quiet_of_status fun _ => rfl
  attestation _ _ _ _ _ := quiet_of_status fun _ => rfl
  proof _ _ _ := quiet_of_status fun _ => rfl
  grant := quiet_getAccessGrant

lemma quiet_issuing : IssuingCalls Quiet (issuanceContext app) where
  readClock := quiet_of_status fun _ => rfl
  allocate draws := by
    intro b marks hshows
    have hcontext : (issuanceContext app).allocateStatus = allocateStatus app := rfl
    rw [hcontext, allocate_entry]
    exact step_shows X _ hshows
  allocateMdoc signer hsigner draws := by
    obtain rfl := Option.some.inj hsigner
    intro b marks hshows
    have hsame : (Credential.Calls.allocate (allocateMdocStatus app) draws b).2.status =
        ((statusMachine X).step b.status (.allocateMdocIndex draws)).1 :=
      congrArg Backend.status (allocate_mdoc app draws b)
    have hshown := step_shows X (.allocateMdocIndex draws) hshows
    rw [← hsame] at hshown
    exact hshown

lemma quiet_handlers : HandlerCalls Quiet app where
  checking := quiet_checking
  issuing := quiet_issuing
  nonce _ := quiet_of_status fun _ => rfl
  list _ := quiet_of_status fun _ => rfl
  issuer _ _ := quiet_of_status fun _ => rfl

lemma quiet_handle {r : Request} (h : adminOp r = none) : Within Quiet (handle app r) := by
  refine within_handle_of quiet_handlers fun update hupdate => ?_
  cases r with
  | revoke | suspend | reinstate => simp [adminOp] at h
  | _ => cases hupdate

/-- The program of an admin request: it is refused at once, or makes one update. -/
inductive Updates (X : Crates) (op : StatusOp) : Prog Stores Reply → Prop
  | refused (reply : Reply) : Updates X op (.ret reply)
  | update (update : StatusManager → Except (Fault ManagerError) Unit × StatusManager)
    (status : String) (index : ℕ) (h : ∀ m, (statusMachine X).step m op = updateAnswer (update m)) :
    Updates X op (.call (onStatus update) fun r => .ret (updateReply status index r))

lemma updates_suspensionEndpoint {op : StatusOp} (status : String) (headers : Headers)
    (request : StatusUpdateRequest)
    {update : StatusManager → ℕ → Except (Fault ManagerError) Unit × StatusManager}
    (h : ∀ m, (statusMachine X).step m op = updateAnswer (update m request.index)) :
    Updates X op (suspensionEndpoint app status update headers request) := by
  unfold suspensionEndpoint
  split
  · exact .refused _
  · split_ifs
    · exact .refused _
    · exact .update (fun m => update m request.index) _ _ h

/-- **An admin request** makes the update that it asks for. -/
lemma updates_handle {r : Request} {op : StatusOp} (h : adminOp r = some op) :
    Updates X op (handle app r) := by
  cases r with
  | revoke headers request =>
    obtain rfl := Option.some.inj h
    simp only [handle, revokeCredential]
    cases rejectUnauthorizedAdmin app headers with
    | some response => exact .refused _
    | none =>
      refine .update _ _ _ fun m => ?_
      split_ifs <;> rfl
  | suspend headers request =>
    obtain rfl := Option.some.inj h
    exact updates_suspensionEndpoint _ _ _ fun _ => rfl
  | reinstate headers request =>
    obtain rfl := Option.some.inj h
    exact updates_suspensionEndpoint _ _ _ fun _ => rfl
  | _ => cases h

section Threads

variable [DecidableEq θ] {q : Pool θ Stores Reply} {requests : θ → Request}

/-- What a thread has left to do: calls that leave the marks alone, the update that it is asked
for, or nothing. -/
inductive Left (app : AppState X) (r : Request) : Prog Stores Reply → Prop
  | quiet {prog : Prog Stores Reply} (hnone : adminOp r = none) (h : Within Quiet prog) :
    Left app r prog
  | update {prog : Prog Stores Reply} (op : StatusOp) (hop : adminOp r = some op)
    (h : Updates X op prog) : Left app r prog

lemma left_handle (r : Request) : Left app r (handle app r) := by
  cases hop : adminOp r with
  | none => exact .quiet hop (quiet_handle hop)
  | some op => exact .update op hop (updates_handle hop)

/-- The pool as it is after these steps: its lists show what has succeeded in them. -/
structure Shown (app : AppState X) (requests : θ → Request) (history : List (PoolStep θ))
    (q : Pool θ Stores Reply) : Prop where
  shows : Shows q.shared.status (marksAfter (succeeded requests history))
  left : ∀ t, Left app (requests t) (q.prog t)

lemma succeeded_snoc (history : List (PoolStep θ)) (e : PoolStep θ) :
    succeeded requests (history ++ [e]) =
      succeeded requests history ++ (succeededAt requests e).toList := by
  rw [succeeded, List.filterMap_append]
  cases h : succeededAt requests e <;> simp [succeeded, h]

/-- Steps of threads that have no admin request succeed in no update. -/
lemma succeeded_eq_nil {events : List (Event θ DateTime)}
    (h : ∀ e ∈ events, ∀ t, e = .thread t → adminOp (requests t) = none)
    (q : Pool θ Stores Reply) : succeeded requests (log (handlers θ) q events) = [] := by
  refine List.filterMap_eq_nil_iff.mpr fun e he => ?_
  have hmem := input_mem_of_mem_log he
  obtain ⟨before, input, after, -, rfl⟩ := exists_split_of_mem_log he
  cases input with
  | outside n => rfl
  | thread t =>
    simp only [succeededAt, entry, h _ hmem t rfl]
    split <;> simp

lemma Shown.idle {history : List (PoolStep θ)} {e : PoolStep θ} {q' : Pool θ Stores Reply}
    (hnone : succeededAt requests e = none)
    (hshows : Shows q'.shared.status (marksAfter (succeeded requests history)))
    (hleft : ∀ t, Left app (requests t) (q'.prog t)) : Shown app requests (history ++ [e]) q' := by
  refine ⟨?_, hleft⟩
  rw [succeeded_snoc, hnone, Option.toList_none, List.append_nil]
  exact hshows

lemma left_advance {t : θ} (hleft : ∀ u, Left app (requests u) (q.prog u))
    (ht : Left app (requests t) ((q.advance t).prog t)) (u : θ) :
    Left app (requests u) ((q.advance t).prog u) := by
  by_cases hut : u = t
  · rw [hut]
    exact ht
  · rw [advance_prog_of_ne q hut]
    exact hleft u

/-- **A step of a thread.** -/
lemma Shown.advance {history : List (PoolStep θ)} (h : Shown app requests history q) (t : θ) :
    Shown app requests (history ++ [entry (handlers θ) q (.thread t)]) (q.advance t) := by
  cases hprog : q.prog t with
  | ret reply =>
    rw [advance_of_ret hprog]
    refine Shown.idle ?_ h.shows h.left
    simp [succeededAt, entry, hprog]
  | @call β op k =>
    have hleft := h.left t
    rw [hprog] at hleft
    cases hleft with
    | quiet hnone hquiet =>
      cases hquiet with
      | call hop hk =>
        refine Shown.idle ?_ ?_ (left_advance h.left ?_)
        · simp only [succeededAt, entry, hnone]
          split <;> simp
        · rw [advance_shared hprog]
          exact hop _ _ h.shows
        · rw [advance_prog_self hprog]
          exact .quiet hnone (hk _)
    -- the call that is left is the update itself
    | update sop hsop hupdates =>
      cases hupdates with
      | update update status index hstep =>
        have hnext : (q.advance t).prog t = .ret (updateReply status index
            (update q.shared.status).1) := by
          rw [advance_prog_self hprog]
          rfl
        have hshared : (q.advance t).shared.status = (update q.shared.status).2 := by
          rw [advance_shared hprog]
          rfl
        have hdone : Left app (requests t) ((q.advance t).prog t) := by
          rw [hnext]
          exact .update sop hsop (.refused _)
        have hrest := left_advance h.left hdone
        have hbefore : (q.prog t).answer = none := by
          rw [hprog]
          rfl
        cases hup : update q.shared.status with
        | mk r m' =>
          rw [hup] at hnext hshared
          cases r with
          | ok done =>
            have hsucceeded : succeededAt requests (entry (handlers θ) q (.thread t)) = some sop := by
              simp only [succeededAt, entry, hbefore, hnext, Prog.answer_ret]
              exact hsop
            refine ⟨?_, hrest⟩
            rw [succeeded_snoc, hsucceeded, Option.toList_some, marksAfter_snoc, hshared]
            have hmarked := step_shows X sop h.shows
            rw [hstep, updateAnswer_fst, hup] at hmarked
            exact hmarked
          -- an update that fails changes no mark, and does not count
          | error e =>
            have hrefused : answer X q.shared.status sop = .refused e := by
              simp only [StatusConsistency.answer, hstep, hup, updateAnswer]
            have hsame := next_of_refused h.shows hrefused
            simp only [next, hstep, hup, updateAnswer] at hsame
            refine Shown.idle ?_ ?_ hrest
            · simp only [succeededAt, entry, hbefore, hnext, Prog.answer_ret]
              cases e <;> rfl
            · rw [hshared, hsame]
              exact h.shows

/-- **Every run.** The lists show the marks of the admin operations that have succeeded. -/
theorem run_shown (app : AppState X) (requests : θ → Request) (clock : DateTime)
    (events : List (Event θ DateTime)) :
    Shown app requests (log (handlers θ) (start app requests clock) events)
      (run (handlers θ) (start app requests clock) events) := by
  induction events using List.reverseRecOn with
  | nil => exact ⟨shows_new app.externalUrl, fun t => left_handle (requests t)⟩
  | append_singleton events e ih =>
    rw [log_append, run_append]
    cases e with
    | thread t => exact ih.advance t
    | outside n => exact Shown.idle rfl ih.shows ih.left

end Threads

/-! ### The references of SD-JWT VCs -/

/-- What an SD-JWT VC refers to is an index of the revocation list. -/
def Refers (app : AppState X) (credential : Json) : Prop :=
  ∀ ref, sdJwtStatus X credential = some ref →
    ∃ i < listCapacity, ref = refTo app (.entries .revocation, i)

/-- Whatever is issued so refers. -/
lemma additive_refers (hb64 : Base64Url X) (hserde : SerdeJson X) :
    Additive app (fun _ a _ => ∀ c, a = .ok c → Refers app c)
      fun credentials _ => ∀ c ∈ credentials, Refers app c where
  nil c hc := absurd hc List.not_mem_nil
  snoc issued held c held' hall hone c' hc' := by
    rcases List.mem_append.mp hc' with hold | hnew
    · exact hall c' hold
    · rw [List.mem_singleton.mp hnew]
      exact hone c rfl
  credential configId config holderJwk draws held := by
    have herror : ∀ h : Halt, ∀ c, (Except.error h : Except Halt Json) = .ok c → Refers app c :=
      fun _ _ hc => by cases hc
    unfold issueCredential
    split_ifs
    · unfold issueSdJwtCredential
      cases config.vct with
      | none => exact .ret (herror _)
      | some vct =>
        have hcontext : (issuanceContext app).allocateStatus = allocateStatus app := rfl
        simp only [hcontext]
        refine earns_call (.entry draws.index) fun b hb => ?_
        rcases allocate_entry_cases app draws.index b with
          hanswer | ⟨e, hanswer⟩ | ⟨i, htakes, hanswer⟩
        · rw [hanswer]
          exact .ret (herror _)
        · rw [hanswer]
          exact .ret (herror _)
        · -- the index that was allocated is written into the credential, and read back
          have hi := lt_of_takes htakes hb.2
          rw [hanswer]
          refine earns_call still_readClock fun b' hb' => .ret fun c hc ref href => ?_
          have hstatus := sdJwtStatus_of_signed hb64 hserde hc (proper_statusClaim _ _) hb'.1
            (refOf_statusClaim _ hi)
          rw [hstatus, Option.some.injEq] at href
          exact ⟨i, hi, href.symm⟩
    · unfold issueMdocCredential
      cases hsigner : mdlSigner X config (issuanceContext app) with
      | error e => exact .ret (herror _)
      | ok signer =>
        obtain ⟨signer, docType, country⟩ := signer
        have hmdoc := Option.some.inj (mdlSigner_ok hsigner)
        have hallocate : signer.allocateStatus = allocateMdocStatus app := by rw [← hmdoc]
        simp only [hallocate]
        refine earns_call still_readClock fun b _ => ?_
        cases mdlRequest X signer.certificate docType country holderJwk
            (Credential.Calls.readClock b).1 with
        | error e => exact .ret (herror _)
        | ok request =>
          refine earns_call (.mdoc draws.index) fun b _ => ?_
          rcases (Credential.Calls.allocate (allocateMdocStatus app) draws.index b).1 with
            _ | (e | status)
          · exact .ret (herror _)
          · exact .ret (herror _)
          · refine .ret fun c hc ref href => ?_
            -- an mdoc has no reference of this kind
            rw [sdJwtStatus_of_mdoc hb64 hc] at href
            cases href
    · exact .ret (herror _)

/-- **Whatever a thread was issued** so refers. -/
lemma refers_of_issued [DecidableEq θ] (hb64 : Base64Url X) (hserde : SerdeJson X)
    {requests : θ → Request} {clock : DateTime} {events : List (Event θ DateTime)} {t : θ} {c : Json}
    (hc : c ∈ issuedTo requests (run (handlers θ) (start app requests clock) events) t) :
    Refers app c := by
  obtain ⟨held, hearning⟩ := (additive_refers hb64 hserde).run requests clock events
  rcases issuedTo_cases hearning t with hnone | hall
  · rw [hnone] at hc
    exact absurd hc List.not_mem_nil
  · exact hall c hc

/-! ### What was done, and what is read -/

/-- The list of the credentials is marked where an index was revoked. -/
lemma mark_iff_revoked (ops : List StatusOp) (i : ℕ) :
    marksAfter ops (.entries .revocation) i = true ↔ Revoked ops i := by
  induction ops using List.reverseRecOn with
  | nil => simp [marksAfter, Revoked]
  | append_singleton ops op ih =>
    have hsnoc : Revoked (ops ++ [op]) i ↔ Revoked ops i ∨ op = .revoke i := by
      rw [Revoked, List.mem_append, List.mem_singleton, eq_comm]
      rfl
    rw [marksAfter_snoc, mark_eq, hsnoc, ← ih]
    cases op with
    | revoke j =>
      by_cases hij : i = j
      · simp [writes, hij]
      · have hji : j ≠ i := fun h => hij h.symm
        simp [writes, hij, hji]
    | allocateEntry | allocateMdocIndex => simp [writes]
    | suspend | reinstate | revokeMdoc => simp [writes]

/-- What should be read is what is marked, unless the index is suspended and not revoked. -/
lemma expected_eq_iff (ops : List StatusOp) (i : ℕ) :
    expected ops i = valueOf (.entries .revocation) (marksAfter ops (.entries .revocation) i) ↔
      Revoked ops i ∨ ¬ Suspended ops i := by
  unfold expected valueOf
  by_cases hrevoked : Revoked ops i
  · rw [if_pos hrevoked, if_pos ((mark_iff_revoked ops i).mpr hrevoked)]
    exact iff_of_true rfl (Or.inl hrevoked)
  · rw [if_neg hrevoked, if_neg fun hmark => hrevoked ((mark_iff_revoked ops i).mp hmark)]
    by_cases hsuspended : Suspended ops i
    · simp [hrevoked, hsuspended]
    · simp [hsuspended]

/-- **An update takes effect** in the list that the credential points at: it reads there what was
done to its index. -/
def TakesEffect [DecidableEq θ] (app : AppState X) (D : Decompressors) (requests : θ → Request)
    (clock : DateTime) (events : List (Event θ DateTime)) (ref : StatusListRef) : Prop :=
  Serves app D (run (handlers θ) (start app requests clock) events).shared ref.uri ref.idx.toNat
    (expected (succeeded requests (log (handlers θ) (start app requests clock) events))
      ref.idx.toNat)

/-- **Suspending a credential.** However requests interleave, the list that an issued SD-JWT VC points
at reads what was done to its index exactly when it was revoked, or is not suspended. -/
theorem takesEffect_iff [DecidableEq θ] (X : Crates) (D : Decompressors) (hb64 : Base64Url X)
    (hserde : SerdeJson X)
    (hzlib : ∀ bytes, ∃ compressed, X.zlib bytes = .ok compressed ∧ D.inflate compressed = .ok bytes)
    (app : AppState X) (hsign : ∀ m, ∃ s, app.primaryKey.sign m = .ok s)
    (hlists : tokenUrl app .suspension ≠ tokenUrl app .revocation) (requests : θ → Request)
    (clock : DateTime) (events : List (Event θ DateTime)) (t : θ) (c : Json)
    (hc : c ∈ issuedTo requests (run (handlers θ) (start app requests clock) events) t)
    (ref : StatusListRef) (href : sdJwtStatus X c = some ref) :
    TakesEffect app D requests clock events ref ↔
      Revoked (succeeded requests (log (handlers θ) (start app requests clock) events))
          ref.idx.toNat ∨
        ¬ Suspended (succeeded requests (log (handlers θ) (start app requests clock) events))
          ref.idx.toNat := by
  obtain ⟨i, hi, rfl⟩ := refers_of_issued hb64 hserde hc ref href
  have hindex : (refTo app (.entries .revocation, i)).idx.toNat = i :=
    congrArg Prod.snd (@resourceOf_refTo X app (.entries .revocation) i hi)
  have hshown := run_shown app requests clock events
  have hclock := (run_accounted app requests clock events).inv.1
  rw [hindex, ← expected_eq_iff, TakesEffect, hindex]
  exact serves_iff hb64 hserde hzlib hsign hlists hshown.shows hclock hi

section Sample

open Oid4vc.CborBytes Oid4vc.X509 Oid4vc.Tables Oid4vc.Batch Oid4vc.Redemption Oid4vc.Wallet
open Oid4vc.Honest

/-- What `flate2` makes of the list that has no entry marked. -/
def emptyListZlib : Bytes := bigEndian 46
  0x78daedc101010000008220ffaf6e48400100000000000000000000000000000000000000000000007c1861a80001

/-- The crates of the visit, with a compressor that agrees with `flate2` on that list. -/
def listCrates : Crates :=
  { visitCrates with zlib := compressLike (List.replicate 25000 0) emptyListZlib }

def listDecompressors : Decompressors :=
  { exampleDecompressors with inflate := decompressLike (List.replicate 25000 0) emptyListZlib }

lemma parses_listCrates : listCrates.certificateFromDer signerDer = .ok signerCertificate := by
  have hfrom : listCrates.certificateFromDer = visitCrates.certificateFromDer := rfl
  rw [hfrom]
  exact parses_visitCrates

def listSigner : IssuerCertificate listCrates :=
  ⟨signerDer, signerCertificate, parses_listCrates⟩

def listApp : AppState listCrates where
  metadata := visitApp.metadata
  primaryKey := (visitTable.key signerX signerY).toKeyPair listCrates
  leaf := listSigner
  mdocSigner := listSigner
  externalUrl := visitApp.externalUrl
  issuerId := visitApp.issuerId
  adminToken := visitApp.adminToken
  clientAttesters := []

/-- The wallet's requests, and one to suspend what it is issued. -/
def suspendingRequests : ℕ → Request
  | 4 => .suspend (bearer listApp.adminToken) ⟨7, none⟩
  | t => visitRequests t

def visitTime : DateTime := ⟨seconds 1767225600, pairTime_representable⟩

lemma base64Url_list : Base64Url listCrates := by
  have hb64 := canonicalBase64Url_visit.toBase64Url
  exact ⟨hb64.decode_encode, hb64.alphabet, hb64.nonempty⟩

lemma serdeJson_list : SerdeJson listCrates := serdeJson_visit.congr rfl rfl rfl rfl

lemma headerValues_list : HeaderValues listCrates := ⟨headerValues_codecs.toStr⟩

lemma zlib_list : ∀ bytes, ∃ compressed, listCrates.zlib bytes = .ok compressed ∧
    listDecompressors.inflate compressed = .ok bytes :=
  decompressLike_compressLike (by decide)

lemma signs_list : ∀ m, ∃ s, listApp.primaryKey.sign m = .ok s := fun _ => ⟨_, rfl⟩

lemma lists_list : tokenUrl listApp .suspension ≠ tokenUrl listApp .revocation := by
  have hurl : ∀ path, listApp.urlFor path = sampleUrl ++ path := fun _ => rfl
  rw [tokenUrl, tokenUrl, hurl, hurl]
  decide

/-- The wallet is issued a credential at index 7, before anything is suspended. -/
lemma issued_list : ∃ (events : List (Event ℕ DateTime)) (c : Json),
    c ∈ issuedTo suspendingRequests
      (run (handlers ℕ) (start listApp suspendingRequests visitTime) events) 3 ∧
    sdJwtStatus listCrates c = some (refTo listApp (.entries .revocation, 7)) ∧
    (run (handlers ℕ) (start listApp suspendingRequests visitTime) events).prog 4 =
      handle listApp (suspendingRequests 4) ∧
    succeeded suspendingRequests
      (log (handlers ℕ) (start listApp suspendingRequests visitTime) events) = [] := by
  have hconfig : listApp.metadata.credentialConfigurationsSupported.lookup "pid" =
      some visitConfiguration := List.lookup_cons_self
  have hproof : verifyProofJwt listCrates visitProof listApp.issuerId visitConfiguration
      (seconds 1767225600) = .ok (holderJwk holderX holderY none, codeCrates.uuid 3) := by
    have hsame : verifyProofJwt listCrates = verifyProofJwt visitCrates :=
      verifyProofJwt_congr rfl rfl rfl
    rw [hsame]
    exact verifyProofJwt_visit
  obtain ⟨m, halloc⟩ := @allocateStatus_fresh listCrates listApp 7 (by decide)
  obtain ⟨credential, hsigned, hstep⟩ := @served listCrates listApp "pid" "urn:eudi:pid:1" visitProof
    visitConfiguration (holderJwk holderX holderY none) _ m visitDraws
    (freshStores listApp visitTime.val) hconfig rfl rfl (presentedToken_visit headerValues_list) hproof
    (by decide) halloc signs_list
  obtain ⟨events, hanswer, hprog, hevents⟩ := exists_answer listApp suspendingRequests visitTime
    (t := 3) (show [0, 1, 2].Nodup by decide) (by decide)
  refine ⟨events, credential, ?_, ?_, hprog 4 (by decide), succeeded_eq_nil (fun e he t ht => ?_) _⟩
  · have hserved : ((server listApp).step (run (server listApp) (freshStores listApp visitTime.val)
        ([0, 1, 2].map fun t => .request (suspendingRequests t)))
          (.request (suspendingRequests 3))).2 =
        some (.response ⟨200, [], .credential (credentialResponse [credential])⟩) :=
      congrArg Prod.snd hstep
    rw [hserved] at hanswer
    simp only [issuedTo, suspendingRequests, visitRequests, hanswer]
    have hcredentials : credentialsIn
        (.response ⟨200, [], .credential (credentialResponse [credential])⟩) = [credential] :=
      credentialsOf_credentialResponse [credential]
    rw [hcredentials]
    exact List.mem_singleton_self credential
  · exact sdJwtStatus_of_signed base64Url_list serdeJson_list hsigned (proper_statusClaim _ _)
      visitTime.property (refOf_statusClaim _ (by decide))
  · obtain ⟨u, hu, hsame⟩ := hevents e he
    obtain rfl : u = t := Event.thread.inj (hsame.symm.trans ht)
    have hnone : ([0, 1, 2, 3].all fun t => adminOp (suspendingRequests t) == none) = true := by
      decide
    exact beq_iff_eq.mp (List.all_eq_true.mp hnone u hu)

/-- **Suspended, and yet valid.** The credential at index 7 is suspended, and the list that it points
at still reads valid there. -/
theorem suspended_reads_valid : ∃ (events : List (Event ℕ DateTime)) (c : Json) (ref : StatusListRef),
    c ∈ issuedTo suspendingRequests
      (run (handlers ℕ) (start listApp suspendingRequests visitTime) events) 3 ∧
    sdJwtStatus listCrates c = some ref ∧
    Suspended (succeeded suspendingRequests
      (log (handlers ℕ) (start listApp suspendingRequests visitTime) events)) ref.idx.toNat ∧
    Serves listApp listDecompressors
      (run (handlers ℕ) (start listApp suspendingRequests visitTime) events).shared ref.uri
      ref.idx.toNat .valid ∧
    ¬ TakesEffect listApp listDecompressors suspendingRequests visitTime events ref := by
  obtain ⟨events, c, hc, href, hprog, hquiet⟩ := issued_list
  set q := run (handlers ℕ) (start listApp suspendingRequests visitTime) events with hq
  have hshows := (run_shown listApp suspendingRequests visitTime events).shows
  rw [hquiet, ← hq] at hshows
  have hauth : rejectUnauthorizedAdmin listApp (bearer listApp.adminToken) = none := by
    decide +kernel
  have hhandle : q.prog 4 = .call (onStatus fun m => m.suspend 7) fun r =>
      .ret (updateReply "suspended" 7 r) := by
    rw [hprog]
    simp only [suspendingRequests, handle, suspendCredential, suspensionEndpoint, hauth]
    rfl
  -- index 7 is in range, so the suspension list takes the mark
  obtain ⟨l, hget, hsound, -⟩ := hshows.list .suspension
  have hupdate := updateStatus_eq hget hsound (show 7 < listCapacity by decide) true
  have hok : (q.shared.status.suspend 7).1 = .ok () := congrArg Prod.fst hupdate
  have hanswer : ((q.advance 4).prog 4).answer = some (updateReply "suspended" 7 (.ok ())) := by
    rw [advance_prog_self hhandle]
    exact congrArg (fun r => some (updateReply "suspended" 7 r)) hok
  have hbefore : (q.prog 4).answer = none := by rw [hhandle]; rfl
  have hsucceeded : succeeded suspendingRequests
      (log (handlers ℕ) (start listApp suspendingRequests visitTime) (events ++ [.thread 4])) =
      [.suspend 7] := by
    rw [log_append, log_cons, log_nil, succeeded_snoc, hquiet, ← hq]
    simp only [succeededAt, entry, hbefore, hanswer]
    rfl
  have hrun : run (handlers ℕ) (start listApp suspendingRequests visitTime)
      (events ++ [.thread 4]) = q.advance 4 := run_append _ _ _ _
  have hshown := run_shown listApp suspendingRequests visitTime (events ++ [.thread 4])
  have hclock := (run_accounted listApp suspendingRequests visitTime (events ++ [.thread 4])).inv.1
  have hindex : (refTo listApp (.entries .revocation, 7)).idx.toNat = 7 := rfl
  -- the credential names the revocation list, in which nothing was marked
  have hreads : ∀ value, Serves listApp listDecompressors
      (run (handlers ℕ) (start listApp suspendingRequests visitTime) (events ++ [.thread 4])).shared
      (refTo listApp (.entries .revocation, 7)).uri 7 value ↔ value = .valid := by
    intro value
    have hserves := @serves_iff listCrates listApp listDecompressors _ _ 7 base64Url_list serdeJson_list
      zlib_list signs_list lists_list hshown.shows hclock (by decide) value
    rw [hsucceeded] at hserves
    exact hserves
  refine ⟨events ++ [.thread 4], c, refTo listApp (.entries .revocation, 7), ?_, href, ?_, ?_, ?_⟩
  · have hsame : (q.advance 4).prog 3 = q.prog 3 := advance_prog_of_ne q (by decide)
    rw [hrun]
    simp only [issuedTo, hsame] at hc ⊢
    exact hc
  · rw [hindex, hsucceeded]
    rfl
  · rw [hindex, hreads]
  · intro htakes
    rw [TakesEffect, hindex, hsucceeded, hreads] at htakes
    revert htakes
    decide

/-- A credential of which nothing was suspended or revoked reads as it should. -/
theorem issued_takesEffect : ∃ (events : List (Event ℕ DateTime)) (c : Json) (ref : StatusListRef),
    c ∈ issuedTo suspendingRequests
      (run (handlers ℕ) (start listApp suspendingRequests visitTime) events) 3 ∧
    sdJwtStatus listCrates c = some ref ∧
    TakesEffect listApp listDecompressors suspendingRequests visitTime events ref := by
  obtain ⟨events, c, hc, href, -, hquiet⟩ := issued_list
  refine ⟨events, c, _, hc, href, ?_⟩
  refine (takesEffect_iff listCrates listDecompressors base64Url_list serdeJson_list zlib_list listApp
    signs_list lists_list suspendingRequests visitTime events 3 c hc _ href).mpr (Or.inr ?_)
  rw [hquiet]
  decide

end Sample

end Oid4vc.Suspension
