import Oid4vc.Base.Earning
import Oid4vc.Issuer.StatusRef
import Oid4vc.Server.Honest
import Oid4vc.Status.Taken

/-!
Revocation handles, while requests are handled call by call in any order.

An allocation takes an index that was free; a credential is signed with the handle that was
allocated for it, and for no other. So no two credentials ever share one.
-/

namespace Oid4vc.Handles

open Oid4vc.JsonValue Oid4vc.Text Oid4vc.Fallible Oid4vc.Run Oid4vc.Atomic Oid4vc.Spending
open Oid4vc.Instant Oid4vc.External Oid4vc.Codecs Oid4vc.Jwks Oid4vc.Mdoc Oid4vc.StatusTypes
open Oid4vc.Oid4vci Oid4vc.IssuerStore Oid4vc.Credential Oid4vc.Processing Oid4vc.Manager
open Oid4vc.Lists Oid4vc.Birth Oid4vc.Taken Oid4vc.StatusRef Oid4vc.Server Oid4vc.IssuerRoutes
open Oid4vc.Requests Oid4vc.Effects

variable {X : Crates} (app : AppState X) {θ α β : Type}

/-! ### Requests that are handled at the same time -/

/-- What a clock can show. -/
abbrev DateTime := { n : ℤ // Representable n }

def setClock (n : DateTime) (b : Stores) : Stores :=
  { b with issuer := { b.issuer with clock := n.val } }

/-- The handlers on the stores of one server; the outside sets the clock. -/
abbrev handlers (θ : Type) [DecidableEq θ] : Machine (Pool θ Stores Reply) (Event θ DateTime) Unit :=
  machine θ Stores Reply setClock

/-- Each thread about to handle its request. -/
def start (requests : θ → Request) (clock : DateTime) : Pool θ Stores Reply where
  shared := freshStores app clock.val
  prog t := handle app (requests t)

def credentialsIn (reply : Reply) : List Json :=
  match bodyOf reply with
  | some (.credential response) => credentialsOf response
  | _ => []

/-- The credentials that a credential request has been answered with. -/
def issuedTo (requests : θ → Request) (p : Pool θ Stores Reply) (t : θ) : List Json :=
  match requests t, (p.prog t).answer with
  | .credential _ _ _, some reply => credentialsIn reply
  | _, _ => []

/-- Where a list is published. -/
def listUri : ListName → String
  | .entries _ => app.urlFor "/status/revocation/token"
  | .mdoc => app.urlFor mdocStatusPath

/-- An index of a list, as a credential refers to it. -/
def refTo (r : ListName × ℕ) : StatusListRef := ⟨BitVec.ofNat 64 r.2, listUri app r.1⟩

/-- An index of a list that credentials are in. -/
def Genuine (r : ListName × ℕ) : Prop :=
  (r.1 = .entries .revocation ∨ r.1 = .mdoc) ∧ r.2 < listCapacity

/-- **The handles of all credentials differ**, and are indices within the capacity of their list. -/
structure HandlesDiffer (requests : θ → Request) (p : Pool θ Stores Reply) : Prop where
  genuine : ∀ t, ∀ c ∈ issuedTo requests p t, ∃ r, Genuine r ∧ handleOf X c = some (refTo app r)
  nodup : ∀ t, ((issuedTo requests p t).map (handleOf X)).Nodup
  single : ∀ t u, ∀ c ∈ issuedTo requests p t, ∀ c' ∈ issuedTo requests p u,
    handleOf X c = handleOf X c' → t = u

/-! ### Allocations -/

/-- The next call of the program is this allocation. -/
inductive Asks : Prog Stores Reply → StatusOp → Prop
  | entry (draws : List ℕ) (k : Option (Except String (Option Json)) → Prog Stores Reply) :
    Asks (.call (Credential.Calls.allocate (allocateStatus app) draws) k)
      (.allocateEntry .revocation draws)
  | mdoc (draws : List ℕ) (k : Option (Except String (Option StatusListRef)) → Prog Stores Reply) :
    Asks (.call (Credential.Calls.allocate (allocateMdocStatus app) draws) k)
      (.allocateMdocIndex draws)

abbrev PoolStep (θ : Type) := Entry (Pool θ Stores Reply) (Event θ DateTime) Unit

/-- The step is this allocation. -/
def Performs (e : PoolStep θ) (op : StatusOp) : Prop :=
  ∃ t, e.input = .thread t ∧ Asks app (e.before.prog t) op

def managerAnswer (X : Crates) (e : PoolStep θ) (op : StatusOp) : StatusAnswer :=
  ((statusMachine X).step e.before.shared.status op).2

/-- The step allocated this index. -/
def AllocatedAt (e : PoolStep θ) (t : ListName) (i : ℕ) : Prop :=
  ∃ op, Performs app e op ∧ Allocated op (managerAnswer X e op) t i

/-- **An allocation fails for want of an index** exactly when all of its list were allocated
before. -/
def ExhaustedOnly (l : List (PoolStep θ)) : Prop :=
  ∀ history e later op, l = history ++ e :: later → Performs app e op →
    (managerAnswer X e op = .refused (.err .noAvailableIndex) ↔
      ∀ i < listCapacity, ∃ e' ∈ history, AllocatedAt app e' (listOf op) i)

variable {app}

/-! ### The calls of the handlers -/

/-- What is not an allocation changes neither the clock nor what is taken. -/
structure Still (b b' : Stores) : Prop where
  clock : b'.issuer.clock = b.issuer.clock
  capacity : WithinCapacity b.status → WithinCapacity b'.status
  taken : ∀ t, takenIn b'.status t = takenIn b.status t

lemma Still.refl (b : Stores) : Still b b := ⟨rfl, id, fun _ => rfl⟩

/-- The calls of the handlers: allocations, and others. -/
inductive Served (app : AppState X) : Spending.Calls Stores
  | still {β : Type} {op : Stores → β × Stores} (h : ∀ b, Still b (op b).2) : Served app β op
  | entry (draws : List ℕ) :
    Served app _ (Credential.Calls.allocate (allocateStatus app) draws)
  | mdoc (draws : List ℕ) :
    Served app _ (Credential.Calls.allocate (allocateMdocStatus app) draws)

lemma still_onIssuer {op : IssuerWorld → β × IssuerWorld} (h : ∀ w, (op w).2.clock = w.clock) :
    Served app β (onIssuer op) :=
  .still fun b => ⟨h b.issuer, id, fun _ => rfl⟩

lemma still_readClock : Served app ℤ Credential.Calls.readClock := .still Still.refl

lemma still_getAccessGrant (token : String) :
    Served app (Option AccessGrant) (Credential.Calls.getAccessGrant token) :=
  .still fun _ => ⟨rfl, id, fun _ => rfl⟩

lemma still_consumeCNonce (nonce : String) :
    Served app Bool (Credential.Calls.consumeCNonce nonce) :=
  .still fun _ => ⟨rfl, id, fun _ => rfl⟩

lemma checking_served : CheckingCalls (Served app) X where
  readClock := still_readClock
  attestation _ _ _ _ _ := still_onIssuer fun _ => rfl
  proof _ _ _ := still_onIssuer fun _ => rfl
  grant := still_getAccessGrant

lemma issuing_served : IssuingCalls (Served app) (issuanceContext app) where
  readClock := still_readClock
  allocate := .entry
  allocateMdoc signer hsigner draws := by
    obtain rfl := Option.some.inj hsigner
    exact .mdoc draws

lemma served_update {p : StatusPurpose} {index : ℕ} {value : Bool} :
    Served app (Except (Fault ManagerError) Unit)
      (onStatus fun m => m.updateStatus p.toString index value) := by
  refine .still fun b => ⟨rfl, fun h => ⟨?_, fun t i hi => ?_⟩, takenIn_updateStatus p index value⟩
  · obtain ⟨marks, hshows⟩ := h.shows
    exact ⟨_, hshows.update p index value⟩
  · have hsame := takenIn_updateStatus (m := b.status) p index value t
    exact h.lt t i (hsame ▸ hi)

lemma served_revokeMdoc {index : ℕ} :
    Served app (Except (Fault ManagerError) Unit) (onStatus fun m => m.revokeMdoc index) := by
  refine .still fun b => ⟨rfl, fun h => ⟨?_, fun t i hi => ?_⟩, takenIn_revokeMdoc index⟩
  · obtain ⟨marks, hshows⟩ := h.shows
    exact ⟨_, hshows.revokeMdoc index⟩
  · have hsame := takenIn_revokeMdoc (m := b.status) index t
    exact h.lt t i (hsame ▸ hi)

/-! ### The handlers -/

lemma served_handlers : HandlerCalls (Served app) app where
  checking := checking_served
  issuing := issuing_served
  nonce := still_consumeCNonce
  list _ := .still Still.refl
  issuer _ := still_onIssuer

/-- **Whatever is asked**, the calls are such. -/
theorem served_handle (r : Request) : Within (Served app) (handle app r) := by
  refine within_handle_of served_handlers fun update hupdate => ?_
  cases r with
  | revoke headers request =>
    obtain rfl := Option.some.inj hupdate
    split_ifs
    · exact served_revokeMdoc
    · exact @served_update X app .revocation request.index true
  | suspend headers request =>
    obtain rfl := Option.some.inj hupdate
    exact @served_update X app .suspension request.index true
  | reinstate headers request =>
    obtain rfl := Option.some.inj hupdate
    exact @served_update X app .suspension request.index false
  | _ => cases hupdate

/-! ### What is taken -/

/-- The indices that are taken are spent, within the capacity, while the clock shows something. -/
def ledger : Ledger Stores (ListName × ℕ) where
  inv b := Representable b.issuer.clock ∧ WithinCapacity b.status
  spent b r := r.2 ∈ takenIn b.status r.1

lemma allocate_entry (app : AppState X) (draws : List ℕ) (b : Stores) :
    (Credential.Calls.allocate (allocateStatus app) draws b).2 = { b with
      status := ((statusMachine X).step b.status (.allocateEntry .revocation draws)).1 } := by
  unfold Credential.Calls.allocate allocateStatus
  simp only [statusMachine]
  rcases b.status.allocateEntry X .revocation draws with _ | ⟨e | entry, m⟩ <;> rfl

lemma allocate_mdoc (app : AppState X) (draws : List ℕ) (b : Stores) :
    (Credential.Calls.allocate (allocateMdocStatus app) draws b).2 = { b with
      status := ((statusMachine X).step b.status (.allocateMdocIndex draws)).1 } := by
  unfold Credential.Calls.allocate allocateMdocStatus
  simp only [statusMachine]
  rcases b.status.allocateMdocIndex draws with _ | ⟨e | index, m⟩ <;> rfl

lemma keeps_step (X : Crates) {op : Stores → β × Stores} (sop : StatusOp)
    (h : ∀ b, (op b).2 = { b with status := ((statusMachine X).step b.status sop).1 }) :
    ledger.Keeps β op := by
  rintro b ⟨hclock, hcapacity⟩
  rw [h b]
  refine ⟨⟨hclock, hcapacity.step X sop⟩, fun r hr => ?_⟩
  exact (mem_takenIn_step X b.status sop r.1 r.2).mpr (Or.inl hr)

/-- **Nothing is given back.** -/
lemma Served.keeps {op : Stores → β × Stores} (h : Served app β op) : ledger.Keeps β op := by
  cases h with
  | still h =>
    rintro b ⟨hclock, hcapacity⟩
    have hstill := h b
    refine ⟨⟨?_, hstill.capacity hcapacity⟩, fun r hr => ?_⟩
    · rw [hstill.clock]
      exact hclock
    · have htaken : r.2 ∈ takenIn (op b).2.status r.1 := by
        rw [hstill.taken]
        exact hr
      exact htaken
  | entry draws => exact keeps_step X _ (allocate_entry app draws)
  | mdoc draws => exact keeps_step X _ (allocate_mdoc app draws)

section Threads

variable [DecidableEq θ] {p : Pool θ Stores Reply} {requests : θ → Request}

omit [DecidableEq θ] in
lemma Asks.allocates {prog : Prog Stores Reply} {sop : StatusOp} (h : Asks app prog sop) :
    (∃ purpose draws, sop = .allocateEntry purpose draws) ∨ ∃ draws, sop = .allocateMdocIndex draws := by
  cases h with
  | entry draws k => exact Or.inl ⟨_, draws, rfl⟩
  | mdoc draws k => exact Or.inr ⟨draws, rfl⟩

lemma Asks.advance {t : θ} {sop : StatusOp} (h : Asks app (p.prog t) sop) :
    (p.advance t).shared.status = ((statusMachine X).step p.shared.status sop).1 := by
  generalize hprog : p.prog t = prog at h
  cases h with
  | entry draws k => rw [advance_shared hprog, allocate_entry]
  | mdoc draws k => rw [advance_shared hprog, allocate_mdoc]

/-- What a step of a thread takes. -/
lemma taken_advance {t : θ} (hinv : ledger.inv p.shared) (h : Within (Served app) (p.prog t))
    (list : ListName) (i : ℕ) :
    i ∈ takenIn (p.advance t).shared.status list ↔ i ∈ takenIn p.shared.status list ∨
      AllocatedAt app ⟨p, .thread t, ()⟩ list i := by
  -- a step that asks for an allocation is that operation of the manager
  have hasks : ∀ sop, Asks app (p.prog t) sop → (i ∈ takenIn (p.advance t).shared.status list ↔
      i ∈ takenIn p.shared.status list ∨
        Allocated sop ((statusMachine X).step p.shared.status sop).2 list i) := by
    intro sop hsop
    rw [hsop.advance, allocated_iff_takes]
    exact mem_takenIn_step X p.shared.status sop list i
  constructor
  · intro hi
    cases hprog : p.prog t with
    | ret a =>
      rw [advance_of_ret hprog] at hi
      exact Or.inl hi
    | @call β op k =>
      rw [hprog] at h
      cases h with
      | call hop hk =>
        cases hop with
        | still hstill =>
          rw [advance_shared hprog, (hstill p.shared).taken list] at hi
          exact Or.inl hi
        | entry draws =>
          have hsop : Asks app (p.prog t) (.allocateEntry .revocation draws) := hprog ▸ .entry draws k
          exact ((hasks _ hsop).mp hi).imp_right fun ha => ⟨_, ⟨t, rfl, hsop⟩, ha⟩
        | mdoc draws =>
          have hsop : Asks app (p.prog t) (.allocateMdocIndex draws) := hprog ▸ .mdoc draws k
          exact ((hasks _ hsop).mp hi).imp_right fun ha => ⟨_, ⟨t, rfl, hsop⟩, ha⟩
  · rintro (hi | ⟨sop, ⟨u, hinput, hsop⟩, ha⟩)
    · rcases h.advance.2 with hsame | ⟨β, op, hop, hnext⟩
      · rw [hsame]
        exact hi
      · rw [hnext]
        exact (hop.keeps p.shared hinv).2 (list, i) hi
    · obtain rfl : t = u := Event.thread.inj hinput
      exact (hasks sop hsop).mpr (Or.inr ha)

/-- The pool as it is after these steps: what is taken has been allocated in them. -/
structure Accounted (app : AppState X) (history : List (PoolStep θ)) (p : Pool θ Stores Reply) :
    Prop where
  inv : ledger.inv p.shared
  within : ∀ t, Within (Served app) (p.prog t)
  taken : ∀ list i, i ∈ takenIn p.shared.status list ↔ ∃ e ∈ history, AllocatedAt app e list i

omit [DecidableEq θ] in
lemma accounted_start (clock : DateTime) : Accounted app [] (start app requests clock) where
  inv := ⟨clock.property, withinCapacity_new app.externalUrl⟩
  within t := served_handle (requests t)
  taken list i := by
    have hnone : takenIn (start app requests clock).shared.status list = ∅ :=
      takenIn_new app.externalUrl list
    simp [hnone]

/-- **A step** adds what it allocates. -/
lemma Accounted.step {history : List (PoolStep θ)} (h : Accounted app history p)
    (e : Event θ DateTime) :
    Accounted app (history ++ [entry (handlers θ) p e]) ((handlers θ).step p e).1 := by
  have hsnoc : ∀ {list i} {q : Prop}, (q ↔ AllocatedAt app (entry (handlers θ) p e) list i) →
      (i ∈ takenIn p.shared.status list ∨ q ↔
        ∃ e' ∈ history ++ [entry (handlers θ) p e], AllocatedAt app e' list i) := by
    intro list i q hq
    rw [h.taken, hq]
    simp only [List.mem_append, List.mem_singleton, or_and_right, exists_or, exists_eq_left]
  cases e with
  | thread t =>
    refine ⟨?_, fun u => ?_, fun list i => ?_⟩
    · rcases (h.within t).advance.2 with hsame | ⟨β, op, hop, hnext⟩
      · rw [step_thread, hsame]
        exact h.inv
      · rw [step_thread, hnext]
        exact (hop.keeps p.shared h.inv).1
    · by_cases hut : u = t
      · rw [hut]
        exact (h.within t).advance.1
      · rw [step_thread, advance_prog_of_ne p hut]
        exact h.within u
    · rw [step_thread, taken_advance h.inv (h.within t)]
      exact hsnoc Iff.rfl
  | outside n =>
    refine ⟨⟨n.property, h.inv.2⟩, h.within, fun list i => ?_⟩
    -- what happens outside allocates nothing
    have hno : False ↔ AllocatedAt app (entry (handlers θ) p (.outside n)) list i := by
      refine ⟨False.elim, ?_⟩
      rintro ⟨op, ⟨t, hinput, -⟩, -⟩
      cases hinput
    have hsame := hsnoc hno
    rw [or_false] at hsame
    exact hsame

/-- **Every run.** -/
theorem run_accounted (app : AppState X) (requests : θ → Request) (clock : DateTime)
    (events : List (Event θ DateTime)) :
    Accounted app (log (handlers θ) (start app requests clock) events)
      (run (handlers θ) (start app requests clock) events) := by
  induction events using List.reverseRecOn with
  | nil => exact accounted_start clock
  | append_singleton events e ih =>
    rw [log_append, run_append]
    exact ih.step e

/-- **Exhaustion**, whatever the interleaving. -/
theorem run_exhaustedOnly (app : AppState X) (requests : θ → Request) (clock : DateTime)
    (events : List (Event θ DateTime)) :
    ExhaustedOnly app (log (handlers θ) (start app requests clock) events) := by
  intro history e later op hlog hperforms
  obtain ⟨before, i, after, -, rfl, rfl⟩ := exists_split_of_log hlog
  have haccounted := run_accounted app requests clock before
  obtain ⟨t, hinput, hasks⟩ := hperforms
  have hrefused := refused_iff X haccounted.inv.2 hasks.allocates
  simp only [haccounted.taken] at hrefused
  exact hrefused

end Threads

/-! ### What a credential request gains -/

/-- The credentials carry these handles, in order. -/
def Carries (app : AppState X) (credentials : List Json) (held : List (ListName × ℕ)) : Prop :=
  credentials.map (handleOf X) = held.map (some ∘ refTo app) ∧ ∀ r ∈ held, Genuine r

/-- A list with one credential more is worth one handle more. -/
def WorthOne (app : AppState X) (held : List (ListName × ℕ)) (a : Except Halt Json)
    (held' : List (ListName × ℕ)) : Prop :=
  ∀ c, a = .ok c → ∃ r, Genuine r ∧ held' = held ++ [r] ∧ handleOf X c = some (refTo app r)

/-- The index of a handle. -/
def resourceOf (t : ListName) (ref : StatusListRef) : ListName × ℕ := (t, ref.idx.toNat)

lemma resourceOf_refTo {t : ListName} {i : ℕ} (hi : i < listCapacity) :
    resourceOf t (refTo app (t, i)) = (t, i) := by
  have hsmall : i < 2 ^ 64 := by
    unfold listCapacity at hi
    omega
  rw [resourceOf, refTo, BitVec.toNat_ofNat, Nat.mod_eq_of_lt hsmall]

lemma refOf_statusClaim (uri : String) {i : ℕ} (hi : i < listCapacity) :
    refOf (statusClaim uri i.repr) = some ⟨BitVec.ofNat 64 i, uri⟩ := by
  have hsmall : i < 2 ^ 64 := by
    unfold listCapacity at hi
    omega
  simp [refOf, statusClaim, Json.get, stringMember, Json.asStr, parseU64_repr hsmall]

lemma proper_statusClaim (uri index : String) : (statusClaim uri index).Proper := by
  have hsorted : "idx" < "uri" := by decide
  rw [statusClaim, Json.Proper, Json.properMembers_iff]
  refine ⟨fun m hm => ?_, List.pairwise_singleton _ _⟩
  rw [List.mem_singleton.mp hm, Json.Proper, Json.properMembers_iff]
  refine ⟨fun m hm => ?_, List.pairwise_pair.mpr hsorted⟩
  rcases List.mem_pair.mp hm with rfl | rfl <;> simp [Json.Proper]

/-- How the allocator for SD-JWT VCs answers. -/
lemma allocate_entry_cases (app : AppState X) (draws : List ℕ) (b : Stores) :
    (Credential.Calls.allocate (allocateStatus app) draws b).1 = none ∨
      (∃ e, (Credential.Calls.allocate (allocateStatus app) draws b).1 = some (.error e)) ∨
      ∃ i, Takes b.status (.allocateEntry .revocation draws) (.entries .revocation) i ∧
        (Credential.Calls.allocate (allocateStatus app) draws b).1 =
          some (.ok (some (statusClaim (listUri app (.entries .revocation)) i.repr))) := by
  unfold Credential.Calls.allocate allocateStatus
  cases ha : b.status.allocateEntry X .revocation draws with
  | none => exact Or.inl rfl
  | some r =>
    obtain ⟨r, m⟩ := r
    rcases allocateEntry_cases ha with ⟨e, rfl, rfl⟩ |
      ⟨l, index, allocated, entry, hget, hd, rfl, hindex, rfl⟩
    · exact Or.inr (Or.inl ⟨_, rfl⟩)
    · refine Or.inr (Or.inr ⟨index, ⟨rfl, l, allocated, hget, hd⟩, ?_⟩)
      simp only [Option.map_some, hindex]
      rfl

lemma allocate_mdoc_cases (app : AppState X) (draws : List ℕ) (b : Stores) :
    (Credential.Calls.allocate (allocateMdocStatus app) draws b).1 = none ∨
      (∃ e, (Credential.Calls.allocate (allocateMdocStatus app) draws b).1 = some (.error e)) ∨
      ∃ i, Takes b.status (.allocateMdocIndex draws) .mdoc i ∧
        (Credential.Calls.allocate (allocateMdocStatus app) draws b).1 =
          some (.ok (some (refTo app (.mdoc, i)))) := by
  unfold Credential.Calls.allocate allocateMdocStatus
  cases ha : b.status.allocateMdocIndex draws with
  | none => exact Or.inl rfl
  | some r =>
    obtain ⟨r, m⟩ := r
    rcases allocateMdocIndex_cases ha with ⟨e, rfl, rfl⟩ | ⟨index, allocated, hd, rfl, rfl⟩
    · exact Or.inr (Or.inl ⟨_, rfl⟩)
    · refine Or.inr (Or.inr ⟨index, ⟨rfl, allocated, hd⟩, ?_⟩)
      simp only [Option.map_some]
      rfl

section Issuing

variable {configId : String} {config : CredentialConfiguration} {holderJwk : Jwk}
  {held : List (ListName × ℕ)}

lemma gains_of_takes {ρ : Type} {alloc : StatusAllocator StatusManager ρ} {draws : List ℕ}
    {sop : StatusOp} (t : ListName) {gain : Option (Except String (Option ρ)) → Option (ListName × ℕ)}
    (hstep : ∀ b, (Credential.Calls.allocate alloc draws b).2 =
      { b with status := ((statusMachine X).step b.status sop).1 })
    (hgain : ∀ b r, WithinCapacity b.status →
      gain (Credential.Calls.allocate alloc draws b).1 = some r → ∃ i, r = (t, i) ∧
        Takes b.status sop t i) :
    ledger.Gains (Credential.Calls.allocate alloc draws) gain := by
  rintro b ⟨-, hcapacity⟩ r hr
  obtain ⟨i, rfl, htakes⟩ := hgain b r hcapacity hr
  refine ⟨notMem_of_takes htakes, ?_⟩
  have htaken : i ∈ takenIn (Credential.Calls.allocate alloc draws b).2.status t := by
    rw [hstep b]
    exact (mem_takenIn_step X b.status sop t i).mpr (Or.inr htakes)
  exact htaken

def answered {α : Type} : Option (Except String (Option α)) → Option α
  | some (.ok (some status)) => some status
  | _ => none

/-- **An SD-JWT VC** is worth the index that was allocated for it. -/
lemma earns_issueSdJwtCredential (hb64 : Base64Url X) (hserde : SerdeJson X) (draws : CredentialDraws) :
    ledger.Earns (Served app) (WorthOne app held) held
      (issueSdJwtCredential X config (issuanceContext app) holderJwk draws) := by
  have herror : ∀ h held', WorthOne app held (.error h) held' := fun h held' c hc => by cases hc
  unfold issueSdJwtCredential
  cases config.vct with
  | none => exact .ret (herror _ _)
  | some vct =>
    -- what is gained is the index in the `status` claim that the allocator answers with
    let gain : Option (Except String (Option Json)) → Option (ListName × ℕ) := fun answer =>
      (answered answer).bind fun status => (refOf status).map (resourceOf (.entries .revocation))
    have hread : ∀ i, i < listCapacity →
        gain (some (.ok (some (statusClaim (listUri app (.entries .revocation)) i.repr)))) =
          some (.entries .revocation, i) := by
      intro i hi
      have hself := @resourceOf_refTo X app (.entries .revocation) i hi
      simp only [gain, answered, Option.bind_some, refOf_statusClaim _ hi, Option.map_some]
      exact congrArg some hself
    have hcontext : (issuanceContext app).allocateStatus = allocateStatus app := rfl
    simp only [hcontext]
    refine .call gain (.entry draws.index) ?_ fun b hb => ?_
    · refine gains_of_takes (.entries .revocation) (allocate_entry app draws.index) fun b r hcapacity hr => ?_
      rcases allocate_entry_cases app draws.index b with
        hanswer | ⟨e, hanswer⟩ | ⟨i, htakes, hanswer⟩
      · rw [hanswer] at hr
        cases hr
      · rw [hanswer] at hr
        cases hr
      · rw [hanswer, hread i (lt_of_takes htakes hcapacity), Option.some.injEq] at hr
        exact ⟨i, hr.symm, htakes⟩
    · rcases allocate_entry_cases app draws.index b with
        hanswer | ⟨e, hanswer⟩ | ⟨i, htakes, hanswer⟩
      · rw [hanswer]
        exact .ret (herror _ _)
      · rw [hanswer]
        exact .ret (herror _ _)
      · have hi := lt_of_takes htakes hb.2
        rw [hanswer, hread i hi]
        refine earns_call still_readClock fun b' hb' => .ret fun c hc => ?_
        refine ⟨(.entries .revocation, i), ⟨Or.inl rfl, hi⟩, rfl, ?_⟩
        exact handleOf_of_sdJwt hb64 hserde hc (proper_statusClaim _ _) hb'.1 (refOf_statusClaim _ hi)

/-- **An mdoc** is worth the index that was allocated for it. -/
lemma earns_issueMdocCredential (hb64 : Base64Url X) (hcbor : CborCodec X) (hcose : CoseCodec X)
    (draws : CredentialDraws) : ledger.Earns (Served app) (WorthOne app held) held
      (issueMdocCredential X config (issuanceContext app) holderJwk draws) := by
  have herror : ∀ h held', WorthOne app held (.error h) held' := fun h held' c hc => by cases hc
  unfold issueMdocCredential
  cases hsigner : mdlSigner X config (issuanceContext app) with
  | error e => exact .ret (herror _ _)
  | ok signer =>
    obtain ⟨signer, docType, country⟩ := signer
    have hmdoc := Option.some.inj (mdlSigner_ok hsigner)
    have hallocate : signer.allocateStatus = allocateMdocStatus app := by rw [← hmdoc]
    simp only [hallocate]
    refine earns_call still_readClock fun b hb => ?_
    cases mdlRequest X signer.certificate docType country holderJwk
        (Credential.Calls.readClock b).1 with
    | error e => exact .ret (herror _ _)
    | ok request =>
      -- what is gained is the index in the reference that the allocator answers with
      let gain : Option (Except String (Option StatusListRef)) → Option (ListName × ℕ) := fun answer =>
        (answered answer).map (resourceOf .mdoc)
      have hread : ∀ i, i < listCapacity → gain (some (.ok (some (refTo app (.mdoc, i))))) =
          some (.mdoc, i) := fun i hi => congrArg some (@resourceOf_refTo X app .mdoc i hi)
      refine .call gain (.mdoc draws.index) ?_ fun b hb => ?_
      · refine gains_of_takes .mdoc (allocate_mdoc app draws.index) fun b r hcapacity hr => ?_
        rcases allocate_mdoc_cases app draws.index b with
          hanswer | ⟨e, hanswer⟩ | ⟨i, htakes, hanswer⟩
        · rw [hanswer] at hr
          cases hr
        · rw [hanswer] at hr
          cases hr
        · rw [hanswer, hread i (lt_of_takes htakes hcapacity), Option.some.injEq] at hr
          exact ⟨i, hr.symm, htakes⟩
      · rcases allocate_mdoc_cases app draws.index b with
          hanswer | ⟨e, hanswer⟩ | ⟨i, htakes, hanswer⟩
        · rw [hanswer]
          exact .ret (herror _ _)
        · rw [hanswer]
          exact .ret (herror _ _)
        · -- the reference is put in the MSO, and read back from the mdoc
          have hi := lt_of_takes htakes hb.2
          rw [hanswer, hread i hi]
          refine .ret fun c hc => ⟨(.mdoc, i), ⟨Or.inr rfl, hi⟩, rfl, ?_⟩
          exact handleOf_of_mdoc hb64 hcbor hcose hc

/-- **A credential** of either format is worth its handle. -/
theorem earns_issueCredential (hb64 : Base64Url X) (hserde : SerdeJson X) (hcbor : CborCodec X)
    (hcose : CoseCodec X) (draws : CredentialDraws) :
    ledger.Earns (Served app) (WorthOne app held) held
      (issueCredential X configId config (issuanceContext app) holderJwk draws) := by
  unfold issueCredential
  split_ifs
  · exact earns_issueSdJwtCredential hb64 hserde draws
  · exact earns_issueMdocCredential hb64 hcbor hcose draws
  · exact .ret fun c hc => by cases hc

/-- What a credential is worth, and what all those of an answer are: each adds its own worth. -/
structure Additive (app : AppState X)
    (one : List (ListName × ℕ) → Except Halt Json → List (ListName × ℕ) → Prop)
    (all : List Json → List (ListName × ℕ) → Prop) : Prop where
  credential : ∀ configId config holderJwk draws held, ledger.Earns (Served app) (one held) held
    (issueCredential X configId config (issuanceContext app) holderJwk draws)
  nil : all [] []
  snoc : ∀ issued held c held', all issued held → one held (.ok c) held' → all (issued ++ [c]) held'

/-- The credentials of an answer are worth this. -/
def Answers (all : List Json → List (ListName × ℕ) → Prop) (a : Credential.Answer)
    (held : List (ListName × ℕ)) : Prop :=
  ∀ response, a = .ok response → all (credentialsOf response) held

section Additive

variable {one : List (ListName × ℕ) → Except Halt Json → List (ListName × ℕ) → Prop}
  {all : List Json → List (ListName × ℕ) → Prop}

lemma Additive.issueCredentials (h : Additive app one all) (draws : RequestDraws)
    (holderKeys : List Jwk) {issued : List Json} (hissued : all issued held) :
    ledger.Earns (Served app) (Answers all) held
      (issueCredentials X configId config (issuanceContext app) draws holderKeys issued) := by
  induction holderKeys generalizing issued held with
  | nil =>
    refine .ret fun response hresponse => ?_
    rw [← Except.ok.inj hresponse, credentialsOf_credentialResponse]
    exact hissued
  | cons holderJwk holderKeys ih =>
    refine (h.credential _ _ _ _ _).bind fun answer held' hworth => ?_
    cases answer with
    | error e => exact .ret fun response hresponse => by cases hresponse
    | ok credential => exact ih (h.snoc _ _ _ _ hissued hworth)

lemma Additive.consumeNonces (h : Additive app one all) (draws : RequestDraws)
    (holderKeys : List Jwk) (nonces : List String) : ledger.Earns (Served app) (Answers all) []
      (consumeNonces X configId config (issuanceContext app) draws holderKeys nonces) := by
  induction nonces with
  | nil => exact h.issueCredentials draws holderKeys h.nil
  | cons nonce nonces ih =>
    refine earns_call (still_consumeCNonce nonce) fun b _ => ?_
    split_ifs
    · exact ih
    · exact .ret fun response hresponse => by cases hresponse

lemma Additive.verifyProofs (h : Additive app one all) (draws : RequestDraws) (jwts : List String)
    (verified : List (Jwk × String)) : ledger.Earns (Served app) (Answers all) []
      (verifyProofs X configId config (issuanceContext app) draws jwts verified) := by
  induction jwts generalizing verified with
  | nil => exact h.consumeNonces draws _ _
  | cons jwt jwts ih =>
    refine earns_call still_readClock fun b _ => ?_
    split
    · exact .ret fun response hresponse => by cases hresponse
    · exact ih _

/-- **A credential request** answers with credentials that are worth what it gains. -/
theorem Additive.processCredentialRequest (h : Additive app one all) (request : CredentialRequest)
    (token : String) (draws : RequestDraws) : ledger.Earns (Served app) (Answers all) []
      (processCredentialRequest X request token (issuanceContext app) draws) := by
  refine earns_call (still_getAccessGrant token) fun b _ => ?_
  cases (Credential.Calls.getAccessGrant token b).1 with
  | none => exact .ret fun response hresponse => by cases hresponse
  | some grant =>
    simp only
    cases checkRequest request (issuanceContext app).metadata grant with
    | error e => exact .ret fun response hresponse => by cases hresponse
    | ok checked =>
      obtain ⟨configId, config, jwts⟩ := checked
      exact h.verifyProofs draws jwts []

end Additive

lemma additive_carries (hb64 : Base64Url X) (hserde : SerdeJson X) (hcbor : CborCodec X)
    (hcose : CoseCodec X) : Additive app (WorthOne app) (Carries app) where
  credential _ _ _ draws _ := earns_issueCredential hb64 hserde hcbor hcose draws
  nil := ⟨rfl, fun r hr => absurd hr List.not_mem_nil⟩
  snoc issued held c held' h hworth := by
    obtain ⟨r, hr, rfl, hhandle⟩ := hworth c rfl
    refine ⟨?_, fun r' hr' => ?_⟩
    · rw [List.map_append, List.map_append, h.1]
      simp only [List.map_cons, List.map_nil, hhandle, Function.comp_apply]
    · rcases List.mem_append.mp hr' with hold | hnew
      · exact h.2 r' hold
      · rw [List.mem_singleton.mp hnew]
        exact hr

end Issuing

/-! ### Whole runs -/

/-- What the reply to a credential request is worth; other replies are worth anything. -/
def WorthReply (app : AppState X) (request : Request) (reply : Reply)
    (held : List (ListName × ℕ)) : Prop :=
  ∀ headers r draws, request = .credential headers r draws → credentialsIn reply = [] ∨
    Carries app (credentialsIn reply) held

/-- An error that comes before a credential request is no credential. -/
def ErrorOnly (r : Except Response String) (held : List (ListName × ℕ)) : Prop :=
  held = [] ∧ ∀ response, r = .error response → ∃ error description,
    response.body = .error error description

lemma earns_authorizeResource (app : AppState X) (headers : Headers) (path : String) :
    ledger.Earns (Served app) ErrorOnly [] (authorizeResource app headers path) := by
  have hunauthorized : ∀ scheme error description,
      ErrorOnly (.error (unauthorized scheme error description)) [] := by
    intro scheme error description
    refine ⟨rfl, fun response h => ?_⟩
    rw [← Except.error.inj h]
    exact ⟨_, _, rfl⟩
  unfold authorizeResource
  split
  · next response hpresented =>
    refine .ret ⟨rfl, fun response' h => ?_⟩
    rw [← Except.error.inj h]
    exact presentedToken_error hpresented
  · refine earns_call (still_getAccessGrant _) fun b _ => ?_
    cases (Credential.Calls.getAccessGrant _ b).1 with
    | none => exact .ret (hunauthorized _ _ _)
    | some grant =>
      simp only [checkPossession]
      split
      · refine (within_dpopJkt checking_served headers path _).bind_earns fun r => ?_
        exact .ret ⟨rfl, fun response h => checkBoundKey_error h⟩
      · exact .ret (hunauthorized _ _ _)
      · exact .ret (hunauthorized _ _ _)
      · exact .ret ⟨rfl, fun response h => by cases h⟩

lemma credentialsIn_credentialAnswer (answer : Credential.Answer) :
    credentialsIn (credentialAnswer answer) = [] ∨ ∃ response, answer = .ok response ∧
      credentialsIn (credentialAnswer answer) = credentialsOf response := by
  rcases answer with (e | - | -) | response
  · exact Or.inl rfl
  · exact Or.inl rfl
  · exact Or.inl rfl
  · exact Or.inr ⟨response, rfl, rfl⟩

/-- What the reply to a credential request is worth, where its credentials are worth this. -/
def Replies (all : List Json → List (ListName × ℕ) → Prop) (request : Request) (reply : Reply)
    (held : List (ListName × ℕ)) : Prop :=
  ∀ headers r draws, request = .credential headers r draws → credentialsIn reply = [] ∨
    all (credentialsIn reply) held

section Additive

variable {one : List (ListName × ℕ) → Except Halt Json → List (ListName × ℕ) → Prop}
  {all : List Json → List (ListName × ℕ) → Prop}

lemma Additive.credentialEndpoint (h : Additive app one all) (headers : Headers)
    (request : CredentialRequest) (draws : RequestDraws) :
    ledger.Earns (Served app) (fun reply held => credentialsIn reply = [] ∨
      all (credentialsIn reply) held) [] (credentialEndpoint app headers request draws) := by
  refine (earns_authorizeResource app headers _).bind fun r held hr => ?_
  obtain ⟨rfl, herror⟩ := hr
  cases r with
  | error response =>
    obtain ⟨error, description, hbody⟩ := herror response rfl
    refine .ret (Or.inl ?_)
    simp only [credentialsIn, bodyOf, hbody]
  | ok token =>
    refine (h.processCredentialRequest request token draws).bind fun answer held hworth => .ret ?_
    rcases credentialsIn_credentialAnswer answer with hnone | ⟨response, hok, hsame⟩
    · exact Or.inl hnone
    · rw [hsame]
      exact Or.inr (hworth response hok)

lemma Additive.handle (h : Additive app one all) (request : Request) :
    ledger.Earns (Served app) (Replies all request) [] (handle app request) := by
  by_cases hcredential : ∃ headers r draws, request = .credential headers r draws
  · obtain ⟨headers, r, draws, rfl⟩ := hcredential
    exact (h.credentialEndpoint headers r draws).mono (fun _ _ h => h)
      fun reply held h _ _ _ _ => h
  · exact earns_of_within (served_handle request) fun reply headers r draws h =>
      absurd ⟨headers, r, draws, h⟩ hcredential

end Additive

/-- Handles are told apart by their list and their index. -/
lemma refTo_inj (hlists : app.urlFor "/status/revocation/token" ≠ app.urlFor mdocStatusPath)
    {r r' : ListName × ℕ} (hr : Genuine r) (hr' : Genuine r') (h : refTo app r = refTo app r') :
    r = r' := by
  obtain ⟨list, i⟩ := r
  obtain ⟨list', i'⟩ := r'
  obtain ⟨hlist, hi⟩ := hr
  obtain ⟨hlist', hi'⟩ := hr'
  obtain ⟨hidx, huri⟩ := StatusListRef.mk.inj h
  have hsame : i = i' := by
    have := congrArg BitVec.toNat hidx
    simp only [BitVec.toNat_ofNat] at this
    simp only [listCapacity] at hi hi'
    omega
  rw [hsame]
  rcases hlist with rfl | rfl
  · rcases hlist' with rfl | rfl
    · rfl
    · exact absurd huri hlists
  · rcases hlist' with rfl | rfl
    · exact absurd huri.symm hlists
    · rfl

section Additive

variable {one : List (ListName × ℕ) → Except Halt Json → List (ListName × ℕ) → Prop}
  {all : List Json → List (ListName × ℕ) → Prop} {requests : θ → Request}

lemma Additive.start (h : Additive app one all) (requests : θ → Request) (clock : DateTime) :
    Earning ledger (fun t => Replies all (requests t)) (fun _ => []) (start app requests clock) where
  inv := by
    have haccounted : Accounted app [] (Handles.start app requests clock) := accounted_start clock
    exact haccounted.inv
  earns t := (h.handle (requests t)).mono (fun _ _ h => h.keeps) fun _ _ h => h
  nodup _ := List.nodup_nil
  spent _ _ h := absurd h List.not_mem_nil
  single _ _ _ h := absurd h List.not_mem_nil

/-- **In every run**, what a request has been answered with is worth what it holds. -/
theorem Additive.run [DecidableEq θ] (h : Additive app one all) (requests : θ → Request)
    (clock : DateTime) (events : List (Event θ DateTime)) :
    ∃ held, Earning ledger (fun t => Replies all (requests t)) held
      (run (handlers θ) (Handles.start app requests clock) events) := by
  refine (h.start requests clock).run (fun n b hb => ?_) events
  exact ⟨⟨n.property, hb.2⟩, fun r hr => hr⟩

lemma issuedTo_cases {held : θ → List (ListName × ℕ)} {p : Pool θ Stores Reply}
    (h : Earning ledger (fun t => Replies all (requests t)) held p) (t : θ) :
    issuedTo requests p t = [] ∨ all (issuedTo requests p t) (held t) := by
  unfold issuedTo
  split
  · next headers r draws reply hrequest hanswer =>
    exact h.worth_of_answer hanswer headers r draws hrequest
  · exact Or.inl rfl

end Additive

/-- **Handles that are held by one thread each differ.** -/
theorem handlesDiffer_of_earning
    (hlists : app.urlFor "/status/revocation/token" ≠ app.urlFor mdocStatusPath)
    {requests : θ → Request} {held : θ → List (ListName × ℕ)} {p : Pool θ Stores Reply}
    (h : Earning ledger (fun t => WorthReply app (requests t)) held p) :
    HandlesDiffer app requests p := by
  have hmem : ∀ t, ∀ c ∈ issuedTo requests p t, ∃ r ∈ held t, Genuine r ∧
      handleOf X c = some (refTo app r) := by
    intro t c hc
    rcases issuedTo_cases h t with hnone | ⟨hhandles, hgenuine⟩
    · rw [hnone] at hc
      exact absurd hc List.not_mem_nil
    · have hhandle : handleOf X c ∈ (held t).map (some ∘ refTo app) := by
        rw [← hhandles]
        exact List.mem_map_of_mem hc
      obtain ⟨r, hr, hsame⟩ := List.mem_map.mp hhandle
      exact ⟨r, hr, hgenuine r hr, hsame.symm⟩
  refine ⟨fun t c hc => ?_, fun t => ?_, fun t u c hc c' hc' hsame => ?_⟩
  · obtain ⟨r, -, hr⟩ := hmem t c hc
    exact ⟨r, hr⟩
  · rcases issuedTo_cases h t with hnone | ⟨hhandles, hgenuine⟩
    · rw [hnone]
      exact List.nodup_nil
    · rw [hhandles]
      refine (h.nodup t).map_on fun r hr r' hr' hrefs => ?_
      exact refTo_inj hlists (hgenuine r hr) (hgenuine r' hr') (Option.some.inj hrefs)
  · obtain ⟨r, hr, hgenuine, hhandle⟩ := hmem t c hc
    obtain ⟨r', hr', hgenuine', hhandle'⟩ := hmem u c' hc'
    rw [hhandle, hhandle', Option.some.injEq] at hsame
    rw [refTo_inj hlists hgenuine hgenuine' hsame] at hr
    exact h.single t u r' hr hr'

section Runs

variable [DecidableEq θ]

/-- **Revocation handles.** However the requests interleave, no two credentials that they are
answered with share a handle, within one answer or across answers, and every index is within the
capacity of its list; an allocation fails for want of an index exactly when the list is exhausted. -/
theorem handles_differ (X : Crates) (hb64 : Base64Url X) (hserde : SerdeJson X) (hcbor : CborCodec X)
    (hcose : CoseCodec X) (app : AppState X)
    (hlists : app.urlFor "/status/revocation/token" ≠ app.urlFor mdocStatusPath)
    (requests : θ → Request) (clock : DateTime) (events : List (Event θ DateTime)) :
    HandlesDiffer app requests (run (handlers θ) (start app requests clock) events) ∧
      ExhaustedOnly app (log (handlers θ) (start app requests clock) events) := by
  refine ⟨?_, run_exhaustedOnly app requests clock events⟩
  obtain ⟨held, hearning⟩ := (additive_carries hb64 hserde hcbor hcose).run requests clock events
  exact handlesDiffer_of_earning hlists hearning

/-- Requests that are handled one after the other are one way to interleave them. -/
lemma exists_events (app : AppState X) (requests : θ → Request) (clock : DateTime) (ts : List θ) :
    ts.Nodup → ∃ events : List (Event θ DateTime),
      (run (handlers θ) (start app requests clock) events).shared =
        run (server app) (freshStores app clock.val) (ts.map fun t => .request (requests t)) ∧
      (∀ t ∉ ts, (run (handlers θ) (start app requests clock) events).prog t =
        handle app (requests t)) ∧
      ∀ e ∈ events, ∃ t ∈ ts, e = .thread t := by
  induction ts using List.reverseRecOn with
  | nil => exact fun _ => ⟨[], rfl, fun _ _ => rfl, fun _ he => absurd he List.not_mem_nil⟩
  | append_singleton ts t ih =>
    intro hnodup
    obtain ⟨hts, -, hnew⟩ := List.nodup_append.mp hnodup
    have ht : t ∉ ts := fun ht => hnew t ht t List.mem_cons_self rfl
    obtain ⟨events, hshared, hprog, hevents⟩ := ih hts
    obtain ⟨n, hn⟩ := exec_alone setClock (run (handlers θ) (start app requests clock) events) t
    refine ⟨events ++ List.replicate n (.thread t), ?_, fun u hu => ?_, fun e he => ?_⟩
    · rw [run_append, hn, hprog t ht, hshared, List.map_append, run_append]
      rfl
    · rw [List.mem_append, List.mem_singleton, not_or] at hu
      rw [run_append, hn]
      exact (Function.update_of_ne hu.2 _ _).trans (hprog u hu.1)
    · rcases List.mem_append.mp he with hold | hnew
      · obtain ⟨u, hu, rfl⟩ := hevents e hold
        exact ⟨u, List.mem_append_left _ hu, rfl⟩
      · exact ⟨t, List.mem_append_right _ List.mem_cons_self, List.eq_of_mem_replicate hnew⟩

/-- The last of them is answered as the server answers it. -/
lemma exists_answer (app : AppState X) (requests : θ → Request) (clock : DateTime) {ts : List θ}
    {t : θ} (hts : ts.Nodup) (ht : t ∉ ts) : ∃ events : List (Event θ DateTime),
      ((run (handlers θ) (start app requests clock) events).prog t).answer =
        ((server app).step (run (server app) (freshStores app clock.val)
          (ts.map fun t => .request (requests t))) (.request (requests t))).2 ∧
      (∀ u ∉ ts ++ [t], (run (handlers θ) (start app requests clock) events).prog u =
        handle app (requests u)) ∧
      ∀ e ∈ events, ∃ u ∈ ts ++ [t], e = .thread u := by
  obtain ⟨events, hshared, hprog, hevents⟩ := exists_events app requests clock ts hts
  obtain ⟨n, hn⟩ := exec_alone setClock (run (handlers θ) (start app requests clock) events) t
  refine ⟨events ++ List.replicate n (.thread t), ?_, fun u hu => ?_, fun e he => ?_⟩
  · rw [run_append, hn, hprog t ht, hshared]
    simp only [Function.update_self, Prog.answer_ret, step_request]
  · rw [List.mem_append, List.mem_singleton, not_or] at hu
    rw [run_append, hn]
    exact (Function.update_of_ne hu.2 _ _).trans (hprog u hu.1)
  · rcases List.mem_append.mp he with hold | hnew
    · obtain ⟨u, hu, rfl⟩ := hevents e hold
      exact ⟨u, List.mem_append_left _ hu, rfl⟩
    · exact ⟨t, List.mem_append_right _ List.mem_cons_self, List.eq_of_mem_replicate hnew⟩

end Runs

section Sample

open Oid4vc.Tables Oid4vc.Wallet Oid4vc.Batch Oid4vc.Redemption Oid4vc.Honest

/-- What a wallet asks for, and others who ask for a credential with the same token. -/
def visitRequests : ℕ → Request
  | 0 => .credentialOffer (some "pid")
  | 1 => .token [] (redemption (visitCrates.uuid 1))
  | 2 => .nonce
  | _ => .credential (bearer (codeCrates.uuid 2)) (asking "pid" visitProof) visitDraws

lemma cborCodec_visit : CborCodec visitCrates := by
  have h := Table.cborCodec (t := visitTable)
  exact ⟨h.total, h.decode_encode⟩

lemma coseCodec_visit : CoseCodec visitCrates where
  roundTrip s horiginal hrest hplain halg := by
    obtain ⟨items, s', hto, hfrom, hsame⟩ :=
      (Table.coseCodec (t := visitTable)).roundTrip s horiginal hrest hplain halg
    exact ⟨items, s', hto, hfrom, hsame.header, hsame.unprotectedHeader, hsame.payload,
      hsame.signature, hsame.sigStructure⟩
  sigStructure_inj := (Table.coseCodec (t := visitTable)).sigStructure_inj

def pairApp : AppState visitCrates :=
  { visitApp with
    metadata := { visitApp.metadata with batchCredentialIssuance := some ⟨2⟩ } }

def pairDraws : RequestDraws :=
  { sampleDraws with credential := fun i => { sampleDraws.credential i with index := [7 + i] } }

/-- What a wallet with two keys asks for, and others who ask for credentials with the same token. -/
def pairRequests : ℕ → Request
  | 0 => .credentialOffer (some "pid")
  | 1 => .token [] (redemption (visitCrates.uuid 1))
  | 2 => .nonce
  | _ => .credential (bearer (codeCrates.uuid 2))
    (askingAll "pid" [proofOf holderX holderY, proofOf otherX otherY]) pairDraws

lemma pairTime_representable : Representable (seconds 1767225600) := by decide

def pairTime : DateTime := ⟨seconds 1767225600, pairTime_representable⟩

lemma lists_pair : pairApp.urlFor "/status/revocation/token" ≠ pairApp.urlFor mdocStatusPath := by
  have hurl : ∀ path, pairApp.urlFor path = sampleUrl ++ path := fun _ => rfl
  rw [hurl, hurl]
  decide

lemma handleOf_pair {index : ℕ} (hindex : index < listCapacity) {jwk : Jwk} {draws : CredentialDraws}
    {c : Json} (h : signSdJwtCredential visitCrates (issuanceContext pairApp) "urn:eudi:pid:1" jwk
      (some (statusClaim (pairApp.urlFor "/status/revocation/token") index.repr)) draws pairTime.val =
        .ok c) :
    handleOf visitCrates c = some (refTo pairApp (.entries .revocation, index)) :=
  handleOf_of_sdJwt canonicalBase64Url_visit.toBase64Url serdeJson_visit h (proper_statusClaim _ _)
    pairTime.property (refOf_statusClaim _ hindex)

/-- The wallet is served, with the entries 7 and 8. -/
lemma pair_served : ∃ c c',
    handleOf visitCrates c = some (refTo pairApp (.entries .revocation, 7)) ∧
    handleOf visitCrates c' = some (refTo pairApp (.entries .revocation, 8)) ∧
    ((server pairApp).step (run (server pairApp) (freshStores pairApp pairTime.val)
        ([0, 1, 2].map fun t => .request (pairRequests t))) (.request (pairRequests 3))).2 =
      some (.response ⟨200, [], .credential (credentialResponse [c, c'])⟩) := by
  have hconfig : pairApp.metadata.credentialConfigurationsSupported.lookup "pid" =
      some visitConfiguration := List.lookup_cons_self
  have hsign : ∀ m, ∃ s, pairApp.primaryKey.sign m = .ok s := fun m => ⟨_, rfl⟩
  obtain ⟨m, m', halloc, halloc'⟩ := @allocateStatus_pair visitCrates pairApp 7 8 (by decide)
    (by decide) (by decide)
  obtain ⟨hclock, hstatus, -, -⟩ := @ready_of_preparation visitCrates pairApp "pid" visitConfiguration
    hconfig (freshStores pairApp pairTime.val)
  set spent := spendAll (run (server pairApp) (freshStores pairApp pairTime.val)
    (preparation visitCrates 0 "pid")) [codeCrates.uuid 3] with hspent
  have hspentStatus : spent.status = StatusManager.new pairApp.externalUrl := hstatus
  have hspentClock : spent.issuer.clock = pairTime.val := by
    rw [hspent, spendAll_clock]
    exact hclock
  -- one credential after the other, each at the entry that is allocated for it
  obtain ⟨c, hissued, hsigned⟩ := @issueSdJwtCredential_allocated visitCrates _ "pid"
    visitConfiguration (issuanceContext pairApp) "urn:eudi:pid:1" (pairDraws.credential 0) _ m spent rfl
    rfl (by rw [hspentStatus]; exact halloc) hsign (holderJwk holderX holderY none)
  obtain ⟨c', hissued', hsigned'⟩ := @issueSdJwtCredential_allocated visitCrates _ "pid"
    visitConfiguration (issuanceContext pairApp) "urn:eudi:pid:1" (pairDraws.credential 1) _ m'
    { spent with status := m } rfl rfl halloc' hsign (holderJwk otherX otherY none)
  rw [hspentClock] at hsigned hsigned'
  refine ⟨c, c', handleOf_pair (by decide) hsigned, handleOf_pair (by decide) hsigned', ?_⟩
  have hnonces : ∀ proof ∈ [(holderJwk holderX holderY none, codeCrates.uuid 3),
      (holderJwk otherX otherY none, codeCrates.uuid 3)], proof.2 = codeCrates.uuid 3 := by
    intro proof hproof
    simp only [List.mem_cons, List.not_mem_nil, or_false] at hproof
    rcases hproof with rfl | rfl <;> rfl
  have hanswered := @answered_of_issued visitCrates pairApp "pid" visitConfiguration
    [proofOf holderX holderY, proofOf otherX otherY] [(holderJwk holderX holderY none, codeCrates.uuid 3),
      (holderJwk otherX otherY none, codeCrates.uuid 3)] pairDraws (credentialResponse [c, c'])
    (freshStores pairApp pairTime.val) { spent with status := m' } hconfig
    (presentedToken_visit headerValues_visit)
    (.cons (verifyProofJwt_proofOf _ _) (.cons (verifyProofJwt_proofOf _ _) .nil)) hnonces
    (List.cons_ne_nil _ _) (by decide) ?_
  · exact congrArg Prod.snd hanswered
  · rw [List.map_cons, List.map_cons, List.map_nil, exec_issueCredentials_cons hissued,
      exec_issueCredentials_cons hissued']
    rfl

/-- A wallet with two keys is issued two credentials, and nobody is issued one with the handle of
another. -/
theorem visit_handles : ∃ (events : List (Event ℕ DateTime)) (c c' : Json),
    issuedTo pairRequests (run (handlers ℕ) (start pairApp pairRequests pairTime) events) 3 = [c, c'] ∧
    handleOf visitCrates c = some (refTo pairApp (.entries .revocation, 7)) ∧
    handleOf visitCrates c' = some (refTo pairApp (.entries .revocation, 8)) ∧
    HandlesDiffer pairApp pairRequests
      (run (handlers ℕ) (start pairApp pairRequests pairTime) events) ∧
    ExhaustedOnly pairApp (log (handlers ℕ) (start pairApp pairRequests pairTime) events) := by
  obtain ⟨c, c', hc, hc', hserved⟩ := pair_served
  obtain ⟨events, hanswer, -, -⟩ := exists_answer pairApp pairRequests pairTime (t := 3)
    (show [0, 1, 2].Nodup by decide) (by decide)
  refine ⟨events, c, c', ?_, hc, hc', handles_differ visitCrates canonicalBase64Url_visit.toBase64Url
    serdeJson_visit cborCodec_visit coseCodec_visit pairApp lists_pair pairRequests _ events⟩
  rw [hserved] at hanswer
  simp only [issuedTo, pairRequests, hanswer]
  exact credentialsOf_credentialResponse [c, c']

end Sample

end Oid4vc.Handles
