import Oid4vc.Server.Honest
import Oid4vc.Verifier.Holding
import Oid4vc.Verifier.KeyBound

/-!
How often a session can be answered.

Responses run concurrently on one session store, call by call, while time passes. A session
is deleted by the response it accepts, and the deletion is not checked: a session yields one
accepted presentation as long as no response that is about to accept has lost its session
to another one.
-/

namespace Oid4vc.SingleUse

open Oid4vc.Run Oid4vc.Atomic Oid4vc.PartialMap Oid4vc.External Oid4vc.Keys Oid4vc.Oid4vp
open Oid4vc.VerifierState Oid4vc.Response Oid4vc.KeyBound

variable {θ : Type} [DecidableEq θ] (X : Crates)

/-- The responses as threads on one store; the outside sets the clock. -/
abbrev responses (θ : Type) [DecidableEq θ] :
    Machine (Pool θ VerifierWorld Answer) (Event θ ℤ) Unit :=
  machine θ VerifierWorld Answer fun t w => { w with clock := t }

/-- Each thread about to process its response. -/
def start (response : θ → AuthorizationResponse) (issuerKey : θ → KeyPair) (w : VerifierWorld) :
    Pool θ VerifierWorld Answer where
  shared := w
  prog t := processResponse X (response t) (issuerKey t)

/-- No two responses were accepted for one session. -/
def AtMostOneAccepted (p : Pool θ VerifierWorld Answer) : Prop :=
  ∀ t u r r', (p.prog t).answer = some (.ok r) → (p.prog u).answer = some (.ok r') →
    r.sessionId = r'.sessionId → t = u

/-- If this step is the last call of an accepting response, its session is still stored. -/
def AcceptsStored (p : Pool θ VerifierWorld Answer) (e : Event θ ℤ) : Prop :=
  ∀ t session claims, e = .thread t → p.prog t = accept session claims →
    (p.shared.store.getSession session.id).isSome = true

/-- The call stores no session that was not there. -/
def AddsNone {β : Type} (op : VerifierWorld → β × VerifierWorld) : Prop :=
  ∀ w id, w.store.sessions.get id = none → (op w).2.store.sessions.get id = none

/-- Programs that store nothing, and answer with a result only by deleting its session
first. -/
inductive AcceptsLast : Prog VerifierWorld Answer → Prop
  | refuse (e : ResponseError) : AcceptsLast (.ret (.error e))
  | accept (session : VerifierSession) (claims) : AcceptsLast (accept session claims)
  | call {β : Type} {op : VerifierWorld → β × VerifierWorld} {k : β → Prog VerifierWorld Answer}
      (hop : AddsNone op) (h : ∀ b, AcceptsLast (k b)) : AcceptsLast (.call op k)

variable {X}

lemma addsNone_readClock : AddsNone VerifierWorld.readClock := fun _ _ h => h

lemma addsNone_getSessionByState (state : String) :
    AddsNone (VerifierWorld.getSessionByState state) := fun _ _ h => h

lemma addsNone_deleteSession (session : String) :
    AddsNone (VerifierWorld.deleteSession session) := by
  intro w id h
  simp only [VerifierWorld.deleteSession, InMemoryVerifierState.sessions_deleteSession, get_remove]
  split_ifs
  · rfl
  · exact h

lemma acceptsLast_conclude (session : VerifierSession) (verified) :
    AcceptsLast (conclude session verified) := by
  rcases conclude_eq_accept session verified with
    ⟨e, he⟩ | ⟨claims, -, -, hc⟩
  · rw [he]
    exact .refuse e
  · rw [hc]
    exact .accept session claims

lemma acceptsLast_verifyToken (session : VerifierSession) (vpToken) (issuerKey : KeyPair) :
    AcceptsLast (verifyToken X session vpToken issuerKey) := by
  unfold verifyToken
  split
  · exact .refuse _
  · split_ifs
    · exact .call addsNone_readClock fun clock => acceptsLast_conclude session _
    · exact acceptsLast_conclude session _
  · exact .refuse _

lemma acceptsLast_processResponse (response : AuthorizationResponse) (issuerKey : KeyPair) :
    AcceptsLast (processResponse X response issuerKey) := by
  unfold processResponse
  split
  · exact .refuse _
  · refine .call (addsNone_getSessionByState _) fun found => ?_
    cases found with
    | none => exact .refuse _
    | some session =>
      refine .call addsNone_readClock fun now => ?_
      split_ifs
      · exact .call (addsNone_deleteSession _) fun _ => .refuse _
      · exact acceptsLast_verifyToken session _ _

/-- What holds of the pool after every step: an accepted session is gone, and only one
response was accepted for it. -/
structure Spent (p : Pool θ VerifierWorld Answer) : Prop where
  last : ∀ t, AcceptsLast (p.prog t) ∨ ∃ r, p.prog t = .ret (.ok r)
  gone : ∀ t r, p.prog t = .ret (.ok r) → p.shared.store.sessions.get r.sessionId = none
  once : ∀ t u r r', p.prog t = .ret (.ok r) → p.prog u = .ret (.ok r') →
    r.sessionId = r'.sessionId → t = u

omit [DecidableEq θ] in
lemma spent_start (response : θ → AuthorizationResponse) (issuerKey : θ → KeyPair)
    (w : VerifierWorld) : Spent (start X response issuerKey w) := by
  have hlast : ∀ t, AcceptsLast ((start X response issuerKey w).prog t) :=
    fun t => acceptsLast_processResponse (response t) (issuerKey t)
  have hno : ∀ t r, (start X response issuerKey w).prog t ≠ .ret (.ok r) := by
    intro t r h
    have := hlast t
    rw [h] at this
    nomatch this
  exact ⟨fun t => Or.inl (hlast t), fun t r h => absurd h (hno t r),
    fun t _ r _ h => absurd h (hno t r)⟩

/-- A call that neither accepts nor stores keeps what was answered. -/
lemma Spent.call {p : Pool θ VerifierWorld Answer} (hp : Spent p) {t : θ} {β : Type}
    {op : VerifierWorld → β × VerifierWorld} {k : β → Prog VerifierWorld Answer}
    (ht : p.prog t = .call op k) (hop : AddsNone op) (hk : ∀ b, AcceptsLast (k b)) :
    Spent (p.advance t) := by
  have hno : ∀ r, (p.advance t).prog t ≠ .ret (.ok r) := by
    intro r h
    rw [advance_prog_self ht] at h
    have := hk (op p.shared).1
    rw [h] at this
    nomatch this
  have hold : ∀ u r, (p.advance t).prog u = .ret (.ok r) → p.prog u = .ret (.ok r) := by
    intro u r h
    by_cases hu : u = t
    · subst hu
      exact absurd h (hno r)
    · rwa [advance_prog_of_ne p hu] at h
  refine ⟨fun u => ?_, fun u r h => ?_, fun u v r r' h h' => ?_⟩
  · by_cases hu : u = t
    · subst hu
      rw [advance_prog_self ht]
      exact Or.inl (hk _)
    · rw [advance_prog_of_ne p hu]
      exact hp.last u
  · rw [advance_shared ht]
    exact hop _ _ (hp.gone u r (hold u r h))
  · exact hp.once u v r r' (hold u r h) (hold v r' h')

/-- Accepting a session that is still stored makes it the only response accepted for it. -/
lemma Spent.accept {p : Pool θ VerifierWorld Answer} (hp : Spent p) {t : θ}
    {session : VerifierSession} {claims} (ht : p.prog t = Response.accept session claims)
    (hstored : (p.shared.store.getSession session.id).isSome = true) :
    Spent (p.advance t) := by
  -- a session that is still stored has no response accepted for it
  have hfresh : ∀ u r, p.prog u = .ret (.ok r) → r.sessionId ≠ session.id := by
    intro u r h hid
    rw [InMemoryVerifierState.getSession, ← hid, hp.gone u r h] at hstored
    cases hstored
  have hself : (p.advance t).prog t = .ret (.ok ⟨session.id, claims⟩) :=
    advance_prog_self ht
  have hcases : ∀ u r, (p.advance t).prog u = .ret (.ok r) →
      (u = t ∧ r.sessionId = session.id) ∨ (u ≠ t ∧ p.prog u = .ret (.ok r)) := by
    intro u r h
    by_cases hu : u = t
    · subst hu
      rw [hself] at h
      simp only [Prog.ret.injEq, Except.ok.injEq] at h
      exact Or.inl ⟨rfl, by rw [← h]⟩
    · rw [advance_prog_of_ne p hu] at h
      exact Or.inr ⟨hu, h⟩
  refine ⟨fun u => ?_, fun u r h => ?_, fun u v r r' h h' hid => ?_⟩
  · by_cases hu : u = t
    · subst hu
      exact Or.inr ⟨_, hself⟩
    · rw [advance_prog_of_ne p hu]
      exact hp.last u
  · rw [advance_shared ht]
    rcases hcases u r h with ⟨-, hid⟩ | ⟨-, hold⟩
    · simp [VerifierWorld.deleteSession, InMemoryVerifierState.sessions_deleteSession, hid]
    · exact addsNone_deleteSession _ _ _ (hp.gone u r hold)
  · rcases hcases u r h with ⟨rfl, hr⟩ | ⟨-, hu⟩ <;> rcases hcases v r' h' with ⟨rfl, hr'⟩ | ⟨-, hv⟩
    · rfl
    · exact absurd (hid.symm.trans hr) (hfresh v r' hv)
    · exact absurd (hid.trans hr') (hfresh u r hu)
    · exact hp.once u v r r' hu hv hid

lemma step_spent (p : Pool θ VerifierWorld Answer) (e : Event θ ℤ) (hp : Spent p)
    (hstored : AcceptsStored p e) : Spent ((responses θ).step p e).1 := by
  cases e with
  | outside now => exact ⟨hp.last, hp.gone, hp.once⟩
  | thread t =>
    rw [step_thread]
    have hsession := hstored t
    rcases hp.last t with hlast | ⟨r, hr⟩
    · generalize hq : p.prog t = q at hlast
      cases hlast with
      | refuse e => rwa [advance_of_ret hq]
      | accept session claims => exact hp.accept hq (hsession session claims rfl hq)
      | call hop hk => exact hp.call hq hop hk
    · rwa [advance_of_ret hr]

/-- **One presentation a session.** In every run in which each accepting response still
finds its session when it deletes it, no session yields two results. -/
theorem atMostOneAccepted_of_stored (response : θ → AuthorizationResponse)
    (issuerKey : θ → KeyPair) (w : VerifierWorld) (events : List (Event θ ℤ))
    (h : Every (responses θ) AcceptsStored (start X response issuerKey w) events) :
    AtMostOneAccepted (run (responses θ) (start X response issuerKey w) events) := by
  have hspent : Spent (run (responses θ) (start X response issuerKey w) events) :=
    run_inv step_spent (spent_start response issuerKey w) h
  intro t u r r' ht hu hid
  exact hspent.once t u r r' (Prog.eq_ret_of_answer ht) (Prog.eq_ret_of_answer hu) hid

/-! ### Two responses for one session -/

section TwoResponses

variable {response : AuthorizationResponse} {issuerKey : KeyPair} {session : VerifierSession}
  {claims : PMap String JsonValue.Json} {w : VerifierWorld}

lemma lookup_advance {state : String} {p : Pool θ VerifierWorld Answer} {t : θ}
    (ht : p.prog t = processResponse X response issuerKey) (hstate : response.state = some state)
    (hs : p.shared.store.getSessionByState state = some session) :
    (p.advance t).prog t = checkExpiry X session response.vpToken issuerKey ∧
      (p.advance t).shared = p.shared := by
  simp only [processResponse, hstate] at ht
  constructor
  · rw [advance_prog_self ht]
    simp only [VerifierWorld.getSessionByState, hs]
  · rw [advance_shared ht]
    rfl

lemma checkExpiry_advance {p : Pool θ VerifierWorld Answer} {t : θ}
    (ht : p.prog t = checkExpiry X session response.vpToken issuerKey)
    (halive : p.shared.clock ≤ session.expiresAt) :
    (p.advance t).prog t = verifyToken X session response.vpToken issuerKey ∧
      (p.advance t).shared = p.shared := by
  constructor
  · rw [advance_prog_self ht]
    simp only [VerifierWorld.readClock, not_lt.mpr halive, if_false]
  · rw [advance_shared ht]
    rfl

/-- A token with a separator verifies at the clock that it is verified at. -/
lemma verifyToken_advance {token : String} {p : Pool θ VerifierWorld Answer} {t : θ}
    (ht : p.prog t = verifyToken X session (some (.str token)) issuerKey)
    (hsep : '~' ∈ token.toList)
    (hver : verifySdJwtVp X token issuerKey session.nonce session.request.clientId
      p.shared.clock = .ok claims)
    (hquery : checkQuery session.request.dcqlQuery claims = .ok ()) :
    (p.advance t).prog t = accept session claims ∧ (p.advance t).shared = p.shared := by
  have hcontains : Text.containsChar '~' token = true := by
    simpa [Text.containsChar] using hsep
  simp only [verifyToken, hcontains, if_true] at ht
  constructor
  · rw [advance_prog_self ht]
    simp only [VerifierWorld.readClock, conclude, hver, hquery]
  · rw [advance_shared ht]
    rfl

/-- Two threads with the same response look the session up before either deletes it: what
one of them would have got, both get. -/
lemma both_accepted {state : String} (hstate : response.state = some state)
    (hs : w.store.getSessionByState state = some session) (halive : w.clock ≤ session.expiresAt)
    (hver : verifyToken X session response.vpToken issuerKey = accept session claims) :
    ¬ AtMostOneAccepted (run (responses Bool)
      (start (X := X) (fun _ => response) (fun _ => issuerKey) w)
      [.thread false, .thread true, .thread false, .thread false, .thread true, .thread true]) := by
  set p0 := start (X := X) (fun _ : Bool => response) (fun _ => issuerKey) w with hp0
  simp only [run_cons, step_thread, run_nil]
  obtain ⟨hf1, hw1⟩ := lookup_advance (p := p0) (t := false) rfl hstate hs
  have ht1 := advance_prog_of_ne p0 (t := false) (u := true) (by decide)
  generalize p0.advance false = p1 at *
  obtain ⟨ht2, hw2⟩ := lookup_advance (p := p1) ht1 hstate (by rw [hw1]; exact hs)
  have hf2 := (advance_prog_of_ne p1 (t := true) (u := false) (by decide)).trans hf1
  generalize p1.advance true = p2 at *
  have hc2 : p2.shared.clock ≤ session.expiresAt := by rw [hw2, hw1]; exact halive
  obtain ⟨hf3, hw3⟩ := checkExpiry_advance hf2 hc2
  rw [hver] at hf3
  have ht3 := (advance_prog_of_ne p2 (t := false) (u := true) (by decide)).trans ht2
  generalize p2.advance false = p3 at *
  have hf4 := advance_prog_self hf3
  have hw4 := advance_shared hf3
  have ht4 := (advance_prog_of_ne p3 (t := false) (u := true) (by decide)).trans ht3
  generalize p3.advance false = p4 at *
  -- the first response has deleted the session, which the second does not look up again
  have hc4 : p4.shared.clock ≤ session.expiresAt := by rw [hw4, hw3]; exact hc2
  obtain ⟨ht5, -⟩ := checkExpiry_advance ht4 hc4
  rw [hver] at ht5
  have hf5 := (advance_prog_of_ne p4 (t := true) (u := false) (by decide)).trans hf4
  generalize p4.advance true = p5 at *
  have ht6 := advance_prog_self ht5
  have hf6 := (advance_prog_of_ne p5 (t := true) (u := false) (by decide)).trans hf5
  intro h
  have hft := h false true ⟨session.id, claims⟩ ⟨session.id, claims⟩
    (by rw [hf6, Prog.answer_ret]) (by rw [ht6, Prog.answer_ret]) rfl
  cases hft

omit [DecidableEq θ] in
/-- A response that would be accepted, if at all, for a stored session still finds it. -/
lemma acceptsStored_of_exec {p : Pool θ VerifierWorld Answer} {t : θ}
    (h : ∀ r, ((p.prog t).exec p.shared).1 = .ok r →
      (p.shared.store.getSession r.sessionId).isSome = true) : AcceptsStored p (.thread t) := by
  rintro u session claims ⟨⟩ hu
  exact h ⟨session.id, claims⟩ (by rw [hu]; rfl)

lemma acceptsStored_advance {p : Pool θ VerifierWorld Answer} {t : θ}
    (hw : (p.advance t).shared = p.shared)
    (h : ∀ r, ((p.prog t).exec p.shared).1 = .ok r →
      (p.shared.store.getSession r.sessionId).isSome = true) :
    ∀ r, (((p.advance t).prog t).exec (p.advance t).shared).1 = .ok r →
      ((p.advance t).shared.store.getSession r.sessionId).isSome = true := by
  rw [exec_advance, hw]
  exact h

/-- The first of two responses with one token is accepted; the second does not find the
session any more. -/
lemma second_refused {token : String} (hs : w.store = InMemoryVerifierState.new.storeSession session)
    (halive : w.clock ≤ session.expiresAt) (hsep : '~' ∈ token.toList)
    (hver : verifySdJwtVp X token issuerKey session.nonce session.request.clientId w.clock =
      .ok claims)
    (hquery : checkQuery session.request.dcqlQuery claims = .ok ()) :
    let p0 := start (X := X) (fun _ : Bool => ⟨some (.str token), some session.state⟩)
      (fun _ => issuerKey) w
    let events : List (Event Bool ℤ) := [.thread false, .thread false, .thread false, .thread false,
      .thread true]
    Every (responses Bool) AcceptsStored p0 events ∧
      ((run (responses Bool) p0 events).prog false).answer = some (.ok ⟨session.id, claims⟩) ∧
      ((run (responses Bool) p0 events).prog true).answer = some (.error .invalidState) := by
  intro p0
  have hf0 : p0.prog false =
    processResponse X ⟨some (.str token), some session.state⟩ issuerKey := rfl
  have hfound : p0.shared.store.getSessionByState session.state = some session := by
    change w.store.getSessionByState session.state = some session
    rw [hs]
    exact InMemoryVerifierState.getSessionByState_storeSession session
  have hstored0 : ∀ r, ((p0.prog false).exec p0.shared).1 = .ok r →
      (p0.shared.store.getSession r.sessionId).isSome = true := by
    intro r hr
    rw [hf0] at hr
    obtain ⟨session', -, -, ⟨⟨state, hstate, hs'⟩, -⟩, -, -, -, rfl⟩ := processResponse_ok_iff.mp hr
    obtain rfl := Option.some.inj hstate
    obtain rfl := Option.some.inj (hfound.symm.trans hs')
    change (w.store.getSession session.id).isSome = true
    rw [hs, InMemoryVerifierState.getSession_storeSession]
    rfl
  simp only [every_cons, every_nil, step_thread, run_cons, run_nil, and_true]
  obtain ⟨hf1, hw1⟩ := lookup_advance hf0 rfl hfound
  have hstored1 := acceptsStored_advance hw1 hstored0
  have ht1 := advance_prog_of_ne p0 (t := false) (u := true) (by decide)
  generalize p0.advance false = p1 at *
  obtain ⟨hf2, hw2⟩ := checkExpiry_advance hf1 (by rw [hw1]; exact halive)
  have hstored2 := acceptsStored_advance hw2 hstored1
  have ht2 := (advance_prog_of_ne p1 (t := false) (u := true) (by decide)).trans ht1
  generalize p1.advance false = p2 at *
  obtain ⟨hf3, hw3⟩ := verifyToken_advance hf2 hsep (by rw [hw2, hw1]; exact hver) hquery
  have hstored3 := acceptsStored_advance hw3 hstored2
  have ht3 := (advance_prog_of_ne p2 (t := false) (u := true) (by decide)).trans ht2
  generalize p2.advance false = p3 at *
  have hf4 := advance_prog_self hf3
  have ht4 := (advance_prog_of_ne p3 (t := false) (u := true) (by decide)).trans ht3
  -- the session has gone when the second response looks it up
  have hgone : (p3.advance false).shared.store.getSessionByState session.state = none := by
    rw [advance_shared hf3, hw3, hw2, hw1]
    change (w.store.deleteSession session.id).getSessionByState session.state = none
    rw [hs]
    simp [InMemoryVerifierState.deleteSession, InMemoryVerifierState.storeSession,
      InMemoryVerifierState.getSessionByState]
  generalize p3.advance false = p4 at *
  have hrefused : (p4.prog true).exec p4.shared = (.error .invalidState, p4.shared) := by
    rw [ht4]
    simp only [p0, start, processResponse, Prog.exec_call, VerifierWorld.getSessionByState, hgone,
      Prog.exec_ret]
  have hlookUp : AcceptsStored p4 (.thread true) := acceptsStored_of_exec fun r hr => by
    rw [hrefused] at hr
    cases hr
  refine ⟨⟨acceptsStored_of_exec hstored0, acceptsStored_of_exec hstored1,
    acceptsStored_of_exec hstored2, acceptsStored_of_exec hstored3, hlookUp⟩, ?_, ?_⟩
  · rw [advance_prog_of_ne p4 (by decide), hf4, Prog.answer_ret]
  · rw [advance_prog_self ht4]
    simp only [VerifierWorld.getSessionByState, hgone, Prog.answer_ret]

end TwoResponses

lemma plain_verifyToken : ∃ claims, verifyToken plainCrates plainSession plainResponse.vpToken
    plainIssuer = accept plainSession claims :=
  ⟨plainDisclosed, verifyToken_plain plain_noSeparator plain_verifies rfl⟩

/-- One of two concurrent uses of a session is one too many. -/
theorem twoResponses_accepted : ¬ AtMostOneAccepted (run (responses Bool)
    (start (X := plainCrates) (fun _ => plainResponse) (fun _ => plainIssuer) plainWorld)
    [.thread false, .thread true, .thread false, .thread false, .thread true, .thread true]) := by
  obtain ⟨claims, hclaims⟩ := plain_verifyToken
  exact both_accepted rfl plain_found plain_alive hclaims

section Sample

open Oid4vc.JsonValue Oid4vc.Instant Oid4vc.Tables Oid4vc.Batch Oid4vc.KeyIdentity Oid4vc.Wallet
open Oid4vc.Disclosures Oid4vc.Selective Oid4vc.Honest Oid4vc.Holding Oid4vc.Dcql

def heldSession : VerifierSession where
  id := "6ba7b810-9dad-41d1-80b4-00c04fd430c8"
  nonce := "6ba7b811-9dad-41d1-80b4-00c04fd430c8"
  state := "6ba7b812-9dad-41d1-80b4-00c04fd430c8"
  request := {
    responseType := "vp_token"
    clientId := "x509_san_dns:verifier.example.com"
    clientIdScheme := none
    responseUri := "https://verifier.example.com/verifier/response"
    responseMode := some "direct_post"
    nonce := "6ba7b811-9dad-41d1-80b4-00c04fd430c8"
    state := some "6ba7b812-9dad-41d1-80b4-00c04fd430c8"
    dcqlQuery := some (DcqlQueryBuilder.new.addSdJwtVcQuery "pid" "urn:eudi:pid:1"
      [("family_name", true)]).build }
  createdAt := seconds 1767225600
  expiresAt := seconds 1767226200

def heldWorld : VerifierWorld where
  clock := seconds 1767225660
  store := InMemoryVerifierState.new.storeSession heldSession

/-- A holder's presentation, sent twice: it is accepted once, and refused once. -/
theorem repeated_refused : ∃ (token : String) (claims : PMap String Json),
    '~' ∈ token.toList ∧ claims.get "family_name" = some (.str "Doe") ∧
    let p := run (responses Bool)
      (start (X := visitCrates) (fun _ => ⟨some (.str token), some heldSession.state⟩)
        (fun _ => visitApp.primaryKey) heldWorld)
      [.thread false, .thread false, .thread false, .thread false, .thread true]
    AtMostOneAccepted p ∧ (p.prog false).answer = some (.ok ⟨heldSession.id, claims⟩) ∧
      (p.prog true).answer = some (.error .invalidState) := by
  have hissuedAt : Representable (seconds 1767225600) := by decide
  obtain ⟨h, hchosen, -, hissued⟩ := exists_held
    (Table.key_signs (t := visitTable) signerX signerY) (rfl : visitApp.primaryKey = _) injective_sha256_visit
    (visitTable.key holderX holderY) "urn:eudi:pid:1" (visitDraws.credential 0) hissuedAt
  obtain ⟨token, ⟨htoken⟩⟩ := h.exists_token (Table.key_signs (t := visitTable) holderX holderY)
    heldSession.nonce heldSession.request.clientId
  have hgood : h.Good heldWorld.clock := by
    rw [Held.Good, hissued]
    decide
  obtain ⟨hsep, claims, hver, hclaims⟩ := h.verifies canonicalBase64Url_visit.toBase64Url
    serdeJson_visit (correct_visit signerX signerY)
    (correct_visit holderX holderY) rfl htoken hgood
  have hentries : h.chosen.map entryOf = Credential.demoClaims := by
    rw [hchosen]
    exact entryOf_disclosuresFor _ _
  have hshows : h.Shows ["family_name"] := Held.shows_of_chosen hentries (by decide)
  obtain ⟨horderly, haccepted, hrefused⟩ := second_refused (w := heldWorld) rfl (by decide) hsep hver
    (h.satisfies hshows hclaims rfl)
  refine ⟨token, claims, hsep, ?_, atMostOneAccepted_of_stored _ _ _ _ horderly, haccepted, hrefused⟩
  rw [hclaims, hentries]
  simp [Credential.demoClaims]

end Sample

end Oid4vc.SingleUse
