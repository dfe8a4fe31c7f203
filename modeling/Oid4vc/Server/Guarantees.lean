import Oid4vc.Base.Rely
import Oid4vc.Issuer.Spent
import Oid4vc.Server.Effects
import Oid4vc.Server.Routes
import Oid4vc.Verifier.Sessions

/-!
What every handler of the server guarantees to the others, call by call.

Whoever is served, the clock stays, identifiers are drawn in order, and the sessions of the verifier
are those of its authorization requests. A session goes only with a response that names its state,
and the code of an offer is only used up by a token request that redeems it.
-/

namespace Oid4vc.Guarantees

open Oid4vc.Atomic Oid4vc.Spending Oid4vc.Rely Oid4vc.PartialMap Oid4vc.External Oid4vc.Oid4vci
open Oid4vc.Oid4vp Oid4vc.IssuerStore Oid4vc.Authorization Oid4vc.Token Oid4vc.Offer
open Oid4vc.Endpoints Oid4vc.VerifierState Oid4vc.Request Oid4vc.Sessions
open Oid4vc.Response Oid4vc.Server Oid4vc.IssuerRoutes Oid4vc.Requests Oid4vc.Effects Oid4vc.Routes

variable {X : Crates} {α β : Type}

section Promises

variable (app : ServerState X)

/-- The session is one of an authorization request, whose first identifier is the `k`-th. -/
def Made (k : ℕ) (session : VerifierSession) : Prop :=
  ∃ createdAt now, Request.newSession X (requestParams app) createdAt now k = some session

/-- The sessions are those of authorization requests. -/
structure Sound (w : ServerWorld) : Prop where
  made : ∀ id session, w.sessions.sessions.get id = some session →
    ∃ k, k + 3 ≤ w.stores.issuer.drawn ∧ Made app k session ∧ id = X.uuid k
  named : ∀ state id, w.sessions.stateToId.get state = some id →
    ∃ k, k + 3 ≤ w.stores.issuer.drawn ∧ state = X.uuid (k + 2) ∧ id = X.uuid k

def Stored (session : VerifierSession) (w : ServerWorld) : Prop :=
  ∃ k, k + 3 ≤ w.stores.issuer.drawn ∧ Made app k session ∧
    w.sessions.sessions.get session.id = some session ∧
    w.sessions.stateToId.get session.state = some session.id

def Offered (X : Crates) (code : String) (entry : PreAuthEntry) (b : Stores) : Prop :=
  ∃ k < b.issuer.drawn, code = X.uuid k ∧ b.issuer.store.preAuthCodes.get code = some entry

/-- What is done where only these states are named, and only these codes redeemed. -/
structure Moves (states codes : String → Prop) (w w' : ServerWorld) : Prop where
  drawn : w.stores.issuer.drawn ≤ w'.stores.issuer.drawn
  sound : Sound app w → Sound app w'
  sessions : ∀ session, Stored app session w → ¬ states session.state → Stored app session w'
  offers : ∀ code entry, Offered X code entry w.stores → ¬ codes code →
    Offered X code entry w'.stores

def NamesState (r : ServerRequest) (state : String) : Prop :=
  ∃ response, r = .response response ∧ response.state = some state

/-- The request is a token request that redeems the code. -/
def RedeemsCode (r : ServerRequest) (code : String) : Prop :=
  ∃ headers request, r = .issuer (.token headers request) ∧ RedeemsOffer request code

/-- What a request guarantees. -/
def Keeps (r : ServerRequest) (w w' : ServerWorld) : Prop :=
  w'.stores.issuer.clock = w.stores.issuer.clock ∧ Moves app (NamesState r) (RedeemsCode r) w w'

/-- What a request can rely on, as long as the clock is right and nobody else names these states or
redeems these codes. -/
def Relied (window : ℤ → Prop) (states codes : String → Prop) (w w' : ServerWorld) : Prop :=
  (window w.stores.issuer.clock → window w'.stores.issuer.clock) ∧ Moves app states codes w w'

/-- What every request can rely on. -/
abbrev Anything : ServerWorld → ServerWorld → Prop :=
  Relied app (fun _ => True) (fun _ => True) fun _ => True

end Promises

variable {app : ServerState X} {states codes : String → Prop} {w w' : ServerWorld}

lemma Moves.refl (w : ServerWorld) : Moves app states codes w w :=
  ⟨Nat.le_refl _, id, fun _ h _ => h, fun _ _ h _ => h⟩

lemma Moves.mono {states' codes' : String → Prop} (hstates : ∀ s, states s → states' s)
    (hcodes : ∀ c, codes c → codes' c) (h : Moves app states codes w w') :
    Moves app states' codes' w w' where
  drawn := h.drawn
  sound := h.sound
  sessions session hstored hs := h.sessions session hstored fun hn => hs (hstates _ hn)
  offers code entry hoffered hc := h.offers code entry hoffered fun hn => hc (hcodes _ hn)

lemma keeps_refl (r : ServerRequest) (w : ServerWorld) : Keeps app r w w := ⟨rfl, .refl w⟩

/-- What a request guarantees, others can rely on, if it names and redeems no more than they allow. -/
lemma Keeps.relied {window : ℤ → Prop} {r : ServerRequest} (h : Keeps app r w w')
    (hstates : ∀ s, NamesState r s → states s) (hcodes : ∀ c, RedeemsCode r c → codes c) :
    Relied app window states codes w w' :=
  ⟨fun hw => by rwa [h.1], h.2.mono hstates hcodes⟩

lemma compatible {θ : Type} (requests : θ → ServerRequest) :
    Compatible (fun _ => Anything app) fun t => Keeps app (requests t) :=
  fun _ _ _ _ _ h => h.relied (fun _ _ => trivial) fun _ _ => trivial

lemma moves_wait (n : ℤ) (w : ServerWorld) : Moves app states codes w (wait n w) where
  drawn := Nat.le_refl _
  sound h := ⟨h.made, h.named⟩
  sessions _ h _ := h
  offers _ _ h _ := h

lemma stable_sound {window : ℤ → Prop} : Stable (Relied app window states codes) (Sound app) :=
  fun _ _ h hs => h.2.sound hs

/-! ### Sessions -/

lemma Made.fields {k : ℕ} {session : VerifierSession} (h : Made app k session) :
    session.id = X.uuid k ∧ session.state = X.uuid (k + 2) ∧ session.nonce = X.uuid (k + 1) ∧
      session.request = authorizationRequest (requestParams app) (X.uuid (k + 1)) (X.uuid (k + 2)) := by
  obtain ⟨createdAt, now, h⟩ := h
  unfold Request.newSession at h
  rw [Option.map_eq_some_iff] at h
  obtain ⟨expiresAt, -, rfl⟩ := h
  exact ⟨rfl, rfl, rfl, rfl⟩

/-- The session that is found by a state is one of a request, and has the state. -/
lemma Sound.found (huuid : Function.Injective X.uuid) (h : Sound app w) {state : String}
    {session : VerifierSession} (hfound : w.sessions.getSessionByState state = some session) :
    (∃ k, Made app k session) ∧ session.state = state := by
  rw [InMemoryVerifierState.getSessionByState, Option.bind_eq_some_iff] at hfound
  obtain ⟨id, hid, hsession⟩ := hfound
  obtain ⟨k, -, rfl, rfl⟩ := h.named _ _ hid
  obtain ⟨k', -, hmade, hk⟩ := h.made _ _ hsession
  obtain rfl := huuid hk
  exact ⟨⟨k, hmade⟩, hmade.fields.2.1⟩

/-- A new session is stored under identifiers of its own. -/
lemma keeps_newAuthorization (huuid : Function.Injective X.uuid) (r : ServerRequest)
    (createdAt now : ℤ) (w : ServerWorld) :
    Keeps app r w (newAuthorization app createdAt now w).2 := by
  refine ⟨by simp only [newAuthorization], ?_⟩
  unfold newAuthorization createAuthorizationRequest
  cases hnew : Request.newSession X (requestParams app) createdAt now w.stores.issuer.drawn with
  | none =>
    -- no session was made: only the numbers drawn have grown
    simp only [storeNew]
    refine ⟨Nat.le_add_right _ _, fun h => ⟨fun id session hget => ?_, fun state id hget => ?_⟩,
      fun session hstored _ => ?_, fun code entry hoffered _ => ?_⟩
    · obtain ⟨k, hk, hof⟩ := h.made id session hget
      exact ⟨k, Nat.le_add_right_of_le hk, hof⟩
    · obtain ⟨k, hk, hof⟩ := h.named state id hget
      exact ⟨k, Nat.le_add_right_of_le hk, hof⟩
    · obtain ⟨k, hk, hof⟩ := hstored
      exact ⟨k, Nat.le_add_right_of_le hk, hof⟩
    · obtain ⟨k, hk, hof⟩ := hoffered
      exact ⟨k, Nat.lt_add_right _ hk, hof⟩
  | some new =>
    have hmade : Made app w.stores.issuer.drawn new := ⟨createdAt, now, hnew⟩
    obtain ⟨hid, hstate, -⟩ := hmade.fields
    simp only [storeNew, InMemoryVerifierState.storeSession]
    refine ⟨Nat.le_add_right _ _, fun h => ⟨fun id session hget => ?_, fun state id hget => ?_⟩,
      fun session hstored _ => ?_, fun code entry hoffered _ => ?_⟩
    · by_cases heq : id = new.id
      · rw [heq, get_insert_self, Option.some.injEq] at hget
        subst hget
        exact ⟨_, Nat.le_refl _, hmade, heq.trans hid⟩
      · rw [get_insert_of_ne _ _ heq] at hget
        obtain ⟨k, hk, hof⟩ := h.made id session hget
        exact ⟨k, Nat.le_add_right_of_le hk, hof⟩
    · by_cases heq : state = new.state
      · rw [heq, get_insert_self, Option.some.injEq] at hget
        exact ⟨_, Nat.le_refl _, heq.trans hstate, hget.symm.trans hid⟩
      · rw [get_insert_of_ne _ _ heq] at hget
        obtain ⟨k, hk, hof⟩ := h.named state id hget
        exact ⟨k, Nat.le_add_right_of_le hk, hof⟩
    · obtain ⟨k, hk, hof, hsession, hname⟩ := hstored
      -- the identifiers of an earlier session have smaller numbers, so they differ from these
      obtain ⟨hid', hstate', -⟩ := hof.fields
      have hne : session.id ≠ new.id := by
        rw [hid, hid']
        exact fun heq => absurd (huuid heq) (by omega)
      have hne' : session.state ≠ new.state := by
        rw [hstate, hstate']
        exact fun heq => absurd (huuid heq) (by omega)
      refine ⟨k, Nat.le_add_right_of_le hk, hof, ?_, ?_⟩
      · rw [get_insert_of_ne _ _ hne, hsession]
      · rw [get_insert_of_ne _ _ hne', hname]
    · obtain ⟨k, hk, hof⟩ := hoffered
      exact ⟨k, Nat.lt_add_right _ hk, hof⟩

/-- The deletion of a session whose state the request names. -/
lemma keeps_deleteSession (huuid : Function.Injective X.uuid) {r : ServerRequest}
    {session : VerifierSession} {k : ℕ} (hmade : Made app k session)
    (hnames : NamesState r session.state) (hsound : Sound app w) :
    Keeps app r w (withVerifier w
      (VerifierWorld.deleteSession session.id (verifierView w)).2) := by
  refine ⟨rfl, ?_⟩
  simp only [VerifierWorld.deleteSession, withVerifier, verifierView,
    InMemoryVerifierState.deleteSession]
  cases hget : w.sessions.sessions.get session.id with
  | none => exact .refl w
  | some found =>
    obtain ⟨k', -, hfound, hk⟩ := hsound.made _ _ hget
    obtain ⟨hid, hstate, -⟩ := hmade.fields
    obtain rfl := huuid (hid.symm.trans hk)
    have hsame : found.state = session.state := hfound.fields.2.1.trans hstate.symm
    refine ⟨Nat.le_refl _, fun h => ⟨fun id other hother => ?_, fun state id hother => ?_⟩,
      fun other hstored hother => ?_, fun _ _ h _ => h⟩
    · exact h.made id other (get_of_get_remove hother).2
    · exact h.named state id (get_of_get_remove hother).2
    · obtain ⟨k', hk', hof, hsession, hname⟩ := hstored
      have hne : other.state ≠ found.state := by
        rw [hsame]
        exact fun heq => hother (heq ▸ hnames)
      have hne' : other.id ≠ session.id := by
        rw [hof.fields.1, hid]
        intro heq
        obtain rfl := huuid heq
        exact hne (hof.fields.2.1.trans hfound.fields.2.1.symm)
      exact ⟨k', hk', hof, (get_remove_of_ne _ hne').trans hsession,
        (get_remove_of_ne _ hne).trans hname⟩

/-! ### The stores of the issuer -/

/-- What is done to the stores of the issuer, where only these codes are redeemed. -/
structure Quiet (X : Crates) (codes : String → Prop) (b b' : Stores) : Prop where
  clock : b'.issuer.clock = b.issuer.clock
  drawn : b.issuer.drawn ≤ b'.issuer.drawn
  offers : ∀ code entry, Offered X code entry b → ¬ codes code → Offered X code entry b'

/-- The calls that do no more. -/
def Quiets (X : Crates) (codes : String → Prop) : Spending.Calls Stores :=
  fun _ op => ∀ b, Quiet X codes b (op b).2

variable {b b' : Stores}

lemma quiet_of_preAuthCodes (hclock : b'.issuer.clock = b.issuer.clock)
    (hdrawn : b.issuer.drawn ≤ b'.issuer.drawn)
    (hsame : b'.issuer.store.preAuthCodes = b.issuer.store.preAuthCodes) : Quiet X codes b b' := by
  refine ⟨hclock, hdrawn, fun code entry hoffered _ => ?_⟩
  obtain ⟨k, hk, hcode, hentry⟩ := hoffered
  exact ⟨k, Nat.lt_of_lt_of_le hk hdrawn, hcode, by rw [hsame, hentry]⟩

lemma quiets_of_idles {op : Stores → β × Stores} (h : Idles β op) : Quiets X codes β op :=
  fun b => quiet_of_preAuthCodes (h b).clock (h b).drawn (h b).preAuthCodes

lemma quiets_processPar (request : PushedAuthorizationRequest) (ctx : ParContext)
    (metadata : CredentialIssuerMetadata) :
    Quiets X codes _ (onIssuer (processPar X request ctx metadata)) := by
  intro b
  unfold onIssuer Prog.through processPar
  split
  · exact quiet_of_preAuthCodes rfl (Nat.le_refl _) rfl
  · exact quiet_of_preAuthCodes rfl (Nat.le_succ _) rfl

lemma quiets_generateAuthorizationCode (requestUri : String) :
    Quiets X codes _ (onIssuer (generateAuthorizationCode X requestUri)) := by
  intro b
  unfold onIssuer Prog.through generateAuthorizationCode InMemoryIssuerState.setAuthorizationCode
  cases b.issuer.store.sessions.get requestUri <;>
    exact quiet_of_preAuthCodes rfl (Nat.le_succ _) rfl

/-- The code of a new offer is one of its own. -/
lemma quiets_makeOffer (huuid : Function.Injective X.uuid) (issuerUrl : String)
    (params : OfferParams) (txCode : Option String) :
    Quiets X codes _ (onIssuer (makeOffer X issuerUrl params txCode)) := by
  intro b
  have hclock : (makeOffer X issuerUrl params txCode b.issuer).2.clock = b.issuer.clock := by
    unfold makeOffer createOffer storeOffer
    cases params.usePreAuthorizedCode <;> rfl
  rcases Spent.makeOffer_cases (X := X) issuerUrl params txCode b.issuer with ⟨-, hsame⟩ |
    ⟨i, hi, -, hdrawn, hstore⟩
  · exact quiet_of_preAuthCodes hclock hsame.drawn hsame.codes
  · have hmore : b.issuer.drawn ≤ (makeOffer X issuerUrl params txCode b.issuer).2.drawn := by omega
    refine ⟨hclock, hmore, fun code entry hoffered _ => ?_⟩
    obtain ⟨k, hk, rfl, hentry⟩ := hoffered
    have hne : X.uuid k ≠ X.uuid i := fun heq => by
      have := huuid heq
      omega
    refine ⟨k, Nat.lt_of_lt_of_le hk hmore, rfl, ?_⟩
    have hget : (makeOffer X issuerUrl params txCode b.issuer).2.store.preAuthCodes.get (X.uuid k) =
        some entry := by
      rw [hstore]
      exact (get_insert_of_ne _ _ hne).trans hentry
    exact hget

lemma redeem_keeps {request : TokenRequest} {code : String} (hcode : RedeemsOffer request code)
    (txCode : Option String) (w : IssuerWorld) :
    w.drawn ≤ (Token.Calls.redeemPreAuthorizedCode code txCode w).2.drawn ∧
      ∀ code', ¬ RedeemsOffer request code' →
        (Token.Calls.redeemPreAuthorizedCode code txCode w).2.store.preAuthCodes.get code' =
          w.store.preAuthCodes.get code' := by
  refine ⟨Nat.le_refl _, fun code' hcode' => ?_⟩
  have hne : code' ≠ code := fun heq => hcode' (heq ▸ hcode)
  unfold Token.Calls.redeemPreAuthorizedCode InMemoryIssuerState.redeemPreAuthorizedCode
  split
  · rfl
  · split_ifs
    · rfl
    · exact get_insert_of_ne _ _ hne

/-- A token request redeems no code but the one that it carries. -/
lemma within_processTokenRequest (request : TokenRequest) (ctx : TokenContext) :
    Within (fun _ op => ∀ w : IssuerWorld, w.drawn ≤ (op w).2.drawn ∧
      ∀ code, ¬ RedeemsOffer request code →
        (op w).2.store.preAuthCodes.get code = w.store.preAuthCodes.get code)
      (processTokenRequest X request ctx) := by
  have hcalm : ∀ (β : Type) (op : IssuerWorld → β × IssuerWorld), Spent.Calm β op →
      ∀ w, w.drawn ≤ (op w).2.drawn ∧ ∀ code, ¬ RedeemsOffer request code →
        (op w).2.store.preAuthCodes.get code = w.store.preAuthCodes.get code :=
    fun β op h w => ⟨(h w).drawn, fun code _ => by rw [(h w).codes]⟩
  rcases Spent.processTokenRequest_cases (X := X) request ctx with ⟨e, h⟩ | ⟨-, h⟩ |
    ⟨code, k, hcode, h, -, hk⟩
  · rw [h]
    exact .ret _
  · exact h.mono hcalm
  · rw [h]
    exact .call (redeem_keeps hcode _) fun ids => (hk ids).mono hcalm

lemma quiets_token (headers : Headers) {request : TokenRequest} {op : IssuerWorld → β × IssuerWorld}
    (h : ∀ w : IssuerWorld, w.drawn ≤ (op w).2.drawn ∧ ∀ code, ¬ RedeemsOffer request code →
      (op w).2.store.preAuthCodes.get code = w.store.preAuthCodes.get code)
    (hclock : ∀ w, (op w).2.clock = w.clock) :
    Quiets X (RedeemsCode (.issuer (.token headers request))) β (onIssuer op) := by
  intro b
  refine ⟨hclock b.issuer, (h b.issuer).1, fun code entry hoffered hother => ?_⟩
  obtain ⟨k, hk, hcode, hentry⟩ := hoffered
  have hsame := (h b.issuer).2 code fun hredeems => hother ⟨headers, request, rfl, hredeems⟩
  exact ⟨k, Nat.lt_of_lt_of_le hk (h b.issuer).1, hcode, hsame.trans hentry⟩

/-- **Every request of the issuer is quiet**, but for the code that it redeems. -/
theorem within_handle_quiets (huuid : Function.Injective X.uuid) (app : AppState X)
    (r : Requests.Request) : Within (Quiets X (RedeemsCode (.issuer r))) (handle app r) := by
  -- a call that is idle is quiet; four calls of the handlers are not idle
  have hidle : ∀ (β : Type) (op : Stores → β × Stores), Idles β op →
      Quiets X (RedeemsCode (.issuer r)) β op := fun _ _ h => quiets_of_idles h
  have hchecking : CheckingCalls (Quiets X (RedeemsCode (.issuer r))) X :=
    ⟨hidle _ _ idles_readClock, fun now attestation pop attesters audience =>
      hidle _ _ (idles_verifyClientAttestation now attestation pop attesters audience),
      fun now proof ctx => hidle _ _ (idles_verifyDpopProof now proof ctx),
      fun token => hidle _ _ (idles_getAccessGrant token)⟩
  cases r with
  | par headers request =>
    refine (within_attestedClient hchecking headers).bind fun client => ?_
    rcases client with response | (_ | client)
    · exact .ret _
    · exact .ret _
    · refine (within_dpopJkt hchecking headers _ _).bind fun jkt => ?_
      cases jkt with
      | error e => exact .ret _
      | ok jkt => exact .call (quiets_processPar _ _ _) fun r => .ret _
  | decision decision =>
    refine .call (hidle _ _ (idles_resolve _ _)) fun found => ?_
    cases found with
    | error e => exact .ret _
    | ok session =>
      simp only [recordChoice]
      split
      · exact .ret _
      · split_ifs
        · refine .call (quiets_generateAuthorizationCode _) fun code => ?_
          cases code <;> exact .ret _
        · exact .ret _
  | token headers request =>
    refine (within_attestedClient hchecking headers).bind fun client => ?_
    cases client with
    | error response => exact .ret _
    | ok client =>
      refine (within_dpopJkt hchecking headers _ _).bind fun jkt => ?_
      cases jkt with
      | error e => exact .ret _
      | ok jkt =>
        have hclock := Effects.within_processTokenRequest (X := X) keepsClock_grant
          (fun _ _ _ => rfl) request ⟨client.map ClientAttestation.AttestedClient.clientId, jkt⟩
        exact (((within_processTokenRequest request _).and hclock).zoom fun _ _ hop =>
          quiets_token headers hop.1 hop.2).bind fun r => .ret _
  | credentialOffer configurationId =>
    simp only [handle, credentialOfferEndpoint]
    split_ifs
    · exact .ret _
    · exact .call (quiets_makeOffer huuid _ _ _) fun offer => .ret _
  -- the handlers that make idle calls only
  | authorize | nonce | credential | tokenStatusList | revoke | suspend | reinstate =>
    refine Within.mono hidle (within_handle ?_)
    trivial

end Oid4vc.Guarantees
