import Oid4vc.Issuer.Effects
import Oid4vc.Issuer.Processing
import Oid4vc.Server.Requests

/-!
What each request does to the stores.

Client authentication, proofs of possession, the consent page, nonces, credentials and the status
lists touch no session, no code and no offer, and mint no token. A pushed request, a decision, a
token request and an offer each do one thing after that, or nothing.
-/

namespace Oid4vc.Effects

open Oid4vc.Fallible Oid4vc.Atomic Oid4vc.Spending Oid4vc.PartialMap Oid4vc.External Oid4vc.Jwks
open Oid4vc.Oid4vci Oid4vc.IssuerStore Oid4vc.Dpop Oid4vc.ClientAttestation Oid4vc.Authorization
open Oid4vc.Token Oid4vc.Offer Oid4vc.Endpoints Oid4vc.Credential Oid4vc.Processing Oid4vc.Manager
open Oid4vc.Authorize Oid4vc.Server Oid4vc.IssuerRoutes Oid4vc.StatusRoutes Oid4vc.Requests

variable {X : Crates} {α β : Type} {C : Spending.Calls Stores}

/-! ### Idle calls -/

/-- Sessions, codes and offers are as they were, and there is no token that was not there. -/
structure Idle (b b' : Stores) : Prop where
  clock : b'.issuer.clock = b.issuer.clock
  drawn : b.issuer.drawn ≤ b'.issuer.drawn
  sessions : b'.issuer.store.sessions = b.issuer.store.sessions
  codeToUri : b'.issuer.store.codeToUri = b.issuer.store.codeToUri
  preAuthCodes : b'.issuer.store.preAuthCodes = b.issuer.store.preAuthCodes
  accessTokens : ∀ token entry, b'.issuer.store.accessTokens.get token = some entry →
    b.issuer.store.accessTokens.get token = some entry

lemma Idle.refl (b : Stores) : Idle b b := ⟨rfl, Nat.le_refl _, rfl, rfl, rfl, fun _ _ h => h⟩

lemma Idle.trans {b b' b'' : Stores} (h : Idle b b') (h' : Idle b' b'') : Idle b b'' where
  clock := h'.clock.trans h.clock
  drawn := Nat.le_trans h.drawn h'.drawn
  sessions := h'.sessions.trans h.sessions
  codeToUri := h'.codeToUri.trans h.codeToUri
  preAuthCodes := h'.preAuthCodes.trans h.preAuthCodes
  accessTokens token entry hget := h.accessTokens token entry (h'.accessTokens token entry hget)

/-- The calls that are idle. -/
def Idles : Spending.Calls Stores := fun _ op => ∀ b, Idle b (op b).2

lemma idle_exec {p : Prog Stores α} (h : Within Idles p) (b : Stores) : Idle b (p.exec b).2 := by
  induction h generalizing b with
  | ret a => exact .refl b
  | call hop _ ih => exact (hop b).trans (ih _ _)

lemma idles_readClock : Idles ℤ Credential.Calls.readClock := fun b => .refl b

lemma idles_onStatus (op : StatusManager → β × StatusManager) : Idles β (onStatus op) :=
  fun _ => ⟨rfl, Nat.le_refl _, rfl, rfl, rfl, fun _ _ h => h⟩

lemma idles_resolve (requestUri clientId : Option String) :
    Idles (Except RequestUriError AuthorizationSession)
      (onIssuer fun w => (resolveRequestUri requestUri clientId w, w)) := fun b => .refl b

lemma idle_recordJti (b : Stores) (now : ℤ) (key : String) (ttl : ℕ) :
    Idle b { b with issuer := { b.issuer with
      store := (b.issuer.store.recordJti now key ttl).2 } } := by
  unfold InMemoryIssuerState.recordJti
  split_ifs <;> exact ⟨rfl, Nat.le_refl _, rfl, rfl, rfl, fun _ _ h => h⟩

lemma idles_verifyDpopProof (now : ℤ) (proof : String) (ctx : DpopContext) :
    Idles (Except DpopError String) (onStore (verifyDpopProof X now · proof ctx)) := by
  intro b
  rcases verifyDpopProof_state (X := X) now b.issuer.clock proof ctx b.issuer.store with
    h | ⟨jti, thumbprint, -, h⟩
  · simp only [onStore, onIssuer, Prog.through, h]
    exact .refl b
  · simp only [onStore, onIssuer, Prog.through, h]
    exact idle_recordJti b _ _ _

lemma idles_verifyClientAttestation (now : ℤ) (attestation pop : String) (attesters : List Jwk)
    (audience : String) : Idles (Except AttestationError AttestedClient)
      (onStore fun recordedAt store =>
        verifyClientAttestation X now recordedAt attestation pop attesters audience store) := by
  intro b
  rcases verifyClientAttestation_state (X := X) now b.issuer.clock attestation pop attesters
    audience b.issuer.store with h | ⟨client, jti, -, h⟩
  · simp only [onStore, onIssuer, Prog.through, h]
    exact .refl b
  · simp only [onStore, onIssuer, Prog.through, h]
    exact idle_recordJti b _ _ _

lemma idles_getAccessGrant (token : String) :
    Idles (Option AccessGrant) (Credential.Calls.getAccessGrant token) := by
  intro b
  unfold Credential.Calls.getAccessGrant InMemoryIssuerState.getAccessGrant
  split
  · split_ifs
    · exact .refl b
    · exact ⟨rfl, Nat.le_refl _, rfl, rfl, rfl, fun _ _ h => (get_of_get_remove h).2⟩
  · exact .refl b

lemma idles_consumeCNonce (nonce : String) : Idles Bool (Credential.Calls.consumeCNonce nonce) := by
  intro b
  unfold Credential.Calls.consumeCNonce InMemoryIssuerState.consumeCNonce
  split <;> exact ⟨rfl, Nat.le_refl _, rfl, rfl, rfl, fun _ _ h => h⟩

lemma idles_allocate {ρ : Type} (alloc : StatusAllocator StatusManager ρ) (draws : List ℕ) :
    Idles (Option (Except String (Option ρ))) (Credential.Calls.allocate alloc draws) := by
  intro b
  unfold Credential.Calls.allocate
  split
  · exact .refl b
  · exact ⟨rfl, Nat.le_refl _, rfl, rfl, rfl, fun _ _ h => h⟩

lemma idles_newNonce (expiresIn : ℕ) : Idles String (onIssuer (newNonce X expiresIn)) :=
  fun _ => ⟨rfl, Nat.le_succ _, rfl, rfl, rfl, fun _ _ h => h⟩

/-! ### The calls of the handlers -/

variable (app : AppState X)

/-- The calls that check who is asking. -/
structure CheckingCalls (C : Spending.Calls Stores) (X : Crates) : Prop where
  readClock : C ℤ Credential.Calls.readClock
  attestation : ∀ now attestation pop attesters audience, C _ (onStore fun recordedAt store =>
    verifyClientAttestation X now recordedAt attestation pop attesters audience store)
  proof : ∀ now proof ctx, C _ (onStore (verifyDpopProof X now · proof ctx))
  grant : ∀ token, C _ (Credential.Calls.getAccessGrant token)

variable {app}

lemma within_attestedClient (hC : CheckingCalls C X) (headers : Headers) :
    Within C (attestedClient app headers) := by
  unfold attestedClient
  split
  · exact .ret _
  · refine .call hC.readClock fun now => .call (hC.attestation _ _ _ _ _) fun r => ?_
    cases r <;> exact .ret _
  · exact .ret _

lemma within_dpopJkt (hC : CheckingCalls C X) (headers : Headers) (path : String)
    (accessToken : Option String) : Within C (dpopJkt app headers path accessToken) := by
  unfold dpopJkt
  split
  · exact .ret _
  · split
    · exact .ret _
    · refine .call hC.readClock fun now => .call (hC.proof _ _ _) fun r => ?_
      cases r <;> exact .ret _
  · exact .ret _

lemma within_authorizeResource (hC : CheckingCalls C X) (headers : Headers) (path : String) :
    Within C (authorizeResource app headers path) := by
  unfold authorizeResource
  split
  · exact .ret _
  · refine .call (hC.grant _) fun grant => ?_
    cases grant with
    | none => exact .ret _
    | some grant =>
      simp only [checkPossession]
      split
      · exact (within_dpopJkt hC headers path _).bind fun r => .ret _
      · exact .ret _
      · exact .ret _
      · exact .ret _

lemma within_credentialEndpoint (hC : CheckingCalls C X) (hissue : IssuingCalls C (issuanceContext app))
    (hnonce : ∀ nonce, C _ (Credential.Calls.consumeCNonce nonce)) (headers : Headers)
    (request : CredentialRequest) (draws : RequestDraws) :
    Within C (credentialEndpoint app headers request draws) := by
  refine (within_authorizeResource hC headers _).bind fun r => ?_
  cases r with
  | error response => exact .ret _
  | ok token =>
    exact (within_processCredentialRequest hissue hC.grant hnonce request token draws).bind
      fun answer => .ret _

/-- What an admin request has the status manager do. -/
def updateOf : Request → Option (StatusManager → Except (Fault ManagerError) Unit × StatusManager)
  | .revoke _ request => some fun manager =>
      if request.isMdoc = true then manager.revokeMdoc request.index
      else manager.revoke request.index
  | .suspend _ request => some fun manager => manager.suspend request.index
  | .reinstate _ request => some fun manager => manager.reinstate request.index
  | _ => none

/-- The calls of the handlers, but for those updates. -/
structure HandlerCalls (C : Spending.Calls Stores) (app : AppState X) : Prop where
  checking : CheckingCalls C X
  issuing : IssuingCalls C (issuanceContext app)
  nonce : ∀ nonce, C _ (Credential.Calls.consumeCNonce nonce)
  list : ∀ id, C _ (onStatus fun manager => (manager.buildTokenStatusList X id, manager))
  issuer : ∀ {β : Type} (op : IssuerWorld → β × IssuerWorld), (∀ w, (op w).2.clock = w.clock) →
    C β (onIssuer op)

lemma within_suspension (status : String) (headers : Headers) (request : StatusUpdateRequest)
    {update : StatusManager → ℕ → Except (Fault ManagerError) Unit × StatusManager}
    (h : C _ (onStatus fun manager => update manager request.index)) :
    Within C (suspensionEndpoint app status update headers request) := by
  unfold suspensionEndpoint
  split
  · exact .ret _
  · split_ifs
    · exact .ret _
    · exact .call h fun r => .ret _

lemma keepsClock_grant : GrantCalls (fun _ op => ∀ w, (op w).2.clock = w.clock) X where
  readClock _ := rfl
  newUuids _ _ := rfl
  getSessionByCode _ _ := rfl
  consumeAuthorizationCode _ _ := rfl
  recordTokenForCode _ _ _ := rfl
  revokeTokensForCode _ _ := rfl
  storeAccessToken _ _ _ _ := rfl

/-- **Whatever is asked**, the calls are such. -/
theorem within_handle_of (hC : HandlerCalls C app) {r : Request}
    (hupdate : ∀ update ∈ updateOf r, C _ (onStatus update)) : Within C (handle app r) := by
  cases r with
  | par headers request =>
    refine (within_attestedClient hC.checking headers).bind fun client => ?_
    rcases client with response | (_ | client)
    · exact .ret _
    · exact .ret _
    · refine (within_dpopJkt hC.checking headers _ _).bind fun jkt => ?_
      cases jkt with
      | error e => exact .ret _
      | ok jkt =>
        refine .call (hC.issuer _ fun w => ?_) fun r => .ret _
        -- the clock is kept, whether the request is stored or refused
        unfold processPar
        split <;> rfl
  | authorize requestUri clientId =>
    refine .call (hC.issuer _ fun _ => rfl) fun found => ?_
    cases found <;> exact .ret _
  | decision decision =>
    refine .call (hC.issuer _ fun _ => rfl) fun found => ?_
    cases found with
    | error e => exact .ret _
    | ok session =>
      simp only [recordChoice]
      split
      · exact .ret _
      · split_ifs
        · -- only an approval makes a call of its own
          refine .call (hC.issuer _ fun w => ?_) fun code => ?_
          · unfold generateAuthorizationCode
            simp only
            split <;> rfl
          · cases code <;> exact .ret _
        · exact .ret _
  | token headers request =>
    refine (within_attestedClient hC.checking headers).bind fun client => ?_
    cases client with
    | error response => exact .ret _
    | ok client =>
      refine (within_dpopJkt hC.checking headers _ _).bind fun jkt => ?_
      cases jkt with
      | error e => exact .ret _
      | ok jkt =>
        -- the calls of the token request are on the issuer's own world
        have hkeeps := within_processTokenRequest (X := X) keepsClock_grant (fun _ _ _ => rfl) request
          ⟨client.map ClientAttestation.AttestedClient.clientId, jkt⟩
        exact (hkeeps.zoom fun _ _ hop => hC.issuer _ hop).bind fun r => .ret _
  | nonce => exact .call (hC.issuer _ fun _ => rfl) fun nonce => .ret _
  | credential headers request draws =>
    exact within_credentialEndpoint hC.checking hC.issuing hC.nonce _ _ _
  | credentialOffer configurationId =>
    simp only [handle, credentialOfferEndpoint]
    split_ifs
    · exact .ret _
    · exact .call (hC.issuer _ fun _ => rfl) fun offer => .ret _
  | tokenStatusList id =>
    refine .call (hC.list id) fun list => ?_
    cases list with
    | error e => exact .ret _
    | ok list => exact .call hC.checking.readClock fun now => .ret _
  | revoke headers request =>
    simp only [handle, revokeCredential]
    split
    · exact .ret _
    · exact .call (hupdate _ rfl) fun r => .ret _
  | suspend headers request => exact within_suspension _ _ _ (hupdate _ rfl)
  | reinstate headers request => exact within_suspension _ _ _ (hupdate _ rfl)

lemma checking_idles : CheckingCalls Idles X where
  readClock := idles_readClock
  attestation := idles_verifyClientAttestation
  proof := idles_verifyDpopProof
  grant := idles_getAccessGrant

lemma issuing_idles : IssuingCalls Idles (issuanceContext app) where
  readClock := idles_readClock
  allocate := idles_allocate _
  allocateMdoc _ _ := idles_allocate _

lemma within_revokeCredential (headers : Headers) (request : StatusUpdateRequest) :
    Within Idles (revokeCredential app headers request) := by
  unfold revokeCredential
  split
  · exact .ret _
  · exact .call (idles_onStatus _) fun r => .ret _

/-- A request that is neither a pushed request nor a decision, a token request or an offer. -/
def Minor : Request → Prop
  | .par _ _ => False
  | .decision _ => False
  | .token _ _ => False
  | .credentialOffer _ => False
  | _ => True

/-- **Most requests are idle.** -/
theorem within_handle {r : Request} (h : Minor r) : Within Idles (handle app r) := by
  cases r with
  | par | decision | token | credentialOffer => exact absurd h id
  | authorize requestUri clientId =>
    refine .call (idles_resolve _ _) fun found => ?_
    cases found <;> exact .ret _
  | nonce => exact .call (idles_newNonce _) fun nonce => .ret _
  | credential headers request draws =>
    exact within_credentialEndpoint checking_idles issuing_idles idles_consumeCNonce _ _ _
  | tokenStatusList id =>
    refine .call (idles_onStatus _) fun list => ?_
    cases list with
    | error e => exact .ret _
    | ok list => exact .call idles_readClock fun now => .ret _
  | revoke headers request => exact within_revokeCredential _ _
  | suspend headers request => exact within_suspension _ _ _ (idles_onStatus _)
  | reinstate headers request => exact within_suspension _ _ _ (idles_onStatus _)

/-! ### Who is asking -/

/-- The headers carry an attestation of the client and a proof of possession that pass the checks
at this instant. -/
def Attested (app : AppState X) (headers : Headers) (now : ℤ) (client : AttestedClient) : Prop :=
  ∃ attestation pop jti, headerText X headers "oauth-client-attestation" = some attestation ∧
    headerText X headers "oauth-client-attestation-pop" = some pop ∧
    checkClientAttestation X now attestation pop app.clientAttesters app.issuerId = .ok (client, jti)

/-- The headers carry one DPoP proof, which passes the checks at this instant, of the key with this
thumbprint. -/
def Proven (app : AppState X) (headers : Headers) (path : String) (accessToken : Option String)
    (now : ℤ) (jkt : String) : Prop :=
  ∃ value proof jti, getAll headers "dpop" = [value] ∧ X.headerToStr value = .ok proof ∧
    checkDpopProof X now proof (dpopContext app path accessToken) = .ok (jti, jkt)

variable {headers : Headers} {b : Stores}

lemma attestedClient_ok {client : AttestedClient}
    (h : ((attestedClient app headers).exec b).1 = .ok (some client)) :
    Attested app headers b.issuer.clock client := by
  unfold attestedClient at h
  split at h
  · simp at h
  · next attestation pop hattestation hpop =>
    simp only [Prog.exec_call, onStore, onIssuer, Prog.through, Credential.Calls.readClock] at h
    cases hverified : verifyClientAttestation X b.issuer.clock b.issuer.clock attestation pop
      app.clientAttesters app.issuerId b.issuer.store with
    | mk answer store =>
      rw [hverified] at h
      cases answer with
      | error e => simp at h
      | ok client' =>
        simp only [Prog.exec_ret, Except.ok.injEq, Option.some.injEq] at h
        obtain ⟨jti, hcheck, -⟩ := verifyClientAttestation_eq_ok hverified
        rw [h] at hcheck
        exact ⟨attestation, pop, jti, hattestation, hpop, hcheck⟩
  · simp at h

lemma attestedClient_error {response : Response}
    (h : ((attestedClient app headers).exec b).1 = .error response) :
    ∃ description, response = invalidClient description := by
  unfold attestedClient at h
  split at h
  · simp at h
  · simp only [Prog.exec_call] at h
    split at h
    · simp at h
    · simp only [Prog.exec_ret, Except.error.injEq] at h
      exact ⟨_, h.symm⟩
  · simp only [Prog.exec_ret, Except.error.injEq] at h
    exact ⟨_, h.symm⟩

/-- The headers carry no DPoP proof, or one of the key with this thumbprint, which passes the checks
at this instant. -/
def Presents (app : AppState X) (headers : Headers) (path : String) (accessToken : Option String)
    (now : ℤ) : Option String → Prop
  | none => getAll headers "dpop" = []
  | some jkt => Proven app headers path accessToken now jkt

lemma dpopJkt_presents {path : String} {accessToken : Option String} {jkt : Option String}
    (h : ((dpopJkt app headers path accessToken).exec b).1 = .ok jkt) :
    Presents app headers path accessToken b.issuer.clock jkt := by
  unfold dpopJkt at h
  split at h
  · next hnone =>
    rw [Prog.exec_ret, Except.ok.injEq] at h
    rw [← h]
    exact hnone
  · next value hvalue =>
    split at h
    · simp at h
    · next proof hproof =>
      simp only [Prog.exec_call, onStore, onIssuer, Prog.through, Credential.Calls.readClock] at h
      cases hverified : verifyDpopProof X b.issuer.clock b.issuer.clock proof
        (dpopContext app path accessToken) b.issuer.store with
      | mk answer store =>
        rw [hverified] at h
        cases answer with
        | error e => simp at h
        | ok j =>
          rw [Prog.exec_ret, Except.ok.injEq] at h
          obtain ⟨jti, hcheck, -⟩ := verifyDpopProof_eq_ok hverified
          rw [← h]
          exact ⟨value, proof, jti, hvalue, hproof, hcheck⟩
  · simp at h

lemma dpopJkt_ok {path : String} {accessToken : Option String} {jkt : Option String}
    (h : ((dpopJkt app headers path accessToken).exec b).1 = .ok jkt) :
    ∀ j ∈ jkt, Proven app headers path accessToken b.issuer.clock j := by
  rintro j rfl
  exact dpopJkt_presents h

lemma exec_attestedClient {attestation pop : String} {client : AttestedClient}
    {s : InMemoryIssuerState}
    (hattestation : headerText X headers "oauth-client-attestation" = some attestation)
    (hpop : headerText X headers "oauth-client-attestation-pop" = some pop)
    (h : verifyClientAttestation X b.issuer.clock b.issuer.clock attestation pop app.clientAttesters
      app.issuerId b.issuer.store = (.ok client, s)) :
    (attestedClient app headers).exec b =
      (.ok (some client), { b with issuer := { b.issuer with store := s } }) := by
  rw [attestedClient, hattestation, hpop]
  simp only [Prog.exec_call, Credential.Calls.readClock, onStore, onIssuer, Prog.through, h,
    Prog.exec_ret]

lemma exec_dpopJkt_none {path : String} {accessToken : Option String}
    (h : getAll headers "dpop" = []) : (dpopJkt app headers path accessToken).exec b = (.ok none, b) := by
  rw [dpopJkt, h, Prog.exec_ret]

/-! ### Pushed requests -/

/-- What a reply shows. -/
def bodyOf : Reply → Option Body
  | .response r => some r.body
  | _ => none

def newRequestUri (X : Crates) (w : IssuerWorld) : String :=
  "urn:ietf:params:oauth:request_uri:" ++ X.uuid w.drawn

/-- The world with the session of a pushed request. -/
def pushed (X : Crates) (request : PushedAuthorizationRequest) (bound : Option String)
    (ids : List String) (viaDetails : Bool) (w : IssuerWorld) : IssuerWorld :=
  { w with
    drawn := w.drawn + 1
    store := w.store.storeAuthorizationSession (newRequestUri X w)
      (newSession request (newRequestUri X w) w.clock bound ids viaDetails) }

/-- **What a pushed request can do**: nothing, or store a session under a new `request_uri`. -/
inductive ParOutcome (app : AppState X) (headers : Headers) (request : PushedAuthorizationRequest)
    (b : Stores) : Reply → Stores → Prop
  | refused {reply : Reply} {b' : Stores} (hreply : ∀ p, bodyOf reply ≠ some (.par p))
    (hidle : Idle b b') : ParOutcome app headers request b reply b'
  | pushed {b' : Stores} (client : AttestedClient) (jkt bound : Option String) (ids : List String)
    (viaDetails : Bool) (hclient : Attested app headers b.issuer.clock client)
    (hproof : Presents app headers "/authorize/par" none b.issuer.clock jkt)
    (hcheck : checkPar request ⟨client.clientId, jkt⟩ app.metadata = .ok (bound, ids, viaDetails))
    (hidle : Idle b b') : ParOutcome app headers request b
      (.response (noStore ⟨201, [], .par ⟨newRequestUri X b'.issuer, requestUriTtlSecs⟩⟩))
      { b' with issuer := Effects.pushed X request bound ids viaDetails b'.issuer }

lemma parEndpoint_exec (request : PushedAuthorizationRequest) :
    ParOutcome app headers request b ((parEndpoint app headers request).exec b).1
      ((parEndpoint app headers request).exec b).2 := by
  have hidle : Idle b ((attestedClient app headers).exec b).2 :=
    idle_exec (within_attestedClient checking_idles headers) b
  have hclient := @attestedClient_ok X app headers b
  have herror := @attestedClient_error X app headers b
  rw [parEndpoint, Prog.exec_bind]
  generalize (attestedClient app headers).exec b = attested at hidle hclient herror
  obtain ⟨answer, b₁⟩ := attested
  rcases answer with response | (_ | client)
  · obtain ⟨description, rfl⟩ := herror rfl
    exact .refused (by simp [bodyOf, invalidClient, jsonError]) hidle
  · exact .refused (by simp [bodyOf, invalidClient, jsonError]) hidle
  · simp only [Prog.exec_bind]
    have hidle' : Idle b₁ ((dpopJkt app headers "/authorize/par" none).exec b₁).2 :=
      idle_exec (within_dpopJkt checking_idles headers "/authorize/par" none) b₁
    have hproof := @dpopJkt_presents X app headers b₁ "/authorize/par" none
    generalize (dpopJkt app headers "/authorize/par" none).exec b₁ = proven at hidle' hproof
    obtain ⟨answer, b₂⟩ := proven
    cases answer with
    | error e => exact .refused (by simp [bodyOf, jsonError]) (hidle.trans hidle')
    | ok jkt =>
      simp only [Prog.exec_call, onIssuer, Prog.through, processPar]
      cases hcheck : checkPar request ⟨client.clientId, jkt⟩ app.metadata with
      | error e => exact .refused (by simp [bodyOf, parResponse, jsonError]) (hidle.trans hidle')
      | ok checked =>
        obtain ⟨bound, ids, viaDetails⟩ := checked
        rw [hidle.clock] at hproof
        exact .pushed client jkt bound ids viaDetails (hclient rfl) (hproof rfl) hcheck
          (hidle.trans hidle')

lemma exec_parEndpoint {request : PushedAuthorizationRequest} {client : AttestedClient}
    {jkt bound : Option String} {ids : List String} {viaDetails : Bool} {b₁ b₂ : Stores}
    (hclient : (attestedClient app headers).exec b = (.ok (some client), b₁))
    (hproof : (dpopJkt app headers "/authorize/par" none).exec b₁ = (.ok jkt, b₂))
    (hcheck : checkPar request ⟨client.clientId, jkt⟩ app.metadata = .ok (bound, ids, viaDetails)) :
    (parEndpoint app headers request).exec b =
      (.response (noStore ⟨201, [], .par ⟨newRequestUri X b₂.issuer, requestUriTtlSecs⟩⟩),
        { b₂ with issuer := pushed X request bound ids viaDetails b₂.issuer }) := by
  rw [parEndpoint, Prog.exec_bind, hclient]
  simp only [Prog.exec_bind, hproof, Prog.exec_call, onIssuer, Prog.through, processPar, hcheck,
    Prog.exec_ret]
  rfl

/-! ### Decisions -/

/-- The session that a decision is about, and where its client is, if it can be decided. -/
def Resolves (X : Crates) (decision : Decision) (w : IssuerWorld) (session : AuthorizationSession)
    (target : String) : Prop :=
  resolveRequestUri (some decision.requestUri) (some decision.clientId) w = .ok session ∧
    X.urlParse session.redirectUri = some target

/-- The reply sends the user back with an authorization code. -/
def Approved (reply : Reply) (code : String) : Prop :=
  ∃ target query, bodyOf reply = some (.redirect target (("code", code) :: query))

/-- The reply sends the user back, denied. -/
def Denied (reply : Reply) : Prop :=
  ∃ target query, bodyOf reply = some (.redirect target (("error", "access_denied") :: query))

/-- **What a decision can do**: nothing, or store a code for the session. -/
inductive DecisionOutcome (app : AppState X) (decision : Decision) (b : Stores) :
    Reply → Stores → Prop
  | refused {reply : Reply} {b' : Stores} (happroved : ∀ code, ¬ Approved reply code)
    (hdenied : ¬ Denied reply) (hidle : Idle b b') : DecisionOutcome app decision b reply b'
  | denied {reply : Reply} (session : AuthorizationSession) (target : String)
    (hresolves : Resolves X decision b.issuer session target) (hdecision : decision.decision ≠ "approve")
    (hreply : Denied reply) (happroved : ∀ code, ¬ Approved reply code) :
    DecisionOutcome app decision b reply b
  | approved {reply : Reply} (session stored : AuthorizationSession) (target : String)
    (hresolves : Resolves X decision b.issuer session target) (hdecision : decision.decision = "approve")
    (hstored : b.issuer.store.sessions.get session.requestUri = some stored)
    (hreply : Approved reply (X.uuid b.issuer.drawn)) (hdenied : ¬ Denied reply) :
    DecisionOutcome app decision b reply
      { b with issuer := (generateAuthorizationCode X session.requestUri b.issuer).2 }

lemma generateAuthorizationCode_cases (requestUri : String) (w : IssuerWorld) :
    (w.store.sessions.get requestUri = none ∧ ∃ e, generateAuthorizationCode X requestUri w =
        (.error e, { w with drawn := w.drawn + 1 })) ∨
      ∃ stored, w.store.sessions.get requestUri = some stored ∧
        generateAuthorizationCode X requestUri w = (.ok (X.uuid w.drawn), { w with
          drawn := w.drawn + 1
          store := { w.store with
            sessions := w.store.sessions.insert requestUri
              { stored with
                authorizationCode := some (X.uuid w.drawn)
                codeIssuedAt := some w.clock }
            codeToUri := w.store.codeToUri.insert (X.uuid w.drawn) requestUri } }) := by
  unfold generateAuthorizationCode InMemoryIssuerState.setAuthorizationCode
  cases hstored : w.store.sessions.get requestUri with
  | none => exact Or.inl ⟨rfl, _, rfl⟩
  | some stored => exact Or.inr ⟨stored, rfl, rfl⟩

/-- A request URI that cannot be used sends nobody back with a decision. -/
lemma requestUriError_refused (e : RequestUriError) :
    (∀ code, ¬ Approved (.response (requestUriError app e)) code) ∧
      ¬ Denied (.response (requestUriError app e)) := by
  cases e with
  | page reason => simp [Approved, Denied, bodyOf, requestUriError, errorPage]
  | redirect session reason =>
    simp only [Approved, Denied, bodyOf, requestUriError]
    cases X.urlParse session.redirectUri with
    | none => simp [errorPage]
    | some target => simp [redirectTo, sealedQuery]

lemma authorizeDecision_exec (decision : Decision) :
    DecisionOutcome app decision b ((authorizeDecision app decision).exec b).1
      ((authorizeDecision app decision).exec b).2 := by
  rw [authorizeDecision, Prog.exec_call]
  simp only [onIssuer, Prog.through]
  cases hresolved : resolveRequestUri (some decision.requestUri) (some decision.clientId) b.issuer with
  | error e =>
    obtain ⟨happroved, hdenied⟩ := @requestUriError_refused X app e
    exact .refused happroved hdenied (.refl b)
  | ok session =>
    simp only [recordChoice]
    cases htarget : X.urlParse session.redirectUri with
    | none =>
      exact .refused (by simp [Approved, bodyOf, errorPage]) (by simp [Denied, bodyOf, errorPage])
        (.refl b)
    | some target =>
      simp only
      split_ifs with hdecision
      · simp only [Prog.exec_call, onIssuer, Prog.through]
        rcases generateAuthorizationCode_cases (X := X) session.requestUri b.issuer with
          ⟨-, e, heq⟩ | ⟨stored, hstored, heq⟩
        · rw [heq]
          exact .refused (by simp [Approved, bodyOf, errorPage]) (by simp [Denied, bodyOf, errorPage])
            ⟨rfl, Nat.le_succ _, rfl, rfl, rfl, fun _ _ h => h⟩
        · have hafter : (generateAuthorizationCode X session.requestUri b.issuer).1 =
              .ok (X.uuid b.issuer.drawn) := by rw [heq]
          rw [hafter]
          exact .approved session stored target ⟨hresolved, htarget⟩ hdecision hstored
            ⟨target, _, rfl⟩ (by simp [Denied, bodyOf, redirectTo, sealedQuery])
      · exact .denied session target ⟨hresolved, htarget⟩ hdecision ⟨target, _, rfl⟩
          (by simp [Approved, bodyOf, redirectTo, sealedQuery])

/-! ### Token requests and offers -/

/-- The stores with another issuer's world. -/
def withIssuer (b : Stores) (w : IssuerWorld) : Stores := { b with issuer := w }

lemma exec_onWorld (p : Prog IssuerWorld α) (b : Stores) :
    (p.zoom Backend.issuer fun b w => { b with issuer := w }).exec b =
      ((p.exec b.issuer).1, withIssuer b (p.exec b.issuer).2) :=
  @Prog.exec_zoom IssuerWorld α Stores Backend.issuer withIssuer (fun _ _ => rfl) (fun _ _ _ => rfl)
    (fun _ => rfl) p b

/-- **What a token request can do**: nothing, or what it does once its client and its key are
known. -/
inductive TokenReply (app : AppState X) (headers : Headers) (request : TokenRequest) (b : Stores) :
    Reply → Stores → Prop
  | refused {reply : Reply} {b' : Stores} (hreply : ∀ t, bodyOf reply ≠ some (.token t))
    (hidle : Idle b b') : TokenReply app headers request b reply b'
  | processed {b' : Stores} {r : Token.Answer} {w : IssuerWorld} (client : Option AttestedClient)
    (jkt : Option String) (hclient : ∀ c ∈ client, Attested app headers b.issuer.clock c)
    (hproof : Presents app headers "/token" none b.issuer.clock jkt) (hidle : Idle b b')
    (houtcome : TokenOutcome X request ⟨client.map AttestedClient.clientId, jkt⟩ b'.issuer r w) :
    TokenReply app headers request b (.response (tokenAnswer r)) (withIssuer b' w)

lemma tokenEndpoint_exec (request : TokenRequest) :
    TokenReply app headers request b ((tokenEndpoint app headers request).exec b).1
      ((tokenEndpoint app headers request).exec b).2 := by
  have hidle : Idle b ((attestedClient app headers).exec b).2 :=
    idle_exec (within_attestedClient checking_idles headers) b
  have hclient := @attestedClient_ok X app headers b
  have herror := @attestedClient_error X app headers b
  rw [tokenEndpoint, Prog.exec_bind]
  generalize (attestedClient app headers).exec b = attested at hidle hclient herror
  obtain ⟨answer, b₁⟩ := attested
  cases answer with
  | error response =>
    obtain ⟨description, rfl⟩ := herror rfl
    exact .refused (by simp [bodyOf, invalidClient, jsonError]) hidle
  | ok client =>
    simp only [Prog.exec_bind]
    have hidle' : Idle b₁ ((dpopJkt app headers "/token" none).exec b₁).2 :=
      idle_exec (within_dpopJkt checking_idles headers "/token" none) b₁
    have hproof := @dpopJkt_presents X app headers b₁ "/token" none
    generalize (dpopJkt app headers "/token" none).exec b₁ = proven at hidle' hproof
    obtain ⟨answer, b₂⟩ := proven
    cases answer with
    | error e => exact .refused (by simp [bodyOf, jsonError]) (hidle.trans hidle')
    | ok jkt =>
      rw [hidle.clock] at hproof
      rw [Prog.exec_bind, Prog.exec_ret, exec_onWorld]
      refine .processed client jkt (fun c hc => ?_) (hproof rfl) (hidle.trans hidle')
        (exec_processTokenRequest _ _ _)
      rw [Option.mem_def] at hc
      exact hclient (by rw [hc])

/-- A token request changes no session but marks one as consumed. -/
lemma sessions_of_tokenOutcome {request : TokenRequest} {ctx : TokenContext} {w w' : IssuerWorld}
    {r : Token.Answer} (h : TokenOutcome X request ctx w r w') (uri : String) :
    ∃ consumed : AuthorizationSession → Bool, w'.store.sessions.get uri =
      (w.store.sessions.get uri).map fun session => { session with consumed := consumed session } := by
  have hsame : ∃ consumed : AuthorizationSession → Bool, w.store.sessions.get uri =
      (w.store.sessions.get uri).map fun session => { session with consumed := consumed session } :=
    ⟨AuthorizationSession.consumed, by cases w.store.sessions.get uri <;> rfl⟩
  cases h with
  | refused e _ => exact hsame
  | replayed code session _ _ _ =>
    simp only [InMemoryIssuerState.revokeTokensForCode]
    cases w.store.tokensByCode.get code <;> exact hsame
  | redeemed code clientId jkt session issuedAt _ _ _ _ _ _ =>
    simp only [redeemed, minted, InMemoryIssuerState.recordTokenForCode,
      InMemoryIssuerState.storeAccessToken, InMemoryIssuerState.consumeAuthorizationCode]
    cases w.store.codeToUri.get code with
    | none => exact hsame
    | some uri' =>
      by_cases heq : uri = uri'
      · subst heq
        exact ⟨fun _ => true, get_modify_self _ _ _⟩
      · simp only [get_modify_of_ne _ _ heq]
        exact hsame
  | preAuthorized code entry _ _ _ => exact hsame

/-- **What an offer can do**: nothing, or store the code that it offers. -/
inductive OfferReply (app : AppState X) (configurationId : Option String) (b : Stores) :
    Reply → Stores → Prop
  | refused {reply : Reply} (hreply : ∀ o, bodyOf reply ≠ some (.offer o)) :
    OfferReply app configurationId b reply b
  | offered (configId : String) : OfferReply app configurationId b
      (.response ⟨200, [], .offer (makeOffer X app.externalUrl (offerParams configId) none b.issuer).1⟩)
      (withIssuer b (makeOffer X app.externalUrl (offerParams configId) none b.issuer).2)

lemma credentialOfferEndpoint_exec (configurationId : Option String) :
    OfferReply app configurationId b ((credentialOfferEndpoint app configurationId).exec b).1
      ((credentialOfferEndpoint app configurationId).exec b).2 := by
  unfold credentialOfferEndpoint
  simp only
  split_ifs
  · exact .refused (by simp [bodyOf, jsonError])
  · exact .offered _

/-! ### Credentials -/

/-- The grant of the token that a request presents, and the key the token is bound to, of which the
request carries a proof for the token. -/
structure Authorized (app : AppState X) (headers : Headers) (path : String) (b : Stores)
    (token : String) (grant : AccessGrant) : Prop where
  presented : ∃ isDpop, presentedToken X headers = .ok (token, isDpop)
  granted : (b.issuer.store.getAccessGrant b.issuer.clock token).1 = some grant
  proven : ∀ jkt ∈ grant.dpopJkt, Proven app headers path (some token) b.issuer.clock jkt

lemma authorizeResource_ok {path token : String}
    (h : ((authorizeResource app headers path).exec b).1 = .ok token) :
    ∃ grant, Authorized app headers path b token grant := by
  unfold authorizeResource at h
  split at h
  · simp at h
  · next token' isDpop hpresented =>
    rw [Prog.exec_call] at h
    cases hgrant : (Credential.Calls.getAccessGrant token' b).1 with
    | none => simp [hgrant] at h
    | some grant =>
      have hidle := idles_getAccessGrant token' b
      simp only [hgrant, checkPossession] at h
      split at h
      · -- a token that is bound, with the DPoP scheme
        next bound hbound =>
        simp only [Prog.exec_bind, Prog.exec_ret] at h
        have hproof := @dpopJkt_ok X app headers (Credential.Calls.getAccessGrant token' b).2 path
          (some token')
        generalize (dpopJkt app headers path (some token')).exec
          (Credential.Calls.getAccessGrant token' b).2 = proven at h hproof
        obtain ⟨answer, b₂⟩ := proven
        rcases answer with e | (_ | jkt)
        · simp [checkBoundKey] at h
        · simp [checkBoundKey] at h
        · simp only [checkBoundKey] at h
          split_ifs at h with hsame
          rw [Except.ok.injEq] at h
          rw [← h]
          refine ⟨grant, ⟨_, hpresented⟩, hgrant, fun j hj => ?_⟩
          rw [hbound, Option.mem_some_iff] at hj
          rw [← hj, ← hsame, ← hidle.clock]
          exact hproof rfl jkt rfl
      · simp at h
      · simp at h
      · -- a token that is not bound, as a bearer token
        next hunbound =>
        rw [Prog.exec_ret, Except.ok.injEq] at h
        rw [← h]
        refine ⟨grant, ⟨_, hpresented⟩, hgrant, fun j hj => ?_⟩
        rw [hunbound] at hj
        cases hj

lemma presentedToken_error {response : Response} (h : presentedToken X headers = .error response) :
    ∃ error description, response.body = .error error description := by
  unfold presentedToken at h
  simp only at h
  split_ifs at h
  rw [Except.error.injEq] at h
  rw [← h]
  exact ⟨_, _, rfl⟩

lemma checkBoundKey_error {token bound : String} {r : Except String (Option String)}
    {response : Response} (h : checkBoundKey token bound r = .error response) :
    ∃ error description, response.body = .error error description := by
  rcases r with e | (_ | jkt)
  · simp only [checkBoundKey, Except.error.injEq] at h
    rw [← h]
    exact ⟨_, _, rfl⟩
  · simp only [checkBoundKey, Except.error.injEq] at h
    rw [← h]
    exact ⟨_, _, rfl⟩
  · simp only [checkBoundKey] at h
    split_ifs at h
    rw [Except.error.injEq] at h
    rw [← h]
    exact ⟨_, _, rfl⟩

lemma authorizeResource_error {path : String} {response : Response}
    (h : ((authorizeResource app headers path).exec b).1 = .error response) :
    ∃ error description, response.body = .error error description := by
  unfold authorizeResource at h
  split at h
  · next response' hpresented =>
    rw [Prog.exec_ret, Except.error.injEq] at h
    rw [← h]
    exact presentedToken_error hpresented
  · next token isDpop hpresented =>
    rw [Prog.exec_call] at h
    cases hgrant : (Credential.Calls.getAccessGrant token b).1 with
    | none =>
      simp only [hgrant, Prog.exec_ret, Except.error.injEq] at h
      rw [← h]
      exact ⟨_, _, rfl⟩
    | some grant =>
      simp only [hgrant, checkPossession] at h
      split at h
      · simp only [Prog.exec_bind, Prog.exec_ret] at h
        exact checkBoundKey_error h
      · rw [Prog.exec_ret, Except.error.injEq] at h
        rw [← h]
        exact ⟨_, _, rfl⟩
      · rw [Prog.exec_ret, Except.error.injEq] at h
        rw [← h]
        exact ⟨_, _, rfl⟩
      · simp at h

lemma getAccessGrant_eq_some {s : InMemoryIssuerState} {now : ℤ} {token : String}
    {grant : AccessGrant} : (s.getAccessGrant now token).1 = some grant ↔
      ∃ entry, s.accessTokens.get token = some entry ∧ now < entry.expiresAt ∧
        entry.grant = grant := by
  unfold InMemoryIssuerState.getAccessGrant
  cases hentry : s.accessTokens.get token with
  | none => simp
  | some entry =>
    simp only [Option.some.injEq, exists_eq_left']
    split_ifs with halive
    · simp [halive]
    · simp [halive]

section Issued

variable {σ : Type} {ctx : IssuanceContext X σ} {configId : String} {config : CredentialConfiguration}
  {draws : RequestDraws}

/-- A credential that was issued under a configuration. -/
def IssuedUnder (ctx : IssuanceContext X σ) (configId : String) (config : CredentialConfiguration)
    (credential : JsonValue.Json) : Prop :=
  ∃ holderJwk draws b, ((issueCredential X configId config ctx holderJwk draws).exec b).1 =
    .ok credential

def credentialsOf (response : CredentialResponse) : List JsonValue.Json :=
  (response.credentials.getD []).map IssuedCredential.credential

lemma credentialsOf_credentialResponse (issued : List JsonValue.Json) :
    credentialsOf (credentialResponse issued) = issued := by
  simp [credentialsOf, credentialResponse, Function.comp_def]

lemma issueCredentials_issued {holderKeys : List Jwk} {issued : List JsonValue.Json}
    {b b' : Backend σ} {response : CredentialResponse}
    (hissued : ∀ credential ∈ issued, IssuedUnder ctx configId config credential)
    (h : (issueCredentials X configId config ctx draws holderKeys issued).exec b =
      (.ok response, b')) :
    ∀ credential ∈ credentialsOf response, IssuedUnder ctx configId config credential := by
  induction holderKeys generalizing issued b with
  | nil =>
    rw [issueCredentials, Prog.exec_ret, Prod.mk.injEq, Except.ok.injEq] at h
    rw [← h.1, credentialsOf_credentialResponse]
    exact hissued
  | cons holderJwk holderKeys ih =>
    rw [issueCredentials, Prog.exec_bind] at h
    cases hone : ((issueCredential X configId config ctx holderJwk
        (draws.credential issued.length)).exec b).1 with
    | error halt => simp [hone] at h
    | ok credential =>
      rw [hone] at h
      refine ih (fun c hc => ?_) h
      rcases List.mem_append.mp hc with hc | hc
      · exact hissued c hc
      · rw [List.mem_singleton.mp hc]
        exact ⟨_, _, _, hone⟩

end Issued

/-- **Credentials come out for a token that is authorized**, and of a configuration of its grant. -/
theorem credentialEndpoint_ok {request : CredentialRequest} {draws : RequestDraws}
    {response : CredentialResponse}
    (h : bodyOf ((credentialEndpoint app headers request draws).exec b).1 = some (.credential response)) :
    ∃ token grant configId config, Authorized app headers "/credential" b token grant ∧
      resolveConfiguration request grant app.metadata = .ok (configId, config) ∧
      ∀ credential ∈ credentialsOf response,
        IssuedUnder (issuanceContext app) configId config credential := by
  have hidle : Idle b ((authorizeResource app headers "/credential").exec b).2 :=
    idle_exec (within_authorizeResource checking_idles headers "/credential") b
  have hauthorized := @authorizeResource_ok X app headers b "/credential"
  have herror := @authorizeResource_error X app headers b "/credential"
  rw [credentialEndpoint, Prog.exec_bind] at h
  generalize (authorizeResource app headers "/credential").exec b = authorized
    at h hidle hauthorized herror
  obtain ⟨answer, b₁⟩ := authorized
  cases answer with
  | error response' =>
    obtain ⟨error, description, hbody⟩ := herror rfl
    simp [bodyOf, hbody] at h
  | ok token =>
    obtain ⟨grant, ha⟩ := hauthorized rfl
    obtain ⟨entry, hentry, halive, hgrant⟩ := getAccessGrant_eq_some.mp ha.granted
    refine ⟨token, grant, ?_⟩
    simp only [Prog.exec_bind, Prog.exec_ret] at h
    rw [processCredentialRequest_exec] at h
    cases hgrant' : (Credential.Calls.getAccessGrant token b₁).1 with
    | none => simp [hgrant', credentialAnswer, bodyOf, jsonError] at h
    | some grant' =>
      -- the token is looked up again, and it is the same
      obtain ⟨entry', hentry', -, hsame⟩ := getAccessGrant_eq_some.mp hgrant'
      have hkept := hidle.accessTokens token entry' hentry'
      rw [hentry, Option.some.injEq] at hkept
      rw [← hkept, hgrant] at hsame
      rw [← hsame] at hgrant'
      simp only [hgrant'] at h
      cases hcheck : checkRequest request (issuanceContext app).metadata grant with
      | error e => simp [hcheck, credentialAnswer, bodyOf, jsonError] at h
      | ok checked =>
        obtain ⟨configId, config, jwts⟩ := checked
        refine ⟨configId, config, ha, (checkRequest_ok hcheck).1, ?_⟩
        simp only [hcheck] at h
        cases hproofs : jwts.mapM fun jwt => verifyProofJwt X jwt (issuanceContext app).issuerUrl config
            b₁.issuer.clock with
        | error e => simp [hproofs, credentialAnswer, bodyOf, jsonError] at h
        | ok proofs =>
          simp only [hproofs] at h
          generalize hexec : (consumeNonces X configId config (issuanceContext app) draws
            (proofs.map Prod.fst) (draws.nonces (proofs.map Prod.snd))).exec
              (Credential.Calls.getAccessGrant token b₁).2 = after at h
          obtain ⟨answer, b₂⟩ := after
          rcases answer with (halt | - | -) | response'
          · simp [credentialAnswer, bodyOf, jsonError] at h
          · simp [credentialAnswer, bodyOf] at h
          · simp [credentialAnswer, bodyOf] at h
          · have hsame : response' = response := by simpa [credentialAnswer, bodyOf] using h
            rw [hsame] at hexec
            exact issueCredentials_issued (by simp) (consumeNonces_ok hexec).2

end Oid4vc.Effects
