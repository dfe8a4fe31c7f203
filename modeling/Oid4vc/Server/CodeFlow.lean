import Oid4vc.Crypto.KeyIdentity
import Oid4vc.Server.Consent
import Oid4vc.Server.Honest

/-!
A wallet that follows the authorization code flow is served.

Its client is attested and pushes a request, its user approves it, and the client redeems the code;
then it asks for a nonce, and for the credential. The requests carry DPoP proofs of one key.
-/

namespace Oid4vc.CodeFlow

open Oid4vc.Fallible Oid4vc.Run Oid4vc.PartialMap Oid4vc.Atomic Oid4vc.Instant Oid4vc.External
open Oid4vc.JsonValue Oid4vc.Jwks Oid4vc.Oid4vci Oid4vc.IssuerStore Oid4vc.Dpop
open Oid4vc.ClientAttestation Oid4vc.Authorization Oid4vc.Token Oid4vc.Endpoints Oid4vc.Credential
open Oid4vc.Processing Oid4vc.Manager Oid4vc.Server Oid4vc.IssuerRoutes Oid4vc.Requests
open Oid4vc.Effects Oid4vc.Consent Oid4vc.Honest

variable {X : Crates} {app : AppState X} {b b' b'' : Stores} {headers : Headers}

/-! ### What is remembered -/

/-- Nothing is remembered under the key. -/
def Unseen (b : Stores) (key : String) : Prop := b.issuer.store.seenJtis.get key = none

/-- Time stands still, so many identifiers are drawn, and these keys may be new. -/
structure Follows (b b' : Stores) (drawn : ℕ) (keys : List String) : Prop where
  clock : b'.issuer.clock = b.issuer.clock
  status : b'.status = b.status
  drawn : b'.issuer.drawn = b.issuer.drawn + drawn
  unseen : ∀ key ∉ keys, Unseen b key → Unseen b' key

lemma Follows.trans {m n : ℕ} {keys keys' : List String} (h : Follows b b' m keys)
    (h' : Follows b' b'' n keys') : Follows b b'' (m + n) (keys ++ keys') where
  clock := h'.clock.trans h.clock
  status := h'.status.trans h.status
  drawn := by rw [h'.drawn, h.drawn, Nat.add_assoc]
  unseen key hkey hunseen := by
    rw [List.mem_append, not_or] at hkey
    exact h'.unseen key hkey.2 (h.unseen key hkey.1 hunseen)

/-- The stores once the key is recorded. -/
def recorded (key : String) (ttl : ℕ) (b : Stores) : Stores :=
  { b with
    issuer := { b.issuer with
      store := { b.issuer.store with
        seenJtis := (b.issuer.store.remembered b.issuer.clock).insert key
          (b.issuer.clock + seconds ttl) } } }

lemma remembered_of_unseen {key : String} (h : Unseen b key) :
    (b.issuer.store.remembered b.issuer.clock).get key = none := by
  unfold Unseen at h
  simp [InMemoryIssuerState.remembered, h]

lemma follows_recorded (key : String) (ttl : ℕ) : Follows b (recorded key ttl b) 0 [key] where
  clock := rfl
  status := rfl
  drawn := rfl
  unseen key' hkey hunseen := by
    have hne : key' ≠ key := fun h => hkey (List.mem_singleton.mpr h)
    exact (get_insert_of_ne _ _ hne).trans (remembered_of_unseen hunseen)

lemma recordJti_of_unseen {key : String} (h : Unseen b key) (ttl : ℕ) :
    b.issuer.store.recordJti b.issuer.clock key ttl = (true, (recorded key ttl b).issuer.store) := by
  have hnot : ¬ (b.issuer.store.remembered b.issuer.clock).containsKey key = true := by
    rw [PMap.containsKey, remembered_of_unseen h]
    exact Bool.false_ne_true
  rw [InMemoryIssuerState.recordJti, if_neg hnot]
  rfl

lemma popKey_ne_jtiKey (clientId jti jti' : String) : popKey clientId jti ≠ jtiKey jti' := by
  have hpop : "attestation-pop:".toList =
      ['a', 't', 't', 'e', 's', 't', 'a', 't', 'i', 'o', 'n', '-', 'p', 'o', 'p', ':'] := rfl
  have hdpop : "dpop:".toList = ['d', 'p', 'o', 'p', ':'] := rfl
  intro h
  have hhead : (popKey clientId jti).toList.head? = (jtiKey jti').toList.head? := by rw [h]
  unfold popKey jtiKey at hhead
  rw [String.toList_append, String.toList_append, String.toList_append, String.toList_append, hpop,
    hdpop] at hhead
  simp at hhead

/-! ### What the client proves -/

/-- The headers attest the client, with a PoP of this `jti`. -/
def AttestedBy (app : AppState X) (headers : Headers) (now : ℤ) (client : AttestedClient)
    (jti : String) : Prop :=
  ∃ attestation pop, headerText X headers "oauth-client-attestation" = some attestation ∧
    headerText X headers "oauth-client-attestation-pop" = some pop ∧
    checkClientAttestation X now attestation pop app.clientAttesters app.issuerId = .ok (client, jti)

/-- The headers carry a DPoP proof of the key, of this `jti`. -/
def ProvenBy (app : AppState X) (headers : Headers) (path : String) (accessToken : Option String)
    (now : ℤ) (jkt jti : String) : Prop :=
  ∃ value proof, getAll headers "dpop" = [value] ∧ X.headerToStr value = .ok proof ∧
    checkDpopProof X now proof (dpopContext app path accessToken) = .ok (jti, jkt)

lemma exec_attestedClient_recorded {client : AttestedClient} {jti : String}
    (h : AttestedBy app headers b.issuer.clock client jti)
    (hnew : Unseen b (popKey client.clientId jti)) :
    (attestedClient app headers).exec b = (.ok (some client),
      recorded (popKey client.clientId jti) (popMaxAgeSecs + skewSecs) b) := by
  obtain ⟨attestation, pop, hattestation, hpop, hcheck⟩ := h
  refine exec_attestedClient hattestation hpop ?_
  rw [verifyClientAttestation, hcheck]
  simp only [recordJti_of_unseen hnew]
  rfl

lemma exec_dpopJkt_recorded {path : String} {accessToken : Option String} {jkt jti : String}
    (h : ProvenBy app headers path accessToken b.issuer.clock jkt jti)
    (hnew : Unseen b (jtiKey jti)) : (dpopJkt app headers path accessToken).exec b =
      (.ok (some jkt), recorded (jtiKey jti) (maxAgeSecs + maxSkewSecs) b) := by
  obtain ⟨value, proof, hvalue, hproof, hcheck⟩ := h
  rw [dpopJkt, hvalue]
  simp only [hproof, Prog.exec_call, Credential.Calls.readClock, onStore, onIssuer, Prog.through,
    verifyDpopProof, hcheck, recordJti_of_unseen hnew, Prog.exec_ret]
  rfl

/-- A client that is attested and proves a key leaves only what is remembered of it. -/
lemma exec_client {client : AttestedClient} {path jkt jti jti' : String}
    (hclient : AttestedBy app headers b.issuer.clock client jti)
    (hproof : ProvenBy app headers path none b.issuer.clock jkt jti')
    (hnew : Unseen b (popKey client.clientId jti)) (hnew' : Unseen b (jtiKey jti')) :
    ∃ b₁ b₂, (attestedClient app headers).exec b = (.ok (some client), b₁) ∧
      (dpopJkt app headers path none).exec b₁ = (.ok (some jkt), b₂) ∧
      Follows b b₂ 0 [popKey client.clientId jti, jtiKey jti'] ∧
      { b₂.issuer.store with seenJtis := b.issuer.store.seenJtis } = b.issuer.store := by
  set b₁ := recorded (popKey client.clientId jti) (popMaxAgeSecs + skewSecs) b with hb₁
  have hfirst : Follows b b₁ 0 [popKey client.clientId jti] := follows_recorded _ _
  -- the PoP is recorded first, under a key of the other kind
  have hunseen : Unseen b₁ (jtiKey jti') := by
    refine hfirst.unseen _ (fun h => ?_) hnew'
    exact popKey_ne_jtiKey _ _ _ (List.mem_singleton.mp h).symm
  exact ⟨b₁, _, exec_attestedClient_recorded hclient hnew, exec_dpopJkt_recorded hproof hunseen,
    hfirst.trans (follows_recorded _ _), rfl⟩

/-! ### From the request to the nonce -/

/-- The request is stored. -/
lemma step_par {client : AttestedClient} {request : PushedAuthorizationRequest}
    {jkt jti jti' : String} {bound : Option String} {ids : List String} {viaDetails : Bool}
    (hclient : AttestedBy app headers b.issuer.clock client jti)
    (hproof : ProvenBy app headers "/authorize/par" none b.issuer.clock jkt jti')
    (hnew : Unseen b (popKey client.clientId jti)) (hnew' : Unseen b (jtiKey jti'))
    (hcheck : checkPar request ⟨client.clientId, some jkt⟩ app.metadata = .ok (bound, ids, viaDetails))
    (hb' : ((server app).step b (.request (.par headers request))).1 = b') :
    Follows b b' 1 [popKey client.clientId jti, jtiKey jti'] ∧
      b'.issuer.store.sessions.get (newRequestUri X b.issuer) =
        some (newSession request (newRequestUri X b.issuer) b.issuer.clock bound ids viaDetails) := by
  obtain ⟨b₁, b₂, hexec, hexec', hfollows, -⟩ := exec_client hclient hproof hnew hnew'
  have hpar : ((server app).step b (.request (.par headers request))).1 =
      { b₂ with issuer := pushed X request bound ids viaDetails b₂.issuer } := by
    rw [step_request, handle, exec_parEndpoint hexec hexec' hcheck]
  rw [hpar] at hb'
  have hsession : b'.issuer.store.sessions.get (newRequestUri X b₂.issuer) =
      some (newSession request (newRequestUri X b₂.issuer) b₂.issuer.clock bound ids viaDetails) := by
    rw [← hb']
    simp only [pushed, InMemoryIssuerState.storeAuthorizationSession, get_insert_self]
  have huri : newRequestUri X b₂.issuer = newRequestUri X b.issuer := by
    unfold newRequestUri
    rw [hfollows.drawn, Nat.add_zero]
  rw [huri, hfollows.clock] at hsession
  have hstored : Follows b₂ b' 1 [] := by
    rw [← hb']
    exact ⟨rfl, rfl, rfl, fun key _ h => h⟩
  exact ⟨hfollows.trans hstored, hsession⟩

/-- The user approves, and the code is stored. -/
lemma step_approve {uri clientId : String} {session : AuthorizationSession}
    (hget : b.issuer.store.sessions.get uri = some session) (huri : session.requestUri = uri)
    (hundecided : Undecided X b ⟨uri, clientId, "approve"⟩)
    (hb' : ((server app).step b (choice uri clientId "approve")).1 = b') :
    Follows b b' 1 [] ∧ b'.issuer.store.getSessionByCode (X.uuid b.issuer.drawn) =
      some { session with
        authorizationCode := some (X.uuid b.issuer.drawn)
        codeIssuedAt := some b.issuer.clock } := by
  obtain ⟨resolved, target, hresolves⟩ := undecided_iff.mp hundecided
  obtain ⟨hstored, -⟩ := session_of_resolves hresolves
  rw [hget, Option.some.injEq] at hstored
  rw [← hstored] at hresolves
  have hdecided : ((server app).step b (choice uri clientId "approve")).1 =
      { b with issuer := (generateAuthorizationCode X uri b.issuer).2 } := by
    rw [choice, step_request, handle, authorizeDecision, Prog.exec_call]
    simp only [onIssuer, Prog.through, hresolves.1, recordChoice, hresolves.2, if_true,
      Prog.exec_call, huri]
    cases (generateAuthorizationCode X uri b.issuer).1 <;> rfl
  rcases generateAuthorizationCode_cases (X := X) uri b.issuer with ⟨hnone, -⟩ | ⟨stored, hsome, heq⟩
  · rw [hget] at hnone
    cases hnone
  · rw [hget, Option.some.injEq] at hsome
    rw [hdecided, heq] at hb'
    rw [← hb', ← hsome]
    refine ⟨⟨rfl, rfl, rfl, fun key _ h => h⟩, ?_⟩
    simp [InMemoryIssuerState.getSessionByCode]

lemma exec_processTokenRequest_code {w : IssuerWorld} {request : TokenRequest} {ctx : TokenContext}
    {clientId code jkt : String} {session : AuthorizationSession} {issuedAt : ℤ}
    (hcode : Endpoints.Redeems request code) (hclient : ctx.authenticatedClient = some clientId)
    (hnamed : namesOtherClient request ctx = false)
    (hsession : w.store.getSessionByCode code = some session) (hunused : session.consumed = false)
    (hissued : session.codeIssuedAt = some issuedAt)
    (hcheck : checkRedemption X request ctx clientId session issuedAt w.clock = .ok jkt) :
    ((processTokenRequest X request ctx).exec w).2 = redeemed X w code session jkt := by
  rw [processTokenRequest, hnamed, if_neg Bool.false_ne_true, if_pos hcode.1,
    processAuthorizationCodeGrant, hclient, hcode.2]
  simp only [lookUpCode, Prog.exec_call, Token.Calls.getSessionByCode, hsession, useSession, hunused,
    if_neg Bool.false_ne_true, hissued, redeemCode, Token.Calls.readClock, hcheck, exec_consumeCode]

/-- The code is redeemed for a token that is bound to the key. -/
lemma step_token {client : AttestedClient} {request : TokenRequest} {code jkt jti jti' : String}
    {session : AuthorizationSession} {issuedAt : ℤ}
    (hclient : AttestedBy app headers b.issuer.clock client jti)
    (hproof : ProvenBy app headers "/token" none b.issuer.clock jkt jti')
    (hnew : Unseen b (popKey client.clientId jti)) (hnew' : Unseen b (jtiKey jti'))
    (hcode : Endpoints.Redeems request code)
    (hnamed : namesOtherClient request ⟨some client.clientId, some jkt⟩ = false)
    (hsession : b.issuer.store.getSessionByCode code = some session)
    (hunused : session.consumed = false) (hissued : session.codeIssuedAt = some issuedAt)
    (hdetails : session.viaAuthorizationDetails = false)
    (hcheck : checkRedemption X request ⟨some client.clientId, some jkt⟩ client.clientId session
      issuedAt b.issuer.clock = .ok jkt)
    (hb' : ((server app).step b (.request (.token headers request))).1 = b') :
    Follows b b' 1 [popKey client.clientId jti, jtiKey jti'] ∧
      b'.issuer.store.accessTokens.get (X.uuid b.issuer.drawn) =
        some ⟨⟨session.credentialConfigurationIds, [], some jkt⟩,
          b.issuer.clock + seconds accessTokenTtlSecs⟩ := by
  obtain ⟨b₁, b₂, hexec, hexec', hfollows, hstore⟩ := exec_client hclient hproof hnew hnew'
  have hsession' : b₂.issuer.store.getSessionByCode code = some session := by
    rw [← hsession, ← hstore]
    rfl
  rw [← hfollows.clock] at hcheck
  have hprocessed := exec_processTokenRequest_code (X := X) hcode rfl hnamed hsession' hunused hissued
    hcheck
  have htoken : ((server app).step b (.request (.token headers request))).1 =
      withIssuer b₂ (redeemed X b₂.issuer code session jkt) := by
    rw [step_request, handle, tokenEndpoint, Prog.exec_bind, hexec]
    simp only [Prog.exec_bind, hexec', exec_onWorld, Option.map_some, hprocessed, Prog.exec_ret]
  rw [htoken] at hb'
  have hdrawn : (redeemed X b₂.issuer code session jkt).drawn = b₂.issuer.drawn + 1 := by
    simp [redeemed, minted, tokenUuids, hdetails]
  -- no identifiers of credentials are drawn, since the request had no `authorization_details`
  have hgrant : tokenGrant session.credentialConfigurationIds session.viaAuthorizationDetails (some jkt)
      (drawnUuids X { b₂.issuer with store := b₂.issuer.store.consumeAuthorizationCode code }
        session.credentialConfigurationIds session.viaAuthorizationDetails) =
      ⟨session.credentialConfigurationIds, [], some jkt⟩ := by
    rw [hdetails]
    rfl
  have hget : (redeemed X b₂.issuer code session jkt).store.accessTokens.get (X.uuid b₂.issuer.drawn) =
      some ⟨⟨session.credentialConfigurationIds, [], some jkt⟩,
        b₂.issuer.clock + seconds accessTokenTtlSecs⟩ := by
    rw [← hgrant]
    exact get_insert_self _ _ _
  -- redeeming a code remembers no `jti`
  have hseen : (redeemed X b₂.issuer code session jkt).store.seenJtis = b₂.issuer.store.seenJtis := by
    unfold redeemed minted InMemoryIssuerState.consumeAuthorizationCode
    simp only [InMemoryIssuerState.recordTokenForCode, InMemoryIssuerState.storeAccessToken]
    split <;> rfl
  rw [hfollows.drawn, Nat.add_zero, hfollows.clock] at hget
  have hminted : Follows b₂ b' 1 [] := by
    rw [← hb']
    exact ⟨rfl, rfl, hdrawn, fun key _ h => (congrArg (PMap.get · key) hseen).trans h⟩
  refine ⟨hfollows.trans hminted, ?_⟩
  rw [← hb']
  exact hget

lemma step_nonce (hb' : ((server app).step b (.request .nonce)).1 = b') :
    Follows b b' 1 [] ∧ b'.issuer.store.accessTokens = b.issuer.store.accessTokens ∧
      Valid b'.issuer.store b'.issuer.clock (X.uuid b.issuer.drawn) := by
  rw [← hb']
  exact ⟨⟨rfl, rfl, rfl, fun key _ h => h⟩, rfl, valid_newNonce b.issuer⟩

/-! ### The flow -/

/-- A token that is bound to a key is presented with a proof of the key. -/
lemma exec_authorizeResource_dpop {path token jkt jti : String} {entry : TokenEntry}
    (hpresented : presentedToken X headers = .ok (token, true))
    (hentry : b.issuer.store.accessTokens.get token = some entry)
    (halive : b.issuer.clock < entry.expiresAt) (hbound : entry.grant.dpopJkt = some jkt)
    (hproof : ProvenBy app headers path (some token) b.issuer.clock jkt jti)
    (hnew : Unseen b (jtiKey jti)) : (authorizeResource app headers path).exec b =
      (.ok token, recorded (jtiKey jti) (maxAgeSecs + maxSkewSecs) b) := by
  unfold authorizeResource
  rw [hpresented]
  simp only [Prog.exec_call, getAccessGrant_alive hentry halive, checkPossession, hbound,
    Prog.exec_bind, exec_dpopJkt_recorded hproof hnew, Prog.exec_ret, checkBoundKey, if_true]

/-- **What the wallet sends**, and what it proves with it. -/
structure Flow (app : AppState X) (b : Stores) where
  client : AttestedClient
  jkt : String
  configId : String
  config : CredentialConfiguration
  push : PushedAuthorizationRequest
  codeVerifier : String
  parHeaders : Headers
  tokenHeaders : Headers
  credentialHeaders : Headers
  parPop : String
  tokenPop : String
  parJti : String
  tokenJti : String
  credentialJti : String
  offered : app.metadata.credentialConfigurationsSupported.lookup configId = some config
  checked : checkPar push ⟨client.clientId, some jkt⟩ app.metadata = .ok (some jkt, [configId], false)
  redirectUri : (X.urlParse push.redirectUri).isSome = true
  pkce : verifyPkce X codeVerifier push.codeChallenge = true
  attestedPar : AttestedBy app parHeaders b.issuer.clock client parPop
  attestedToken : AttestedBy app tokenHeaders b.issuer.clock client tokenPop
  provenPar : ProvenBy app parHeaders "/authorize/par" none b.issuer.clock jkt parJti
  provenToken : ProvenBy app tokenHeaders "/token" none b.issuer.clock jkt tokenJti
  provenCredential : ProvenBy app credentialHeaders "/credential" (some (X.uuid (b.issuer.drawn + 2)))
    b.issuer.clock jkt credentialJti
  presented : presentedToken X credentialHeaders = .ok (X.uuid (b.issuer.drawn + 2), true)
  newPops : popKey client.clientId tokenPop ≠ popKey client.clientId parPop
  newJtis : [jtiKey parJti, jtiKey tokenJti, jtiKey credentialJti].Nodup
  unseen : ∀ key ∈ [popKey client.clientId parPop, popKey client.clientId tokenPop, jtiKey parJti,
    jtiKey tokenJti, jtiKey credentialJti], Unseen b key

namespace Flow

variable (f : Flow app b)

/-- The token request for the code. -/
def redemption : TokenRequest where
  grantType := "authorization_code"
  code := some (X.uuid (b.issuer.drawn + 1))
  redirectUri := some f.push.redirectUri
  codeVerifier := some f.codeVerifier
  clientId := none
  preAuthorizedCode := none
  txCode := none

/-- What comes before the credential request. -/
def inputs : List Input :=
  [.request (.par f.parHeaders f.push),
    choice (newRequestUri X b.issuer) f.push.clientId "approve",
    .request (.token f.tokenHeaders f.redemption), .request .nonce]

/-- **The wallet gets ready**: it has a token that is bound to its key, and a nonce. -/
theorem ready : ∃ keys, jtiKey f.credentialJti ∉ keys ∧
    Follows b (run (server app) b f.inputs) 4 keys ∧
    (run (server app) b f.inputs).issuer.store.accessTokens.get (X.uuid (b.issuer.drawn + 2)) =
      some ⟨⟨[f.configId], [], some f.jkt⟩, b.issuer.clock + seconds accessTokenTtlSecs⟩ ∧
    Valid (run (server app) b f.inputs).issuer.store (run (server app) b f.inputs).issuer.clock
      (X.uuid (b.issuer.drawn + 3)) := by
  obtain ⟨hpops, hjtis, hunseen⟩ := And.intro f.newPops (And.intro f.newJtis f.unseen)
  simp only [List.nodup_cons, List.mem_cons, List.not_mem_nil, or_false, not_or] at hjtis
  simp only [List.mem_cons, List.not_mem_nil, or_false, forall_eq_or_imp, forall_eq] at hunseen
  obtain ⟨⟨hpartoken, hparask⟩, htokenask, -⟩ := hjtis
  obtain ⟨hparPop, htokenPop, hparJti, htokenJti, -⟩ := hunseen
  rw [inputs, run_cons, run_cons, run_cons, run_cons, run_nil]
  generalize hb₁ : ((server app).step b (.request (.par f.parHeaders f.push))).1 = b₁
  obtain ⟨hfollows₁, hsession⟩ := step_par f.attestedPar f.provenPar hparPop hparJti f.checked hb₁
  -- the user is asked about the request that was pushed
  have hundecided : Undecided X b₁ ⟨newRequestUri X b.issuer, f.push.clientId, "approve"⟩ :=
    undecided_of_get hsession rfl hfollows₁.clock rfl f.redirectUri
  generalize hb₂ : ((server app).step b₁ (choice (newRequestUri X b.issuer) f.push.clientId
    "approve")).1 = b₂
  obtain ⟨hfollows₂, hcode⟩ := step_approve hsession rfl hundecided hb₂
  have hupto := hfollows₁.trans hfollows₂
  rw [hfollows₁.drawn] at hcode
  -- the code is redeemed by the client that pushed the request, with the same key
  have hclientId : f.push.clientId = f.client.clientId := by
    have hcheck := f.checked
    simp only [checkPar, bind_eq_ok, ensure_eq_ok, exists_unit] at hcheck
    exact hcheck.2.1
  have hcheck : checkRedemption X f.redemption ⟨some f.client.clientId, some f.jkt⟩ f.client.clientId
      { newSession f.push (newRequestUri X b.issuer) b.issuer.clock (some f.jkt) [f.configId] false with
        authorizationCode := some (X.uuid (b.issuer.drawn + 1))
        codeIssuedAt := some b₁.issuer.clock } b₁.issuer.clock b₂.issuer.clock = .ok f.jkt := by
    have hage : ¬ (authorizationCodeTtlSecs : ℤ) < numSeconds (b₂.issuer.clock - b₁.issuer.clock) := by
      rw [hfollows₂.clock, Int.sub_self]
      decide
    simp only [checkRedemption, bind_eq_ok, ensure_eq_ok, okOr_eq_ok, exists_unit, pure_eq_ok]
    exact ⟨hage, hclientId, rfl, f.codeVerifier, rfl, f.pkce, f.jkt, rfl,
      fun bound h => (Option.some.inj h).symm, rfl⟩
  have hattested := f.attestedToken
  have hproven := f.provenToken
  rw [← hupto.clock] at hattested hproven
  have htokenPop' : Unseen b₂ (popKey f.client.clientId f.tokenPop) := by
    refine hupto.unseen _ (fun h => ?_) htokenPop
    simp only [List.append_nil, List.mem_cons, List.not_mem_nil, or_false] at h
    exact h.elim hpops (popKey_ne_jtiKey _ _ _)
  have htokenJti' : Unseen b₂ (jtiKey f.tokenJti) := by
    refine hupto.unseen _ (fun h => ?_) htokenJti
    simp only [List.append_nil, List.mem_cons, List.not_mem_nil, or_false] at h
    exact h.elim (popKey_ne_jtiKey _ _ _ ·.symm) (hpartoken ·.symm)
  generalize hb₃ : ((server app).step b₂ (.request (.token f.tokenHeaders f.redemption))).1 = b₃
  obtain ⟨hfollows₃, htoken⟩ := step_token hattested hproven htokenPop' htokenJti' ⟨rfl, rfl⟩ rfl hcode
    rfl rfl rfl hcheck hb₃
  generalize hb₄ : ((server app).step b₃ (.request .nonce)).1 = b₄
  obtain ⟨hfollows₄, htokens, hvalid⟩ := step_nonce hb₄
  have hall := (hupto.trans hfollows₃).trans hfollows₄
  rw [(hupto.trans hfollows₃).drawn] at hvalid
  rw [hupto.drawn, hupto.clock] at htoken
  rw [← htokens] at htoken
  refine ⟨_, fun h => ?_, hall, htoken, hvalid⟩
  simp only [List.append_nil, List.mem_append, List.mem_cons, List.not_mem_nil, or_false] at h
  rcases h with (h | h) | h | h
  · exact popKey_ne_jtiKey _ _ _ h.symm
  · exact hparask h.symm
  · exact popKey_ne_jtiKey _ _ _ h.symm
  · exact htokenask h.symm

/-- **The wallet is served**: with a credential of the configuration that it pushed, for the holder of
the key that it proved. -/
theorem served {vct proof : String} {holderJwk : Jwk} {status : Option Json} {m : StatusManager}
    {draws : RequestDraws} (hformat : f.config.format = "dc+sd-jwt") (hvct : f.config.vct = some vct)
    (hproof : verifyProofJwt X proof app.issuerId f.config b.issuer.clock =
      .ok (holderJwk, X.uuid (b.issuer.drawn + 3)))
    (hbatch : 1 ≤ batchLimit app.metadata)
    (halloc : allocateStatus app (draws.credential 0).index b.status = some (.ok status, m))
    (hsign : ∀ m, ∃ s, app.primaryKey.sign m = .ok s) : ∃ credential b',
      (server app).step (run (server app) b f.inputs)
          (.request (.credential f.credentialHeaders (asking f.configId proof) draws)) =
        (b', some (.response ⟨200, [], .credential (credentialResponse [credential])⟩)) := by
  obtain ⟨keys, hkey, hfollows, hentry, hvalid⟩ := f.ready
  generalize run (server app) b f.inputs = b₁ at hfollows hentry hvalid ⊢
  have halive : b₁.issuer.clock < b.issuer.clock + seconds accessTokenTtlSecs := by
    have hpos : 0 < seconds accessTokenTtlSecs := by decide
    rw [hfollows.clock]
    omega
  have hproven := f.provenCredential
  rw [← hfollows.clock] at hproven hproof
  have hunseen : Unseen b₁ (jtiKey f.credentialJti) :=
    hfollows.unseen _ hkey (f.unseen _ (by simp))
  have hauthorized := exec_authorizeResource_dpop f.presented hentry halive rfl hproven hunseen
  set b₂ := recorded (jtiKey f.credentialJti) (maxAgeSecs + maxSkewSecs) b₁ with hb₂
  have hgranted : Credential.Calls.getAccessGrant (X.uuid (b.issuer.drawn + 2)) b₂ =
      (some ⟨[f.configId], [], some f.jkt⟩, b₂) := getAccessGrant_alive (b := b₂) hentry halive
  -- there is one proof, so one nonce to consume
  have hwalk : draws.nonces [X.uuid (b.issuer.drawn + 3)] = [X.uuid (b.issuer.drawn + 3)] :=
    nonces_eq_singleton (List.cons_ne_nil _ _) fun n hn => List.mem_singleton.mp hn
  have hspentStatus : (spendAll b₂ [X.uuid (b.issuer.drawn + 3)]).status = b.status := hfollows.status
  obtain ⟨credential, hissued, -⟩ := @issueSdJwtCredential_allocated X _ f.configId f.config
    (issuanceContext app) vct (draws.credential 0) status m
    (spendAll b₂ [X.uuid (b.issuer.drawn + 3)]) hformat hvct (by rw [hspentStatus]; exact halloc) hsign
    holderJwk
  have hissuance : (issueCredentials X f.configId f.config (issuanceContext app) draws
      ([(holderJwk, X.uuid (b.issuer.drawn + 3))].map Prod.fst) []).exec
        (spendAll b₂ (draws.nonces ([(holderJwk, X.uuid (b.issuer.drawn + 3))].map Prod.snd))) =
      (.ok (credentialResponse [credential]),
        { spendAll b₂ [X.uuid (b.issuer.drawn + 3)] with status := m }) := by
    rw [List.map_cons, List.map_cons, List.map_nil, List.map_nil, hwalk,
      exec_issueCredentials_cons hissued]
    rfl
  have hexec := exec_credentialEndpoint_of_verified hauthorized hgranted
    (checkRequest_askingAll f.offered rfl List.mem_cons_self (List.cons_ne_nil proof []) hbatch)
    (.cons hproof .nil) (fun p hp => by rw [List.mem_singleton.mp hp]; exact hvalid) hissuance
  refine ⟨credential, { spendAll b₂ [X.uuid (b.issuer.drawn + 3)] with status := m }, ?_⟩
  rw [step_request, handle, asking, hexec]

end Flow

section Sample

open Oid4vc.Text Oid4vc.Codecs Oid4vc.CborBytes Oid4vc.Keys Oid4vc.X509 Oid4vc.SelfSigned
open Oid4vc.Tables Oid4vc.KeyIdentity Oid4vc.Wallet Oid4vc.Attested Oid4vc.Batch Oid4vc.Redemption
open Oid4vc.Tokens

def trustedX : ℕ := 0x2cb54fcaf7e964e8d7317a7c501848cb1d8eadd1829180d56b481f74e9fa6a3c

def trustedY : ℕ := 0xf40c663af8e5fc37fa3a15bab42f7ce7ecb4a031470729de6fe6551bb95b77b6

def clientJwk : Jwk := holderJwk holderX holderY none

/-- The `jti` of a PoP or a DPoP proof of the client. -/
def flowJti (i : ℕ) : String := "0b7f9a52-3c41-4d0e-9d6a-77c1f0e4a3b" ++ i.repr

def flowAth : String := "szi8kq5KP5ePwz49bESBcUwE4HGpb48mogbfz90AB5A"

def flowContext (path : String) (accessToken : Option String) : DpopContext :=
  ⟨"POST", sampleUrl ++ path, accessToken⟩

/-- The claims of the DPoP proofs of a pushed request, a token request and a credential request. -/
def parClaims : Json := dpopClaims (flowContext "/authorize/par" none) 1767225600 (flowJti 3)

def tokenClaims : Json := dpopClaims (flowContext "/token" none) 1767225600 (flowJti 4)

def credentialClaims : Json :=
  boundDpopClaims flowAth (flowContext "/credential" (some (codeCrates.uuid 2))) 1767225600 (flowJti 5)

def popInput (jti : String) : Bytes := walletInput (popHeader .es256) (clientPop jti)

def dpopInput (claims : Json) : Bytes := walletInput (walletHeader "dpop+jwt" clientJwk) claims

/-- What the attester and the client sign, and the issuer. -/
def flowTable : Table :=
  { visitTable with
    digests := (utf8 codeVerifier, codeDigest) ::
      (utf8 (codeCrates.uuid 2),
        bigEndian 32 0xb338bc92ae4a3f978fc33e3d6c4481714c04e071a96f8f26a206dfcfdd000790) ::
      visitTable.digests
    signatures :=
      ((bigEndian 32 trustedX, bigEndian 32 trustedY),
        [(walletInput attestationHeader (attestationClaims clientJwk),
          bigEndian 32 0xd86ba3f5f39aa5ccd1712533123cc107179ce54f3f90d92b1a01913f6e25059a ++
            bigEndian 32 0x53e1f2547611c23e10227511b9ec99afa3afff0dc5cb9ccd9bcebd0b20906845)]) ::
      ((bigEndian 32 holderX, bigEndian 32 holderY),
        [(popInput (flowJti 1),
          bigEndian 32 0x137c91ebdf74caac580a38dd132832b623f06c7d01ba7e778e60d353545afd75 ++
            bigEndian 32 0x0f36ced818943f8cd8d1c81a2a3343fa6cf6462b3882dbd79092656c9eff9eee),
        (popInput (flowJti 2),
          bigEndian 32 0x0f0d9a8078340abe8c2aa64cdbae5ac5ebe5f919403a8776d456ab6f6487f251 ++
            bigEndian 32 0x908d11b01c43c304745ce50135a41e40628f6878051f580feb8b343e6fa05321),
        (dpopInput parClaims,
          bigEndian 32 0x2ad588f9b864ae1805452be8c792f1fcc42595839440a63575a10bb2611cf93c ++
            bigEndian 32 0xadff759efc31452a094ff65c7b3377022a681662213a376466da1ba22fcf225c),
        (dpopInput tokenClaims,
          bigEndian 32 0x919132810f90a48c41a5b9586c970641563dde9dc9e31a9bba005922b6a9ba92 ++
            bigEndian 32 0x6e6e8276ddda8459fac5e3a43059119c1362e37640a1ceb6f5499f42997fd806),
        (dpopInput credentialClaims,
          bigEndian 32 0x89e7107f0a0bd575f93162f2553d5b3099204fdfb6a35946d6e021959f17f260 ++
            bigEndian 32 0x9d260b818e829ce4f9b3cfc8b4d1cb23c83f914d3196eadc03b23809f6f587b9),
        (visitProofInput holderX holderY,
          bigEndian 32 0xc1e6becf3bb34a163270a81234db43d9717de606263ab1d31e0f95a229926d9d ++
            bigEndian 32 0xfcb050d55a4eef7a4269d92b676560dcb41d9b1de04049a7f534d31bc6de32f4)]) ::
      visitTable.signatures }

def flowCrates : Crates :=
  { flowTable.crates with
    base64Encode := base64
    zlib := fun bytes => .ok bytes
    urlParse := some
    urlJoin := fun base path => base ++ path
    urlWithoutQuery := id
    uuid := codeCrates.uuid
    certificateFromDer := (pki [] [] [] []).crates.certificateFromDer }

lemma parses_flowCrates : flowCrates.certificateFromDer signerDer = .ok signerCertificate := by
  have hfrom : flowCrates.certificateFromDer = (pki [] [] [] []).crates.certificateFromDer := rfl
  rw [hfrom]
  exact certificateFromDer_signer rfl

def flowSigner : IssuerCertificate flowCrates :=
  ⟨signerDer, signerCertificate, parses_flowCrates⟩

def flowApp : AppState flowCrates where
  metadata := ⟨sampleUrl, none, [("pid", visitConfiguration)]⟩
  primaryKey := (flowTable.key signerX signerY).toKeyPair flowCrates
  leaf := flowSigner
  mdocSigner := flowSigner
  externalUrl := sampleUrl
  issuerId := sampleUrl
  adminToken := "5c6ffbdd40d9556b73a21e63c3e0e904"
  clientAttesters := [holderJwk trustedX trustedY none]

def flowStores : Stores := freshStores flowApp (seconds 1767225600)

def flowAttestation : String :=
  signJwt flowCrates (flowTable.key trustedX trustedY) attestationHeader (attestationClaims clientJwk)

def flowPop (jti : String) : String :=
  signJwt flowCrates (flowTable.key holderX holderY) (popHeader .es256) (clientPop jti)

def flowProof (claims : Json) : String :=
  signJwt flowCrates (flowTable.key holderX holderY) (walletHeader "dpop+jwt" clientJwk) claims

def flowPossession : String :=
  signJwt flowCrates (flowTable.key holderX holderY) (walletHeader "openid4vci-proof+jwt" clientJwk)
    (possessionClaims sampleUrl (codeCrates.uuid 3) 1767225600)

/-- The headers of a client that is attested and proves its key. -/
def clientHeaders (jti : String) (claims : Json) : Headers :=
  [("oauth-client-attestation", utf8 flowAttestation),
    ("oauth-client-attestation-pop", utf8 (flowPop jti)), ("dpop", utf8 (flowProof claims))]

def resourceHeaders : Headers :=
  [("authorization", utf8 ("DPoP" ++ " " ++ codeCrates.uuid 2)),
    ("dpop", utf8 (flowProof credentialClaims))]

def flowPush : PushedAuthorizationRequest :=
  { parRequest with
    clientId := "wallet-client"
    scope := some "pid"
    authorizationDetails := none }

def flowClient : AttestedClient := ⟨"wallet-client", clientJwk⟩

lemma reading_flow : Reading flowCrates := reading_of_codecs rfl rfl rfl rfl rfl rfl

lemma headerValues_flow : HeaderValues flowCrates := ⟨headerValues_codecs.toStr⟩

lemma key_correct_flow (x y : ℕ) : (flowTable.key x y).Correct flowCrates :=
  Table.key_correct_of_eq (t := flowTable) (X := flowCrates) rfl rfl rfl x y

lemma injective_uuid_flow : Function.Injective flowCrates.uuid := codeCrates_uuid_injective

lemma injective_sha256_flow : Function.Injective flowCrates.sha256 := by
  have hsha : flowCrates.sha256 = extend flowTable.digests := rfl
  rw [hsha]
  exact extend_injective (by decide +kernel) (by decide +kernel)

lemma canonicalBase64Url_flow : CanonicalBase64Url flowCrates := by
  have hb64 := canonicalBase64Url_table flowTable
  exact ⟨⟨hb64.decode_encode, hb64.alphabet, hb64.nonempty⟩, hb64.encode_of_decode, hb64.unquoted⟩

lemma accessTokenHash_flow : accessTokenHash flowCrates (codeCrates.uuid 2) = flowAth := by
  decide +kernel

lemma attestedBy_flow (jti : String) (claims : Json) :
    AttestedBy flowApp (clientHeaders jti claims) (seconds 1767225600) flowClient jti := by
  have hencode : flowCrates.base64UrlEncode = Base64.encode '-' '_' := rfl
  refine ⟨flowAttestation, flowPop jti, ?_, ?_, ?_⟩
  · exact headerText_signJwt headerValues_flow hencode _ _ _
      (by simp [getAll, clientHeaders, flowAttestation])
  · exact headerText_signJwt headerValues_flow hencode _ _ _ (by simp [getAll, clientHeaders, flowPop])
  · simp only [checkClientAttestation, bind_eq_ok, pure_eq_ok]
    exact ⟨_, checkAttestation_signJwt reading_flow (key_correct_flow trustedX trustedY) clientJwk rfl, _,
      checkPop_signJwt reading_flow (key_correct_flow holderX holderY)
        (Table.key_signs (t := flowTable) holderX holderY)
        (holderJwk_publicMembers (t := flowTable) (X := flowCrates) rfl holderX holderY none) jti, rfl⟩

lemma provenBy_flow {headers : Headers} {path jti : String} {accessToken : Option String} {claims : Json}
    (hheader : getAll headers "dpop" = [utf8 (flowProof claims)])
    (hsorted : sortMembers claims = claims)
    (hchecked : checkClaims flowCrates (seconds 1767225600) claims (flowContext path accessToken) =
      .ok jti) :
    ProvenBy flowApp headers path accessToken (seconds 1767225600)
      (computeThumbprint flowCrates clientJwk) jti := by
  have hencode : flowCrates.base64UrlEncode = Base64.encode '-' '_' := rfl
  exact ⟨_, flowProof claims, hheader, headerValues_flow.toStr _ (visible_signJwt hencode _ _ _),
    checkDpopProof_signJwt reading_flow (key_correct_flow holderX holderY) hsorted hchecked⟩

lemma provenBy_par : ProvenBy flowApp (clientHeaders (flowJti 1) parClaims) "/authorize/par" none
    (seconds 1767225600) (computeThumbprint flowCrates clientJwk) (flowJti 3) := by
  have hheader : getAll (clientHeaders (flowJti 1) parClaims) "dpop" = [utf8 (flowProof parClaims)] := by
    simp [getAll, clientHeaders]
  exact provenBy_flow hheader (sortMembers_dpopClaims _ _ _)
    (checkClaims_dpopClaims rfl _ (by decide) (by decide) (by decide))

lemma provenBy_token : ProvenBy flowApp (clientHeaders (flowJti 2) tokenClaims) "/token" none
    (seconds 1767225600) (computeThumbprint flowCrates clientJwk) (flowJti 4) := by
  have hheader : getAll (clientHeaders (flowJti 2) tokenClaims) "dpop" =
      [utf8 (flowProof tokenClaims)] := by
    simp [getAll, clientHeaders]
  exact provenBy_flow hheader (sortMembers_dpopClaims _ _ _)
    (checkClaims_dpopClaims rfl _ (by decide) (by decide) (by decide))

lemma provenBy_credential : ProvenBy flowApp resourceHeaders "/credential" (some (codeCrates.uuid 2))
    (seconds 1767225600) (computeThumbprint flowCrates clientJwk) (flowJti 5) := by
  have hheader : getAll resourceHeaders "dpop" = [utf8 (flowProof credentialClaims)] := by
    simp [getAll, resourceHeaders]
  refine provenBy_flow hheader (sortMembers_boundDpopClaims _ _ _ _) ?_
  rw [credentialClaims, ← accessTokenHash_flow]
  exact checkClaims_boundDpopClaims rfl _ (by decide) (by decide) (by decide)

lemma presentedToken_flow :
    presentedToken flowCrates resourceHeaders = .ok (codeCrates.uuid 2, true) := by
  have hscheme : "DPoP".toList = ['D', 'P', 'o', 'P'] := rfl
  have hletters : (['D', 'P', 'o', 'P'].all fun c => decide (Visible c)) = true := rfl
  have hdpop : eqIgnoreAsciiCase "DPoP" "DPoP" = true := by decide
  have hall : getAll resourceHeaders "authorization" =
      [utf8 ("DPoP" ++ " " ++ codeCrates.uuid 2)] := by simp [getAll, resourceHeaders]
  have hpresented := presentedToken_of_scheme headerValues_flow hall
    (by rw [hscheme]; exact fun c hc => of_decide_eq_true (List.all_eq_true.mp hletters c hc))
    (by rw [hscheme]; decide) (.inl hdpop) visible_uuid notBlank_uuid uuid_ne_empty
  rwa [hdpop] at hpresented

lemma lookup_flow :
    flowApp.metadata.credentialConfigurationsSupported.lookup "pid" = some visitConfiguration :=
  List.lookup_cons_self

lemma checkPar_flow (jkt : String) : checkPar flowPush ⟨flowClient.clientId, some jkt⟩ flowApp.metadata =
    .ok (some jkt, ["pid"], false) := by
  have hids : requestedConfigurations flowPush flowApp.metadata = .ok (["pid"], false) := by
    have hscope : scopeConfigurations (splitWhitespace "pid") flowApp.metadata = ["pid"] := by
      decide +kernel
    have hasked : requestedConfigurations flowPush flowApp.metadata = (do
        ensure (scopeConfigurations (splitWhitespace "pid") flowApp.metadata ≠ []) .invalidScope
        pure (scopeConfigurations (splitWhitespace "pid") flowApp.metadata, false)) := rfl
    rw [hasked, hscope]
    rfl
  have hchallenge : flowPush.codeChallenge ≠ "" := by decide +kernel
  simp only [checkPar, bind_eq_ok, ensure_eq_ok, exists_unit, pure_eq_ok]
  exact ⟨rfl, rfl, some jkt, rfl, rfl, rfl, hchallenge, (["pid"], false), hids, rfl⟩

lemma pkce_flow : verifyPkce flowCrates codeVerifier codeChallenge = true := by decide +kernel

lemma isSome_redirectUri : (flowCrates.urlParse flowPush.redirectUri).isSome = true := rfl

lemma popKeys_ne : popKey flowClient.clientId (flowJti 2) ≠ popKey flowClient.clientId (flowJti 1) := by
  decide +kernel

lemma nodup_jtiKeys : [jtiKey (flowJti 3), jtiKey (flowJti 4), jtiKey (flowJti 5)].Nodup := by
  decide +kernel

lemma unseen_fresh (key : String) : Unseen flowStores key := rfl

/-- The flow of the client: it has one key, proves it with every request, and asks for the scope
`pid`. -/
def flow : Flow flowApp flowStores where
  client := flowClient
  jkt := computeThumbprint flowCrates clientJwk
  configId := "pid"
  config := visitConfiguration
  push := flowPush
  codeVerifier := codeVerifier
  parHeaders := clientHeaders (flowJti 1) parClaims
  tokenHeaders := clientHeaders (flowJti 2) tokenClaims
  credentialHeaders := resourceHeaders
  parPop := flowJti 1
  tokenPop := flowJti 2
  parJti := flowJti 3
  tokenJti := flowJti 4
  credentialJti := flowJti 5
  offered := lookup_flow
  checked := checkPar_flow _
  redirectUri := isSome_redirectUri
  pkce := pkce_flow
  attestedPar := attestedBy_flow _ _
  attestedToken := attestedBy_flow _ _
  provenPar := provenBy_par
  provenToken := provenBy_token
  provenCredential := provenBy_credential
  presented := presentedToken_flow
  newPops := popKeys_ne
  newJtis := nodup_jtiKeys
  unseen := fun key _ => unseen_fresh key

lemma verifyProofJwt_flow : verifyProofJwt flowCrates flowPossession sampleUrl visitConfiguration
    (seconds 1767225600) = .ok (clientJwk, codeCrates.uuid 3) :=
  verifyProofJwt_possession reading_flow (key_correct_flow holderX holderY) none _ (by decide) (by decide)
    (by decide) (by decide)

def flowAsking : Input :=
  .request (.credential resourceHeaders (asking "pid" flowPossession) visitDraws)

/-- **The client is served** when it has gone through the flow. -/
theorem flow_served : ∃ credential b',
    (server flowApp).step (run (server flowApp) flowStores flow.inputs) flowAsking =
      (b', some (.response ⟨200, [], .credential (credentialResponse [credential])⟩)) := by
  have hsign : ∀ m, ∃ s, flowApp.primaryKey.sign m = .ok s := fun m => ⟨_, rfl⟩
  obtain ⟨m, halloc⟩ := @allocateStatus_fresh flowCrates flowApp 7 (by decide)
  exact flow.served rfl rfl verifyProofJwt_flow (by decide) halloc hsign

end Sample

end Oid4vc.CodeFlow
