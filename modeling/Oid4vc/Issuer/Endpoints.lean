import Oid4vc.Base.Run
import Oid4vc.Issuer.Offer
import Oid4vc.Issuer.Token

/-!
The issuer as a machine: what its endpoints do to the store, one request after another, while
time goes on. What a token request does is told by its answer.
-/

namespace Oid4vc.Endpoints

open Oid4vc.Run Oid4vc.Fallible Oid4vc.Atomic Oid4vc.PartialMap Oid4vc.Instant Oid4vc.External
open Oid4vc.Oid4vci Oid4vc.IssuerStore Oid4vc.Authorization Oid4vc.Offer Oid4vc.Token

/-- A call of the issuer, or some nanoseconds that go by. -/
inductive Call
  | par (request : PushedAuthorizationRequest) (ctx : ParContext)
    (metadata : CredentialIssuerMetadata)
  | approve (requestUri : String)
  | offer (issuerUrl : String) (params : OfferParams) (txCode : Option String)
  | token (request : TokenRequest) (ctx : TokenContext)
  | nonce (expiresIn : ℕ)
  | accessGrant (token : String)
  | consumeNonce (nonce : String)
  | recordJti (key : String) (ttl : ℕ)
  | wait (nanoseconds : ℕ)

inductive CallAnswer
  | par (r : Except AuthorizationError PushedAuthorizationResponse)
  | approve (r : Except AuthorizationError String)
  | offer (offer : CredentialOffer)
  | token (r : Token.Answer)
  | nonce (nonce : String)
  | accessGrant (grant : Option AccessGrant)
  | consumeNonce (valid : Bool)
  | recordJti (new : Bool)
  | waited

/-- Store the pre-authorized code of an offer, so the token endpoint will accept it. -/
def storeOffer (params : OfferParams) (txCode code : Option String) (w : IssuerWorld) :
    IssuerWorld :=
  match code with
  | some code => { w with
      store := w.store.storePreAuthorizedCode code txCode params.credentialConfigurationIds }
  | none => w

def makeOffer (X : Crates) (issuerUrl : String) (params : OfferParams) (txCode : Option String)
    (w : IssuerWorld) : CredentialOffer × IssuerWorld :=
  let ((offer, code), w) := createOffer X issuerUrl params w
  (offer, storeOffer params txCode code w)

/-- Hand out a fresh, single-use nonce. -/
def newNonce (X : Crates) (expiresIn : ℕ) (w : IssuerWorld) : String × IssuerWorld :=
  (X.uuid w.drawn, { w with
    drawn := w.drawn + 1
    store := w.store.storeCNonce w.clock (X.uuid w.drawn) expiresIn })

def issuerMachine (X : Crates) : Machine IssuerWorld Call CallAnswer where
  step w
    | .par request ctx metadata =>
      ((processPar X request ctx metadata w).2, .par (processPar X request ctx metadata w).1)
    | .approve requestUri =>
      ((generateAuthorizationCode X requestUri w).2,
        .approve (generateAuthorizationCode X requestUri w).1)
    | .offer issuerUrl params txCode =>
      ((makeOffer X issuerUrl params txCode w).2, .offer (makeOffer X issuerUrl params txCode w).1)
    | .token request ctx =>
      (((processTokenRequest X request ctx).exec w).2,
        .token ((processTokenRequest X request ctx).exec w).1)
    | .nonce expiresIn => ((newNonce X expiresIn w).2, .nonce (newNonce X expiresIn w).1)
    | .accessGrant token =>
      ({ w with store := (w.store.getAccessGrant w.clock token).2 },
        .accessGrant (w.store.getAccessGrant w.clock token).1)
    | .consumeNonce nonce =>
      ({ w with store := (w.store.consumeCNonce w.clock nonce).2 },
        .consumeNonce (w.store.consumeCNonce w.clock nonce).1)
    | .recordJti key ttl =>
      ({ w with store := (w.store.recordJti w.clock key ttl).2 },
        .recordJti (w.store.recordJti w.clock key ttl).1)
    | .wait nanoseconds => ({ w with clock := w.clock + nanoseconds }, .waited)

/-! ### Token requests -/

/-- How many identifiers a token takes, its own among them. -/
def tokenUuids (ids : List String) (viaDetails : Bool) : ℕ :=
  1 + if viaDetails then ids.length else 0

/-- The identifiers drawn for a token. -/
def drawnUuids (X : Crates) (w : IssuerWorld) (ids : List String) (viaDetails : Bool) :
    List String := (Calls.newUuids X (tokenUuids ids viaDetails) w).1

/-- The world after a token was minted. -/
def minted (X : Crates) (w : IssuerWorld) (ids : List String) (viaDetails : Bool)
    (dpopJkt : Option String) : IssuerWorld :=
  { w with
    drawn := w.drawn + tokenUuids ids viaDetails
    store := w.store.storeAccessToken w.clock (X.uuid w.drawn)
      (tokenGrant ids viaDetails dpopJkt (drawnUuids X w ids viaDetails)) accessTokenTtlSecs }

/-- The world after a code was redeemed. -/
def redeemed (X : Crates) (w : IssuerWorld) (code : String) (session : AuthorizationSession)
    (jkt : String) : IssuerWorld :=
  let w' := minted X { w with store := w.store.consumeAuthorizationCode code }
    session.credentialConfigurationIds session.viaAuthorizationDetails (some jkt)
  { w' with store := w'.store.recordTokenForCode code (X.uuid w.drawn) }

/-- The request is one of the authorization code grant, and carries this code. -/
def Redeems (request : TokenRequest) (code : String) : Prop :=
  request.grantType = "authorization_code" ∧ request.code = some code

/-- The request is one of the pre-authorized code grant, and carries this code. -/
def RedeemsOffer (request : TokenRequest) (code : String) : Prop :=
  request.grantType = "urn:ietf:params:oauth:grant-type:pre-authorized_code" ∧
    request.preAuthorizedCode = some code

/-- **What a token request can do**: nothing, revoke what a replayed code has minted, or mint a
token from an authorization code or from a pre-authorized one. -/
inductive TokenOutcome (X : Crates) (request : TokenRequest) (ctx : TokenContext) (w : IssuerWorld) :
    Token.Answer → IssuerWorld → Prop
  | refused (e : TokenError) (h : e ≠ .codeConsumed) : TokenOutcome X request ctx w (.error e) w
  | replayed (code : String) (session : AuthorizationSession) (hcode : Redeems request code)
    (hsession : w.store.getSessionByCode code = some session) (hconsumed : session.consumed = true) :
    TokenOutcome X request ctx w (.error .codeConsumed)
      { w with store := w.store.revokeTokensForCode code }
  | redeemed (code clientId jkt : String) (session : AuthorizationSession) (issuedAt : ℤ)
    (hcode : Redeems request code) (hclient : ctx.authenticatedClient = some clientId)
    (hsession : w.store.getSessionByCode code = some session) (hunused : session.consumed = false)
    (hissued : session.codeIssuedAt = some issuedAt)
    (hcheck : checkRedemption X request ctx clientId session issuedAt w.clock = .ok jkt) :
    TokenOutcome X request ctx w
      (.ok (tokenResponse session.credentialConfigurationIds session.viaAuthorizationDetails
        (some jkt) (drawnUuids X w session.credentialConfigurationIds
          session.viaAuthorizationDetails)))
      (redeemed X w code session jkt)
  | preAuthorized (code : String) (entry : PreAuthEntry) (hcode : RedeemsOffer request code)
    (hentry : w.store.preAuthCodes.get code = some entry) (hunused : entry.consumed = false) :
    TokenOutcome X request ctx w
      (.ok (tokenResponse entry.credentialConfigurationIds false ctx.dpopJkt
        (drawnUuids X w entry.credentialConfigurationIds false)))
      (minted X { w with store := { w.store with
          preAuthCodes := w.store.preAuthCodes.insert code { entry with consumed := true } } }
        entry.credentialConfigurationIds false ctx.dpopJkt)

variable {X : Crates}

lemma headD_drawnUuids (w : IssuerWorld) (ids : List String) (viaDetails : Bool) :
    (drawnUuids X w ids viaDetails).headD "" = X.uuid w.drawn := by
  have hrange : List.range (tokenUuids ids viaDetails) =
      0 :: (List.range (if viaDetails then ids.length else 0)).map Nat.succ := by
    rw [tokenUuids, Nat.add_comm, List.range_succ_eq_map]
  unfold drawnUuids Calls.newUuids
  rw [hrange]
  simp

@[simp] lemma accessToken_drawnUuids (w : IssuerWorld) (ids : List String) (viaDetails : Bool)
    (jkt : Option String) : (tokenResponse ids viaDetails jkt
      (drawnUuids X w ids viaDetails)).accessToken = X.uuid w.drawn :=
  headD_drawnUuids w ids viaDetails

lemma exec_issueAccessToken (ids : List String) (viaDetails : Bool) (jkt : Option String)
    (w : IssuerWorld) : (issueAccessToken X ids viaDetails jkt).exec w =
      (tokenResponse ids viaDetails jkt (drawnUuids X w ids viaDetails),
        minted X w ids viaDetails jkt) := by
  rw [minted, ← accessToken_drawnUuids w ids viaDetails jkt]
  rfl

lemma exec_consumeCode (code : String) (session : AuthorizationSession) (jkt : String)
    (w : IssuerWorld) : (consumeCode X code session jkt).exec w =
      (.ok (tokenResponse session.credentialConfigurationIds session.viaAuthorizationDetails
        (some jkt) (drawnUuids X w session.credentialConfigurationIds
          session.viaAuthorizationDetails)), redeemed X w code session jkt) := by
  rw [consumeCode, Prog.exec_call, mintToken, Prog.exec_bind, exec_issueAccessToken, recordToken,
    Prog.exec_call, Prog.exec_ret, Calls.recordTokenForCode, accessToken_drawnUuids]
  rfl

lemma exec_lookUpCode {request : TokenRequest} {ctx : TokenContext} {clientId code : String}
    (hclient : ctx.authenticatedClient = some clientId) (hcode : Redeems request code)
    (w : IssuerWorld) :
    TokenOutcome X request ctx w ((lookUpCode X request ctx clientId code).exec w).1
      ((lookUpCode X request ctx clientId code).exec w).2 := by
  unfold lookUpCode
  rw [Prog.exec_call]
  simp only [Calls.getSessionByCode]
  cases hsession : w.store.getSessionByCode code with
  | none => exact .refused _ (by simp)
  | some session =>
    simp only [useSession]
    by_cases hconsumed : session.consumed = true
    · rw [if_pos hconsumed]
      exact .replayed code session hcode hsession hconsumed
    rw [if_neg hconsumed]
    cases hissued : session.codeIssuedAt with
    | none => exact .refused _ (by simp)
    | some issuedAt =>
      simp only [redeemCode, Prog.exec_call, Calls.readClock]
      cases hcheck : checkRedemption X request ctx clientId session issuedAt w.clock with
      | error e => exact .refused e (checkRedemption_ne hcheck)
      | ok jkt =>
        simp only [exec_consumeCode]
        exact .redeemed code clientId jkt session issuedAt hcode hclient hsession
          (by simpa using hconsumed) hissued hcheck

/-- **The outcome of a token request.** -/
theorem exec_processTokenRequest (request : TokenRequest) (ctx : TokenContext) (w : IssuerWorld) :
    TokenOutcome X request ctx w ((processTokenRequest X request ctx).exec w).1
      ((processTokenRequest X request ctx).exec w).2 := by
  unfold processTokenRequest
  split_ifs with hclient hgrant hpre
  · exact .refused _ (by simp)
  · unfold processAuthorizationCodeGrant
    cases hauth : ctx.authenticatedClient with
    | none => exact .refused _ (by simp)
    | some clientId =>
      cases hcode : request.code with
      | none => exact .refused _ (by simp)
      | some code => exact exec_lookUpCode hauth ⟨hgrant, hcode⟩ w
  · unfold processPreAuthorizedCodeGrant
    cases hcode : request.preAuthorizedCode with
    | none => exact .refused _ (by simp)
    | some code =>
      simp only [Prog.exec_call, Calls.redeemPreAuthorizedCode,
        InMemoryIssuerState.redeemPreAuthorizedCode]
      cases hentry : w.store.preAuthCodes.get code with
      | none => exact .refused _ (by simp)
      | some entry =>
        simp only
        split_ifs with hused
        · exact .refused _ (by simp)
        · rw [not_or] at hused
          simp only [Prog.exec_bind, exec_issueAccessToken, Prog.exec_ret]
          exact .preAuthorized code entry ⟨hpre, hcode⟩ hentry (by simpa using hused.1)
  · exact .refused _ (by simp)

/-! ### Granted requests -/

/-- The request is the one that the code is bound to: by its client and redirect URI, by the PKCE
challenge, and by the key of the pushed request if there was one. -/
structure Entitled (X : Crates) (request : TokenRequest) (ctx : TokenContext) (clientId : String)
    (session : AuthorizationSession) : Prop where
  owner : session.clientId = clientId
  redirectUri : request.redirectUri = some session.redirectUri
  pkce : ∃ codeVerifier, request.codeVerifier = some codeVerifier ∧
    verifyPkce X codeVerifier session.codeChallenge = true
  key : ∃ jkt, ctx.dpopJkt = some jkt ∧ ∀ bound ∈ session.dpopJkt, bound = jkt

lemma checkRedemption_ok_iff {request : TokenRequest} {ctx : TokenContext} {clientId : String}
    {session : AuthorizationSession} {issuedAt now : ℤ} :
    (∃ jkt, checkRedemption X request ctx clientId session issuedAt now = .ok jkt) ↔
      now < issuedAt + seconds (authorizationCodeTtlSecs + 1) ∧
        Entitled X request ctx clientId session := by
  have hage : ¬ (authorizationCodeTtlSecs : ℤ) < numSeconds (now - issuedAt) ↔
      now < issuedAt + seconds (authorizationCodeTtlSecs + 1) := by
    rw [Int.not_lt, numSeconds_le_iff]
    omega
  simp only [checkRedemption, bind_eq_ok, ensure_eq_ok, okOr_eq_ok, exists_unit, pure_eq_ok, hage]
  constructor
  · rintro ⟨jkt, hnow, howner, huri, codeVerifier, hverifier, hpkce, jkt', hjkt, hbound, -⟩
    exact ⟨hnow, howner, huri, ⟨codeVerifier, hverifier, hpkce⟩, jkt', hjkt, hbound⟩
  · rintro ⟨hnow, howner, huri, ⟨codeVerifier, hverifier, hpkce⟩, jkt, hjkt, hbound⟩
    exact ⟨jkt, hnow, howner, huri, codeVerifier, hverifier, hpkce, jkt, hjkt, hbound, rfl⟩

/-- A `client_id` parameter names the authenticated client, if there are both. -/
lemma namesOtherClient_iff {request : TokenRequest} {ctx : TokenContext} :
    ¬ namesOtherClient request ctx = true ↔
      ∀ param ∈ request.clientId, ∀ clientId ∈ ctx.authenticatedClient, param = clientId := by
  unfold namesOtherClient
  cases request.clientId with
  | none => simp
  | some param =>
    cases ctx.authenticatedClient with
    | none => simp
    | some clientId => simp

/-- **When an authorization code is granted a token.** -/
theorem redeems_ok_iff {request : TokenRequest} {ctx : TokenContext} {code : String}
    (hcode : Redeems request code) (w : IssuerWorld) :
    (∃ r, ((processTokenRequest X request ctx).exec w).1 = .ok r) ↔
      ∃ clientId session issuedAt, ctx.authenticatedClient = some clientId ∧
        (∀ param ∈ request.clientId, param = clientId) ∧
        w.store.getSessionByCode code = some session ∧ session.consumed = false ∧
        session.codeIssuedAt = some issuedAt ∧
        w.clock < issuedAt + seconds (authorizationCodeTtlSecs + 1) ∧
        Entitled X request ctx clientId session := by
  rw [processTokenRequest]
  -- the checks in the order in which the code makes them, each of them refusing
  by_cases hname : namesOtherClient request ctx = true
  · rw [if_pos hname]
    constructor
    · rintro ⟨r, hr⟩
      cases hr
    · rintro ⟨clientId, -, -, hclient, hparam, -⟩
      refine absurd hname (namesOtherClient_iff.mpr fun param hp clientId' hc => ?_)
      rw [hclient, Option.mem_some_iff] at hc
      rw [← hc]
      exact hparam param hp
  rw [if_neg hname, if_pos hcode.1, processAuthorizationCodeGrant]
  cases hclient : ctx.authenticatedClient with
  | none => simp
  | some clientId =>
    have hparam : ∀ param ∈ request.clientId, param = clientId := fun param hp =>
      namesOtherClient_iff.mp hname param hp clientId hclient
    simp only [hcode.2, lookUpCode, Prog.exec_call, Calls.getSessionByCode]
    cases hsession : w.store.getSessionByCode code with
    | none => simp
    | some session =>
      simp only [useSession]
      by_cases hconsumed : session.consumed = true
      · simp [hconsumed, replayedCode]
      rw [if_neg hconsumed]
      cases hissued : session.codeIssuedAt with
      | none =>
        simp only [Prog.exec_ret, reduceCtorEq, exists_false, false_iff]
        -- a session without a code was never approved
        rintro ⟨-, session', issuedAt, -, -, hsame, -, hissued', -⟩
        rw [Option.some.injEq] at hsame
        rw [← hsame, hissued] at hissued'
        cases hissued'
      | some issuedAt =>
        simp only [redeemCode, Prog.exec_call, Calls.readClock]
        cases hcheck : checkRedemption X request ctx clientId session issuedAt w.clock with
        | ok jkt =>
          have hgranted := checkRedemption_ok_iff.mp ⟨jkt, hcheck⟩
          simp only [exec_consumeCode]
          exact ⟨fun _ => ⟨clientId, session, issuedAt, rfl, hparam, rfl, by simpa using hconsumed,
            hissued, hgranted⟩, fun _ => ⟨_, rfl⟩⟩
        | error e =>
          simp only [Prog.exec_ret, reduceCtorEq, exists_false, false_iff]
          rintro ⟨clientId', session', issuedAt', hclient', -, hsame, -, hissued', hgranted⟩
          rw [Option.some.injEq] at hclient' hsame
          rw [← hsame, hissued, Option.some.injEq] at hissued'
          rw [← hclient', ← hsame, ← hissued'] at hgranted
          obtain ⟨jkt, hok⟩ := checkRedemption_ok_iff.mpr hgranted
          rw [hok] at hcheck
          cases hcheck

/-- **When a pre-authorized code is granted a token**: the transaction code is the one that the
offer bound, none if it bound none. -/
theorem redeemsOffer_ok_iff {request : TokenRequest} {ctx : TokenContext} {code : String}
    (hcode : RedeemsOffer request code) (w : IssuerWorld) :
    (∃ r, ((processTokenRequest X request ctx).exec w).1 = .ok r) ↔
      (∀ param ∈ request.clientId, ∀ clientId ∈ ctx.authenticatedClient, param = clientId) ∧
      ∃ entry, w.store.preAuthCodes.get code = some entry ∧ entry.consumed = false ∧
        entry.txCode = request.txCode := by
  have hgrant : request.grantType ≠ "authorization_code" := by
    rw [hcode.1]
    decide
  rw [processTokenRequest, ← namesOtherClient_iff]
  by_cases hname : namesOtherClient request ctx = true
  · simp [hname]
  rw [if_neg hname, if_neg hgrant, if_pos hcode.1, processPreAuthorizedCodeGrant,
    and_iff_right hname]
  simp only [hcode.2, Prog.exec_call, Calls.redeemPreAuthorizedCode,
    InMemoryIssuerState.redeemPreAuthorizedCode]
  cases hentry : w.store.preAuthCodes.get code with
  | none => simp
  | some entry =>
    simp only [Option.some.injEq, exists_eq_left']
    by_cases hused : entry.consumed = true ∨ entry.txCode ≠ request.txCode
    · rw [if_pos hused]
      simp only [Prog.exec_ret, reduceCtorEq, exists_false, false_iff]
      rintro ⟨hunused, htxCode⟩
      rcases hused with hconsumed | hne
      · rw [hunused] at hconsumed
        cases hconsumed
      · exact hne htxCode
    · rw [if_neg hused]
      rw [not_or, not_not] at hused
      simp only [Prog.exec_bind, exec_issueAccessToken, Prog.exec_ret]
      exact ⟨fun _ => ⟨by simpa using hused.1, hused.2⟩, fun _ => ⟨_, rfl⟩⟩

end Oid4vc.Endpoints
