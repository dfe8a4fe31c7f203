import Oid4vc.Base.Spending
import Oid4vc.Issuer.Credential
import Oid4vc.Issuer.Token

/-!
The calls that token requests and credential requests make.

Whatever holds of each call holds of all that such a request does, so it is shown for the calls.
-/

namespace Oid4vc.Effects

open Oid4vc.Fallible Oid4vc.Atomic Oid4vc.Spending Oid4vc.External Oid4vc.Jwks Oid4vc.Oid4vci
open Oid4vc.IssuerStore Oid4vc.Token Oid4vc.Credential

variable {X : Crates}

/-! ### Token requests -/

section Tokens

variable {D : Spending.Calls IssuerWorld}

/-- The calls that answer a token request, but for the one that redeems an offer. -/
structure GrantCalls (D : Spending.Calls IssuerWorld) (X : Crates) : Prop where
  readClock : D ℤ Token.Calls.readClock
  newUuids : ∀ n, D _ (Token.Calls.newUuids X n)
  getSessionByCode : ∀ code, D _ (Token.Calls.getSessionByCode code)
  consumeAuthorizationCode : ∀ code, D _ (Token.Calls.consumeAuthorizationCode code)
  recordTokenForCode : ∀ code token, D _ (Token.Calls.recordTokenForCode code token)
  revokeTokensForCode : ∀ code, D _ (Token.Calls.revokeTokensForCode code)
  storeAccessToken : ∀ token grant ttl, D _ (Token.Calls.storeAccessToken token grant ttl)

lemma within_issueAccessToken (hD : GrantCalls D X) (ids : List String) (viaDetails : Bool)
    (jkt : Option String) : Within D (issueAccessToken X ids viaDetails jkt) :=
  .call (hD.newUuids _) fun _ => .call (hD.storeAccessToken _ _ _) fun _ => .ret _

lemma within_useSession (hD : GrantCalls D X) (request : TokenRequest) (ctx : TokenContext)
    (clientId code : String) (session : AuthorizationSession) :
    Within D (useSession X request ctx clientId code session) := by
  unfold useSession
  split_ifs
  · exact .call (hD.revokeTokensForCode code) fun _ => .ret _
  · cases session.codeIssuedAt with
    | none => exact .ret _
    | some issuedAt =>
      refine .call hD.readClock fun now => ?_
      cases checkRedemption X request ctx clientId session issuedAt now with
      | error e => exact .ret _
      | ok jkt =>
        refine .call (hD.consumeAuthorizationCode code) fun _ => ?_
        refine (within_issueAccessToken hD _ _ _).bind fun response => ?_
        exact .call (hD.recordTokenForCode code _) fun _ => .ret _

lemma within_processAuthorizationCodeGrant (hD : GrantCalls D X) (request : TokenRequest)
    (ctx : TokenContext) : Within D (processAuthorizationCodeGrant X request ctx) := by
  unfold processAuthorizationCodeGrant
  cases ctx.authenticatedClient with
  | none => exact .ret _
  | some clientId =>
    cases request.code with
    | none => exact .ret _
    | some code =>
      refine .call (hD.getSessionByCode code) fun found => ?_
      cases found with
      | none => exact .ret _
      | some session => exact within_useSession hD request ctx clientId code session

/-- What calls a token request makes. -/
lemma within_processTokenRequest (hD : GrantCalls D X)
    (hredeem : ∀ code txCode, D _ (Token.Calls.redeemPreAuthorizedCode code txCode))
    (request : TokenRequest) (ctx : TokenContext) :
    Within D (processTokenRequest X request ctx) := by
  unfold processTokenRequest
  split_ifs
  · exact .ret _
  · exact within_processAuthorizationCodeGrant hD request ctx
  · unfold processPreAuthorizedCodeGrant
    cases request.preAuthorizedCode with
    | none => exact .ret _
    | some code =>
      refine .call (hredeem _ _) fun ids => ?_
      cases ids with
      | none => exact .ret _
      | some ids => exact (within_issueAccessToken hD _ _ _).bind fun response => .ret _
  · exact .ret _

end Tokens

/-! ### Credential requests -/

section Credentials

variable {σ : Type} {D : Spending.Calls (Backend σ)} {ctx : IssuanceContext X σ} {configId : String}
  {config : CredentialConfiguration}

/-- The calls that issue a credential: the clock, and the two allocators. -/
structure IssuingCalls (D : Spending.Calls (Backend σ)) (ctx : IssuanceContext X σ) : Prop where
  readClock : D ℤ Credential.Calls.readClock
  allocate : ∀ draws, D _ (Credential.Calls.allocate ctx.allocateStatus draws)
  allocateMdoc : ∀ signer ∈ ctx.mdoc, ∀ draws, D _ (Credential.Calls.allocate signer.allocateStatus draws)

lemma mdlSigner_ok {signer : MdocSigner X σ} {docType country : String}
    (h : mdlSigner X config ctx = .ok (signer, docType, country)) : ctx.mdoc = some signer := by
  simp only [mdlSigner, bind_eq_ok, okOr_eq_ok, ensure_eq_ok, exists_unit, pure_eq_ok,
    Prod.mk.injEq] at h
  obtain ⟨signer', hsigner, -, country', -, rfl, -⟩ := h
  exact hsigner

lemma within_issueCredential (hD : IssuingCalls D ctx) (holderJwk : Jwk) (draws : CredentialDraws) :
    Within D (issueCredential X configId config ctx holderJwk draws) := by
  unfold issueCredential
  split_ifs
  · unfold issueSdJwtCredential
    cases config.vct with
    | none => exact .ret _
    | some vct =>
      refine .call (hD.allocate _) fun answer => ?_
      rcases answer with _ | (e | status)
      · exact .ret _
      · exact .ret _
      · exact .call hD.readClock fun now => .ret _
  · unfold issueMdocCredential
    cases hsigner : mdlSigner X config ctx with
    | error e => exact .ret _
    | ok signer =>
      obtain ⟨signer, docType, country⟩ := signer
      refine .call hD.readClock fun now => ?_
      cases mdlRequest X signer.certificate docType country holderJwk now with
      | error e => exact .ret _
      | ok request =>
        refine .call (hD.allocateMdoc signer (mdlSigner_ok hsigner) _) fun answer => ?_
        rcases answer with _ | (e | status) <;> exact .ret _
  · exact .ret _

lemma within_issueCredentials (hD : IssuingCalls D ctx) (draws : RequestDraws) (holderKeys : List Jwk)
    (issued : List JsonValue.Json) :
    Within D (issueCredentials X configId config ctx draws holderKeys issued) := by
  induction holderKeys generalizing issued with
  | nil => exact .ret _
  | cons holderJwk holderKeys ih =>
    refine (within_issueCredential hD holderJwk _).bind fun answer => ?_
    cases answer with
    | error h => exact .ret _
    | ok credential => exact ih _

/-- What calls a credential request makes. -/
lemma within_processCredentialRequest (hD : IssuingCalls D ctx)
    (hgrant : ∀ token, D _ (Credential.Calls.getAccessGrant token))
    (hnonce : ∀ nonce, D _ (Credential.Calls.consumeCNonce nonce)) (request : CredentialRequest)
    (token : String) (draws : RequestDraws) :
    Within D (processCredentialRequest X request token ctx draws) := by
  refine .call (hgrant token) fun grant => ?_
  cases grant with
  | none => exact .ret _
  | some grant =>
    simp only
    cases checkRequest request ctx.metadata grant with
    | error e => exact .ret _
    | ok checked =>
      obtain ⟨configId, config, jwts⟩ := checked
      simp only
      generalize ([] : List (Jwk × String)) = verified
      induction jwts generalizing verified with
      | nil =>
        rw [verifyProofs]
        generalize verified.map Prod.fst = holderKeys
        induction draws.nonces (verified.map Prod.snd) with
        | nil => exact within_issueCredentials hD draws holderKeys []
        | cons nonce nonces ih =>
          refine .call (hnonce nonce) fun valid => ?_
          split_ifs
          · exact ih
          · exact .ret _
      | cons jwt jwts ih =>
        refine .call hD.readClock fun now => ?_
        split
        · exact .ret _
        · exact ih _

end Credentials

end Oid4vc.Effects
