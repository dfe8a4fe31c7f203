import Oid4vc.Crates
import Oid4vc.Issuer.State
import Oid4vc.Types.Oid4vci

/-!
The authorization endpoint: pushed authorization requests, consent, and PKCE.
-/

namespace Oid4vc.Authorization

open Oid4vc.Text Oid4vc.Fallible Oid4vc.PartialMap Oid4vc.External Oid4vc.Oid4vci
open Oid4vc.IssuerStore

inductive AuthorizationError
  | invalidCodeChallengeMethod
  | missingParameter (name : String)
  | unsupportedResponseType (responseType : String)
  | invalidScope
  | invalidAuthorizationDetails (msg : String)
  | invalidRequest (msg : String)
  | dpopJktMismatch
  | invalidRedirectUri
  | stateError (msg : String)
  | invalidAuthorizationCode
  | pkceVerificationFailed
  deriving DecidableEq

def AuthorizationError.toString : AuthorizationError → String
  | .invalidCodeChallengeMethod => "invalid code_challenge_method: must be S256"
  | .missingParameter name => "missing required parameter: " ++ name
  | .unsupportedResponseType responseType => "unsupported response_type: " ++ responseType
  | .invalidScope =>
    "no requested scope or authorization_details matches a supported credential"
  | .invalidAuthorizationDetails msg => "invalid authorization_details: " ++ msg
  | .invalidRequest msg => "invalid request: " ++ msg
  | .dpopJktMismatch => "dpop_jkt does not match the DPoP proof sent with the request"
  | .invalidRedirectUri => "invalid redirect_uri"
  | .stateError msg => "state error: " ++ msg
  | .invalidAuthorizationCode => "invalid authorization code"
  | .pkceVerificationFailed => "PKCE verification failed"

/-- How long a `request_uri` stays valid, in seconds. -/
def requestUriTtlSecs : ℕ := 60

/-- How long an authorization code stays valid, in seconds. -/
def authorizationCodeTtlSecs : ℕ := 60

/-- What the PAR endpoint learned from the request's headers. -/
structure ParContext where
  clientId : String
  dpopJkt : Option String

/-- The configuration that one entry of `authorization_details` asks for. -/
def detailConfiguration (metadata : CredentialIssuerMetadata) (detail : AuthorizationDetail) :
    Except AuthorizationError String := do
  ensure (detail.detailType = "openid_credential")
    (.invalidAuthorizationDetails ("unsupported type '" ++ detail.detailType ++ "'"))
  let id ← okOr (.invalidAuthorizationDetails "credential_configuration_id is required")
    detail.credentialConfigurationId
  ensure ((metadata.credentialConfigurationsSupported.lookup id).isSome = true)
    (.invalidAuthorizationDetails ("unknown credential_configuration_id '" ++ id ++ "'"))
  pure id

def scopeConfigurations (scopes : List String) (metadata : CredentialIssuerMetadata) :
    List String :=
  let ids := (metadata.credentialConfigurationsSupported.filter fun entry =>
    entry.2.scope.any fun scope => scopes.contains scope).map Prod.fst
  ids.mergeSort fun a b => decide (a ≤ b)

/-- Work out which credential configurations a request is asking for, and whether it asks
with `authorization_details`. -/
def requestedConfigurations (request : PushedAuthorizationRequest)
    (metadata : CredentialIssuerMetadata) : Except AuthorizationError (List String × Bool) :=
  match request.authorizationDetails with
  | some details => do
    let ids ← details.mapM (detailConfiguration metadata)
    ensure (ids ≠ []) (.invalidAuthorizationDetails "authorization_details is empty")
    pure (ids, true)
  | none => do
    let ids := scopeConfigurations (splitWhitespace (request.scope.getD "")) metadata
    ensure (ids ≠ []) .invalidScope
    pure (ids, false)

/-- The key the access token must be bound to: that of the proof sent with the request, or
the one the request names. -/
def boundKey (param proof : Option String) : Except AuthorizationError (Option String) :=
  match param, proof with
  | some param, some proof => if param ≠ proof then .error .dpopJktMismatch else .ok (some proof)
  | param, none => .ok param
  | none, some proof => .ok (some proof)

/-- Every check of a pushed request: the key to bind, the configurations, and whether they
are asked for with `authorization_details`. -/
def checkPar (request : PushedAuthorizationRequest) (ctx : ParContext)
    (metadata : CredentialIssuerMetadata) :
    Except AuthorizationError (Option String × List String × Bool) := do
  ensure (request.requestUri = none)
    (.invalidRequest "request_uri is not allowed at the PAR endpoint")
  ensure (request.clientId = ctx.clientId)
    (.invalidRequest "client_id does not match the authenticated client")
  let dpopJkt ← boundKey request.dpopJkt ctx.dpopJkt
  ensure (request.responseType = "code") (.unsupportedResponseType request.responseType)
  ensure (request.codeChallengeMethod = "S256") .invalidCodeChallengeMethod
  ensure (request.codeChallenge ≠ "") (.missingParameter "code_challenge")
  let (ids, viaDetails) ← requestedConfigurations request metadata
  pure (dpopJkt, ids, viaDetails)

variable (X : Crates)

/-- The session of a pushed request. -/
def newSession (request : PushedAuthorizationRequest) (requestUri : String) (createdAt : ℤ)
    (dpopJkt : Option String) (ids : List String) (viaDetails : Bool) :
    AuthorizationSession where
  requestUri := requestUri
  authorizationCode := none
  codeChallenge := request.codeChallenge
  clientId := request.clientId
  redirectUri := request.redirectUri
  credentialConfigurationIds := ids
  viaAuthorizationDetails := viaDetails
  issuerState := request.issuerState
  clientState := request.state
  createdAt := createdAt
  codeIssuedAt := none
  dpopJkt := dpopJkt
  consumed := false

/-- Process a pushed authorization request: store its session under a new `request_uri`. -/
def processPar (request : PushedAuthorizationRequest) (ctx : ParContext)
    (metadata : CredentialIssuerMetadata) (w : IssuerWorld) :
    Except AuthorizationError PushedAuthorizationResponse × IssuerWorld :=
  match checkPar request ctx metadata with
  | .error e => (.error e, w)
  | .ok (dpopJkt, ids, viaDetails) =>
    let requestUri := "urn:ietf:params:oauth:request_uri:" ++ X.uuid w.drawn
    let session := newSession request requestUri w.clock dpopJkt ids viaDetails
    (.ok ⟨requestUri, requestUriTtlSecs⟩,
      { w with
        drawn := w.drawn + 1
        store := w.store.storeAuthorizationSession requestUri session })

/-- Generate an authorization code for a session, after user consent. -/
def generateAuthorizationCode (requestUri : String) (w : IssuerWorld) :
    Except AuthorizationError String × IssuerWorld :=
  let code := X.uuid w.drawn
  match w.store.setAuthorizationCode w.clock requestUri code with
  | (.error e, store) =>
    (.error (.stateError e.toString), { w with drawn := w.drawn + 1, store := store })
  | (.ok (), store) => (.ok code, { w with drawn := w.drawn + 1, store := store })

/-- Verify a PKCE code verifier against the stored code challenge. -/
def verifyPkce (codeVerifier codeChallenge : String) : Bool :=
  X.base64UrlEncode (X.sha256 (utf8 codeVerifier)) == codeChallenge

end Oid4vc.Authorization
