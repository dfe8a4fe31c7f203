import Oid4vc.Base.Atomic
import Oid4vc.Issuer.Authorization

/-!
The token endpoint: authorization code and pre-authorized code exchange.

A token request is a program over the store, the clock and the source of identifiers.
-/

namespace Oid4vc.Token

open Oid4vc.Text Oid4vc.Fallible Oid4vc.Instant Oid4vc.PartialMap Oid4vc.Atomic Oid4vc.External
open Oid4vc.Oid4vci Oid4vc.IssuerStore Oid4vc.Authorization

/-- Access token lifetime, in seconds. -/
def accessTokenTtlSecs : ℕ := 3600

inductive TokenError
  | invalidGrantType (grantType : String)
  | invalidCode
  | codeConsumed
  | pkceVerificationFailed
  | clientMismatch
  | invalidPreAuthorizedCode
  | invalidClient (msg : String)
  | dpopRequired
  | dpopKeyMismatch
  | stateError (msg : String)
  deriving DecidableEq

def TokenError.toString : TokenError → String
  | .invalidGrantType grantType => "invalid grant type: " ++ grantType
  | .invalidCode => "invalid or expired authorization code"
  | .codeConsumed => "authorization code already consumed"
  | .pkceVerificationFailed => "PKCE verification failed"
  | .clientMismatch => "the authorization code was issued to a different client or redirect_uri"
  | .invalidPreAuthorizedCode => "invalid pre-authorized code or transaction code"
  | .invalidClient msg => "client authentication failed: " ++ msg
  | .dpopRequired => "a DPoP proof is required"
  | .dpopKeyMismatch => "the DPoP key does not match the one bound at authorization"
  | .stateError msg => "state error: " ++ msg

def TokenError.statusAndCode : TokenError → ℕ × String
  | .invalidCode | .codeConsumed | .pkceVerificationFailed | .clientMismatch
  | .invalidPreAuthorizedCode | .dpopKeyMismatch => (400, "invalid_grant")
  | .invalidGrantType _ => (400, "unsupported_grant_type")
  | .invalidClient _ => (401, "invalid_client")
  | .dpopRequired => (400, "invalid_request")
  | .stateError _ => (500, "server_error")

/-- What the token endpoint established from the request's headers. -/
structure TokenContext where
  authenticatedClient : Option String
  dpopJkt : Option String

abbrev Answer := Except TokenError TokenResponse

namespace Calls

variable (X : Crates)

def readClock (w : IssuerWorld) : ℤ × IssuerWorld := (w.clock, w)

/-- Draw this many identifiers. -/
def newUuids (n : ℕ) (w : IssuerWorld) : List String × IssuerWorld :=
  ((List.range n).map fun i => X.uuid (w.drawn + i), { w with drawn := w.drawn + n })

def getSessionByCode (code : String) (w : IssuerWorld) :
    Option AuthorizationSession × IssuerWorld := (w.store.getSessionByCode code, w)

def consumeAuthorizationCode (code : String) (w : IssuerWorld) : Unit × IssuerWorld :=
  ((), { w with store := w.store.consumeAuthorizationCode code })

def recordTokenForCode (code accessToken : String) (w : IssuerWorld) : Unit × IssuerWorld :=
  ((), { w with store := w.store.recordTokenForCode code accessToken })

def revokeTokensForCode (code : String) (w : IssuerWorld) : Unit × IssuerWorld :=
  ((), { w with store := w.store.revokeTokensForCode code })

def redeemPreAuthorizedCode (code : String) (txCode : Option String) (w : IssuerWorld) :
    Option (List String) × IssuerWorld :=
  ((w.store.redeemPreAuthorizedCode code txCode).1,
    { w with store := (w.store.redeemPreAuthorizedCode code txCode).2 })

def storeAccessToken (token : String) (grant : AccessGrant) (expiresIn : ℕ) (w : IssuerWorld) :
    Unit × IssuerWorld :=
  ((), { w with store := w.store.storeAccessToken w.clock token grant expiresIn })

end Calls

variable (X : Crates)

/-- The credential identifiers of a token: one for each configuration, in order. -/
def credentialIdentifiers (configIds uuids : List String) : List (String × String) :=
  List.zipWith (fun configId uuid => (configId ++ ":" ++ uuid, configId)) configIds uuids

def authorizedDetail (identifier : String × String) : AuthorizedDetail where
  detailType := "openid_credential"
  credentialConfigurationId := identifier.2
  credentialIdentifiers := [identifier.1]

/-- The identifiers of a token whose own identifier is drawn first: none unless the client
asked with `authorization_details`. -/
def tokenIdentifiers (configIds : List String) (viaAuthorizationDetails : Bool)
    (uuids : List String) : List (String × String) :=
  if viaAuthorizationDetails then credentialIdentifiers configIds uuids.tail else []

def tokenGrant (configIds : List String) (viaAuthorizationDetails : Bool)
    (dpopJkt : Option String) (uuids : List String) : AccessGrant where
  credentialConfigurationIds := configIds
  credentialIdentifiers := (tokenIdentifiers configIds viaAuthorizationDetails uuids).reverse
  dpopJkt := dpopJkt

def tokenResponse (configIds : List String) (viaAuthorizationDetails : Bool)
    (dpopJkt : Option String) (uuids : List String) : TokenResponse where
  accessToken := uuids.headD ""
  tokenType := if dpopJkt.isSome then "DPoP" else "Bearer"
  expiresIn := accessTokenTtlSecs
  authorizationDetails :=
    if viaAuthorizationDetails then
      some ((tokenIdentifiers configIds viaAuthorizationDetails uuids).map authorizedDetail)
    else none

/-- Store a token under the identifiers drawn for it. -/
def storeToken (configIds : List String) (viaAuthorizationDetails : Bool)
    (dpopJkt : Option String) (uuids : List String) : Prog IssuerWorld TokenResponse :=
  let response := tokenResponse configIds viaAuthorizationDetails dpopJkt uuids
  .call (Calls.storeAccessToken response.accessToken
    (tokenGrant configIds viaAuthorizationDetails dpopJkt uuids) accessTokenTtlSecs) fun _ =>
    .ret response

/-- Mint an access token for these configurations. With `authorization_details` each of them
gets a credential identifier. -/
def issueAccessToken (configIds : List String) (viaAuthorizationDetails : Bool)
    (dpopJkt : Option String) : Prog IssuerWorld TokenResponse :=
  .call (Calls.newUuids X (1 + if viaAuthorizationDetails then configIds.length else 0))
    (storeToken configIds viaAuthorizationDetails dpopJkt)

/-- The code is bound to the client and the redirect URI it was issued for, to the PKCE
challenge, and to the key bound at PAR if there was one. Answers the key of the token. -/
def checkRedemption (request : TokenRequest) (ctx : TokenContext) (clientId : String)
    (session : AuthorizationSession) (issuedAt now : ℤ) : Except TokenError String := do
  ensure (¬ (authorizationCodeTtlSecs : ℤ) < numSeconds (now - issuedAt)) .invalidCode
  ensure (session.clientId = clientId) .clientMismatch
  ensure (request.redirectUri = some session.redirectUri) .clientMismatch
  let codeVerifier ← okOr .pkceVerificationFailed request.codeVerifier
  ensure (verifyPkce X codeVerifier session.codeChallenge = true) .pkceVerificationFailed
  let dpopJkt ← okOr .dpopRequired ctx.dpopJkt
  ensure (∀ bound ∈ session.dpopJkt, bound = dpopJkt) .dpopKeyMismatch
  pure dpopJkt

/-- Record the token minted from the code, and answer with it. -/
def recordToken (code : String) (response : TokenResponse) : Prog IssuerWorld Answer :=
  .call (Calls.recordTokenForCode code response.accessToken) fun _ => .ret (.ok response)

/-- Mint a token for the session, and record it for the code. -/
def mintToken (code : String) (session : AuthorizationSession) (dpopJkt : String) :
    Prog IssuerWorld Answer :=
  (issueAccessToken X session.credentialConfigurationIds session.viaAuthorizationDetails
    (some dpopJkt)).bind (recordToken code)

/-- Mark the code as consumed, then mint. -/
def consumeCode (code : String) (session : AuthorizationSession) (dpopJkt : String) :
    Prog IssuerWorld Answer :=
  .call (Calls.consumeAuthorizationCode code) fun _ => mintToken X code session dpopJkt

/-- A replayed code revokes what it already minted. -/
def replayedCode (code : String) : Prog IssuerWorld Answer :=
  .call (Calls.revokeTokensForCode code) fun _ => .ret (.error .codeConsumed)

/-- Redeem a code of this age, if the request is entitled to. -/
def redeemCode (request : TokenRequest) (ctx : TokenContext) (clientId code : String)
    (session : AuthorizationSession) (issuedAt : ℤ) : Prog IssuerWorld Answer :=
  .call Calls.readClock fun now =>
    match checkRedemption X request ctx clientId session issuedAt now with
    | .error e => .ret (.error e)
    | .ok dpopJkt => consumeCode X code session dpopJkt

/-- What becomes of a request whose code has this session. -/
def useSession (request : TokenRequest) (ctx : TokenContext) (clientId code : String)
    (session : AuthorizationSession) : Prog IssuerWorld Answer :=
  if session.consumed = true then replayedCode code
  else
    match session.codeIssuedAt with
    | none => .ret (.error .invalidCode)
    | some issuedAt => redeemCode X request ctx clientId code session issuedAt

def lookUpCode (request : TokenRequest) (ctx : TokenContext) (clientId code : String) :
    Prog IssuerWorld Answer :=
  .call (Calls.getSessionByCode code) fun
    | none => .ret (.error .invalidCode)
    | some session => useSession X request ctx clientId code session

def processAuthorizationCodeGrant (request : TokenRequest) (ctx : TokenContext) :
    Prog IssuerWorld Answer :=
  match ctx.authenticatedClient with
  | none => .ret (.error (.invalidClient "client attestation is required"))
  | some clientId =>
    match request.code with
    | none => .ret (.error .invalidCode)
    | some code => lookUpCode X request ctx clientId code

def processPreAuthorizedCodeGrant (request : TokenRequest) (ctx : TokenContext) :
    Prog IssuerWorld Answer :=
  match request.preAuthorizedCode with
  | none => .ret (.error .invalidPreAuthorizedCode)
  | some preAuthCode =>
    .call (Calls.redeemPreAuthorizedCode preAuthCode request.txCode) fun
      | none => .ret (.error .invalidPreAuthorizedCode)
      | some configIds =>
        (issueAccessToken X configIds false ctx.dpopJkt).bind fun response => .ret (.ok response)

/-- A `client_id` parameter must name the authenticated client. -/
def namesOtherClient (request : TokenRequest) (ctx : TokenContext) : Bool :=
  match request.clientId, ctx.authenticatedClient with
  | some param, some authenticated => param != authenticated
  | _, _ => false

def processTokenRequest (request : TokenRequest) (ctx : TokenContext) :
    Prog IssuerWorld Answer :=
  if namesOtherClient request ctx = true then
    .ret (.error (.invalidClient "client_id does not match the authenticated client"))
  else if request.grantType = "authorization_code" then
    processAuthorizationCodeGrant X request ctx
  else if request.grantType = "urn:ietf:params:oauth:grant-type:pre-authorized_code" then
    processPreAuthorizedCodeGrant X request ctx
  else .ret (.error (.invalidGrantType request.grantType))

variable {X}

lemma checkRedemption_ne {request : TokenRequest} {ctx : TokenContext} {clientId : String}
    {session : AuthorizationSession} {issuedAt now : ℤ} {e : TokenError}
    (h : checkRedemption X request ctx clientId session issuedAt now = .error e) :
    e ≠ .codeConsumed := by
  rintro rfl
  simp [checkRedemption, bind_eq_error] at h

end Oid4vc.Token
