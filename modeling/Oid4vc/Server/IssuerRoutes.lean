import Oid4vc.Issuer.ClientAttestation
import Oid4vc.Issuer.Endpoints
import Oid4vc.Server.Authorize
import Oid4vc.Server.Response

/-!
The routes of the issuer: pushed requests, consent, tokens, nonces, credentials and offers.

A handler is a program over the stores. What its request's body holds was parsed before it.
-/

namespace Oid4vc.IssuerRoutes

open Oid4vc.JsonValue Oid4vc.Text Oid4vc.Atomic Oid4vc.External Oid4vc.Mdoc Oid4vc.Oid4vci
open Oid4vc.IssuerStore Oid4vc.Dpop Oid4vc.ClientAttestation Oid4vc.Authorization Oid4vc.Token
open Oid4vc.Offer Oid4vc.Endpoints Oid4vc.Credential Oid4vc.Manager Oid4vc.Authorize Oid4vc.Server

variable {X : Crates} (app : AppState X)

/-! ### Client authentication and DPoP -/

def invalidClient (description : String) : Response := jsonError 401 "invalid_client" description

/-- Authenticate the client from its attestation headers: none if there are none. -/
def attestedClient (headers : Headers) : Prog Stores (Except Response (Option AttestedClient)) :=
  match headerText X headers "oauth-client-attestation",
    headerText X headers "oauth-client-attestation-pop" with
  | none, none => .ret (.ok none)
  | some attestation, some pop => .call Calls.readClock fun now =>
      .call (onStore fun recordedAt store => verifyClientAttestation X now recordedAt attestation pop
        app.clientAttesters app.issuerId store) fun
        | .ok client => .ret (.ok (some client))
        | .error e => .ret (.error (invalidClient e.toString))
  | _, _ => .ret (.error (invalidClient
      "OAuth-Client-Attestation and OAuth-Client-Attestation-PoP must be sent together"))

/-- What a DPoP proof for a request to `path` is checked against. -/
def dpopContext (path : String) (accessToken : Option String) : DpopContext where
  htm := "POST"
  htu := app.urlFor path
  accessToken := accessToken

/-- Verify the DPoP header for a request to `path`, if one was sent. -/
def dpopJkt (headers : Headers) (path : String) (accessToken : Option String) :
    Prog Stores (Except String (Option String)) :=
  match getAll headers "dpop" with
  | [] => .ret (.ok none)
  | [value] =>
    match X.headerToStr value with
    | .error e => .ret (.error e)
    | .ok proof => .call Calls.readClock fun now =>
        .call (onStore (verifyDpopProof X now · proof (dpopContext app path accessToken))) fun
          | .ok jkt => .ret (.ok (some jkt))
          | .error e => .ret (.error e.toString)
  | _ => .ret (.error "more than one DPoP header")

/-- Refuse access to a protected resource. -/
def unauthorized (scheme code description : String) : Response :=
  { jsonError 401 code description with
    headers := [("www-authenticate",
      scheme ++ " error=\x22" ++ code ++ "\x22, algs=\x22ES256 EdDSA\x22")] }

/-- The access token of a request, and whether it came with the DPoP scheme. -/
def presentedToken (X : Crates) (headers : Headers) : Except Response (String × Bool) :=
  let authorization := (headerText X headers "authorization").getD ""
  let (scheme, token) := (splitOnce ' ' authorization).getD ("", "")
  let token := trim token
  let isDpop := eqIgnoreAsciiCase scheme "DPoP"
  if token = "" ∨ ¬ (isDpop = true ∨ eqIgnoreAsciiCase scheme "Bearer" = true) then
    .error (unauthorized "DPoP" "invalid_token" "missing access token")
  else .ok (token, isDpop)

/-- The proof must be of the key that the token is bound to. -/
def checkBoundKey (token bound : String) : Except String (Option String) → Except Response String
  | .error e => .error (unauthorized "DPoP" "invalid_dpop_proof" e)
  | .ok none => .error (unauthorized "DPoP" "invalid_dpop_proof" "DPoP proof required")
  | .ok (some jkt) =>
    if jkt = bound then .ok token
    else .error (unauthorized "DPoP" "invalid_dpop_proof" "DPoP key does not match the access token")

/-- A token that is bound to a key comes with the DPoP scheme and a proof; one that is not, as a
bearer token. -/
def checkPossession (headers : Headers) (path token : String) (isDpop : Bool) (grant : AccessGrant) :
    Prog Stores (Except Response String) :=
  match grant.dpopJkt, isDpop with
  | some bound, true =>
    (dpopJkt app headers path (some token)).bind fun r => .ret (checkBoundKey token bound r)
  | some _, false => .ret (.error (unauthorized "DPoP" "invalid_token"
      "this access token is DPoP-bound; use the DPoP scheme"))
  | none, true => .ret (.error (unauthorized "Bearer" "invalid_token"
      "this access token is not DPoP-bound"))
  | none, false => .ret (.ok token)

/-- Authorize a request to a protected resource. Returns its access token. -/
def authorizeResource (headers : Headers) (path : String) : Prog Stores (Except Response String) :=
  match presentedToken X headers with
  | .error response => .ret (.error response)
  | .ok (token, isDpop) => .call (Calls.getAccessGrant token) fun
    | none => .ret (.error (unauthorized "DPoP" "invalid_token" "unknown or expired access token"))
    | some grant => checkPossession app headers path token isDpop grant

/-! ### Authorization: PAR, consent, redirect -/

/-- Error code of a pushed request that is refused. -/
def parErrorCode : AuthorizationError → String
  | .invalidScope => "invalid_scope"
  | .unsupportedResponseType _ => "unsupported_response_type"
  | .invalidAuthorizationDetails _ => "invalid_authorization_details"
  | .dpopJktMismatch => "invalid_dpop_proof"
  | _ => "invalid_request"

def parResponse : Except AuthorizationError PushedAuthorizationResponse → Response
  | .ok response => noStore ⟨201, [], .par response⟩
  | .error e => jsonError 400 (parErrorCode e) e.toString

/-- `POST /authorize/par`. -/
def parEndpoint (headers : Headers) (request : PushedAuthorizationRequest) : Prog Stores Reply :=
  (attestedClient app headers).bind fun
    | .error response => .ret (.response response)
    | .ok none => .ret (.response (invalidClient "client attestation is required"))
    | .ok (some client) => (dpopJkt app headers "/authorize/par" none).bind fun
      | .error e => .ret (.response (jsonError 400 "invalid_dpop_proof" e))
      | .ok jkt => .call (onIssuer (processPar X request ⟨client.clientId, jkt⟩ app.metadata))
          fun r => .ret (.response (parResponse r))

/-- What goes back to the client after these pairs: its state, and who answers. -/
def sealedQuery (query : List (String × String)) (session : AuthorizationSession) :
    List (String × String) :=
  query ++ (session.clientState.map fun state => ("state", state)).toList ++ [("iss", app.issuerId)]

/-- Turn a `RequestUriError` into the response the user sees. -/
def requestUriError : RequestUriError → Response
  | .page reason => errorPage "invalid_request_uri" reason
  | .redirect session reason =>
    match X.urlParse session.redirectUri with
    | none => errorPage "invalid_request_uri" reason
    | some target => redirectTo X target (sealedQuery app
        [("error", "invalid_request_uri"), ("error_description", reason)] session)

/-- `GET /authorize`: the consent page. -/
def authorizeEndpoint (requestUri clientId : Option String) : Prog Stores Reply :=
  .call (onIssuer fun w => (resolveRequestUri requestUri clientId w, w)) fun
    | .error e => .ret (.response (requestUriError app e))
    | .ok session => .ret (.response ⟨200, [], .consentPage session.clientId session.requestUri
        session.credentialConfigurationIds⟩)

/-- The consent form's submission. -/
structure Decision where
  requestUri : String
  clientId : String
  decision : String

/-- Record the user's choice for a session that can be decided. -/
def recordChoice (decision : Decision) (session : AuthorizationSession) : Prog Stores Reply :=
  match X.urlParse session.redirectUri with
  | none => .ret (.response (errorPage "invalid_request" "stored redirect_uri is not a valid URL"))
  | some target =>
    if decision.decision = "approve" then
      .call (onIssuer (generateAuthorizationCode X session.requestUri)) fun
        | .ok code => .ret (.response (redirectTo X target (sealedQuery app [("code", code)] session)))
        | .error e => .ret (.response (errorPage "server_error" e.toString))
    else .ret (.response (redirectTo X target (sealedQuery app
      [("error", "access_denied"), ("error_description", "The user denied the request")] session)))

/-- `POST /authorize/decision`: record the user's choice and redirect back. -/
def authorizeDecision (decision : Decision) : Prog Stores Reply :=
  .call (onIssuer fun w =>
      (resolveRequestUri (some decision.requestUri) (some decision.clientId) w, w)) fun
    | .error e => .ret (.response (requestUriError app e))
    | .ok session => recordChoice app decision session

/-! ### Token, nonce, credential -/

def tokenAnswer : Token.Answer → Response
  | .ok response => noStore ⟨200, [], .token response⟩
  | .error e => jsonError e.statusAndCode.1 e.statusAndCode.2 e.toString

/-- `POST /token`. -/
def tokenEndpoint (headers : Headers) (request : TokenRequest) : Prog Stores Reply :=
  (attestedClient app headers).bind fun
    | .error response => .ret (.response response)
    | .ok client => (dpopJkt app headers "/token" none).bind fun
      | .error e => .ret (.response (jsonError 400 "invalid_dpop_proof" e))
      | .ok jkt => ((processTokenRequest X request ⟨client.map AttestedClient.clientId, jkt⟩).zoom
          Backend.issuer fun b w => { b with issuer := w }).bind
            fun r => .ret (.response (tokenAnswer r))

/-- How long a nonce stays valid, in seconds. -/
def cNonceTtlSecs : ℕ := 300

/-- `POST /nonce`. -/
def nonceEndpoint : Prog Stores Reply :=
  .call (onIssuer (newNonce X cNonceTtlSecs)) fun nonce =>
    .ret (.response (noStore ⟨200, [], .nonce ⟨nonce⟩⟩))

/-- Where the mdoc revocation list is published. -/
def mdocStatusPath : String := "/status/mdoc"

/-- The status reference of an SD-JWT VC. -/
def statusClaim (uri : String) (index : String) : Json :=
  .obj [("status_list", .obj [
    ("idx", .num (.posInt (BitVec.ofNat 64 ((parseU64 index).getD 0)))), ("uri", .str uri)])]

/-- Allocate a revocation handle for an SD-JWT VC, in the Token Status List that its status
refers to. -/
def allocateStatus : StatusAllocator StatusManager Json := fun draws manager =>
  (manager.allocateEntry X .revocation draws).map fun
    | (.error e, manager) =>
      (.error ("could not allocate a credential status entry: " ++ e.toString), manager)
    | (.ok entry, manager) => (.ok (some (statusClaim (app.urlFor "/status/revocation/token")
        entry.statusListIndex)), manager)

/-- Allocate a revocation handle for an mdoc: a bit in the mdoc revocation list. -/
def allocateMdocStatus : StatusAllocator StatusManager StatusListRef := fun draws manager =>
  (manager.allocateMdocIndex draws).map fun
    | (.error e, manager) =>
      (.error ("could not allocate an mdoc status entry: " ++ e.toString), manager)
    | (.ok index, manager) =>
      (.ok (some ⟨BitVec.ofNat 64 index, app.urlFor mdocStatusPath⟩), manager)

def issuanceContext : IssuanceContext X StatusManager where
  issuerKey := app.primaryKey
  issuerUrl := app.issuerId
  metadata := app.metadata
  allocateStatus := allocateStatus app
  x5c := some (x5c app.leaf)
  mdoc := some ⟨app.mdocSigner, allocateMdocStatus app⟩

def credentialErrorStatus : CredentialError → ℕ
  | .invalidAccessToken => 401
  | .issuanceError _ | .stateError _ => 500
  | _ => 400

def credentialAnswer : Credential.Answer → Reply
  | .ok response => .response ⟨200, [], .credential response⟩
  | .error (.err e) => .response (jsonError (credentialErrorStatus e) e.code e.toString)
  | .error .panic => .panicked
  | .error .drawing => .drawing

/-- `POST /credential`. -/
def credentialEndpoint (headers : Headers) (request : CredentialRequest) (draws : RequestDraws) :
    Prog Stores Reply :=
  (authorizeResource app headers "/credential").bind fun
    | .error response => .ret (.response response)
    | .ok accessToken => (processCredentialRequest X request accessToken (issuanceContext app)
        draws).bind fun r => .ret (credentialAnswer r)

/-- What an offer of the endpoint is made for. -/
def offerParams (configId : String) : OfferParams where
  credentialConfigurationIds := [configId]
  useAuthorizationCode := true
  usePreAuthorizedCode := true
  requireTxCode := false

/-- `GET /credential_offer`. -/
def credentialOfferEndpoint (configurationId : Option String) : Prog Stores Reply :=
  let configId := configurationId.getD "IdentityCredential_SD_JWT_VC"
  if (app.metadata.credentialConfigurationsSupported.lookup configId).isNone = true then
    .ret (.response (jsonError 400 "invalid_request"
      ("unknown credential configuration: " ++ configId)))
  else .call (onIssuer (makeOffer X app.externalUrl (offerParams configId) none)) fun offer =>
    .ret (.response ⟨200, [], .offer offer⟩)

end Oid4vc.IssuerRoutes
