import Oid4vc.Base.Percent
import Oid4vc.Crypto.StatusCwt
import Oid4vc.Server.Requests
import Oid4vc.Types.Serialized
import Oid4vc.Verifier.Request
import Oid4vc.Verifier.Response

/-!
The routes of the verifier and of the lists that are published as they are, and the whole server:
every handler as a program over everything that they share.
-/

namespace Oid4vc.Routes

open Oid4vc.JsonValue Oid4vc.Text Oid4vc.PartialMap Oid4vc.Instant Oid4vc.Atomic Oid4vc.External
open Oid4vc.Keys Oid4vc.Jws Oid4vc.X509 Oid4vc.StatusCwt Oid4vc.Oid4vp Oid4vc.Serialized
open Oid4vc.VerifierState Oid4vc.Request Oid4vc.Response Oid4vc.Dcql Oid4vc.StatusTypes
open Oid4vc.Manager Oid4vc.Server Oid4vc.StatusRoutes Oid4vc.IssuerRoutes

/-- The state of the server that no request changes. -/
structure ServerState (X : Crates) extends AppState X where
  /-- The signing key that is only published. -/
  secondaryKey : KeyPair
  /-- The mdoc revocation list signer. -/
  mdocStatusSigner : IssuerCertificate X
  /-- The trust anchor's certificate revocation list. -/
  crl : Bytes

/-- What the handlers share. -/
structure ServerWorld where
  stores : Stores
  sessions : InMemoryVerifierState

/-- How a request is answered. -/
inductive ServerReply
  | reply (r : Reply)
  /-- A new authorization request, its `request_uri`, and the link that carries it. -/
  | authorization (sessionId requestUri walletUri : String) (request : SentRequest)
  /-- An authorization request as a JWT. -/
  | requestObject (jwt : String)
  /-- An accepted presentation. -/
  | verified (sessionId : String) (disclosedClaims : PMap String Json)
  | statusListCredential (credential : StatusList2021Credential)
  | statusListCwt (token : Bytes)
  | crl (der : Bytes)

variable {X : Crates} (app : ServerState X)

/-! ### Authorization requests -/

/-- What the verifier asks for. -/
def identityQuery : DcqlQuery :=
  (DcqlQueryBuilder.new.addSdJwtVcQuery "identity_credential"
    (app.issuerId ++ "/credentials/identity") [("given_name", true), ("family_name", true)]).build

def requestParams : RequestParams where
  clientId := app.issuerId
  responseUri := app.urlFor "/verifier/response"
  dcqlQuery := some (identityQuery app)
  sessionExpirySecs := 600

def clientMetadata : ClientMetadata where
  vpFormats := some ⟨some ⟨some ["ES256"]⟩, some ⟨some ["ES256"]⟩⟩
  clientName := some "OID4VC-RS Verifier"
  logoUri := none

/-- A request of the verifier as it is sent: it defines nothing, and its metadata is always the
same. -/
def sentRequest (request : AuthorizationRequest) : SentRequest := ⟨request, none, some clientMetadata⟩

/-- The link that a wallet opens. -/
def walletUri (requestUri : String) : String :=
  "openid4vp://?client_id=" ++ X.urlencode (utf8 app.issuerId) ++ "&request_uri=" ++
    X.urlencode (utf8 requestUri)

def readClock (w : ServerWorld) : ℤ × ServerWorld := (w.stores.issuer.clock, w)

/-- Create an authorization request. Its identifiers are drawn where its session is stored: before
that nobody knows them. -/
def newAuthorization (createdAt now : ℤ) (w : ServerWorld) :
    Option (AuthorizationRequest × String) × ServerWorld :=
  let r := createAuthorizationRequest X (requestParams app) createdAt now w.stores.issuer.drawn
    w.sessions
  (r.1, {
    stores := { w.stores with issuer := { w.stores.issuer with drawn := r.2.1 } }
    sessions := r.2.2 })

/-- What a request that was created is answered with. -/
def authorizationReply : Option (AuthorizationRequest × String) → ServerReply
  | none => .reply .panicked
  | some (request, sessionId) =>
    let requestUri := app.urlFor ("/verifier/request/" ++ sessionId)
    .authorization sessionId requestUri (walletUri app requestUri) (sentRequest request)

/-- `POST /verifier/authorize`: create an authorization request. -/
def createAuthorization : Prog ServerWorld ServerReply :=
  .call readClock fun createdAt => .call readClock fun now =>
    .call (newAuthorization app createdAt now) fun r => .ret (authorizationReply app r)

def encodeRequestAsJwt (request : SentRequest) (key : KeyPair) : Except String String :=
  (signCompact X key (buildHeader key (some "oauth-authz-req+jwt")) (requestToValue request)).mapError
    JwsError.toString

def requestReply : Option VerifierSession → ServerReply
  | none => .reply (.response (jsonError 404 "not_found" "Session not found"))
  | some session =>
    match encodeRequestAsJwt (X := X) (sentRequest session.request) app.primaryKey with
    | .ok jwt => .requestObject jwt
    | .error e => .reply (.response (jsonError 500 "server_error" e))

/-- `GET /verifier/request/{id}`: the authorization request as a JWT. -/
def getRequest (id : String) : Prog ServerWorld ServerReply :=
  .call (fun w => (w.sessions.getSession id, w)) fun session => .ret (requestReply app session)

/-! ### Responses -/

def responseErrorStatus : ResponseError → ℕ × String
  | .invalidState | .sessionExpired | .missingVpToken => (400, "invalid_request")
  | .queryNotSatisfied _ => (400, "invalid_presentation")
  | .nonceMismatch | .keyBindingFailed _ | .verificationFailed _ => (401, "invalid_presentation")
  | .stateError _ => (500, "server_error")

def responseReply : Answer → ServerReply
  | .ok result => .verified result.sessionId result.disclosedClaims
  | .error e => .reply (.response
      (jsonError (responseErrorStatus e).1 (responseErrorStatus e).2 e.toString))

def verifierView (w : ServerWorld) : VerifierWorld := ⟨w.stores.issuer.clock, w.sessions⟩

def withVerifier (w : ServerWorld) (v : VerifierWorld) : ServerWorld where
  stores := { w.stores with issuer := { w.stores.issuer with clock := v.clock } }
  sessions := v.store

/-- `POST /verifier/response`: receive the VP token from the wallet. -/
def receiveResponse (response : AuthorizationResponse) : Prog ServerWorld ServerReply :=
  ((processResponse X response app.primaryKey).zoom verifierView withVerifier).bind fun r =>
    .ret (responseReply r)

/-! ### Published lists -/

/-- `GET /status/{id}`: a status list credential. -/
def getStatusList (id : String) : Prog Stores ServerReply :=
  .call (fun b => (b.status.buildStatusListCredential X id app.externalUrl b.issuer.clock, b)) fun
    | .ok credential => .ret (.statusListCredential credential)
    | .error e => .ret (.reply (.response (jsonError 404 "not_found" e.toString)))

/-- How long a Status List Token is good for. -/
def dayNanos : ℤ := 24 * 3600 * 1000000000

/-- Sign the mdoc revocation list. Its times have to be in the calendar, or the handler panics. -/
def signMdocStatusList (bits : ℕ) (lst : Bytes) (now : ℤ) : ServerReply :=
  if h : Representable now ∧ Representable (now + dayNanos) then
    match signStatusListCwt X {
        uri := app.urlFor mdocStatusPath
        bits := BitVec.ofNat 8 bits
        lst := lst
        iat := now
        exp := now + dayNanos
        ttl := some (BitVec.ofInt 64 statusListTtlSecs)
        x5chain := [app.mdocStatusSigner.der]
        iat_representable := h.1
        exp_representable := h.2 } app.primaryKey with
    | .ok token => .statusListCwt token
    | .error e => .reply (.response (jsonError 500 "server_error" e.toString))
  else .reply .panicked

/-- `GET /status/mdoc`: the mdoc revocation list. -/
def getMdocStatusList : Prog Stores ServerReply :=
  .call (onStatus fun manager => (manager.mdocStatusList X, manager)) fun
    | .error e => .ret (.reply (.response (jsonError 500 "server_error" e.toString)))
    | .ok (bits, lst) => .call Credential.Calls.readClock fun now =>
        .ret (signMdocStatusList app bits lst now)

/-! ### The whole server -/

/-- A request, as the router passes it on. -/
inductive ServerRequest
  | issuer (r : Requests.Request)
  | statusList (id : String)
  | mdocStatusList
  | crl
  | authorization
  | requestObject (id : String)
  | response (response : AuthorizationResponse)

/-- A handler that works with the stores of the issuer. -/
def onStores {α : Type} (p : Prog Stores α) : Prog ServerWorld α :=
  p.zoom ServerWorld.stores fun w b => { w with stores := b }

/-- The handler of a request. -/
def serve : ServerRequest → Prog ServerWorld ServerReply
  | .issuer r => (onStores (Requests.handle app.toAppState r)).bind fun r => .ret (.reply r)
  | .statusList id => onStores (getStatusList app id)
  | .mdocStatusList => onStores (getMdocStatusList app)
  | .crl => .ret (.crl app.crl)
  | .authorization => createAuthorization app
  | .requestObject id => getRequest app id
  | .response response => receiveResponse app response

/-- Some nanoseconds go by, or the clock is set back. -/
def wait (nanoseconds : ℤ) (w : ServerWorld) : ServerWorld :=
  { w with stores := { w.stores with issuer :=
    { w.stores.issuer with clock := w.stores.issuer.clock + nanoseconds } } }

/-- The requests are served concurrently, call by call, while time goes on. -/
abbrev service (θ : Type) [DecidableEq θ] := machine θ ServerWorld ServerReply wait

/-- What the handlers share when the server starts. -/
def freshWorld (clock : ℤ) : ServerWorld where
  stores := Requests.freshStores app.toAppState clock
  sessions := InMemoryVerifierState.new

/-- The server with these requests, none of which is served yet. -/
def arrived {θ : Type} (requests : θ → ServerRequest) (clock : ℤ) :
    Pool θ ServerWorld ServerReply where
  shared := freshWorld app clock
  prog t := serve app (requests t)

end Oid4vc.Routes
