import Oid4vc.Issuer.Credential
import Oid4vc.Status.Manager

/-!
What the handlers of the server work with: headers, responses, and the state they share.
-/

namespace Oid4vc.Server

open Oid4vc.JsonValue Oid4vc.Atomic Oid4vc.External Oid4vc.Jwks Oid4vc.Keys Oid4vc.X509
open Oid4vc.Oid4vci Oid4vc.IssuerStore Oid4vc.Credential Oid4vc.Manager

/-! ### Headers -/

/-- The headers of a request: names in lower case, and the bytes of the values. -/
abbrev Headers := List (String × Bytes)

def getAll (headers : Headers) (name : String) : List Bytes :=
  (headers.filter fun header => header.1 == name).map Prod.snd

def headerText (X : Crates) (headers : Headers) (name : String) : Option String :=
  (getAll headers name).head?.bind fun value => (X.headerToStr value).toOption

/-! ### Responses -/

inductive Body
  | error (error : String) (description : Option String)
  /-- An error shown to the user. -/
  | errorPage (code description : String)
  /-- The consent page, with what it shows and sends on. -/
  | consentPage (clientId requestUri : String) (credentials : List String)
  /-- Nothing; the location is this URL with these pairs appended to its query. -/
  | redirect (target : String) (query : List (String × String))
  | par (response : PushedAuthorizationResponse)
  | token (response : TokenResponse)
  | nonce (response : NonceResponse)
  | credential (response : CredentialResponse)
  | offer (offer : CredentialOffer)
  | updated (status : String) (index : ℕ)
  | statusToken (jwt : String)

structure Response where
  status : ℕ
  headers : List (String × String)
  body : Body

def descriptionChar (c : Char) : Char :=
  if c = '\x22' then '\x27' else if c = '\x5c' then '/' else if ' ' ≤ c ∧ c ≤ '~' then c else '?'

def jsonError (status : ℕ) (error description : String) : Response :=
  ⟨status, [], .error error (some (String.ofList (description.toList.map descriptionChar)))⟩

/-- A response that is not to be cached. -/
def noStore (response : Response) : Response :=
  { response with headers := response.headers ++ [("cache-control", "no-store")] }

/-- An error shown to the user when there is no trustworthy redirect target. -/
def errorPage (code description : String) : Response := ⟨400, [], .errorPage code description⟩

/-- Send the user on to a URL, with these pairs appended to its query. -/
def redirectTo (X : Crates) (target : String) (query : List (String × String)) : Response :=
  ⟨303, [("location", X.urlAppendQuery target query)], .redirect target query⟩

/-- How a handler ends: with a response, in a panic, or drawing random numbers still. -/
inductive Reply
  | response (r : Response)
  | panicked
  | drawing

/-! ### Shared state -/

/-- The state passed to all handlers, but for its stores. -/
structure AppState (X : Crates) where
  metadata : CredentialIssuerMetadata
  /-- The primary signing key. -/
  primaryKey : KeyPair
  /-- The certificate for SD-JWT VCs and their status lists. -/
  leaf : IssuerCertificate X
  /-- The mdoc document signer. -/
  mdocSigner : IssuerCertificate X
  externalUrl : String
  /-- The Credential Issuer identifier. -/
  issuerId : String
  /-- Bearer token the `/admin/*` endpoints require. -/
  adminToken : String
  /-- Attester public keys trusted for client attestations. -/
  clientAttesters : List Jwk

variable {X : Crates}

/-- An absolute URL for a path on this server. -/
def AppState.urlFor (app : AppState X) (path : String) : String := X.urlJoin app.externalUrl path

/-- The certificate as a chain in a JOSE header. -/
def x5c (certificate : IssuerCertificate X) : List String := [X.base64Encode certificate.der]

abbrev Stores := Backend StatusManager

/-- A store operation of the issuer, as a call. -/
def onIssuer {β : Type} (op : IssuerWorld → β × IssuerWorld) : Stores → β × Stores :=
  Prog.through Backend.issuer (fun b w => { b with issuer := w }) op

/-- An operation of the status manager, as a call. -/
def onStatus {β : Type} (op : StatusManager → β × StatusManager) : Stores → β × Stores :=
  Prog.through Backend.status (fun b m => { b with status := m }) op

/-- An operation on the issuer's store that reads the clock, as a call. -/
def onStore {β : Type} (op : ℤ → InMemoryIssuerState → β × InMemoryIssuerState) :
    Stores → β × Stores :=
  onIssuer fun w => ((op w.clock w.store).1, { w with store := (op w.clock w.store).2 })

end Oid4vc.Server
