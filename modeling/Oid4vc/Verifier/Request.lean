import Oid4vc.Base.Instant
import Oid4vc.Crates
import Oid4vc.Verifier.Session

/-!
Authorization request construction for OID4VP.
-/

namespace Oid4vc.Request

open Oid4vc.Instant Oid4vc.External Oid4vc.Oid4vp Oid4vc.VerifierState

/-- Parameters for creating an authorization request. -/
structure RequestParams where
  clientId : String
  responseUri : String
  dcqlQuery : Option DcqlQuery
  sessionExpirySecs : ℕ

/-- The instant some seconds later. The duration is a signed number, and has to fit in a number of
milliseconds; the sum has to be in the calendar. -/
def addSeconds (now : ℤ) (secs : ℕ) : Option ℤ :=
  let duration := wrapI64 secs
  if duration.natAbs ≤ (2 ^ 63 - 1) / 1000 ∧ Representable (now + seconds duration) then
    some (now + seconds duration)
  else none

/-- The request of these identifiers. -/
def authorizationRequest (params : RequestParams) (nonce requestState : String) :
    AuthorizationRequest where
  responseType := "vp_token"
  clientId := params.clientId
  clientIdScheme := some "redirect_uri"
  responseUri := params.responseUri
  responseMode := some "direct_post"
  nonce := nonce
  state := some requestState
  dcqlQuery := params.dcqlQuery

/-- The session of a new request, whose identifiers are drawn first. None if it expires after the
end of the calendar, where the handler panics. -/
def newSession (X : Crates) (params : RequestParams) (createdAt now : ℤ) (drawn : ℕ) :
    Option VerifierSession :=
  (addSeconds now params.sessionExpirySecs).map fun expiresAt => {
    id := X.uuid drawn
    nonce := X.uuid (drawn + 1)
    state := X.uuid (drawn + 2)
    request := authorizationRequest params (X.uuid (drawn + 1)) (X.uuid (drawn + 2))
    createdAt := createdAt
    expiresAt := expiresAt }

/-- Store the session, if there is one, and answer with its request and its id. -/
def storeNew (s : InMemoryVerifierState) (drawn : ℕ) : Option VerifierSession →
    Option (AuthorizationRequest × String) × ℕ × InMemoryVerifierState
  | none => (none, drawn, s)
  | some session => (some (session.request, session.id), drawn, s.storeSession session)

/-- Create an authorization request. Returns it with the session id, how many identifiers are
drawn, and the store with the session. -/
def createAuthorizationRequest (X : Crates) (params : RequestParams) (createdAt now : ℤ)
    (drawn : ℕ) (s : InMemoryVerifierState) :
    Option (AuthorizationRequest × String) × ℕ × InMemoryVerifierState :=
  storeNew s (drawn + 3) (newSession X params createdAt now drawn)

end Oid4vc.Request
