import Oid4vc.Base.Fallible
import Oid4vc.Issuer.Authorization

/-!
The pages of the authorization endpoint.
-/

namespace Oid4vc.Authorize

open Oid4vc.Fallible Oid4vc.Instant Oid4vc.IssuerStore Oid4vc.Authorization

/-- Why a `request_uri` cannot be used. -/
inductive RequestUriError
  /-- Nothing can be trusted: show an error page. -/
  | page (reason : String)
  /-- The session and client check out: the error can go back to the client. -/
  | redirect (session : AuthorizationSession) (reason : String)

/-- Resolve a `request_uri` for `client_id`, or explain why it cannot be used. -/
def resolveRequestUri (requestUri clientId : Option String) (w : IssuerWorld) :
    Except RequestUriError AuthorizationSession := do
  let requestUri ← okOr
    (.page "request_uri is required: this server only accepts pushed requests") requestUri
  let session ← okOr (.page "unknown request_uri") (w.store.getAuthorizationSession requestUri)
  ensure (clientId = some session.clientId) (.page "request_uri was not issued to this client_id")
  ensure (¬ (requestUriTtlSecs * 1000 : ℤ) ≤ numMilliseconds (w.clock - session.createdAt))
    (.redirect session "request_uri has expired")
  ensure (¬ session.authorizationCode.isSome = true)
    (.redirect session "request_uri has already been used")
  pure session

end Oid4vc.Authorize
