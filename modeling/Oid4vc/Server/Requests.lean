import Oid4vc.Base.Run
import Oid4vc.Server.IssuerRoutes
import Oid4vc.Server.StatusRoutes

/-!
The server as a machine: one request after another, while time goes on.
-/

namespace Oid4vc.Requests

open Oid4vc.Run Oid4vc.PartialMap Oid4vc.Atomic Oid4vc.External Oid4vc.Oid4vci Oid4vc.IssuerStore
open Oid4vc.Credential Oid4vc.Manager Oid4vc.Server Oid4vc.IssuerRoutes Oid4vc.StatusRoutes

/-- A request, as the router passes it on. -/
inductive Request
  | par (headers : Headers) (request : PushedAuthorizationRequest)
  | authorize (requestUri clientId : Option String)
  | decision (decision : Decision)
  | token (headers : Headers) (request : TokenRequest)
  | nonce
  | credential (headers : Headers) (request : CredentialRequest) (draws : RequestDraws)
  | credentialOffer (configurationId : Option String)
  | tokenStatusList (id : String)
  | revoke (headers : Headers) (request : StatusUpdateRequest)
  | suspend (headers : Headers) (request : StatusUpdateRequest)
  | reinstate (headers : Headers) (request : StatusUpdateRequest)

variable {X : Crates} (app : AppState X)

def handle : Request → Prog Stores Reply
  | .par headers request => parEndpoint app headers request
  | .authorize requestUri clientId => authorizeEndpoint app requestUri clientId
  | .decision decision => authorizeDecision app decision
  | .token headers request => tokenEndpoint app headers request
  | .nonce => nonceEndpoint (X := X)
  | .credential headers request draws => credentialEndpoint app headers request draws
  | .credentialOffer configurationId => credentialOfferEndpoint app configurationId
  | .tokenStatusList id => getTokenStatusList app id
  | .revoke headers request => revokeCredential app headers request
  | .suspend headers request => suspendCredential app headers request
  | .reinstate headers request => reinstateCredential app headers request

/-- A request to the server, or some nanoseconds that go by on its clock, which may be set back. -/
inductive Input
  | request (r : Request)
  | wait (nanoseconds : ℤ)

/-- The server; a wait has no answer. -/
def server : Machine Stores Input (Option Reply) where
  step b
    | .request r => (((handle app r).exec b).2, some ((handle app r).exec b).1)
    | .wait nanoseconds =>
      ({ b with issuer := { b.issuer with clock := b.issuer.clock + nanoseconds } }, none)

/-- The stores when the server starts. -/
def freshStores (clock : ℤ) : Stores where
  issuer := ⟨clock, 0, InMemoryIssuerState.new⟩
  status := StatusManager.new app.externalUrl

@[simp] lemma step_request (b : Stores) (r : Request) :
    (server app).step b (.request r) = (((handle app r).exec b).2, some ((handle app r).exec b).1) :=
  rfl

@[simp] lemma step_wait (b : Stores) (n : ℤ) : (server app).step b (.wait n) =
    ({ b with issuer := { b.issuer with clock := b.issuer.clock + n } }, none) := rfl

end Oid4vc.Requests
