import Oid4vc.Crates
import Oid4vc.Issuer.State
import Oid4vc.Types.Oid4vci

/-!
Credential offers.
-/

namespace Oid4vc.Offer

open Oid4vc.Text Oid4vc.External Oid4vc.Oid4vci Oid4vc.IssuerStore

/-- Parameters for creating a credential offer. -/
structure OfferParams where
  credentialConfigurationIds : List String
  useAuthorizationCode : Bool
  usePreAuthorizedCode : Bool
  requireTxCode : Bool

/-- The transaction code that a wallet is asked for. -/
def pinCode : TxCode where
  inputMode := some "numeric"
  length := some 6
  description := some "Please enter the 6-digit PIN"

/-- Create a credential offer. Returns it with its pre-authorized code, which the caller is to
store. -/
def createOffer (X : Crates) (issuerUrl : String) (params : OfferParams) (w : IssuerWorld) :
    (CredentialOffer × Option String) × IssuerWorld :=
  let first := if params.useAuthorizationCode then 1 else 0
  let second := if params.usePreAuthorizedCode then 1 else 0
  let preAuthCode :=
    if params.usePreAuthorizedCode then some (X.uuid (w.drawn + first)) else none
  (({
    credentialIssuer := trimEndMatches '/' issuerUrl
    credentialConfigurationIds := params.credentialConfigurationIds
    grants := some {
      authorizationCode := if params.useAuthorizationCode then
        some ⟨some (X.uuid w.drawn), none⟩ else none
      preAuthorizedCode := preAuthCode.map fun code =>
        ⟨code, if params.requireTxCode then some pinCode else none⟩ } }, preAuthCode),
    { w with drawn := w.drawn + first + second })

end Oid4vc.Offer
