import Oid4vc.Base.Json

/-!
The messages of OpenID for Verifiable Credential Issuance.
-/

namespace Oid4vc.Oid4vci

open Oid4vc.JsonValue

/-! ### Credential Issuer Metadata -/

/-- A supported proof type. -/
structure ProofTypeMetadata where
  proofSigningAlgValuesSupported : List String

/-- A single supported credential configuration. -/
structure CredentialConfiguration where
  format : String
  scope : Option String
  proofTypesSupported : Option (List (String × ProofTypeMetadata))
  vct : Option String
  doctype : Option String

structure BatchCredentialIssuance where
  batchSize : ℕ

/-- The published metadata: the configurations are in the order the map yields them. -/
structure CredentialIssuerMetadata where
  credentialIssuer : String
  batchCredentialIssuance : Option BatchCredentialIssuance
  credentialConfigurationsSupported : List (String × CredentialConfiguration)

/-! ### Credential Offer -/

structure AuthorizationCodeGrant where
  issuerState : Option String
  authorizationServer : Option String

/-- Transaction code requirements. -/
structure TxCode where
  inputMode : Option String
  length : Option ℕ
  description : Option String

structure PreAuthorizedCodeGrant where
  preAuthorizedCode : String
  txCode : Option TxCode

structure Grants where
  authorizationCode : Option AuthorizationCodeGrant
  preAuthorizedCode : Option PreAuthorizedCodeGrant

structure CredentialOffer where
  credentialIssuer : String
  credentialConfigurationIds : List String
  grants : Option Grants

/-! ### Pushed Authorization Request -/

/-- Authorization detail for requesting specific credential types. -/
structure AuthorizationDetail where
  detailType : String
  credentialConfigurationId : Option String

structure PushedAuthorizationRequest where
  responseType : String
  clientId : String
  redirectUri : String
  scope : Option String
  state : Option String
  codeChallenge : String
  codeChallengeMethod : String
  authorizationDetails : Option (List AuthorizationDetail)
  issuerState : Option String
  dpopJkt : Option String
  requestUri : Option String

structure PushedAuthorizationResponse where
  requestUri : String
  expiresIn : ℕ

/-! ### Token Endpoint -/

structure TokenRequest where
  grantType : String
  code : Option String
  redirectUri : Option String
  codeVerifier : Option String
  clientId : Option String
  preAuthorizedCode : Option String
  txCode : Option String

structure AuthorizedDetail where
  detailType : String
  credentialConfigurationId : String
  credentialIdentifiers : List String

structure TokenResponse where
  accessToken : String
  tokenType : String
  expiresIn : ℕ
  authorizationDetails : Option (List AuthorizedDetail)

structure NonceResponse where
  cNonce : String

/-! ### Credential Endpoint -/

/-- Proofs of possession by proof type; only `jwt` is supported. -/
structure Proofs where
  jwt : Option (List String)
  other : List (String × Json)

structure CredentialRequest where
  credentialIdentifier : Option String
  credentialConfigurationId : Option String
  proofs : Option Proofs
  proof : Option Json

structure IssuedCredential where
  credential : Json

structure CredentialResponse where
  credentials : Option (List IssuedCredential)
  transactionId : Option String
  interval : Option ℕ
  notificationId : Option String

end Oid4vc.Oid4vci
