import Oid4vc.Base.Json

/-!
The messages and the session of OpenID for Verifiable Presentations.
-/

namespace Oid4vc.Oid4vp

open Oid4vc.JsonValue

/-- A single claim query within a credential query. -/
structure ClaimQuery where
  path : List String
  nmspace : Option String
  id : Option String
  values : Option (List Json)

/-- A single credential query within DCQL. -/
structure CredentialQuery where
  id : String
  format : String
  vct : Option String
  doctype : Option String
  claims : Option (List ClaimQuery)

structure DcqlQuery where
  credentials : List CredentialQuery

/-- The authorization request sent by the verifier. -/
structure AuthorizationRequest where
  responseType : String
  clientId : String
  clientIdScheme : Option String
  responseUri : String
  responseMode : Option String
  nonce : String
  state : Option String
  dcqlQuery : Option DcqlQuery

/-- Algorithm support for a VP format. -/
structure FormatAlgorithms where
  alg : Option (List String)

/-- VP formats supported by the verifier. -/
structure VpFormatsSupported where
  sdJwtVc : Option FormatAlgorithms
  msoMdoc : Option FormatAlgorithms

/-- Verifier client metadata sent in the authorization request. -/
structure ClientMetadata where
  vpFormats : Option VpFormatsSupported
  clientName : Option String
  logoUri : Option String

/-- The authorization request with the members that the verifier does not read again. -/
structure SentRequest where
  request : AuthorizationRequest
  presentationDefinition : Option Json
  clientMetadata : Option ClientMetadata

/-- The authorization response from the wallet. -/
structure AuthorizationResponse where
  vpToken : Option Json
  state : Option String

/-- What the verifier keeps to match a response with its request. -/
structure VerifierSession where
  id : String
  nonce : String
  state : String
  request : AuthorizationRequest
  createdAt : ℤ
  expiresAt : ℤ

end Oid4vc.Oid4vp
