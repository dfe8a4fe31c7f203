import Oid4vc.Base.Atomic
import Oid4vc.Crypto.Mdoc
import Oid4vc.Crypto.SdJwt
import Oid4vc.Crypto.X509
import Oid4vc.Issuer.State
import Oid4vc.Types.Oid4vci

/-!
The credential endpoint: validation of the proofs of possession, and issuance.

A credential request is a program over the issuer's store and over what the allocators of
status entries work on. It reads the clock anew for every proof and every credential.
-/

namespace Oid4vc.Credential

open Oid4vc.JsonValue Oid4vc.CborValue Oid4vc.Text Oid4vc.Fallible Oid4vc.Instant Oid4vc.Atomic
open Oid4vc.Jwks Oid4vc.External Oid4vc.Keys Oid4vc.Jws Oid4vc.SdJwt Oid4vc.X509 Oid4vc.Mdoc
open Oid4vc.Oid4vci Oid4vc.IssuerStore

/-- How far the `iat` of a proof may drift from the clock, in seconds. -/
def proofMaxAgeSecs : ℤ := 300

/-- How long an MSO is valid for, at most. -/
def msoValidityDays : ℤ := 365

def demoBirthDate : String := "1990-01-01"

def birthDate : ℤ := seconds 631152000

def issuingAuthority : String := "oid4vc-rs Development Issuing Authority"

def demoDocumentNumber : String := "D1234567"

inductive CredentialError
  | invalidAccessToken
  | invalidCredentialRequest (msg : String)
  | unknownCredentialConfiguration (msg : String)
  | unknownCredentialIdentifier (msg : String)
  | invalidProof (msg : String)
  | invalidNonce
  | unsupportedFormat (msg : String)
  | issuanceError (msg : String)
  | stateError (msg : String)
  deriving DecidableEq

def CredentialError.toString : CredentialError → String
  | .invalidAccessToken => "invalid access token"
  | .invalidCredentialRequest msg => "invalid credential request: " ++ msg
  | .unknownCredentialConfiguration msg => "unknown credential configuration: " ++ msg
  | .unknownCredentialIdentifier msg => "unknown credential identifier: " ++ msg
  | .invalidProof msg => "invalid or missing proof of possession: " ++ msg
  | .invalidNonce => "invalid or expired c_nonce"
  | .unsupportedFormat msg => "unsupported credential format: " ++ msg
  | .issuanceError msg => "issuance error: " ++ msg
  | .stateError msg => "state error: " ++ msg

/-- The `error` value of the response. -/
def CredentialError.code : CredentialError → String
  | .invalidAccessToken => "invalid_token"
  | .invalidCredentialRequest _ | .unsupportedFormat _ => "invalid_credential_request"
  | .unknownCredentialConfiguration _ => "unknown_credential_configuration"
  | .unknownCredentialIdentifier _ => "unknown_credential_identifier"
  | .invalidProof _ => "invalid_proof"
  | .invalidNonce => "invalid_nonce"
  | .issuanceError _ | .stateError _ => "server_error"

/-- Why there is no credential: an error, a panic, or a random number still being drawn. -/
inductive Halt
  | err (e : CredentialError)
  | panic
  | drawing
  deriving DecidableEq

/-- The store of the issuer, and what the allocators of status entries work on. -/
structure Backend (σ : Type) where
  issuer : IssuerWorld
  status : σ

/-- Allocates the status entry of one credential with these random numbers, which may not be
enough. -/
abbrev StatusAllocator (σ ρ : Type) := List ℕ → σ → Option (Except String (Option ρ) × σ)

section Context

variable (X : Crates) (σ : Type)

/-- What mdoc issuance needs beyond the issuer key. -/
structure MdocSigner where
  certificate : IssuerCertificate X
  allocateStatus : StatusAllocator σ StatusListRef

/-- Everything the credential endpoint needs beyond the request itself. -/
structure IssuanceContext where
  issuerKey : KeyPair
  issuerUrl : String
  metadata : CredentialIssuerMetadata
  allocateStatus : StatusAllocator σ Json
  x5c : Option (List String)
  mdoc : Option (MdocSigner X σ)

end Context

def demoClaims : List (String × Json) :=
  [("given_name", .str "John"), ("family_name", .str "Doe"), ("birth_date", .str demoBirthDate)]

/-- What is drawn for one credential: the numbers for its status entry, the order in which its
claims are walked, and the salts. -/
structure CredentialDraws where
  index : List ℕ
  claims : List (String × Json)
  salts : ℕ → Bytes
  mdoc : Draws
  walks : claims.Perm demoClaims

/-- What is drawn for a request: the order in which its nonces are walked, and what each
credential needs. -/
structure RequestDraws where
  nonces : List String → List String
  credential : ℕ → CredentialDraws
  walks : ∀ ns, (nonces ns).Perm ns.dedup

namespace Calls

variable {σ ρ : Type}

def readClock (b : Backend σ) : ℤ × Backend σ := (b.issuer.clock, b)

def getAccessGrant (token : String) (b : Backend σ) : Option AccessGrant × Backend σ :=
  ((b.issuer.store.getAccessGrant b.issuer.clock token).1,
    { b with issuer := { b.issuer with
      store := (b.issuer.store.getAccessGrant b.issuer.clock token).2 } })

def consumeCNonce (nonce : String) (b : Backend σ) : Bool × Backend σ :=
  ((b.issuer.store.consumeCNonce b.issuer.clock nonce).1,
    { b with issuer := { b.issuer with
      store := (b.issuer.store.consumeCNonce b.issuer.clock nonce).2 } })

/-- Allocate a status entry; none if there is one still to be drawn. -/
def allocate (alloc : StatusAllocator σ ρ) (draws : List ℕ) (b : Backend σ) :
    Option (Except String (Option ρ)) × Backend σ :=
  match alloc draws b.status with
  | none => (none, b)
  | some (r, status) => (some r, { b with status := status })

end Calls

variable (X : Crates) {σ : Type}

/-! ### The request -/

def namedConfiguration (request : CredentialRequest) (grant : AccessGrant)
    (metadata : CredentialIssuerMetadata) : Except CredentialError String :=
  match request.credentialIdentifier, request.credentialConfigurationId with
  | some _, some _ => .error (.invalidCredentialRequest
      "send credential_identifier or credential_configuration_id, not both")
  | none, none => .error (.invalidCredentialRequest
      "credential_identifier or credential_configuration_id is required")
  | some identifier, none =>
    okOr (.unknownCredentialIdentifier identifier) (grant.credentialIdentifiers.lookup identifier)
  | none, some configId =>
    -- a token issued with authorization_details is used with its credential identifiers
    if (metadata.credentialConfigurationsSupported.lookup configId).isSome = true ∧
        grant.credentialIdentifiers ≠ [] then
      .error (.invalidCredentialRequest
        "this access token was issued with credential_identifiers; use one")
    else .ok configId

/-- Find the configuration a request names, and check the token covers it. -/
def resolveConfiguration (request : CredentialRequest) (grant : AccessGrant)
    (metadata : CredentialIssuerMetadata) :
    Except CredentialError (String × CredentialConfiguration) := do
  let id ← namedConfiguration request grant metadata
  let config ← okOr (.unknownCredentialConfiguration id)
    (metadata.credentialConfigurationsSupported.lookup id)
  ensure (id ∈ grant.credentialConfigurationIds)
    (.unknownCredentialConfiguration (id ++ " was not authorized for this access token"))
  pure (id, config)

/-- The proofs of a request: some JWTs, and no more than a batch may have. -/
def requestedProofs (request : CredentialRequest) (metadata : CredentialIssuerMetadata) :
    Except CredentialError (List String) := do
  ensure (request.proof.isNone = true)
    (.invalidCredentialRequest "'proof' was removed in OID4VCI 1.0; send 'proofs'")
  let proofs ← okOr (.invalidProof "proofs is required") request.proofs
  match proofs.other with
  | other :: _ => .error (.invalidProof ("unsupported proof type: " ++ other.1))
  | [] => do
    let jwts ← okOr (.invalidProof "proofs.jwt is required")
      (proofs.jwt.filter fun jwts => !jwts.isEmpty)
    let batchSize := (metadata.batchCredentialIssuance.map BatchCredentialIssuance.batchSize).getD 1
    ensure (jwts.length ≤ batchSize) (.invalidProof (jwts.length.repr ++
      " proofs sent, batch_size is " ++ batchSize.repr))
    pure jwts

/-- The algorithm is one of those advertised for proofs of this configuration. -/
def advertised (config : CredentialConfiguration) (alg : String) : Bool :=
  ((config.proofTypesSupported.bind fun types => types.lookup "jwt").map fun jwt =>
    jwt.proofSigningAlgValuesSupported.contains alg).getD false

def stringMember (payload : Json) (name : String) : Option String :=
  (payload.get name).bind Json.asStr

/-- Verify the proof-of-possession JWT. Returns the holder key and the proof's nonce. -/
def verifyProofJwt (jwt issuerUrl : String) (config : CredentialConfiguration) (now : ℤ) :
    Except CredentialError (Jwk × String) := do
  let decoded ← (decodeCompact X jwt).mapError fun e => .invalidProof e.toString
  ensure (decoded.header.typ = some "openid4vci-proof+jwt")
    (.invalidProof "proof JWT must have typ 'openid4vci-proof+jwt'")
  let holderJwk ← okOr
    (.invalidProof "proof JWT header must carry the holder's public key in 'jwk'")
    decoded.header.jwk
  -- the alg must match the key, so a caller cannot downgrade the signature check
  let expectedAlg ← (algorithmForJwk holderJwk).mapError fun e => .invalidProof e.toString
  ensure (decoded.header.alg = expectedAlg.asStr) (.invalidProof ("proof alg '" ++
    decoded.header.alg ++ "' does not match the supplied key (" ++ expectedAlg.asStr ++ ")"))
  ensure (advertised config decoded.header.alg = true) (.invalidProof ("proof alg '" ++
    decoded.header.alg ++ "' is not in proof_signing_alg_values_supported"))
  (verifyWithJwk X holderJwk (utf8 decoded.signingInput) decoded.signature).mapError
    fun e => .invalidProof ("proof signature invalid: " ++ e.toString)
  let payload ← (X.jsonFromSlice decoded.payload).mapError .invalidProof
  let aud ← okOr (.invalidProof "proof is missing 'aud'") (stringMember payload "aud")
  ensure (trimEndMatches '/' aud = trimEndMatches '/' issuerUrl)
    (.invalidProof ("proof 'aud' is '" ++ aud ++ "', expected '" ++ issuerUrl ++ "'"))
  let iat ← okOr (.invalidProof "proof is missing 'iat'") (i64Claim payload "iat")
  ensure (¬ proofMaxAgeSecs < wrapI64 (wrapI64 (timestamp now - iat)).natAbs)
    (.invalidProof "proof 'iat' is outside the accepted window")
  let nonce ← okOr .invalidNonce (stringMember payload "nonce")
  pure (holderJwk, nonce)

variable {X} in
/-- **What a proof that verifies is.** -/
theorem verifyProofJwt_eq_ok {jwt issuerUrl : String} {config : CredentialConfiguration} {now : ℤ}
    {holderJwk : Jwk} {nonce : String} :
    verifyProofJwt X jwt issuerUrl config now = .ok (holderJwk, nonce) ↔
      ∃ decoded alg payload aud iat, decodeCompact X jwt = .ok decoded ∧
        decoded.header.typ = some "openid4vci-proof+jwt" ∧ decoded.header.jwk = some holderJwk ∧
        algorithmForJwk holderJwk = .ok alg ∧ decoded.header.alg = alg.asStr ∧
        advertised config decoded.header.alg = true ∧
        verifyWithJwk X holderJwk (utf8 decoded.signingInput) decoded.signature = .ok () ∧
        X.jsonFromSlice decoded.payload = .ok payload ∧ stringMember payload "aud" = some aud ∧
        trimEndMatches '/' aud = trimEndMatches '/' issuerUrl ∧ i64Claim payload "iat" = some iat ∧
        ¬ proofMaxAgeSecs < wrapI64 (wrapI64 (timestamp now - iat)).natAbs ∧
        stringMember payload "nonce" = some nonce := by
  simp only [verifyProofJwt, bind_eq_ok, mapError_eq_ok, okOr_eq_ok, ensure_eq_ok, pure_eq_ok,
    exists_unit, Prod.mk.injEq]
  constructor
  · rintro ⟨decoded, hdecoded, htyp, jwk, hjwk, alg, halg, hsame, hadvertised, hverified, payload,
      hpayload, aud, haud, hissuer, iat, hiat, hage, n, hnonce, rfl, rfl⟩
    exact ⟨decoded, alg, payload, aud, iat, hdecoded, htyp, hjwk, halg, hsame, hadvertised, hverified,
      hpayload, haud, hissuer, hiat, hage, hnonce⟩
  · rintro ⟨decoded, alg, payload, aud, iat, hdecoded, htyp, hjwk, halg, hsame, hadvertised, hverified,
      hpayload, haud, hissuer, hiat, hage, hnonce⟩
    exact ⟨decoded, hdecoded, htyp, holderJwk, hjwk, alg, halg, hsame, hadvertised, hverified, payload,
      hpayload, aud, haud, hissuer, iat, hiat, hage, nonce, hnonce, rfl, rfl⟩

/-! ### Issuance -/

/-- Sign an SD-JWT VC bound to the holder's key. -/
def signSdJwtCredential (ctx : IssuanceContext X σ) (vct : String) (holderJwk : Jwk)
    (status : Option Json) (draws : CredentialDraws) (now : ℤ) : Except Halt Json := do
  let (sdJwt, _) ← (issueSdJwtVcWithX5c X ctx.issuerKey ctx.issuerUrl vct [] draws.claims
    (some (.obj [("jwk", holderJwk.toValue)])) status ctx.x5c now draws.salts).mapError
      fun e => Halt.err (.issuanceError e.toString)
  pure (.str sdJwt)

/-- Issue an SD-JWT VC credential bound to the holder's key. -/
def issueSdJwtCredential (config : CredentialConfiguration) (ctx : IssuanceContext X σ)
    (holderJwk : Jwk) (draws : CredentialDraws) : Prog (Backend σ) (Except Halt Json) :=
  match config.vct with
  | none => .ret (.error (.err (.issuanceError "dc+sd-jwt configuration has no vct")))
  | some vct =>
    .call (Calls.allocate ctx.allocateStatus draws.index) fun
      | none => .ret (.error .drawing)
      | some (.error e) => .ret (.error (.err (.issuanceError e)))
      | some (.ok status) => .call Calls.readClock fun now =>
          .ret (signSdJwtCredential X ctx vct holderJwk status draws now)

/-- The demo subject's mDL data elements. -/
def mdlElements (issuingCountry : String) (today : ℤ) : Except Halt (List (String × Cbor)) := do
  let expiryDate ← okOr .panic (X.addMonths today (5 * 12))
  let age := (X.yearsSince today birthDate).getD 0
  pure ([("family_name", .text "Doe"), ("given_name", .text "John"),
    ("birth_date", fullDate X birthDate), ("issue_date", fullDate X today),
    ("expiry_date", fullDate X expiryDate), ("issuing_country", .text issuingCountry),
    ("issuing_authority", .text issuingAuthority), ("document_number", .text demoDocumentNumber),
    ("portrait", .bytes X.portraitJpeg),
    ("driving_privileges", .array [.map [(.text "vehicle_category_code", .text "B"),
      (.text "issue_date", fullDate X today), (.text "expiry_date", fullDate X expiryDate)]]),
    ("un_distinguishing_sign", .text issuingCountry)] ++
    [18, 21].map fun nn : ℕ => ("age_over_" ++ nn.repr, Cbor.bool (decide (nn ≤ age))))

/-- What the issuer puts in an mDL at this instant, all but its status entry. Times are rounded
down to the day. -/
def mdlRequest (certificate : IssuerCertificate X) (docType country : String) (holderJwk : Jwk)
    (now : ℤ) : Except Halt IssueRequest := do
  let today := startOfDay now
  let elements ← mdlElements X country today
  let latest := today + seconds (msoValidityDays * 86400)
  ensure (Representable latest) .panic
  pure {
    docType := docType
    namespaces := [(mdlNamespace, elements)]
    deviceKey := holderJwk
    signed := today
    validFrom := today
    validUntil := startOfDay (min latest certificate.notAfter)
    status := none
    x5chain := [certificate.der]
    sorted := List.pairwise_singleton _ _ }

def signMdocCredential (ctx : IssuanceContext X σ) (request : IssueRequest)
    (status : Option StatusListRef) (draws : CredentialDraws) : Except Halt Json :=
  match issue X { request with status := status } ctx.issuerKey draws.mdoc with
  | .error (.err e) => .error (.err (.issuanceError e.toString))
  | .error .drawing => .error .drawing
  | .ok issuerSigned => .ok (.str (X.base64UrlEncode issuerSigned))

/-- The document signer of an mDL, and the country it names. -/
def mdlSigner (config : CredentialConfiguration) (ctx : IssuanceContext X σ) :
    Except CredentialError (MdocSigner X σ × String × String) := do
  let signer ← okOr (.issuanceError "no mdoc document signer is configured") ctx.mdoc
  let docType := config.doctype.getD ""
  ensure (docType = mdlDoctype) (.unsupportedFormat ("mso_mdoc doctype '" ++ docType ++ "'"))
  let country ← okOr (.issuanceError "the document signer certificate names no country")
    signer.certificate.subjectCountry
  pure (signer, docType, country)

/-- Issue an ISO/IEC 18013-5 mDL bound to the holder's key. -/
def issueMdocCredential (config : CredentialConfiguration) (ctx : IssuanceContext X σ)
    (holderJwk : Jwk) (draws : CredentialDraws) : Prog (Backend σ) (Except Halt Json) :=
  match mdlSigner X config ctx with
  | .error e => .ret (.error (.err e))
  | .ok (signer, docType, country) => .call Calls.readClock fun now =>
    match mdlRequest X signer.certificate docType country holderJwk now with
    | .error h => .ret (.error h)
    | .ok request => .call (Calls.allocate signer.allocateStatus draws.index) fun
      | none => .ret (.error .drawing)
      | some (.error e) => .ret (.error (.err (.issuanceError e)))
      | some (.ok status) => .ret (signMdocCredential X ctx request status draws)

def issueCredential (configId : String) (config : CredentialConfiguration)
    (ctx : IssuanceContext X σ) (holderJwk : Jwk) (draws : CredentialDraws) :
    Prog (Backend σ) (Except Halt Json) :=
  if config.format = "dc+sd-jwt" then issueSdJwtCredential X config ctx holderJwk draws
  else if config.format = "mso_mdoc" then issueMdocCredential X config ctx holderJwk draws
  else .ret (.error (.err (.unsupportedFormat (configId ++ " has format " ++ config.format))))

/-! ### Processing -/

def credentialResponse (credentials : List Json) : CredentialResponse where
  credentials := some (credentials.map IssuedCredential.mk)
  transactionId := none
  interval := none
  notificationId := none

abbrev Answer := Except Halt CredentialResponse

/-- Issue one credential for each holder key that is left; the others are there already. -/
def issueCredentials (configId : String) (config : CredentialConfiguration)
    (ctx : IssuanceContext X σ) (draws : RequestDraws) :
    List Jwk → List Json → Prog (Backend σ) Answer
  | [], issued => .ret (.ok (credentialResponse issued))
  | holderJwk :: holderKeys, issued =>
    (issueCredential X configId config ctx holderJwk (draws.credential issued.length)).bind fun
      | .error h => .ret (.error h)
      | .ok credential => issueCredentials configId config ctx draws holderKeys (issued ++ [credential])

/-- Consume the nonces that are left, then issue. -/
def consumeNonces (configId : String) (config : CredentialConfiguration)
    (ctx : IssuanceContext X σ) (draws : RequestDraws) (holderKeys : List Jwk) :
    List String → Prog (Backend σ) Answer
  | [] => issueCredentials X configId config ctx draws holderKeys []
  | nonce :: nonces => .call (Calls.consumeCNonce nonce) fun valid =>
    if valid = true then consumeNonces configId config ctx draws holderKeys nonces
    else .ret (.error (.err .invalidNonce))

/-- Verify every proof before consuming any nonce, so a bad proof in a batch does not burn the
nonce for a retry. -/
def verifyProofs (configId : String) (config : CredentialConfiguration) (ctx : IssuanceContext X σ)
    (draws : RequestDraws) : List String → List (Jwk × String) → Prog (Backend σ) Answer
  | [], verified => consumeNonces X configId config ctx draws (verified.map Prod.fst)
      (draws.nonces (verified.map Prod.snd))
  | jwt :: jwts, verified => .call Calls.readClock fun now =>
    match verifyProofJwt X jwt ctx.issuerUrl config now with
    | .error e => .ret (.error (.err e))
    | .ok proof => verifyProofs configId config ctx draws jwts (verified ++ [proof])

/-- What a request asks for, and its proofs. -/
def checkRequest (request : CredentialRequest) (metadata : CredentialIssuerMetadata)
    (grant : AccessGrant) :
    Except CredentialError (String × CredentialConfiguration × List String) := do
  let (configId, config) ← resolveConfiguration request grant metadata
  let jwts ← requestedProofs request metadata
  pure (configId, config, jwts)

def processCredentialRequest (request : CredentialRequest) (accessToken : String)
    (ctx : IssuanceContext X σ) (draws : RequestDraws) : Prog (Backend σ) Answer :=
  .call (Calls.getAccessGrant accessToken) fun
    | none => .ret (.error (.err .invalidAccessToken))
    | some grant =>
      match checkRequest request ctx.metadata grant with
      | .error e => .ret (.error (.err e))
      | .ok (configId, config, jwts) => verifyProofs X configId config ctx draws jwts []

end Oid4vc.Credential
