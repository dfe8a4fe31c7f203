import Oid4vc.Issuer.Dpop

/-!
Attestation-based client authentication: a JWT in which a trusted attester vouches for the
wallet instance's key, and a fresh JWT signed by that key.
-/

namespace Oid4vc.ClientAttestation

open Oid4vc.JsonValue Oid4vc.Text Oid4vc.Fallible Oid4vc.Instant Oid4vc.External Oid4vc.Jwks
open Oid4vc.Keys Oid4vc.Jws Oid4vc.SdJwt Oid4vc.IssuerStore Oid4vc.Dpop

/-- Algorithms accepted for both attestation JWTs. -/
def attestationSigningAlgs : List String := ["ES256"]

/-- Tolerated clock skew, in seconds. -/
def skewSecs : ℕ := 60

/-- How old a PoP's `iat` may be, in seconds. -/
def popMaxAgeSecs : ℕ := 300

/-- Why client authentication failed. -/
structure AttestationError where
  reason : String
  deriving DecidableEq

def AttestationError.toString (e : AttestationError) : String :=
  "client attestation rejected: " ++ e.reason

/-- A client whose attestation and proof of possession both verified. -/
structure AttestedClient where
  clientId : String
  instanceKey : Jwk
  deriving DecidableEq

/-- Check `exp` (required or optional) and `nbf` against the clock, in whole seconds. -/
def checkTimeWindow (claims : Json) (now : ℤ) (what : String) (expRequired : Bool) :
    Except AttestationError Unit := do
  ensure (∀ exp ∈ i64Claim claims "exp", ¬ wrapI64 (exp + skewSecs) < now)
    ⟨what ++ " has expired"⟩
  ensure (i64Claim claims "exp" = none → expRequired = false) ⟨what ++ " is missing 'exp'"⟩
  ensure (∀ nbf ∈ i64Claim claims "nbf", ¬ now + skewSecs < nbf) ⟨what ++ " is not yet valid"⟩

def sameIssuer (a b : String) : Bool := trimEndMatches '/' a == trimEndMatches '/' b

/-- The audience of a PoP, a string or an array, names this server. -/
def namesAudience (aud : Option Json) (audience : String) : Bool :=
  match aud with
  | some (.str aud) => sameIssuer aud audience
  | some (.arr auds) => (auds.filterMap Json.asStr).any fun aud => sameIssuer aud audience
  | _ => false

variable (X : Crates)

/-- Some trusted attester, of the one named if one is, signed the attestation. -/
def signedByTrusted (attestation : String) (kid : Option String) (trustedAttesters : List Jwk) :
    Bool :=
  (trustedAttesters.filter fun key => kid == none || key.kid == none || key.kid == kid).any
    fun key => (verifyWithPublicJwk X attestation key).isOk

/-- The attestation, signed by a trusted attester. -/
def checkAttestation (now : ℤ) (attestation : String) (trustedAttesters : List Jwk) :
    Except AttestationError AttestedClient := do
  let decoded ← (decodeCompact X attestation).mapError fun e => ⟨"attestation: " ++ e.toString⟩
  ensure (decoded.header.typ = some "oauth-client-attestation+jwt")
    ⟨"attestation typ must be 'oauth-client-attestation+jwt'"⟩
  ensure (decoded.header.alg ∈ attestationSigningAlgs)
    ⟨"attestation alg '" ++ decoded.header.alg ++ "' is not supported"⟩
  ensure (signedByTrusted X attestation decoded.header.kid trustedAttesters = true)
    ⟨"attestation is not signed by a trusted attester"⟩
  let claims ← (X.jsonFromSlice decoded.payload).mapError fun e => ⟨"attestation: " ++ e⟩
  ensure ((strClaim claims "iss").isSome = true) ⟨"attestation is missing 'iss'"⟩
  let clientId ← okOr ⟨"attestation is missing 'sub'"⟩
    ((strClaim claims "sub").filter fun s => s != "")
  checkTimeWindow claims (timestamp now) "attestation" true
  let instanceKey ← okOr ⟨"attestation is missing 'cnf.jwk'"⟩ (cnfJwk claims)
  ensure (instanceKey.d = none) ⟨"attestation 'cnf.jwk' must not contain a private key"⟩
  pure ⟨clientId, instanceKey⟩

/-- The claims of a PoP, checked against the client, the audience and the clock; answers its
`jti`. -/
def checkPopClaims (now : ℤ) (claims : Json) (clientId audience : String) :
    Except AttestationError String := do
  ensure (∀ iss ∈ strClaim claims "iss", iss = clientId)
    ⟨"PoP 'iss' does not match the attested client"⟩
  ensure (namesAudience (claims.get "aud") audience = true)
    ⟨"PoP 'aud' is not this authorization server"⟩
  let iat ← okOr ⟨"PoP is missing 'iat'"⟩ (i64Claim claims "iat")
  ensure (¬ (timestamp now + skewSecs < iat ∨ iat < timestamp now - popMaxAgeSecs))
    ⟨"PoP 'iat' is outside the accepted window"⟩
  checkTimeWindow claims (timestamp now) "PoP" false
  okOr ⟨"PoP is missing 'jti'"⟩ (strClaim claims "jti")

/-- The proof of possession, signed by the instance key. -/
def checkPop (now : ℤ) (pop : String) (client : AttestedClient) (audience : String) :
    Except AttestationError String := do
  let decoded ← (verifyWithPublicJwk X pop client.instanceKey).mapError
    fun e => ⟨"PoP signature: " ++ e.toString⟩
  ensure (decoded.header.typ = some "oauth-client-attestation-pop+jwt")
    ⟨"PoP typ must be 'oauth-client-attestation-pop+jwt'"⟩
  let claims ← (X.jsonFromSlice decoded.payload).mapError fun e => ⟨"PoP: " ++ e⟩
  checkPopClaims now claims client.clientId audience

/-- Every check of an attestation and its PoP but the one that the PoP is new. -/
def checkClientAttestation (now : ℤ) (attestation pop : String) (trustedAttesters : List Jwk)
    (audience : String) : Except AttestationError (AttestedClient × String) := do
  let client ← checkAttestation X now attestation trustedAttesters
  let jti ← checkPop X now pop client audience
  pure (client, jti)

/-- The key under which the `jti` of a client's PoP is recorded. -/
def popKey (clientId jti : String) : String := "attestation-pop:" ++ clientId ++ ":" ++ jti

/-- Verify an attestation and its proof of possession. The clock is read for their times,
and again when the PoP's `jti` is recorded. -/
def verifyClientAttestation (now recordedAt : ℤ) (attestation pop : String)
    (trustedAttesters : List Jwk) (audience : String) (s : InMemoryIssuerState) :
    Except AttestationError AttestedClient × InMemoryIssuerState :=
  match checkClientAttestation X now attestation pop trustedAttesters audience with
  | .error e => (.error e, s)
  | .ok (client, jti) =>
    match s.recordJti recordedAt (popKey client.clientId jti) (popMaxAgeSecs + skewSecs) with
    | (false, s') => (.error ⟨"PoP 'jti' has already been used"⟩, s')
    | (true, s') => (.ok client, s')

variable {X}

lemma checkAttestation_eq_ok {now : ℤ} {attestation : String} {trustedAttesters : List Jwk}
    {client : AttestedClient}
    (h : checkAttestation X now attestation trustedAttesters = .ok client) :
    ∃ claims, jwtClaims X attestation = some claims ∧
      strClaim claims "sub" = some client.clientId := by
  simp only [checkAttestation, bind_eq_ok, mapError_eq_ok, ensure_eq_ok, okOr_eq_ok, pure_eq_ok,
    exists_unit, Option.filter_eq_some_iff] at h
  obtain ⟨d, hd, -, -, -, claims, hc, -, sub, ⟨hsub, -⟩, -, key, -, -, rfl⟩ := h
  exact ⟨claims, jwtClaims_of_decodes hd hc, hsub⟩

lemma checkPopClaims_eq_ok {now : ℤ} {claims : Json} {clientId audience jti : String}
    (h : checkPopClaims now claims clientId audience = .ok jti) :
    (∀ iss ∈ strClaim claims "iss", iss = clientId) ∧
      (∃ iat, i64Claim claims "iat" = some iat ∧ iat ≤ timestamp now + skewSecs ∧
        timestamp now - popMaxAgeSecs ≤ iat) ∧
      strClaim claims "jti" = some jti := by
  simp only [checkPopClaims, bind_eq_ok, ensure_eq_ok, okOr_eq_ok, exists_unit, not_or,
    Int.not_lt] at h
  obtain ⟨hiss, -, iat, hiat, hwindow, -, hjti⟩ := h
  exact ⟨hiss, ⟨iat, hiat, hwindow⟩, hjti⟩

lemma checkClientAttestation_eq_ok {now : ℤ} {attestation pop : String}
    {trustedAttesters : List Jwk} {audience : String} {client : AttestedClient} {jti : String}
    (h : checkClientAttestation X now attestation pop trustedAttesters audience =
      .ok (client, jti)) :
    checkAttestation X now attestation trustedAttesters = .ok client ∧
      ∃ claims, jwtClaims X pop = some claims ∧
        checkPopClaims now claims client.clientId audience = .ok jti := by
  simp only [checkClientAttestation, checkPop, bind_eq_ok, mapError_eq_ok, ensure_eq_ok,
    pure_eq_ok, exists_unit, Prod.mk.injEq] at h
  obtain ⟨c, hc, j, ⟨d, hd, -, claims, hclaims, hcheck⟩, rfl, rfl⟩ := h
  exact ⟨hc, claims, jwtClaims_of_decodes (verifyWithPublicJwk_eq_ok.mp hd).1 hclaims, hcheck⟩

/-- An accepted client passes the checks, and the PoP's `jti` is recorded just then. -/
lemma verifyClientAttestation_eq_ok {now recordedAt : ℤ} {attestation pop : String}
    {trustedAttesters : List Jwk} {audience : String} {s s' : InMemoryIssuerState}
    {client : AttestedClient}
    (h : verifyClientAttestation X now recordedAt attestation pop trustedAttesters audience s =
      (.ok client, s')) :
    ∃ jti, checkClientAttestation X now attestation pop trustedAttesters audience =
        .ok (client, jti) ∧
      s.recordJti recordedAt (popKey client.clientId jti) (popMaxAgeSecs + skewSecs) =
        (true, s') := by
  unfold verifyClientAttestation at h
  split at h
  · cases h
  · next c jti hcheck =>
    split at h
    · cases h
    · next s'' hrec =>
      simp only [Prod.mk.injEq, Except.ok.injEq] at h
      obtain ⟨rfl, rfl⟩ := h
      exact ⟨jti, hcheck, hrec⟩

/-- Verification changes nothing but the identifiers recorded. -/
lemma verifyClientAttestation_state (now recordedAt : ℤ) (attestation pop : String)
    (trustedAttesters : List Jwk) (audience : String) (s : InMemoryIssuerState) :
    (verifyClientAttestation X now recordedAt attestation pop trustedAttesters audience s).2 = s ∨
      ∃ client jti,
        checkClientAttestation X now attestation pop trustedAttesters audience =
          .ok (client, jti) ∧
        (verifyClientAttestation X now recordedAt attestation pop trustedAttesters audience s).2 =
          (s.recordJti recordedAt (popKey client.clientId jti) (popMaxAgeSecs + skewSecs)).2 := by
  unfold verifyClientAttestation
  split
  · exact Or.inl rfl
  · next client jti hcheck =>
    refine Or.inr ⟨client, jti, hcheck, ?_⟩
    split
    · next s' hrec => rw [hrec]
    · next s' hrec => rw [hrec]

end Oid4vc.ClientAttestation
