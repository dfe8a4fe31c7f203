import Oid4vc.Crypto.SdJwt
import Oid4vc.Issuer.State

/-!
DPoP proof validation: the client proves possession of a key on every request by signing a
short JWT bound to the HTTP method and URL.
-/

namespace Oid4vc.Dpop

open Oid4vc.JsonValue Oid4vc.Text Oid4vc.Fallible Oid4vc.Instant Oid4vc.External Oid4vc.Keys
open Oid4vc.Jws Oid4vc.SdJwt Oid4vc.IssuerStore

/-- Algorithms accepted for DPoP proofs. -/
def dpopSigningAlgs : List String := ["ES256", "EdDSA"]

/-- How old a proof's `iat` may be, in seconds. -/
def maxAgeSecs : ℕ := 300

/-- How far in the future a proof's `iat` may be, in seconds. -/
def maxSkewSecs : ℕ := 60

/-- Why a DPoP proof was rejected. -/
structure DpopError where
  reason : String
  deriving DecidableEq

def DpopError.toString (e : DpopError) : String := "invalid DPoP proof: " ++ e.reason

/-- What the request being authorized looks like. -/
structure DpopContext where
  htm : String
  htu : String
  accessToken : Option String

def strClaim (claims : Json) (name : String) : Option String := (claims.get name).bind Json.asStr

variable (X : Crates)

/-- Normalize a URL for comparison: its query and fragment are ignored. -/
def normalizeHtu (value : String) : Option String := (X.urlParse value).map X.urlWithoutQuery

def accessTokenHash (token : String) : String := X.base64UrlEncode (X.sha256 (utf8 token))

/-- The claims of a proof, checked against the request and the clock; answers its `jti`. -/
def checkClaims (now : ℤ) (claims : Json) (ctx : DpopContext) : Except DpopError String := do
  ensure (strClaim claims "htm" = some ctx.htm) ⟨"'htm' does not match the request method"⟩
  let htu ← okOr ⟨"'htu' is missing"⟩ (strClaim claims "htu")
  ensure (normalizeHtu X htu = normalizeHtu X ctx.htu)
    ⟨"'htu' does not match the request URL"⟩
  let iat ← okOr ⟨"'iat' is missing"⟩ (i64Claim claims "iat")
  ensure (¬ (timestamp now + maxSkewSecs < iat ∨ iat < timestamp now - maxAgeSecs))
    ⟨"'iat' is outside the accepted window"⟩
  ensure (∀ token ∈ ctx.accessToken, strClaim claims "ath" = some (accessTokenHash X token))
    ⟨"'ath' does not match the access token"⟩
  okOr ⟨"'jti' is missing"⟩ (strClaim claims "jti")

/-- Every check of a proof but the one that it is new. Answers its `jti` and the thumbprint
of its key. -/
def checkDpopProof (now : ℤ) (proof : String) (ctx : DpopContext) :
    Except DpopError (String × String) := do
  let decoded ← (decodeCompact X proof).mapError fun e => ⟨e.toString⟩
  ensure (decoded.header.typ = some "dpop+jwt") ⟨"typ must be 'dpop+jwt'"⟩
  ensure (decoded.header.alg ∈ dpopSigningAlgs)
    ⟨"unsupported alg '" ++ decoded.header.alg ++ "'"⟩
  let jwk ← okOr ⟨"header must carry the public key in 'jwk'"⟩ decoded.header.jwk
  ensure (jwk.d = none) ⟨"'jwk' must not contain a private key"⟩
  let _ ← (verifyWithPublicJwk X proof jwk).mapError fun e => ⟨"signature: " ++ e.toString⟩
  let claims ← (X.jsonFromSlice decoded.payload).mapError DpopError.mk
  let jti ← checkClaims X now claims ctx
  pure (jti, computeThumbprint X jwk)

/-- The key under which a proof's `jti` is recorded. -/
def jtiKey (jti : String) : String := "dpop:" ++ jti

/-- Verify a DPoP proof and return the JWK thumbprint of its key. The clock is read for the
proof's `iat`, and again when its `jti` is recorded. -/
def verifyDpopProof (now recordedAt : ℤ) (proof : String) (ctx : DpopContext)
    (s : InMemoryIssuerState) : Except DpopError String × InMemoryIssuerState :=
  match checkDpopProof X now proof ctx with
  | .error e => (.error e, s)
  | .ok (jti, thumbprint) =>
    match s.recordJti recordedAt (jtiKey jti) (maxAgeSecs + maxSkewSecs) with
    | (false, s') => (.error ⟨"'jti' has already been used"⟩, s')
    | (true, s') => (.ok thumbprint, s')

variable {X}

lemma checkClaims_eq_ok {now : ℤ} {claims : Json} {ctx : DpopContext} {jti : String} :
    checkClaims X now claims ctx = .ok jti ↔
      strClaim claims "htm" = some ctx.htm ∧
      (∃ htu, strClaim claims "htu" = some htu ∧ normalizeHtu X htu = normalizeHtu X ctx.htu) ∧
      (∃ iat, i64Claim claims "iat" = some iat ∧
        iat ≤ timestamp now + maxSkewSecs ∧ timestamp now - maxAgeSecs ≤ iat) ∧
      (∀ token ∈ ctx.accessToken, strClaim claims "ath" = some (accessTokenHash X token)) ∧
      strClaim claims "jti" = some jti := by
  simp only [checkClaims, bind_eq_ok, ensure_eq_ok, okOr_eq_ok, exists_unit, not_or, Int.not_lt]
  constructor
  · rintro ⟨h1, htu, h2, h3, iat, h4, h5, h6, h7⟩
    exact ⟨h1, ⟨htu, h2, h3⟩, ⟨iat, h4, h5⟩, h6, h7⟩
  · rintro ⟨h1, ⟨htu, h2, h3⟩, ⟨iat, h4, h5⟩, h6, h7⟩
    exact ⟨h1, htu, h2, h3, iat, h4, h5, h6, h7⟩

/-- **What a proof that passes is.** It is signed by the key in its own header, and its
claims fit the request and the clock. -/
theorem checkDpopProof_eq_ok {now : ℤ} {proof : String} {ctx : DpopContext}
    {jti thumbprint : String} :
    checkDpopProof X now proof ctx = .ok (jti, thumbprint) ↔
      ∃ decoded jwk claims, verifyWithPublicJwk X proof jwk = .ok decoded ∧
        decoded.header.typ = some "dpop+jwt" ∧ decoded.header.alg ∈ dpopSigningAlgs ∧
        decoded.header.jwk = some jwk ∧ jwk.d = none ∧
        X.jsonFromSlice decoded.payload = .ok claims ∧ checkClaims X now claims ctx = .ok jti ∧
        thumbprint = computeThumbprint X jwk := by
  simp only [checkDpopProof, bind_eq_ok, mapError_eq_ok, ensure_eq_ok, okOr_eq_ok, pure_eq_ok,
    exists_unit, Prod.mk.injEq]
  constructor
  · rintro ⟨d, hd, htyp, halg, jwk, hjwk, hpriv, d', hv, claims, hc, j, hj, rfl, rfl⟩
    have hdd : decodeCompact X proof = .ok d' := (verifyWithPublicJwk_eq_ok.mp hv).1
    obtain rfl : d = d' := Except.ok.inj (hd.symm.trans hdd)
    exact ⟨d, jwk, claims, hv, htyp, halg, hjwk, hpriv, hc, hj, rfl⟩
  · rintro ⟨d, jwk, claims, hv, htyp, halg, hjwk, hpriv, hc, hj, rfl⟩
    exact ⟨d, (verifyWithPublicJwk_eq_ok.mp hv).1, htyp, halg, jwk, hjwk, hpriv, d, hv, claims,
      hc, jti, hj, rfl, rfl⟩

/-- An accepted proof passes the checks, and its `jti` is recorded just then. -/
lemma verifyDpopProof_eq_ok {now recordedAt : ℤ} {proof : String} {ctx : DpopContext}
    {s s' : InMemoryIssuerState} {thumbprint : String}
    (h : verifyDpopProof X now recordedAt proof ctx s = (.ok thumbprint, s')) :
    ∃ jti, checkDpopProof X now proof ctx = .ok (jti, thumbprint) ∧
      s.recordJti recordedAt (jtiKey jti) (maxAgeSecs + maxSkewSecs) = (true, s') := by
  unfold verifyDpopProof at h
  split at h
  · cases h
  · next jti t hcheck =>
    split at h
    · cases h
    · next s'' hrec =>
      simp only [Prod.mk.injEq, Except.ok.injEq] at h
      obtain ⟨rfl, rfl⟩ := h
      exact ⟨jti, hcheck, hrec⟩

lemma verifyDpopProof_state (now recordedAt : ℤ) (proof : String) (ctx : DpopContext)
    (s : InMemoryIssuerState) :
    (verifyDpopProof X now recordedAt proof ctx s).2 = s ∨
      ∃ jti thumbprint, checkDpopProof X now proof ctx = .ok (jti, thumbprint) ∧
        (verifyDpopProof X now recordedAt proof ctx s).2 =
          (s.recordJti recordedAt (jtiKey jti) (maxAgeSecs + maxSkewSecs)).2 := by
  unfold verifyDpopProof
  split
  · exact Or.inl rfl
  · next jti t hcheck =>
    refine Or.inr ⟨jti, t, hcheck, ?_⟩
    split
    · next s' hrec => rw [hrec]
    · next s' hrec => rw [hrec]

end Oid4vc.Dpop
