import Oid4vc.Base.Instant
import Oid4vc.Crypto.Keys

/-!
X.509 certificates: the issuer's certificates and chain validation.
-/

namespace Oid4vc.X509

open Oid4vc.JsonValue Oid4vc.Instant Oid4vc.Fallible Oid4vc.Jwks Oid4vc.External Oid4vc.Keys

inductive X509Error
  | generation (msg : String)
  | invalidPem (msg : String)
  | invalidCertificate (msg : String)
  | keyMismatch
  | untrusted (msg : String)
  deriving DecidableEq

def X509Error.toString : X509Error → String
  | .generation msg => "certificate generation failed: " ++ msg
  | .invalidPem msg => "invalid PEM: " ++ msg
  | .invalidCertificate msg => "invalid certificate: " ++ msg
  | .keyMismatch => "the certificate does not certify the issuer's signing key"
  | .untrusted msg => "certificate chain is not trusted: " ++ msg

def ecdsaWithSha256 : String := "1.2.840.10045.4.3.2"

def idEcPublicKey : String := "1.2.840.10045.2.1"

def secp256r1 : String := "1.2.840.10045.3.1.7"

/-- A time of a certificate as an instant. -/
def toDatetime (time : CertificateTime) : ℤ := seconds time.val

def checkValidity (X : Crates) (cert : Certificate) (instant : ℤ) : Except X509Error Unit :=
  ensure (toDatetime cert.notBefore ≤ instant ∧ instant ≤ toDatetime cert.notAfter)
    (.untrusted ("certificate '" ++ cert.subjectText ++ "' is not valid at " ++
      X.displayInstant instant))

def isCa (cert : Certificate) : Bool := cert.basicConstraintsCa == some true

variable (X : Crates)

def parse (der : Bytes) : Except X509Error Certificate :=
  (X.certificateFromDer der).mapError .invalidCertificate

def p256VerifyingKey (cert : Certificate) : Except X509Error (Bytes × Bytes) := do
  ensure (cert.spkiAlgorithm = idEcPublicKey ∧ cert.spkiCurve = some secp256r1)
    (.untrusted "only P-256 keys are supported")
  (X.p256FromSec1 cert.subjectPublicKey).mapError .invalidCertificate

/-- Check that `issuer` signed `cert`, and that the names link them. -/
def verifyIssuedBy (cert issuer : Certificate) : Except X509Error Unit := do
  ensure (cert.issuer = issuer.subject)
    (.untrusted "issuer name does not match the issuing certificate")
  ensure (cert.signatureAlgorithm = ecdsaWithSha256)
    (.untrusted "only ecdsa-with-SHA256 certificate signatures are supported")
  let key ← p256VerifyingKey X issuer
  let signature ← okOr (.untrusted "malformed certificate signature")
    (X.p256SignatureFromDer cert.signature)
  let tbs ← cert.tbs.mapError .invalidCertificate
  (X.p256Verify key tbs signature).mapError
    fun _ => .untrusted "certificate signature does not verify"

/-- A public JWK for an uncompressed SEC1 P-256 point. -/
def p256Jwk (point : Bytes) : Except X509Error Jwk := do
  let (x, y) ← (X.p256FromSec1 point).mapError .invalidCertificate
  pure {
    kty := "EC"
    crv := some "P-256"
    x := some (X.base64UrlEncode x)
    y := some (X.base64UrlEncode y)
    d := none
    alg := none
    kid := none
    use := none }

/-- Each certificate of a chain is valid, and is issued by the next one, a CA. -/
def checkLinks (instant : ℤ) : ℕ → List Certificate → Except X509Error Unit
  | _, [] => .ok ()
  | _, [cert] => checkValidity X cert instant
  | i, cert :: issuer :: rest => do
    checkValidity X cert instant
    ensure (isCa issuer = true) (.untrusted ("certificate " ++ toString (i + 1) ++
      " issued certificate " ++ toString i ++ " but is not a CA"))
    verifyIssuedBy X cert issuer
    checkLinks instant (i + 1) (issuer :: rest)

/-- A trust anchor is the top of the chain, or issued it and is valid. -/
def anchors (top : Certificate) (topDer : Bytes) (instant : ℤ) (anchorDer : Bytes) : Bool :=
  anchorDer == topDer ||
    match parse X anchorDer with
    | .ok anchor => (checkValidity X anchor instant).isOk && (verifyIssuedBy X top anchor).isOk
    | .error _ => false

/-- Validate a certificate chain, leaf first, against trust anchors at an instant. Returns the
leaf's public key. -/
def validateChain (chain trustAnchors : List Bytes) (instant : ℤ) : Except X509Error Jwk := do
  let certs ← chain.mapM (parse X)
  match certs.head?, certs.getLast?, chain.getLast? with
  | some leaf, some top, some topDer => do
    checkLinks X instant 0 certs
    ensure (trustAnchors.any (anchors X top topDer instant) = true)
      (.untrusted "no trust anchor issued the chain's top certificate")
    p256Jwk X leaf.subjectPublicKey
  | _, _, _ => .error (.untrusted "the chain is empty")

/-- A certificate for the issuer's signing key, which parsed when it was loaded. -/
structure IssuerCertificate where
  der : Bytes
  certificate : Certificate
  parsed : X.certificateFromDer der = .ok certificate

/-- Load a certificate, checking that it certifies `publicKey`. -/
def IssuerCertificate.fromDer (der publicKey : Bytes) : Except X509Error (IssuerCertificate X) :=
  match h : X.certificateFromDer der with
  | .error e => .error (.invalidCertificate e)
  | .ok cert =>
    if cert.subjectPublicKey = publicKey then .ok ⟨der, cert, h⟩ else .error .keyMismatch

variable {X}

/-- The end of the certificate's validity period. -/
def IssuerCertificate.notAfter (c : IssuerCertificate X) : ℤ := toDatetime c.certificate.notAfter

def IssuerCertificate.subjectCountry (c : IssuerCertificate X) : Option String :=
  c.certificate.subjectCountry

/-! ### Validated chains -/

lemma checkValidity_eq_ok {cert : Certificate} {instant : ℤ} :
    checkValidity X cert instant = .ok () ↔
      toDatetime cert.notBefore ≤ instant ∧ instant ≤ toDatetime cert.notAfter := by
  simp [checkValidity]

/-- The leaf of a validated chain is valid. -/
lemma validateChain_leaf {chain trustAnchors : List Bytes} {instant : ℤ} {key : Jwk}
    (h : validateChain X chain trustAnchors instant = .ok key) :
    ∃ der rest cert, chain = der :: rest ∧ X.certificateFromDer der = .ok cert ∧
      checkValidity X cert instant = .ok () ∧ p256Jwk X cert.subjectPublicKey = .ok key := by
  simp only [validateChain, bind_eq_ok, mapM_eq_ok] at h
  obtain ⟨certs, hcerts, h⟩ := h
  cases hcerts with
  | nil => simp at h
  | @cons der cert rest certs hparse _ =>
    rw [parse, mapError_eq_ok] at hparse
    refine ⟨der, rest, cert, rfl, hparse, ?_⟩
    split at h
    · rename_i leaf top topDer hleaf _ _
      rw [List.head?_cons, Option.some.injEq] at hleaf
      subst hleaf
      simp only [bind_eq_ok, exists_unit] at h
      obtain ⟨hlinks, -, hkey⟩ := h
      refine ⟨?_, hkey⟩
      cases certs with
      | nil => exact hlinks
      | cons issuer certs =>
        simp only [checkLinks, bind_eq_ok, exists_unit] at hlinks
        exact hlinks.1
    · cases h

/-- A validated chain is validated at an instant that four digits of a year can name. -/
lemma validateChain_instant {chain trustAnchors : List Bytes} {instant : ℤ} {key : Jwk}
    (h : validateChain X chain trustAnchors instant = .ok key) :
    0 ≤ instant ∧ instant < seconds 253402300800 := by
  obtain ⟨_, _, cert, -, -, hvalid, -⟩ := validateChain_leaf h
  obtain ⟨hfrom, huntil⟩ := checkValidity_eq_ok.mp hvalid
  have hafter := cert.notAfter.isLt
  unfold toDatetime seconds at hfrom huntil
  unfold seconds
  omega

/-- **A leaf that a trust anchor issued** is trusted while both are valid. -/
lemma validateChain_single {der anchorDer : Bytes} {cert anchor : Certificate} {key : Jwk}
    {trustAnchors : List Bytes} {instant : ℤ} (hcert : X.certificateFromDer der = .ok cert)
    (hanchor : X.certificateFromDer anchorDer = .ok anchor) (hmem : anchorDer ∈ trustAnchors)
    (hissued : verifyIssuedBy X cert anchor = .ok ())
    (hkey : p256Jwk X cert.subjectPublicKey = .ok key)
    (hvalid : checkValidity X cert instant = .ok ())
    (hanchorValid : checkValidity X anchor instant = .ok ()) :
    validateChain X [der] trustAnchors instant = .ok key := by
  have htrusted : trustAnchors.any (anchors X cert der instant) = true := by
    refine List.any_eq_true.mpr ⟨anchorDer, hmem, ?_⟩
    simp [anchors, parse, hanchor, Except.mapError, hanchorValid, hissued, Except.isOk, Except.toBool]
  have hparse : [der].mapM (parse X) = .ok [cert] :=
    mapM_eq_ok.mpr (.cons (mapError_eq_ok.mpr hcert) .nil)
  simp only [validateChain, hparse, bind_eq_ok, Except.ok.injEq, exists_eq_left', List.head?_cons,
    List.getLast?_singleton, exists_unit, ensure_eq_ok]
  exact ⟨hvalid, htrusted, hkey⟩

end Oid4vc.X509
