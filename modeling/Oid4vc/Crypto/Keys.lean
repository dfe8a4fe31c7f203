import Oid4vc.Base.Fallible
import Oid4vc.Codecs

/-!
Key pairs, and the check of a signature against a bare public key.
-/

namespace Oid4vc.Keys

open Oid4vc.JsonValue Oid4vc.Text Oid4vc.Fallible Oid4vc.Jwks Oid4vc.External Oid4vc.Codecs
open Oid4vc.CborBytes (bigEndian length_bigEndian)

inductive KeyError
  | generationFailed (msg : String)
  | signingFailed (msg : String)
  | verificationFailed (msg : String)
  | invalidKeyMaterial (msg : String)
  deriving DecidableEq

def KeyError.toString : KeyError → String
  | .generationFailed msg => "key generation failed: " ++ msg
  | .signingFailed msg => "signing failed: " ++ msg
  | .verificationFailed msg => "verification failed: " ++ msg
  | .invalidKeyMaterial msg => "invalid key material: " ++ msg

/-- Algorithm identifiers used in JWS headers. -/
inductive Algorithm
  | es256
  | edDSA
  deriving DecidableEq

def Algorithm.asStr : Algorithm → String
  | .es256 => "ES256"
  | .edDSA => "EdDSA"

/-- What an issuer or a holder does with a key pair, whichever algorithm it is of. -/
structure KeyPair where
  algorithm : Algorithm
  keyId : String
  sign : Bytes → Except KeyError Bytes
  verify : Bytes → Bytes → Except KeyError Unit
  publicJwk : Jwk

variable (X : Crates)

def EcdsaP256KeyPair.buildPublicJwk (x y : Bytes) (kid : String) : Jwk where
  kty := "EC"
  crv := some "P-256"
  x := some (X.base64UrlEncode x)
  y := some (X.base64UrlEncode y)
  d := none
  alg := some "ES256"
  kid := some kid
  use := some "sig"

def Ed25519KeyPair.buildPublicJwk (key : Bytes) (kid : String) : Jwk where
  kty := "OKP"
  crv := some "Ed25519"
  x := some (X.base64UrlEncode key)
  y := none
  d := none
  alg := some "EdDSA"
  kid := some kid
  use := some "sig"

/-- Decode a base64url-encoded JWK coordinate. -/
def decodeCoordinate (value : Option String) (name : String) : Except KeyError Bytes := do
  let encoded ← okOr (.invalidKeyMaterial ("JWK is missing '" ++ name ++ "'")) value
  (X.base64UrlDecode encoded).mapError fun e =>
    .invalidKeyMaterial ("invalid '" ++ name ++ "': " ++ e)

/-- The error for a key type that neither algorithm is of. -/
def unsupportedKeyType (jwk : Jwk) : KeyError :=
  .invalidKeyMaterial ("unsupported JWK key type: kty=" ++ jwk.kty ++ ", crv=" ++
    jwk.crv.getD "none")

/-- The JWS `alg` a JWK expects, derived from its key type. -/
def algorithmForJwk (jwk : Jwk) : Except KeyError Algorithm :=
  match jwk.kty, jwk.crv with
  | "EC", some "P-256" => .ok .es256
  | "OKP", some "Ed25519" => .ok .edDSA
  | _, _ => .error (unsupportedKeyType jwk)

def verifyP256 (jwk : Jwk) (message signature : Bytes) : Except KeyError Unit := do
  let x ← decodeCoordinate X jwk.x "x"
  let y ← decodeCoordinate X jwk.y "y"
  ensure (x.length = 32 ∧ y.length = 32)
    (.invalidKeyMaterial "P-256 coordinates must be 32 bytes")
  (X.p256FromAffine x y).mapError .invalidKeyMaterial
  (X.p256Signature signature).mapError .verificationFailed
  (X.p256Verify (x, y) message signature).mapError .verificationFailed

def verifyEd25519 (jwk : Jwk) (message signature : Bytes) : Except KeyError Unit := do
  let x ← decodeCoordinate X jwk.x "x"
  ensure (x.length = 32) (.invalidKeyMaterial "Ed25519 public key must be 32 bytes")
  (X.ed25519Key x).mapError .invalidKeyMaterial
  ensure (signature.length = 64) (.verificationFailed "invalid signature length")
  (X.ed25519Verify x message signature).mapError .verificationFailed

/-- Verify a signature using only a public JWK. -/
def verifyWithJwk (jwk : Jwk) (message signature : Bytes) : Except KeyError Unit :=
  match jwk.kty, jwk.crv with
  | "EC", some "P-256" => verifyP256 X jwk message signature
  | "OKP", some "Ed25519" => verifyEd25519 X jwk message signature
  | _, _ => .error (unsupportedKeyType jwk)

/-- The text whose hash is the JWK Thumbprint: the required members, sorted. -/
def canonicalMembers (jwk : Jwk) : String :=
  match jwk.kty with
  | "EC" => "\x7b\"crv\":\"" ++ jwk.crv.getD "" ++ "\",\"kty\":\"EC\",\"x\":\"" ++
      jwk.x.getD "" ++ "\",\"y\":\"" ++ jwk.y.getD "" ++ "\"\x7d"
  | "OKP" => "\x7b\"crv\":\"" ++ jwk.crv.getD "" ++ "\",\"kty\":\"OKP\",\"x\":\"" ++
      jwk.x.getD "" ++ "\"\x7d"
  | kty => "\x7b\"kty\":\"" ++ kty ++ "\"\x7d"

def computeThumbprint (jwk : Jwk) : String :=
  X.base64UrlEncode (X.sha256 (utf8 (canonicalMembers jwk)))

/-- A P-256 key pair: its public key by its coordinates, and how its private key signs. -/
structure EcdsaP256KeyPair where
  x : Bytes
  y : Bytes
  trySign : Bytes → Except String Bytes

def EcdsaP256KeyPair.keyId (k : EcdsaP256KeyPair) : String :=
  computeThumbprint X (buildPublicJwk X k.x k.y "")

def EcdsaP256KeyPair.publicKeySec1 (k : EcdsaP256KeyPair) : Bytes := 4 :: (k.x ++ k.y)

def EcdsaP256KeyPair.toKeyPair (k : EcdsaP256KeyPair) : KeyPair where
  algorithm := .es256
  keyId := k.keyId X
  sign message := (k.trySign message).mapError .signingFailed
  verify message signature := do
    (X.p256Signature signature).mapError .verificationFailed
    (X.p256Verify (k.x, k.y) message signature).mapError .verificationFailed
  publicJwk := EcdsaP256KeyPair.buildPublicJwk X k.x k.y (k.keyId X)

/-- An Ed25519 key pair. -/
structure Ed25519KeyPair where
  key : Bytes
  trySign : Bytes → Except String Bytes

def Ed25519KeyPair.keyId (k : Ed25519KeyPair) : String :=
  computeThumbprint X (buildPublicJwk X k.key "")

def Ed25519KeyPair.toKeyPair (k : Ed25519KeyPair) : KeyPair where
  algorithm := .edDSA
  keyId := k.keyId X
  sign message := (k.trySign message).mapError .signingFailed
  verify message signature := do
    ensure (signature.length = 64) (.verificationFailed "invalid signature length")
    (X.ed25519Verify k.key message signature).mapError .verificationFailed
  publicJwk := Ed25519KeyPair.buildPublicJwk X k.key (k.keyId X)

/-- A key pair of one of the two algorithms. -/
inductive SigningKey
  | p256 (k : EcdsaP256KeyPair)
  | ed25519 (k : Ed25519KeyPair)

def SigningKey.toKeyPair : SigningKey → KeyPair
  | .p256 k => k.toKeyPair X
  | .ed25519 k => k.toKeyPair X

def SigningKey.Correct : SigningKey → Prop
  | .p256 k => k.x.length = 32 ∧ k.y.length = 32 ∧ X.p256FromAffine k.x k.y = .ok () ∧
      ∀ m s, k.trySign m = .ok s →
        X.p256Signature s = .ok () ∧ X.p256Verify (k.x, k.y) m s = .ok ()
  | .ed25519 k => k.key.length = 32 ∧ X.ed25519Key k.key = .ok () ∧
      ∀ m s, k.trySign m = .ok s → s.length = 64 ∧ X.ed25519Verify k.key m s = .ok ()

/-- Signing does not fail. -/
def SigningKey.Signs : SigningKey → Prop
  | .p256 k => ∀ m, ∃ s, k.trySign m = .ok s
  | .ed25519 k => ∀ m, ∃ s, k.trySign m = .ok s

/-- A signature of the key verifies only for the message and the key that made it. -/
def SigningKey.Exact : SigningKey → Prop
  | .p256 k => ∀ m s, k.trySign m = .ok s →
      ∀ x y m', X.p256Verify (x, y) m' s = .ok () → x = k.x ∧ y = k.y ∧ m' = m
  | .ed25519 k => ∀ m s, k.trySign m = .ok s →
      ∀ key m', X.ed25519Verify key m' s = .ok () → key = k.key ∧ m' = m

variable {X}

lemma algorithmForJwk_congr {j k : Jwk} (h : j.publicMembers = k.publicMembers) {a : Algorithm} :
    algorithmForJwk j = .ok a ↔ algorithmForJwk k = .ok a := by
  obtain ⟨hkty, hcrv, -, -⟩ : j.kty = k.kty ∧ j.crv = k.crv ∧ j.x = k.x ∧ j.y = k.y := by
    simpa [Jwk.publicMembers] using h
  have herror : unsupportedKeyType j = unsupportedKeyType k := by
    rw [unsupportedKeyType, unsupportedKeyType, hkty, hcrv]
  rw [algorithmForJwk, algorithmForJwk, hkty, hcrv, herror]

/-- What verifies under a key depends on its public members only. -/
lemma verifyWithJwk_congr {j k : Jwk} (h : j.publicMembers = k.publicMembers)
    (message signature : Bytes) :
    verifyWithJwk X j message signature = verifyWithJwk X k message signature := by
  obtain ⟨hkty, hcrv, hx, hy⟩ : j.kty = k.kty ∧ j.crv = k.crv ∧ j.x = k.x ∧ j.y = k.y := by
    simpa [Jwk.publicMembers] using h
  have herror : unsupportedKeyType j = unsupportedKeyType k := by
    rw [unsupportedKeyType, unsupportedKeyType, hkty, hcrv]
  rw [verifyWithJwk, verifyWithJwk, verifyP256, verifyP256, verifyEd25519, verifyEd25519, hkty, hcrv,
    hx, hy, herror]

lemma SigningKey.algorithmForJwk_publicJwk (k : SigningKey) :
    algorithmForJwk (k.toKeyPair X).publicJwk = .ok (k.toKeyPair X).algorithm := by
  cases k <;> rfl

/-- **A key pair verifies what it signs**, given the pair or the public JWK alone. -/
theorem SigningKey.verify_of_sign {k : SigningKey} (hk : k.Correct X) {m s : Bytes}
    (h : (k.toKeyPair X).sign m = .ok s) : (k.toKeyPair X).verify m s = .ok () := by
  cases k with
  | p256 k =>
    obtain ⟨-, -, -, hsign⟩ := hk
    obtain ⟨hs, hv⟩ := hsign m s (mapError_eq_ok.mp h)
    simp [SigningKey.toKeyPair, EcdsaP256KeyPair.toKeyPair, hs, hv]
  | ed25519 k =>
    obtain ⟨-, -, hsign⟩ := hk
    obtain ⟨hs, hv⟩ := hsign m s (mapError_eq_ok.mp h)
    simp [SigningKey.toKeyPair, Ed25519KeyPair.toKeyPair, hs, hv]

theorem SigningKey.verifyWithJwk_of_sign
    (hb64 : ∀ bytes, X.base64UrlDecode (X.base64UrlEncode bytes) = .ok bytes) {k : SigningKey}
    (hk : k.Correct X) {m s : Bytes} (h : (k.toKeyPair X).sign m = .ok s) :
    verifyWithJwk X (k.toKeyPair X).publicJwk m s = .ok () := by
  cases k with
  | p256 k =>
    obtain ⟨hx, hy, hpoint, hsign⟩ := hk
    obtain ⟨hs, hv⟩ := hsign m s (mapError_eq_ok.mp h)
    simp [SigningKey.toKeyPair, EcdsaP256KeyPair.toKeyPair, EcdsaP256KeyPair.buildPublicJwk,
      verifyWithJwk, verifyP256, decodeCoordinate, hb64, hx, hy, hpoint, hs, hv]
  | ed25519 k =>
    obtain ⟨hx, hkey, hsign⟩ := hk
    obtain ⟨hs, hv⟩ := hsign m s (mapError_eq_ok.mp h)
    simp [SigningKey.toKeyPair, Ed25519KeyPair.toKeyPair, Ed25519KeyPair.buildPublicJwk,
      verifyWithJwk, verifyEd25519, decodeCoordinate, hb64, hx, hkey, hs, hv]

lemma algorithmForJwk_es256 {jwk : Jwk} :
    algorithmForJwk jwk = .ok .es256 ↔ jwk.kty = "EC" ∧ jwk.crv = some "P-256" := by
  unfold algorithmForJwk
  split
  · simp_all
  · simp_all
  · simp_all

lemma algorithmForJwk_edDSA {jwk : Jwk} :
    algorithmForJwk jwk = .ok .edDSA ↔ jwk.kty = "OKP" ∧ jwk.crv = some "Ed25519" := by
  unfold algorithmForJwk
  split
  · simp_all
  · simp_all
  · simp_all

def SigningKey.Coordinates (jwk : Jwk) : SigningKey → Prop
  | .p256 k => decodeCoordinate X jwk.x "x" = .ok k.x ∧ decodeCoordinate X jwk.y "y" = .ok k.y
  | .ed25519 k => decodeCoordinate X jwk.x "x" = .ok k.key

/-- **What a signature says.** A signature of a key that verifies under a JWK of its algorithm is
over the message that was signed, and the JWK has the coordinates of the key. -/
theorem SigningKey.eq_of_verifies {k : SigningKey} (hk : k.Exact X) {m m' s : Bytes} {jwk : Jwk}
    (hsign : (k.toKeyPair X).sign m = .ok s)
    (halg : algorithmForJwk jwk = .ok (k.toKeyPair X).algorithm)
    (h : verifyWithJwk X jwk m' s = .ok ()) : m' = m ∧ k.Coordinates (X := X) jwk := by
  cases k with
  | p256 k =>
    obtain ⟨hkty, hcrv⟩ := algorithmForJwk_es256.mp halg
    simp only [verifyWithJwk, hkty, hcrv, verifyP256, bind_eq_ok, mapError_eq_ok, ensure_eq_ok,
      exists_unit] at h
    obtain ⟨x, hx, y, hy, -, -, -, hverify⟩ := h
    obtain ⟨rfl, rfl, rfl⟩ := hk m s (mapError_eq_ok.mp hsign) x y m' hverify
    exact ⟨rfl, hx, hy⟩
  | ed25519 k =>
    obtain ⟨hkty, hcrv⟩ := algorithmForJwk_edDSA.mp halg
    simp only [verifyWithJwk, hkty, hcrv, verifyEd25519, bind_eq_ok, mapError_eq_ok, ensure_eq_ok,
      exists_unit] at h
    obtain ⟨x, hx, -, -, -, hverify⟩ := h
    obtain ⟨rfl, rfl⟩ := hk m s (mapError_eq_ok.mp hsign) x m' hverify
    exact ⟨rfl, hx⟩

lemma SigningKey.sign_total {k : SigningKey} (h : k.Signs) (m : Bytes) :
    ∃ s, (k.toKeyPair X).sign m = .ok s := by
  cases k with
  | p256 k => exact (h m).imp fun s hs => mapError_eq_ok.mpr hs
  | ed25519 k => exact (h m).imp fun s hs => mapError_eq_ok.mpr hs

/-- The P-256 key pair that made the signatures of a table. -/
def tabledKey (x y : ℕ) (signatures : List (Bytes × Bytes)) : SigningKey :=
  .p256 ⟨bigEndian 32 x, bigEndian 32 y, fun message => .ok (extend signatures message)⟩

lemma tabledKey_correct (x y : ℕ) (digests signatures : List (Bytes × Bytes)) :
    (tabledKey x y signatures).Correct (tabled digests signatures) := by
  refine ⟨length_bigEndian _ _, length_bigEndian _ _, rfl, ?_⟩
  rintro m s ⟨⟩
  exact ⟨rfl, if_pos rfl⟩

/-- **A key that verifies.** A JWK under which some signature verifies has an algorithm. -/
theorem algorithmForJwk_of_verifies {jwk : Jwk} {m s : Bytes}
    (h : verifyWithJwk X jwk m s = .ok ()) : ∃ a, algorithmForJwk jwk = .ok a := by
  unfold verifyWithJwk at h
  unfold algorithmForJwk
  split at h <;> simp_all

end Oid4vc.Keys
