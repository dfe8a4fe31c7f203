import Oid4vc.Crypto.Keys

/-!
COSE_Sign1 signing and verification, and COSE keys.
-/

namespace Oid4vc.Cose

open Oid4vc.JsonValue Oid4vc.Fallible Oid4vc.CborValue Oid4vc.Jwks Oid4vc.External Oid4vc.Codecs
open Oid4vc.Keys

/-- COSE header label for `typ`. -/
def headerTyp : CborInt := ofU64 16

/-- COSE header label for `x5chain`. -/
def headerX5chain : CborInt := ofU64 33

inductive CoseError
  | cbor (msg : String)
  | signing (msg : String)
  | verification (msg : String)
  | invalidStructure (msg : String)
  deriving DecidableEq

def CoseError.toString : CoseError → String
  | .cbor msg => "CBOR error: " ++ msg
  | .signing msg => "COSE signing error: " ++ msg
  | .verification msg => "COSE verification error: " ++ msg
  | .invalidStructure msg => "invalid COSE structure: " ++ msg

/-- A small integer. -/
def int (n : ℤ) : CborInt := ofI64 (BitVec.ofInt 64 n)

def coseAlgorithm : Algorithm → CborInt
  | .es256 => int (-7)
  | .edDSA => int (-8)

/-- The protected header of a key: its algorithm, and further parameters. -/
def protectedHeader (key : KeyPair) (extra : List (CborInt × Cbor)) : ProtectedHeader :=
  ⟨none, ⟨some (coseAlgorithm key.algorithm), extra⟩⟩

def unprotectedHeader (values : List (CborInt × Cbor)) : CoseHeader := ⟨none, values⟩

variable (X : Crates)

/-- Sign `payload`, carrying it inside the COSE_Sign1. -/
def sign (key : KeyPair) (payload : Bytes) (protectedValues unprotectedValues : List (CborInt × Cbor)) :
    Except CoseError CoseSign1 := do
  let header := protectedHeader key protectedValues
  let signature ← (key.sign (X.coseSigStructure header payload)).mapError
    fun e => .signing e.toString
  pure ⟨header, unprotectedHeader unprotectedValues, some payload, signature⟩

/-- Sign `payload` without carrying it: the verifier reconstructs it. -/
def signDetached (key : KeyPair) (payload : Bytes) : Except CoseError CoseSign1 := do
  let header := protectedHeader key []
  let signature ← (key.sign (X.coseSigStructure header payload)).mapError
    fun e => .signing e.toString
  pure ⟨header, ⟨none, []⟩, none, signature⟩

/-- The algorithm a COSE_Sign1 must declare to be verified under `key`. -/
def checkAlgorithm (sign1 : CoseSign1) (key : Jwk) : Except CoseError Unit := do
  let expected ← (algorithmForJwk key).mapError fun e => .verification e.toString
  let declared := sign1.protectedHeader.header.alg
  ensure (declared = some (coseAlgorithm expected))
    (.verification ("protected header must declare " ++ expected.asStr ++
      " for this key, found " ++ X.coseDebugAlg declared))

/-- Verify a COSE_Sign1 that carries its payload. -/
def verify (sign1 : CoseSign1) (key : Jwk) : Except CoseError Unit := do
  checkAlgorithm X sign1 key
  let payload ← okOr (.invalidStructure "payload is detached") sign1.payload
  (verifyWithJwk X key (X.coseSigStructure sign1.protectedHeader payload)
    sign1.signature).mapError fun e => .verification e.toString

/-- Verify a COSE_Sign1 over a detached `payload`. -/
def verifyDetached (sign1 : CoseSign1) (payload : Bytes) (key : Jwk) : Except CoseError Unit := do
  checkAlgorithm X sign1 key
  ensure (sign1.payload = none) (.invalidStructure "payload must be detached (nil)")
  (verifyWithJwk X key (X.coseSigStructure sign1.protectedHeader payload)
    sign1.signature).mapError fun e => .verification e.toString

/-- A COSE_Sign1 as a CBOR value, for embedding in a larger structure. -/
def toValue (sign1 : CoseSign1) : Except CoseError Cbor := (X.coseToValue sign1).mapError .cbor

/-- Read a COSE_Sign1 from a CBOR value, tagged or not. -/
def fromValue (value : Cbor) : Except CoseError CoseSign1 :=
  let value := match value with
    | .tag t inner => if t = 18 then inner else .tag t inner
    | other => other
  (X.coseFromValue value).mapError .invalidStructure

/-- The `x5chain` header value for a chain of DER certificates, leaf first: a byte string for
one certificate, an array for several. -/
def x5chainValue (chain : List Bytes) : Cbor :=
  match chain with
  | [one] => .bytes one
  | many => .array (many.map .bytes)

def malformedChain : CoseError := .invalidStructure "x5chain is not a certificate chain"

/-- Read the `x5chain` from a header, leaf first. Empty if absent. -/
def x5chain (header : CoseHeader) : Except CoseError (List Bytes) :=
  match header.rest.lookup headerX5chain with
  | none => .ok []
  | some (.bytes cert) => .ok [cert]
  | some (.array (cert :: certs)) =>
    (cert :: certs).mapM fun c => okOr malformedChain c.asBytes
  | some _ => .error malformedChain

def decodedCoordinate (c : Option String) : Except CoseError Bytes :=
  okOr (.invalidStructure "JWK is missing a coordinate")
    (c.bind fun c => (X.base64UrlDecode c).toOption)

/-- A public JWK as a COSE_Key: EC2 P-256 or OKP Ed25519. -/
def coseKey (jwk : Jwk) : Except CoseError Cbor :=
  match jwk.kty, jwk.crv with
  | "EC", some "P-256" => do
    let x ← decodedCoordinate X jwk.x
    let y ← decodedCoordinate X jwk.y
    pure (.map [(.integer (int 1), .integer (int 2)), (.integer (int (-1)), .integer (int 1)),
      (.integer (int (-2)), .bytes x), (.integer (int (-3)), .bytes y)])
  | "OKP", some "Ed25519" => do
    let x ← decodedCoordinate X jwk.x
    pure (.map [(.integer (int 1), .integer (int 1)), (.integer (int (-1)), .integer (int 6)),
      (.integer (int (-2)), .bytes x)])
  | kty, crv => .error (.invalidStructure ("no COSE_Key mapping for kty=" ++ kty ++ ", crv=" ++
      match crv with
      | none => "None"
      | some crv => "Some(" ++ X.debugStr crv ++ ")"))

/-- The value under an integer label. -/
def labelled (entries : List (Cbor × Cbor)) (label : ℤ) : Option Cbor :=
  (entries.find? fun e => e.1.asInteger == some (int label)).map Prod.snd

/-- An integer under a label, if it fits 64 bits with its sign. -/
def labelledInt (entries : List (Cbor × Cbor)) (label : ℤ) : Option ℤ :=
  ((labelled entries label).bind Cbor.asInteger).bind fun i =>
    if -2 ^ 63 ≤ i.val ∧ i.val < 2 ^ 63 then some i.val else none

/-- A coordinate under a label, as a JWK has it. -/
def coordinate (entries : List (Cbor × Cbor)) (label : ℤ) : Except CoseError String :=
  okOr (.invalidStructure "COSE_Key is missing a coordinate")
    (((labelled entries label).bind Cbor.asBytes).map X.base64UrlEncode)

def publicJwkOf (kty crv : String) (x : String) (y : Option String) : Jwk where
  kty := kty
  crv := some crv
  x := some x
  y := y
  d := none
  alg := none
  kid := none
  use := none

def debugInt : Option ℤ → String
  | none => "None"
  | some n => "Some(" ++ toString n ++ ")"

/-- A COSE_Key as a public JWK: EC2 P-256 or OKP Ed25519. -/
def jwkFromCoseKey (key : Cbor) : Except CoseError Jwk := do
  let entries ← okOr (.invalidStructure "COSE_Key is not a map") key.asMap
  match labelledInt entries 1, labelledInt entries (-1) with
  | some 2, some 1 => do
    let y ← coordinate X entries (-3)
    let x ← coordinate X entries (-2)
    pure (publicJwkOf "EC" "P-256" x (some y))
  | some 1, some 6 => do
    let x ← coordinate X entries (-2)
    pure (publicJwkOf "OKP" "Ed25519" x none)
  | kty, crv => .error (.invalidStructure ("COSE_Key has an unsupported key type or curve (kty=" ++
      debugInt kty ++ ", crv=" ++ debugInt crv ++ ")"))

variable {X}

/-! ### What is signed verifies -/

lemma x5chain_of_lookup {header : CoseHeader} {chain : List Bytes} (h : chain ≠ [])
    (hlookup : header.rest.lookup headerX5chain = some (x5chainValue chain)) :
    x5chain header = .ok chain := by
  rw [x5chain, hlookup]
  match chain, h with
  | [one], _ => rfl
  | one :: two :: rest, _ =>
    simp only [x5chainValue, List.map_cons, mapM_eq_ok]
    refine .cons rfl (.cons rfl ?_)
    rw [List.forall₂_map_left_iff, List.forall₂_same]
    exact fun c _ => rfl

lemma x5chain_x5chainValue {chain : List Bytes} (h : chain ≠ []) :
    x5chain (unprotectedHeader [(headerX5chain, x5chainValue chain)]) = .ok chain :=
  x5chain_of_lookup h List.lookup_cons_self

lemma sign_eq_ok {key : KeyPair} {payload : Bytes} {ps us : List (CborInt × Cbor)} {s : CoseSign1} :
    sign X key payload ps us = .ok s ↔
      ∃ signature, key.sign (X.coseSigStructure (protectedHeader key ps) payload) = .ok signature ∧
        s = ⟨protectedHeader key ps, unprotectedHeader us, some payload, signature⟩ := by
  simp only [sign, bind_eq_ok, mapError_eq_ok, pure_eq_ok]
  constructor
  · rintro ⟨signature, hsign, rfl⟩
    exact ⟨signature, hsign, rfl⟩
  · rintro ⟨signature, hsign, rfl⟩
    exact ⟨signature, hsign, rfl⟩

lemma signDetached_eq_ok {key : KeyPair} {payload : Bytes} {s : CoseSign1} :
    signDetached X key payload = .ok s ↔
      ∃ signature, key.sign (X.coseSigStructure (protectedHeader key []) payload) = .ok signature ∧
        s = ⟨protectedHeader key [], ⟨none, []⟩, none, signature⟩ := by
  simp only [signDetached, bind_eq_ok, mapError_eq_ok, pure_eq_ok]
  constructor
  · rintro ⟨signature, hsign, rfl⟩
    exact ⟨signature, hsign, rfl⟩
  · rintro ⟨signature, hsign, rfl⟩
    exact ⟨signature, hsign, rfl⟩

lemma checkAlgorithm_eq_ok {s : CoseSign1} {jwk : Jwk} :
    checkAlgorithm X s jwk = .ok () ↔ ∃ a, algorithmForJwk jwk = .ok a ∧
      s.protectedHeader.header.alg = some (coseAlgorithm a) := by
  simp [checkAlgorithm]

section Signed

variable {k : SigningKey} {payload : Bytes} {s s' : CoseSign1} {jwk : Jwk}

lemma verifyWithJwk_same
    (hb64 : ∀ bytes, X.base64UrlDecode (X.base64UrlEncode bytes) = .ok bytes) (hk : k.Correct X)
    (hsign : (k.toKeyPair X).sign (X.coseSigStructure s.protectedHeader payload) = .ok s.signature)
    (hsame : CoseSame X s s') (hjwk : jwk.publicMembers = (k.toKeyPair X).publicJwk.publicMembers) :
    verifyWithJwk X jwk (X.coseSigStructure s'.protectedHeader payload) s'.signature = .ok () := by
  rw [hsame.sigStructure, hsame.signature, verifyWithJwk_congr hjwk]
  exact SigningKey.verifyWithJwk_of_sign hb64 hk hsign

lemma checkAlgorithm_same (hsame : CoseSame X s s')
    (halg : s.protectedHeader.header.alg = some (coseAlgorithm (k.toKeyPair X).algorithm))
    (hjwk : jwk.publicMembers = (k.toKeyPair X).publicJwk.publicMembers) :
    checkAlgorithm X s' jwk = .ok () := by
  refine checkAlgorithm_eq_ok.mpr ⟨_, (algorithmForJwk_congr hjwk).mpr k.algorithmForJwk_publicJwk, ?_⟩
  rw [hsame.header, halg]

/-- **A signed payload verifies** under the public key, also after it was written and read. -/
theorem verify_of_sign
    (hb64 : ∀ bytes, X.base64UrlDecode (X.base64UrlEncode bytes) = .ok bytes) (hk : k.Correct X)
    {ps us : List (CborInt × Cbor)} (hs : sign X (k.toKeyPair X) payload ps us = .ok s)
    (hsame : CoseSame X s s') (hjwk : jwk.publicMembers = (k.toKeyPair X).publicJwk.publicMembers) :
    verify X s' jwk = .ok () := by
  obtain ⟨signature, hsign, rfl⟩ := sign_eq_ok.mp hs
  simp only [verify, bind_eq_ok, exists_unit, okOr_eq_ok, mapError_eq_ok]
  exact ⟨checkAlgorithm_same hsame rfl hjwk, payload, hsame.payload,
    verifyWithJwk_same hb64 hk hsign hsame hjwk⟩

/-- **A detached signature verifies** over what was signed. -/
theorem verifyDetached_of_sign
    (hb64 : ∀ bytes, X.base64UrlDecode (X.base64UrlEncode bytes) = .ok bytes) (hk : k.Correct X)
    (hs : signDetached X (k.toKeyPair X) payload = .ok s) (hsame : CoseSame X s s')
    (hjwk : jwk.publicMembers = (k.toKeyPair X).publicJwk.publicMembers) :
    verifyDetached X s' payload jwk = .ok () := by
  obtain ⟨signature, hsign, rfl⟩ := signDetached_eq_ok.mp hs
  simp only [verifyDetached, bind_eq_ok, exists_unit, ensure_eq_ok, mapError_eq_ok]
  exact ⟨checkAlgorithm_same hsame rfl hjwk, hsame.payload,
    verifyWithJwk_same hb64 hk hsign hsame hjwk⟩

end Signed

lemma coseAlgorithm_inj {a b : Algorithm} (h : coseAlgorithm a = coseAlgorithm b) : a = b := by
  cases a <;> cases b <;> first | rfl | exact absurd h (by decide)

/-- **A detached signature verifies for nothing else.** If the signature of a key, written and
read, verifies under a JWK, then over the payload that was signed, and the JWK is of the algorithm
of the key and has its coordinates. -/
theorem eq_of_verifyDetached (hcose : CoseCodec X) {k : SigningKey} (hk : k.Exact X)
    {payload payload' : Bytes} {s s' : CoseSign1} {jwk : Jwk}
    (hs : signDetached X (k.toKeyPair X) payload = .ok s) (hsame : CoseSame X s s')
    (h : verifyDetached X s' payload' jwk = .ok ()) :
    payload' = payload ∧ algorithmForJwk jwk = .ok (k.toKeyPair X).algorithm ∧
      k.Coordinates (X := X) jwk := by
  obtain ⟨signature, hsign, rfl⟩ := signDetached_eq_ok.mp hs
  simp only [verifyDetached, bind_eq_ok, exists_unit, ensure_eq_ok, mapError_eq_ok] at h
  obtain ⟨hchecked, -, hverify⟩ := h
  obtain ⟨a, ha, hdeclared⟩ := checkAlgorithm_eq_ok.mp hchecked
  rw [hsame.header] at hdeclared
  have halg : (k.toKeyPair X).algorithm = a := coseAlgorithm_inj (Option.some.inj hdeclared)
  rw [← halg] at ha
  rw [hsame.sigStructure, hsame.signature] at hverify
  obtain ⟨hmessage, hcoordinates⟩ := SigningKey.eq_of_verifies hk hsign ha hverify
  exact ⟨hcose.sigStructure_inj _ _ _ _ hmessage, ha, hcoordinates⟩

/-! ### Keys -/

lemma int_val {n : ℤ} (h : -2 ^ 63 ≤ n ∧ n < 2 ^ 63) : (int n).val = n := by
  simp only [int, ofI64, BitVec.toInt_ofInt]
  rw [Int.bmod_eq_of_le]
  · omega
  · omega

lemma int_inj {a b : ℤ} (ha : -2 ^ 63 ≤ a ∧ a < 2 ^ 63) (hb : -2 ^ 63 ≤ b ∧ b < 2 ^ 63) :
    int a = int b ↔ a = b := by
  refine ⟨fun h => ?_, fun h => h ▸ rfl⟩
  rw [← int_val ha, ← int_val hb, h]

lemma labelled_cons (a : ℤ) (v : Cbor) (es : List (Cbor × Cbor)) (b : ℤ) :
    labelled ((.integer (int a), v) :: es) b = if int a = int b then some v else labelled es b := by
  by_cases h : int a = int b
  · simp [labelled, h]
  · simp [labelled, h]

/-- **The key of a key pair**, written as a COSE_Key and read back, has the same members. -/
theorem jwkFromCoseKey_coseKey
    (hb64 : ∀ bytes, X.base64UrlDecode (X.base64UrlEncode bytes) = .ok bytes) {k : SigningKey}
    {jwk : Jwk} (hjwk : jwk.publicMembers = (k.toKeyPair X).publicJwk.publicMembers) {key : Cbor}
    (h : coseKey X jwk = .ok key) :
    ∃ jwk', jwkFromCoseKey X key = .ok jwk' ∧
      jwk'.publicMembers = (k.toKeyPair X).publicJwk.publicMembers := by
  obtain ⟨hkty, hcrv, hx, hy⟩ : jwk.kty = (k.toKeyPair X).publicJwk.kty ∧
      jwk.crv = (k.toKeyPair X).publicJwk.crv ∧ jwk.x = (k.toKeyPair X).publicJwk.x ∧
      jwk.y = (k.toKeyPair X).publicJwk.y := by
    simpa [Jwk.publicMembers] using hjwk
  cases k with
  | p256 k =>
    have hxk : jwk.x = some (X.base64UrlEncode k.x) := hx
    have hyk : jwk.y = some (X.base64UrlEncode k.y) := hy
    have hkey : key = .map [(.integer (int 1), .integer (int 2)),
        (.integer (int (-1)), .integer (int 1)), (.integer (int (-2)), .bytes k.x),
        (.integer (int (-3)), .bytes k.y)] := by
      have hkty : jwk.kty = "EC" := hkty
      have hcrv : jwk.crv = some "P-256" := hcrv
      simp only [coseKey, hkty, hcrv, bind_eq_ok, pure_eq_ok] at h
      simp [decodedCoordinate, hxk, hyk, hb64, Except.toOption] at h
      exact h.symm
    refine ⟨publicJwkOf "EC" "P-256" (X.base64UrlEncode k.x) (some (X.base64UrlEncode k.y)), ?_, rfl⟩
    simp [hkey, jwkFromCoseKey, labelledInt, coordinate, labelled_cons, int_inj, int_val]
  | ed25519 k =>
    have hxk : jwk.x = some (X.base64UrlEncode k.key) := hx
    have hkey : key = .map [(.integer (int 1), .integer (int 1)),
        (.integer (int (-1)), .integer (int 6)), (.integer (int (-2)), .bytes k.key)] := by
      have hkty : jwk.kty = "OKP" := hkty
      have hcrv : jwk.crv = some "Ed25519" := hcrv
      simp only [coseKey, hkty, hcrv, bind_eq_ok, pure_eq_ok] at h
      simp [decodedCoordinate, hxk, hb64, Except.toOption] at h
      exact h.symm
    refine ⟨publicJwkOf "OKP" "Ed25519" (X.base64UrlEncode k.key) none, ?_, rfl⟩
    simp [hkey, jwkFromCoseKey, labelledInt, coordinate, labelled_cons, int_inj, int_val]

lemma exists_jwkFromCoseKey {jwk : Jwk} {key : Cbor} (h : coseKey X jwk = .ok key) :
    ∃ jwk', jwkFromCoseKey X key = .ok jwk' := by
  unfold coseKey at h
  split at h
  · simp only [bind_eq_ok, pure_eq_ok] at h
    obtain ⟨x, -, y, -, rfl⟩ := h
    refine ⟨publicJwkOf "EC" "P-256" (X.base64UrlEncode x) (some (X.base64UrlEncode y)), ?_⟩
    simp [jwkFromCoseKey, labelledInt, coordinate, labelled_cons, int_inj, int_val]
  · simp only [bind_eq_ok, pure_eq_ok] at h
    obtain ⟨x, -, rfl⟩ := h
    refine ⟨publicJwkOf "OKP" "Ed25519" (X.base64UrlEncode x) none, ?_⟩
    simp [jwkFromCoseKey, labelledInt, coordinate, labelled_cons, int_inj, int_val]
  · cases h

lemma coseKey_publicJwk
    (hb64 : ∀ bytes, X.base64UrlDecode (X.base64UrlEncode bytes) = .ok bytes) (k : SigningKey) :
    ∃ key, coseKey X (k.toKeyPair X).publicJwk = .ok key := by
  cases k with
  | p256 k =>
    simp [coseKey, SigningKey.toKeyPair, EcdsaP256KeyPair.toKeyPair, EcdsaP256KeyPair.buildPublicJwk,
      decodedCoordinate, hb64, Except.toOption]
  | ed25519 k =>
    simp [coseKey, SigningKey.toKeyPair, Ed25519KeyPair.toKeyPair, Ed25519KeyPair.buildPublicJwk,
      decodedCoordinate, hb64, Except.toOption]

lemma coordinate_eq_ok {entries : List (Cbor × Cbor)} {label : ℤ} {c : String} :
    coordinate X entries label = .ok c ↔
      ∃ bytes, (labelled entries label).bind Cbor.asBytes = some bytes ∧ X.base64UrlEncode bytes = c := by
  rw [coordinate, okOr_eq_ok, Option.map_eq_some_iff]

/-- A key that is read from a COSE_Key has the coordinates of one key pair at most. -/
theorem publicMembers_of_coordinates
    (hb64 : ∀ bytes, X.base64UrlDecode (X.base64UrlEncode bytes) = .ok bytes) {k : SigningKey}
    {jwk : Jwk} {key : Cbor} (hkey : jwkFromCoseKey X key = .ok jwk)
    (halg : algorithmForJwk jwk = .ok (k.toKeyPair X).algorithm)
    (h : k.Coordinates (X := X) jwk) :
    jwk.publicMembers = (k.toKeyPair X).publicJwk.publicMembers := by
  have hdecode : ∀ {bytes bytes' : Bytes} {name : String},
      decodeCoordinate X (some (X.base64UrlEncode bytes)) name = .ok bytes' → bytes = bytes' := by
    intro bytes bytes' name hd
    simpa [decodeCoordinate, hb64] using hd
  simp only [jwkFromCoseKey, bind_eq_ok] at hkey
  obtain ⟨entries, -, hkey⟩ := hkey
  split at hkey
  · simp only [bind_eq_ok, coordinate_eq_ok, pure_eq_ok] at hkey
    obtain ⟨_, ⟨y, -, rfl⟩, _, ⟨x, -, rfl⟩, rfl⟩ := hkey
    cases k with
    | p256 k =>
      have hx : x = k.x := hdecode h.1
      have hy : y = k.y := hdecode h.2
      rw [hx, hy]
      rfl
    | ed25519 k => exact absurd (algorithmForJwk_edDSA.mp halg).1 (by simp [publicJwkOf])
  · simp only [bind_eq_ok, coordinate_eq_ok, pure_eq_ok] at hkey
    obtain ⟨_, ⟨x, -, rfl⟩, rfl⟩ := hkey
    cases k with
    | p256 k => exact absurd (algorithmForJwk_es256.mp halg).1 (by simp [publicJwkOf])
    | ed25519 k =>
      have hx : x = k.key := hdecode h
      rw [hx]
      rfl
  · cases hkey

end Oid4vc.Cose
