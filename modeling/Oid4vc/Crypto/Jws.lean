import Oid4vc.Codecs
import Oid4vc.Crypto.Keys

/-!
JSON Web Signatures in compact serialization, `header.payload.signature`.
-/

namespace Oid4vc.Jws

open Oid4vc.JsonValue Oid4vc.Text Oid4vc.Fallible Oid4vc.Jwks Oid4vc.External Oid4vc.Keys
open Oid4vc.Codecs

inductive JwsError
  | serialization (msg : String)
  | deserialization (msg : String)
  | signing (msg : String)
  | verification (msg : String)
  | invalidFormat (msg : String)
  | base64Error (msg : String)
  deriving DecidableEq

def JwsError.toString : JwsError → String
  | .serialization msg => "serialization error: " ++ msg
  | .deserialization msg => "deserialization error: " ++ msg
  | .signing msg => "signing error: " ++ msg
  | .verification msg => "verification error: " ++ msg
  | .invalidFormat msg => "invalid JWS format: " ++ msg
  | .base64Error msg => "base64 decode error: " ++ msg

variable (X : Crates)

/-- Sign a payload and produce a JWS compact serialization. -/
def signCompact (key : KeyPair) (header : JwsHeader) (payload : Json) :
    Except JwsError String := do
  let headerB64 := X.base64UrlEncode (X.jsonToVec header.toJson)
  let payloadB64 := X.base64UrlEncode (X.jsonToVec payload)
  let signingInput := headerB64 ++ "." ++ payloadB64
  let signature ← (key.sign (utf8 signingInput)).mapError fun e => .signing e.toString
  pure (headerB64 ++ "." ++ payloadB64 ++ "." ++ X.base64UrlEncode signature)

/-- Decoded parts of a JWS compact serialization. -/
structure DecodedJws where
  header : JwsHeader
  payload : Bytes
  signature : Bytes
  signingInput : String

/-- Decode a JWS compact serialization without verifying the signature. -/
def decodeCompact (jws : String) : Except JwsError DecodedJws :=
  match splitn 3 '.' jws with
  | [h, p, s] => do
    let headerBytes ← (X.base64UrlDecode h).mapError .base64Error
    let payload ← (X.base64UrlDecode p).mapError .base64Error
    let signature ← (X.base64UrlDecode s).mapError .base64Error
    let header ← (X.headerFromSlice headerBytes).mapError .deserialization
    pure ⟨header, payload, signature, h ++ "." ++ p⟩
  | _ => .error (.invalidFormat "JWS must have exactly 3 dot-separated parts")

/-- Verify a JWS compact serialization using the provided key. -/
def verifyCompact (jws : String) (key : KeyPair) : Except JwsError DecodedJws := do
  let decoded ← decodeCompact X jws
  (key.verify (utf8 decoded.signingInput) decoded.signature).mapError
    fun e => .verification e.toString
  pure decoded

/-- Verify a JWS against a public JWK, checking `alg` matches the key type. -/
def verifyWithPublicJwk (jws : String) (jwk : Jwk) : Except JwsError DecodedJws := do
  let decoded ← decodeCompact X jws
  let expected ← (algorithmForJwk jwk).mapError fun e => .verification e.toString
  ensure (decoded.header.alg = expected.asStr)
    (.verification ("alg '" ++ decoded.header.alg ++ "' does not match the key (" ++
      expected.asStr ++ ")"))
  (verifyWithJwk X jwk (utf8 decoded.signingInput) decoded.signature).mapError
    fun e => .verification e.toString
  pure decoded

/-- Build a standard JWS header for a given key. -/
def buildHeader (key : KeyPair) (typ : Option String) : JwsHeader where
  alg := key.algorithm.asStr
  typ := typ
  kid := some key.keyId
  jwk := none
  x5c := none

/-- Build a JWS header with an embedded JWK, and then no key ID. -/
def buildHeaderWithJwk (key : KeyPair) (typ : Option String) : JwsHeader where
  alg := key.algorithm.asStr
  typ := typ
  kid := none
  jwk := some key.publicJwk
  x5c := none

/-- The claims a JWS carries, whoever signed it. -/
def jwtClaims (jws : String) : Option Json :=
  match decodeCompact X jws with
  | .error _ => none
  | .ok decoded => (X.jsonFromSlice decoded.payload).toOption

/-- What it is for a text to be a JWS with this header and this payload, signed as `check`
says: three parts, of which the first two are what is signed. -/
def SignedAs (check : Bytes → Bytes → Prop) (jws : String) (header : JwsHeader)
    (payload : Json) : Prop :=
  ∃ h p s headerBytes payloadBytes signature,
    jws = h ++ "." ++ p ++ "." ++ s ∧ '.' ∉ h.toList ∧ '.' ∉ p.toList ∧
    X.base64UrlDecode h = .ok headerBytes ∧ X.headerFromSlice headerBytes = .ok header ∧
    X.base64UrlDecode p = .ok payloadBytes ∧ X.jsonFromSlice payloadBytes = .ok payload ∧
    X.base64UrlDecode s = .ok signature ∧ check (utf8 (h ++ "." ++ p)) signature

variable {X}

lemma splitn_dots {jws h p s : String} :
    splitn 3 '.' jws = [h, p, s] ↔
      jws = h ++ "." ++ p ++ "." ++ s ∧ '.' ∉ h.toList ∧ '.' ∉ p.toList := by
  rw [splitn_three, ← String.toList_inj]
  simp [String.toList_append]

/-- What a text that decodes is made of. -/
lemma decodeCompact_eq_ok {jws : String} {d : DecodedJws} :
    decodeCompact X jws = .ok d ↔
      ∃ h p s headerBytes, splitn 3 '.' jws = [h, p, s] ∧
        X.base64UrlDecode h = .ok headerBytes ∧ X.headerFromSlice headerBytes = .ok d.header ∧
        X.base64UrlDecode p = .ok d.payload ∧ X.base64UrlDecode s = .ok d.signature ∧
        d.signingInput = h ++ "." ++ p := by
  constructor
  · intro hd
    unfold decodeCompact at hd
    split at hd
    · next h p s hsplit =>
      simp only [bind_eq_ok, mapError_eq_ok, pure_eq_ok] at hd
      obtain ⟨hb, h1, pb, h2, sig, h3, hdr, h4, rfl⟩ := hd
      exact ⟨h, p, s, hb, hsplit, h1, h4, h2, h3, rfl⟩
    · cases hd
  · rintro ⟨h, p, s, hb, hsplit, h1, h4, h2, h3, hin⟩
    unfold decodeCompact
    rw [hsplit]
    simp only [bind_eq_ok, mapError_eq_ok, pure_eq_ok]
    exact ⟨hb, h1, d.payload, h2, d.signature, h3, d.header, h4, by rw [← hin]⟩

/-- **Decoding and checking is being signed.** -/
theorem signedAs_iff {check : Bytes → Bytes → Prop} {jws : String} {header : JwsHeader}
    {payload : Json} :
    SignedAs X check jws header payload ↔
      ∃ d, decodeCompact X jws = .ok d ∧ d.header = header ∧
        X.jsonFromSlice d.payload = .ok payload ∧
        check (utf8 d.signingInput) d.signature := by
  simp only [decodeCompact_eq_ok, splitn_dots]
  constructor
  · rintro ⟨h, p, s, hb, pb, sig, hjws, hh, hp, h1, h2, h3, h4, h5, h6⟩
    exact ⟨⟨header, pb, sig, h ++ "." ++ p⟩, ⟨h, p, s, hb, ⟨hjws, hh, hp⟩, h1, h2, h3, h5, rfl⟩,
      rfl, h4, h6⟩
  · rintro ⟨d, ⟨h, p, s, hb, ⟨hjws, hh, hp⟩, h1, h2, h3, h5, hin⟩, rfl, h4, h6⟩
    exact ⟨h, p, s, hb, d.payload, d.signature, hjws, hh, hp, h1, h2, h3, h4, h5, hin ▸ h6⟩

lemma jwtClaims_of_decodes {jws : String} {d : DecodedJws} {claims : Json}
    (hd : decodeCompact X jws = .ok d) (hc : X.jsonFromSlice d.payload = .ok claims) :
    jwtClaims X jws = some claims := by
  unfold jwtClaims
  simp only [hd, hc]
  rfl

lemma verifyWithPublicJwk_eq_ok {jws : String} {jwk : Jwk} {d : DecodedJws} :
    verifyWithPublicJwk X jws jwk = .ok d ↔
      decodeCompact X jws = .ok d ∧
        (∃ a, algorithmForJwk jwk = .ok a ∧ d.header.alg = a.asStr) ∧
        verifyWithJwk X jwk (utf8 d.signingInput) d.signature = .ok () := by
  simp only [verifyWithPublicJwk, bind_eq_ok, mapError_eq_ok, ensure_eq_ok, pure_eq_ok,
    exists_unit]
  constructor
  · rintro ⟨d', hd, a, ha, halg, hv, rfl⟩
    exact ⟨hd, ⟨a, ha, halg⟩, hv⟩
  · rintro ⟨hd, ⟨a, ha, halg⟩, hv⟩
    exact ⟨d, hd, a, ha, halg, hv, rfl⟩

lemma verifyCompact_eq_ok {jws : String} {key : KeyPair} {d : DecodedJws} :
    verifyCompact X jws key = .ok d ↔
      decodeCompact X jws = .ok d ∧ key.verify (utf8 d.signingInput) d.signature = .ok () := by
  simp only [verifyCompact, bind_eq_ok, mapError_eq_ok, pure_eq_ok, exists_unit]
  constructor
  · rintro ⟨d', hd, hv, rfl⟩
    exact ⟨hd, hv⟩
  · rintro ⟨hd, hv⟩
    exact ⟨d, hd, hv, rfl⟩

lemma signCompact_total {key : KeyPair} (hsign : ∀ m, ∃ s, key.sign m = .ok s) (header : JwsHeader)
    (payload : Json) : ∃ jws, signCompact X key header payload = .ok jws := by
  obtain ⟨signature, hsignature⟩ := hsign (utf8 (X.base64UrlEncode (X.jsonToVec header.toJson) ++
    "." ++ X.base64UrlEncode (X.jsonToVec payload)))
  simp only [signCompact, bind_eq_ok, mapError_eq_ok, pure_eq_ok]
  exact ⟨_, signature, hsignature, rfl⟩

/-- **What was signed is decoded**, with codecs that read back what they write; and the text
has no separator of presentations. -/
lemma decodeCompact_signCompact (hb64 : Base64Url X) (hserde : SerdeJson X) {key : KeyPair}
    {header : JwsHeader} {payload : Json} {jws : String}
    (h : signCompact X key header payload = .ok jws) :
    ∃ signature signingInput,
      decodeCompact X jws = .ok ⟨header, X.jsonToVec payload, signature, signingInput⟩ ∧
      key.sign (utf8 signingInput) = .ok signature ∧ '~' ∉ jws.toList ∧ jws ≠ "" := by
  simp only [signCompact, bind_eq_ok, mapError_eq_ok, pure_eq_ok] at h
  obtain ⟨signature, hsign, rfl⟩ := h
  have hdot := fun b => (hb64.alphabet b).1
  have htilde := fun b => (hb64.alphabet b).2
  refine ⟨signature, _, ?_, hsign, ?_, ?_⟩
  · rw [decodeCompact_eq_ok]
    exact ⟨_, _, _, _, splitn_dots.mpr ⟨rfl, hdot _, hdot _⟩, hb64.decode_encode _,
      hserde.header header, hb64.decode_encode _, hb64.decode_encode _, rfl⟩
  · exact not_mem_append (not_mem_append (not_mem_append (not_mem_append (htilde _) (by decide))
      (htilde _)) (by decide)) (htilde _)
  · intro hempty
    have := congrArg String.toList hempty
    simp [String.toList_append] at this

end Oid4vc.Jws
