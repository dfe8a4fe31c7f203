import Oid4vc.Base.Base64
import Oid4vc.Base.Cbor
import Oid4vc.Base.Fallible
import Oid4vc.Base.Text
import Oid4vc.Crypto.Jwk

/-!
The crates the program is built on, as functions. Nothing is assumed of them here: a
result that rests on what one of them documents names that as a hypothesis.
-/

namespace Oid4vc.External

open Oid4vc.JsonValue Oid4vc.CborValue Oid4vc.Fallible Oid4vc.Jwks

/-- The parameters of a COSE header that the program reads or sets: the algorithm and the
parameters under integer labels that `coset` gives no field of their own. -/
structure CoseHeader where
  alg : Option CborInt
  rest : List (CborInt × Cbor)

/-- A header as the program builds them: no label is one with a field of its own, or twice. -/
def CoseHeader.Plain (h : CoseHeader) : Prop :=
  (h.rest.map Prod.fst).Nodup ∧ ∀ p ∈ h.rest, 9 < p.1.val

/-- A protected header: what it was decoded from, if it was, and its parameters. -/
structure ProtectedHeader where
  originalData : Option Bytes
  header : CoseHeader

/-- A `COSE_Sign1`. -/
structure CoseSign1 where
  protectedHeader : ProtectedHeader
  unprotectedHeader : CoseHeader
  payload : Option Bytes
  signature : Bytes

/-- A time of a certificate: seconds since the epoch, before the year 10000. -/
abbrev CertificateTime := Fin 253402300800

/-- What chain validation reads of a parsed X.509 certificate. -/
structure Certificate where
  issuer : Bytes
  subject : Bytes
  subjectText : String
  subjectCountry : Option String
  notBefore : CertificateTime
  notAfter : CertificateTime
  /-- The `cA` bit of a basicConstraints extension that parses. -/
  basicConstraintsCa : Option Bool
  spkiAlgorithm : String
  spkiCurve : Option String
  subjectPublicKey : Bytes
  signatureAlgorithm : String
  signature : Bytes
  tbs : Except String Bytes

structure Crates where
  -- base64ct
  base64UrlEncode : Bytes → String
  base64UrlDecode : String → Except String Bytes
  base64Encode : Bytes → String
  base64Decode : String → Except String Bytes
  -- sha2
  sha256 : Bytes → Bytes
  -- serde_json
  jsonToVec : Json → Bytes
  jsonFromSlice : Bytes → Except String Json
  jsonArrayFromSlice : Bytes → Except String (List Json)
  headerFromSlice : Bytes → Except String JwsHeader
  -- p256 and ed25519_dalek: a point given by its coordinates, a signature, their check
  p256FromAffine : Bytes → Bytes → Except String Unit
  p256FromSec1 : Bytes → Except String (Bytes × Bytes)
  p256Signature : Bytes → Except String Unit
  p256SignatureFromDer : Bytes → Option Bytes
  p256Verify : Bytes × Bytes → Bytes → Bytes → Except String Unit
  ed25519Key : Bytes → Except String Unit
  ed25519Verify : Bytes → Bytes → Bytes → Except String Unit
  -- flate2
  gzip : Bytes → Except String Bytes
  zlib : Bytes → Except String Bytes
  -- url
  urlParse : String → Option String
  urlJoin : String → String → String
  urlWithoutQuery : String → String
  urlAppendQuery : String → List (String × String) → String
  -- urlencoding: the bytes of a text
  urlencode : Bytes → String
  -- http: the text of a header value
  headerToStr : Bytes → Except String String
  -- uuid: the identifiers drawn, in order
  uuid : ℕ → String
  -- ciborium and coset
  cborEncode : Cbor → Except String Bytes
  cborDecode : Bytes → Except String Cbor
  coseToValue : CoseSign1 → Except String Cbor
  coseFromValue : Cbor → Except String CoseSign1
  coseSigStructure : ProtectedHeader → Bytes → Bytes
  coseDebugAlg : Option CborInt → String
  -- x509_cert
  certificateFromDer : Bytes → Except String Certificate
  -- chrono
  rfc3339Seconds : ℤ → String
  parseRfc3339 : String → Option ℤ
  rfc3339 : ℤ → String
  displayInstant : ℤ → String
  formatDate : ℤ → String
  addMonths : ℤ → ℕ → Option ℤ
  yearsSince : ℤ → ℤ → Option ℕ
  -- the asset `portrait.jpg`
  portraitJpeg : Bytes
  -- how Rust shows a string in an error
  debugStr : String → String

/-- Crates none of whose functions succeed, to fill in what a run does not use. -/
def Crates.inert : Crates where
  base64UrlEncode _ := ""
  base64UrlDecode _ := .error ""
  base64Encode _ := ""
  base64Decode _ := .error ""
  sha256 _ := []
  jsonToVec _ := []
  jsonFromSlice _ := .error ""
  jsonArrayFromSlice _ := .error ""
  headerFromSlice _ := .error ""
  p256FromAffine _ _ := .error ""
  p256FromSec1 _ := .error ""
  p256Signature _ := .error ""
  p256SignatureFromDer _ := none
  p256Verify _ _ _ := .error ""
  ed25519Key _ := .error ""
  ed25519Verify _ _ _ := .error ""
  gzip _ := .error ""
  zlib _ := .error ""
  urlParse _ := none
  urlJoin _ _ := ""
  urlWithoutQuery _ := ""
  urlAppendQuery _ _ := ""
  urlencode _ := ""
  headerToStr _ := .error ""
  uuid _ := ""
  cborEncode _ := .error ""
  cborDecode _ := .error ""
  coseToValue _ := .error ""
  coseFromValue _ := .error ""
  coseSigStructure _ _ := []
  coseDebugAlg _ := ""
  certificateFromDer _ := .error ""
  rfc3339Seconds _ := ""
  parseRfc3339 _ := none
  rfc3339 _ := ""
  displayInstant _ := ""
  formatDate _ := ""
  addMonths _ _ := none
  yearsSince _ _ := none
  portraitJpeg := []
  debugStr _ := ""

/-- A function that succeeds on one input only. -/
def only {α β : Type} [DecidableEq α] (a : α) (b : β) (e : String) (a' : α) : Except String β :=
  if a' = a then .ok b else .error e

@[simp] lemma only_self {α β : Type} [DecidableEq α] (a : α) (b : β) (e : String) :
    only a b e a = .ok b := if_pos rfl

/-- A function that succeeds on the inputs of a table only. -/
@[irreducible] def table {α β : Type} [DecidableEq α] (entries : List (α × β)) (e : String) (a : α) :
    Except String β := okOr e (entries.lookup a)

@[simp] lemma table_self {α β : Type} [DecidableEq α] (a : α) (b : β) (l : List (α × β))
    (e : String) : table ((a, b) :: l) e a = .ok b := by simp [table]

lemma table_of_ne {α β : Type} [DecidableEq α] {a a' : α} (h : a ≠ a') (b : β)
    (l : List (α × β)) (e : String) : table ((a', b) :: l) e a = table l e a := by
  rw [table, table, List.lookup_cons, beq_eq_false_iff_ne.mpr h]

/-- The bytes that a base64url text stands for. -/
def bytesOf (text : String) : Bytes := (Base64.decode '-' '_' text).getD []

def decodeBase64Url (text : String) : Except String Bytes :=
  okOr "invalid Base64 encoding" (Base64.decode '-' '_' text)

lemma decodeBase64Url_eq {text : String} (h : (Base64.decode '-' '_' text).isSome = true) :
    decodeBase64Url text = .ok (bytesOf text) := by
  obtain ⟨bytes, hb⟩ := Option.isSome_iff_exists.mp h
  simp [decodeBase64Url, bytesOf, hb]

end Oid4vc.External
