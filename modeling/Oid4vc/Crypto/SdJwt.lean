import Oid4vc.Base.Instant
import Oid4vc.Base.PartialMap
import Oid4vc.Crypto.Jws
import Oid4vc.Types.Credentials

/-!
SD-JWT VC: a credential whose claims are hidden behind salted hashes, disclosed one by one,
and bound to a holder who signs each presentation.
-/

namespace Oid4vc.SdJwt

open Oid4vc.JsonValue Oid4vc.Text Oid4vc.Instant Oid4vc.Fallible Oid4vc.PartialMap Oid4vc.Jwks
open Oid4vc.External Oid4vc.Keys Oid4vc.Jws Oid4vc.Credentials

inductive SdJwtError
  | serialization (msg : String)
  | signing (msg : String)
  | invalidDisclosure (msg : String)
  | verification (msg : String)
  | missingClaim (msg : String)
  | keyBinding (msg : String)
  deriving DecidableEq

def SdJwtError.toString : SdJwtError → String
  | .serialization msg => "serialization error: " ++ msg
  | .signing msg => "signing error: " ++ msg
  | .invalidDisclosure msg => "invalid disclosure: " ++ msg
  | .verification msg => "verification error: " ++ msg
  | .missingClaim msg => "missing required claim: " ++ msg
  | .keyBinding msg => "key binding error: " ++ msg

/-- A disclosure: `[salt, claim_name, claim_value]`, and the hash that stands for it. -/
structure Disclosure where
  salt : String
  claimName : String
  claimValue : Json
  encoded : String
  hash : String

variable (X : Crates)

/-- Create a new disclosure for a claim, with these random bytes as its salt. -/
def Disclosure.new (saltBytes : Bytes) (claimName : String) (claimValue : Json) : Disclosure :=
  let salt := X.base64UrlEncode saltBytes
  let encoded := X.base64UrlEncode
    (X.jsonToVec (.arr [.str salt, .str claimName, claimValue]))
  let hash := X.base64UrlEncode (X.sha256 (utf8 encoded))
  ⟨salt, claimName, claimValue, encoded, hash⟩

/-- Decode an existing disclosure from its base64url-encoded form. -/
def Disclosure.fromEncoded (encoded : String) : Except SdJwtError Disclosure := do
  let bytes ← (X.base64UrlDecode encoded).mapError .invalidDisclosure
  let array ← (X.jsonArrayFromSlice bytes).mapError .invalidDisclosure
  match array with
  | [salt, claimName, claimValue] => do
    let salt ← okOr (.invalidDisclosure "salt must be a string") salt.asStr
    let claimName ← okOr (.invalidDisclosure "claim name must be a string") claimName.asStr
    let hash := X.base64UrlEncode (X.sha256 (utf8 encoded))
    pure ⟨salt, claimName, claimValue, encoded, hash⟩
  | _ => .error (.invalidDisclosure "disclosure must have exactly 3 elements")

/-- SD-JWT VC payload claims for issuance. -/
structure SdJwtVcClaims where
  iss : String
  sub : Option String
  iat : ℤ
  exp : Option ℤ
  nbf : Option ℤ
  vct : String
  sd : List String
  sdAlg : Option String
  cnf : Option Json
  status : Option Json
  plainClaims : List (String × Json)

/-- An integer claim, as JSON keeps it. -/
def i64Json (n : ℤ) : Json :=
  .num (if 0 ≤ n then .posInt (BitVec.ofInt 64 n) else .negInt (BitVec.ofInt 64 n))

/-- The members in the order they are written: the registered claims, then the plain ones
at the same level. -/
def SdJwtVcClaims.toJson (c : SdJwtVcClaims) : Json :=
  .obj ([("iss", .str c.iss)] ++ (c.sub.map fun s => ("sub", Json.str s)).toList ++
    [("iat", i64Json c.iat)] ++ (c.exp.map fun t => ("exp", i64Json t)).toList ++
    (c.nbf.map fun t => ("nbf", i64Json t)).toList ++ [("vct", .str c.vct)] ++
    (if c.sd = [] then [] else [("_sd", .arr (c.sd.map .str))]) ++
    (c.sdAlg.map fun a => ("_sd_alg", Json.str a)).toList ++
    (c.cnf.map fun v => ("cnf", v)).toList ++
    (c.status.map fun v => ("status", v)).toList ++ c.plainClaims)

def daySecs : ℤ := 86400

/-- Issue an SD-JWT VC whose header may carry the issuer's certificate chain. The claims
come in the order their maps are walked, and the salts in the order they are drawn. -/
def issueSdJwtVcWithX5c (issuerKey : KeyPair) (issuerUrl vct : String)
    (plainClaims disclosableClaims : List (String × Json)) (holderJwk status : Option Json)
    (x5c : Option (List String)) (clock : ℤ) (salts : ℕ → Bytes) :
    Except SdJwtError (String × List Disclosure) := do
  let disclosures := disclosableClaims.mapIdx fun i c => Disclosure.new X (salts i) c.1 c.2
  -- time claims are rounded down to the day
  let now := timestamp clock
  let issued := now - now % daySecs
  let claims : SdJwtVcClaims := {
    iss := issuerUrl
    sub := none
    iat := issued
    exp := some (issued + daySecs * 365)
    nbf := some issued
    vct := vct
    sd := disclosures.map Disclosure.hash
    sdAlg := some "sha-256"
    cnf := holderJwk
    status := status
    plainClaims := plainClaims }
  let header := { buildHeader issuerKey (some "dc+sd-jwt") with x5c := x5c }
  let issuerJwt ← (signCompact X issuerKey header claims.toJson).mapError
    fun e => .signing e.toString
  pure (join "~" (issuerJwt :: disclosures.map Disclosure.encoded ++ [""]), disclosures)

/-- The outcome of verifying an SD-JWT VC: the claims disclosed or always visible, and the
full payload. -/
structure VerifiedSdJwtVc where
  claims : PMap String Json
  payload : Json

def cnfJwk (payload : Json) : Option Jwk := do
  let cnf ← payload.get "cnf"
  let jwk ← cnf.get "jwk"
  Jwk.ofJson jwk

/-- The holder's confirmation key, if the credential is key-bound. -/
def VerifiedSdJwtVc.holderJwk (v : VerifiedSdJwtVc) : Option Jwk := cnfJwk v.payload

/-- The credential's type. -/
def VerifiedSdJwtVc.vct (v : VerifiedSdJwtVc) : Option String :=
  (v.payload.get "vct").bind Json.asStr

/-- A time claim that the code can read. -/
def i64Claim (payload : Json) (name : String) : Option ℤ := (payload.get name).bind Json.asI64

/-- The check of the validity window, at this many seconds since the epoch. -/
def checkWindow (payload : Json) (now : ℤ) : Except SdJwtError Unit := do
  ensure (∀ exp ∈ i64Claim payload "exp", now < exp) (.verification "credential has expired")
  ensure (∀ nbf ∈ i64Claim payload "nbf", nbf ≤ now)
    (.verification "credential is not yet valid")

/-- Decode each disclosure and match it against the hashes of the payload. -/
def matchDisclosures (sdArray : List String) :
    List String → List String → PMap String Json → Except SdJwtError (PMap String Json)
  | [], _, claims => .ok claims
  | encoded :: rest, seen, claims => do
    let disclosure ← Disclosure.fromEncoded X encoded
    ensure (disclosure.hash ∉ seen) (.verification "duplicate disclosure detected")
    ensure (disclosure.hash ∈ sdArray)
      (.verification ("disclosure hash not found in _sd array for claim '" ++
        disclosure.claimName ++ "'"))
    matchDisclosures sdArray rest (disclosure.hash :: seen)
      (claims.insert disclosure.claimName disclosure.claimValue)

/-- A payload member that is a claim of the subject, not one about the credential. -/
def isPlainClaim (key : String) : Bool :=
  stripPrefix key "_" == none && !(["iss", "iat", "exp", "nbf", "vct", "cnf", "status"].contains key)

def mergePlainClaims (payload : Json) (claims : PMap String Json) : PMap String Json :=
  match payload with
  | .obj members =>
    members.foldl (fun claims m => if isPlainClaim m.1 then claims.insert m.1 m.2 else claims) claims
  | _ => claims

def verifySdJwtVc (sdJwt : String) (issuerKey : KeyPair) (clock : ℤ) :
    Except SdJwtError VerifiedSdJwtVc := do
  let parsed ← (SdJwtVc.parse sdJwt).mapError fun e => .verification e.toString
  let decoded ← (verifyCompact X parsed.issuerJwt issuerKey).mapError
    fun e => .verification e.toString
  let payload ← (X.jsonFromSlice decoded.payload).mapError .verification
  checkWindow payload (timestamp clock)
  let sdArray := ((payload.get "_sd").bind Json.asStrings).getD []
  let disclosed ← matchDisclosures X sdArray parsed.disclosures [] empty
  pure ⟨mergePlainClaims payload disclosed, payload⟩

/-- The `sd_hash` of a presentation: over everything up to its last separator. -/
def computeSdHash (presentationWithoutKb : String) : String :=
  X.base64UrlEncode (X.sha256 (utf8 ((upToLast? '~' presentationWithoutKb).getD
    presentationWithoutKb)))

/-- A string claim of the key binding JWT must be the expected one. -/
def expectClaim (payload : Json) (name expected : String) (mismatch : String) :
    Except SdJwtError Unit := do
  let value ← okOr (.keyBinding ("key binding JWT is missing '" ++ name ++ "'"))
    ((payload.get name).bind Json.asStr)
  ensure (value = expected) (.keyBinding mismatch)

/-- Verify the Key Binding JWT of an SD-JWT VC presentation. -/
def verifyKeyBinding (presentation : String) (holderJwk : Jwk)
    (expectedNonce expectedAudience : String) : Except SdJwtError Unit := do
  let parsed ← (SdJwtVc.parse presentation).mapError fun e => .keyBinding e.toString
  let kbJwt ← okOr (.keyBinding "presentation is missing the key binding JWT")
    parsed.keyBindingJwt
  let decoded ← (decodeCompact X kbJwt).mapError fun e => .keyBinding e.toString
  let expectedAlg ← (algorithmForJwk holderJwk).mapError fun e => .keyBinding e.toString
  ensure (decoded.header.alg = expectedAlg.asStr)
    (.keyBinding ("key binding JWT alg '" ++ decoded.header.alg ++
      "' does not match the confirmation key (" ++ expectedAlg.asStr ++ ")"))
  ensure (decoded.header.typ = some "kb+jwt")
    (.keyBinding "key binding JWT must have typ 'kb+jwt'")
  (verifyWithJwk X holderJwk (utf8 decoded.signingInput) decoded.signature).mapError
    fun e => .keyBinding ("key binding signature invalid: " ++ e.toString)
  let payload ← (X.jsonFromSlice decoded.payload).mapError .keyBinding
  expectClaim payload "nonce" expectedNonce "nonce mismatch"
  expectClaim payload "aud" expectedAudience "audience mismatch"
  let withoutKb ← okOr (.keyBinding "malformed presentation") (stripSuffix presentation kbJwt)
  expectClaim payload "sd_hash" (computeSdHash X withoutKb)
    "sd_hash does not cover the presented disclosures"

def createKeyBindingJwt (holderKey : KeyPair) (nonce audience sdJwtHash : String) (clock : ℤ) :
    Except SdJwtError String :=
  let header := buildHeaderWithJwk holderKey (some "kb+jwt")
  let payload := Json.obj [("aud", .str audience), ("iat", i64Json (timestamp clock)),
    ("nonce", .str nonce), ("sd_hash", .str sdJwtHash)]
  (signCompact X holderKey header payload).mapError fun e => .signing e.toString

end Oid4vc.SdJwt
