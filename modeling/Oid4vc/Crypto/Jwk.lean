import Oid4vc.Base.Json

/-!
JSON Web Keys and the header of a JSON Web Signature.
-/

namespace Oid4vc.Jwks

open Oid4vc.JsonValue

/-- A JSON Web Key. -/
structure Jwk where
  kty : String
  crv : Option String
  x : Option String
  y : Option String
  d : Option String
  alg : Option String
  kid : Option String
  use : Option String
  deriving DecidableEq

/-- What makes up a public key. -/
def Jwk.publicMembers (k : Jwk) : String × Option String × Option String × Option String :=
  (k.kty, k.crv, k.x, k.y)

/-- An optional string: `null` reads as none, any other value but a string fails. -/
def optString : Json → Option (Option String)
  | .null => some none
  | .str s => some (some s)
  | _ => none

/-- An optional member, which may also be absent. -/
def optMember (j : Json) (name : String) : Option (Option String) :=
  match j.get name with
  | none => some none
  | some v => optString v

/-- Deserialize a key from a parsed value: an object, or an array of the fields in order. -/
def Jwk.ofJson (j : Json) : Option Jwk :=
  match j with
  | .arr [kty, crv, x, y, d, alg, kid, use] => do
    some ⟨← kty.asStr, ← optString crv, ← optString x, ← optString y, ← optString d,
      ← optString alg, ← optString kid, ← optString use⟩
  | .obj _ => do
    let kty ← (j.get "kty").bind Json.asStr
    let crv ← optMember j "crv"
    let x ← optMember j "x"
    let y ← optMember j "y"
    let d ← optMember j "d"
    let alg ← optMember j "alg"
    let kid ← optMember j "kid"
    let use ← optMember j "use"
    some ⟨kty, crv, x, y, d, alg, kid, use⟩
  | _ => none

/-- A member that is left out when it is none. -/
def member (name : String) (value : Option String) : List (String × Json) :=
  (value.map fun s => (name, Json.str s)).toList

/-- The key as it is serialized, in the order of its fields. -/
def Jwk.toJson (k : Jwk) : Json :=
  .obj ([("kty", .str k.kty)] ++ member "crv" k.crv ++ member "x" k.x ++ member "y" k.y ++
    member "d" k.d ++ member "alg" k.alg ++ member "kid" k.kid ++ member "use" k.use)

/-- The key as a value, whose members are kept sorted. -/
def Jwk.toValue (k : Jwk) : Json :=
  .obj (member "alg" k.alg ++ member "crv" k.crv ++ member "d" k.d ++ member "kid" k.kid ++
    [("kty", .str k.kty)] ++ member "use" k.use ++ member "x" k.x ++ member "y" k.y)

/-- The header of a JWS. -/
structure JwsHeader where
  alg : String
  typ : Option String
  kid : Option String
  jwk : Option Jwk
  x5c : Option (List String)
  deriving DecidableEq

def JwsHeader.toJson (h : JwsHeader) : Json :=
  .obj ([("alg", .str h.alg)] ++ member "typ" h.typ ++ member "kid" h.kid ++
    (h.jwk.map fun k => ("jwk", k.toJson)).toList ++
    (h.x5c.map fun certs => ("x5c", Json.arr (certs.map .str))).toList)

end Oid4vc.Jwks
