import Oid4vc.Crypto.Cose

/-!
Public keys, however they are written: what a JWK and a COSE_Key stand for.
-/

namespace Oid4vc.PublicKeys

open Oid4vc.JsonValue Oid4vc.CborValue Oid4vc.Fallible Oid4vc.Jwks Oid4vc.External Oid4vc.Codecs
open Oid4vc.Keys Oid4vc.Cose

/-- A public key of one of the two algorithms, by its coordinates. -/
inductive PublicKey
  | p256 (x y : Bytes)
  | ed25519 (x : Bytes)
  deriving DecidableEq

namespace PublicKey

def algorithm : PublicKey → Algorithm
  | p256 _ _ => .es256
  | ed25519 _ => .edDSA

variable (X : Crates)

/-- The key that a JWK stands for, whatever else it carries. -/
def ofJwk (jwk : Jwk) : Option PublicKey :=
  match jwk.kty, jwk.crv with
  | "EC", some "P-256" => do
    let x ← (decodedCoordinate X jwk.x).toOption
    let y ← (decodedCoordinate X jwk.y).toOption
    some (p256 x y)
  | "OKP", some "Ed25519" => do
    let x ← (decodedCoordinate X jwk.x).toOption
    some (ed25519 x)
  | _, _ => none

def ofCoseKey (key : Cbor) : Option PublicKey := do
  let entries ← key.asMap
  match labelledInt entries 1, labelledInt entries (-1) with
  | some 2, some 1 => do
    let x ← (labelled entries (-2)).bind Cbor.asBytes
    let y ← (labelled entries (-3)).bind Cbor.asBytes
    some (p256 x y)
  | some 1, some 6 => do
    let x ← (labelled entries (-2)).bind Cbor.asBytes
    some (ed25519 x)
  | _, _ => none

/-- The key verifies this signature. -/
def Verifies (message signature : Bytes) : PublicKey → Prop
  | p256 x y => X.p256Verify (x, y) message signature = .ok ()
  | ed25519 x => X.ed25519Verify x message signature = .ok ()

variable {X}

lemma decodedCoordinate_of_decodeCoordinate {c : Option String} {name : String} {bytes : Bytes}
    (h : decodeCoordinate X c name = .ok bytes) : decodedCoordinate X c = .ok bytes := by
  simp only [decodeCoordinate, bind_eq_ok, okOr_eq_ok, mapError_eq_ok] at h
  obtain ⟨encoded, rfl, hdecode⟩ := h
  simp [decodedCoordinate, hdecode, Except.toOption]

/-- **A JWK that verifies** stands for a key, which verifies the signature. -/
theorem exists_of_verifyWithJwk {jwk : Jwk} {m s : Bytes} (h : verifyWithJwk X jwk m s = .ok ()) :
    ∃ key, ofJwk X jwk = some key ∧ key.Verifies X m s ∧ algorithmForJwk jwk = .ok key.algorithm := by
  obtain ⟨a, ha⟩ := algorithmForJwk_of_verifies h
  cases a with
  | es256 =>
    obtain ⟨hkty, hcrv⟩ := algorithmForJwk_es256.mp ha
    simp only [verifyWithJwk, hkty, hcrv, verifyP256, bind_eq_ok, mapError_eq_ok, ensure_eq_ok,
      exists_unit] at h
    obtain ⟨x, hx, y, hy, -, -, -, hverify⟩ := h
    refine ⟨p256 x y, ?_, hverify, ha⟩
    simp [ofJwk, hkty, hcrv, decodedCoordinate_of_decodeCoordinate hx,
      decodedCoordinate_of_decodeCoordinate hy, Except.toOption]
  | edDSA =>
    obtain ⟨hkty, hcrv⟩ := algorithmForJwk_edDSA.mp ha
    simp only [verifyWithJwk, hkty, hcrv, verifyEd25519, bind_eq_ok, mapError_eq_ok, ensure_eq_ok,
      exists_unit] at h
    obtain ⟨x, hx, -, -, -, hverify⟩ := h
    refine ⟨ed25519 x, ?_, hverify, ha⟩
    simp [ofJwk, hkty, hcrv, decodedCoordinate_of_decodeCoordinate hx, Except.toOption]

/-- **A JWK as a COSE_Key** stands for the same key, and its private member is left out. -/
theorem ofCoseKey_coseKey {jwk : Jwk} {key : Cbor} (h : coseKey X jwk = .ok key) :
    ofCoseKey key = ofJwk X jwk ∧ ∃ entries, key = .map entries ∧ labelled entries (-4) = none := by
  unfold coseKey at h
  split at h
  · next hkty hcrv =>
    simp only [bind_eq_ok, pure_eq_ok] at h
    obtain ⟨x, hx, y, hy, rfl⟩ := h
    refine ⟨?_, _, rfl, ?_⟩
    · simp [ofCoseKey, ofJwk, hkty, hcrv, hx, hy, labelledInt, labelled_cons, int_inj, int_val,
        Except.toOption]
    · simp [int_inj, labelled]
  · next hkty hcrv =>
    simp only [bind_eq_ok, pure_eq_ok] at h
    obtain ⟨x, hx, rfl⟩ := h
    refine ⟨?_, _, rfl, ?_⟩
    · simp [ofCoseKey, ofJwk, hkty, hcrv, hx, labelledInt, labelled_cons, int_inj, int_val,
        Except.toOption]
    · simp [int_inj, labelled]
  · cases h

end PublicKey

lemma ofJson_toValue (k : Jwk) : Jwk.ofJson k.toValue = some k := by
  have hkty : k.toValue.get "kty" = some (.str k.kty) := by
    simp [Json.get, Jwk.toValue, List.find?_append, find_member]
  have hget : ∀ {name : String} {value : Option String},
      (name, value) ∈ [("crv", k.crv), ("x", k.x), ("y", k.y), ("d", k.d), ("alg", k.alg),
        ("kid", k.kid), ("use", k.use)] → optMember k.toValue name = some value := by
    intro name value h
    apply optMember_find
    simp only [List.mem_cons, Prod.mk.injEq, List.not_mem_nil, or_false] at h
    rcases h with ⟨rfl, rfl⟩ | ⟨rfl, rfl⟩ | ⟨rfl, rfl⟩ | ⟨rfl, rfl⟩ | ⟨rfl, rfl⟩ | ⟨rfl, rfl⟩ |
      ⟨rfl, rfl⟩ <;>
    simp [Json.get, Jwk.toValue, List.find?_append, find_member, Function.comp_def]
  obtain ⟨members, hmembers⟩ : ∃ members, k.toValue = .obj members := ⟨_, rfl⟩
  rw [hmembers] at hkty hget ⊢
  simp [Jwk.ofJson, hkty, hget]

lemma get_d_toValue (k : Jwk) : k.toValue.get "d" = k.d.map Json.str := by
  simp [Json.get, Jwk.toValue, List.find?_append, find_member, Function.comp_def]

lemma names_member (name : String) (value : Option String) :
    ((member name value).map Prod.fst).Sublist [name] := by
  cases value with
  | none => exact List.nil_sublist _
  | some s => exact List.Sublist.refl _

lemma sorted_toValue (k : Jwk) : ∃ members, k.toValue = .obj members ∧
    (members.map Prod.fst).Sublist ["alg", "crv", "d", "kid", "kty", "use", "x", "y"] := by
  refine ⟨_, rfl, ?_⟩
  simp only [List.map_append]
  have hsub := ((((((names_member "alg" k.alg).append (names_member "crv" k.crv)).append
    (names_member "d" k.d)).append (names_member "kid" k.kid)).append
    (List.Sublist.refl ["kty"])).append (names_member "use" k.use)).append (names_member "x" k.x)
  exact hsub.append (names_member "y" k.y)

lemma proper_toValue (k : Jwk) : k.toValue.Proper := by
  have hmember : ∀ (name : String) (value : Option String), ∀ m ∈ member name value, m.2.Proper := by
    intro name value m hm
    cases value with
    | none => simp [member] at hm
    | some s =>
      simp only [member, Option.map_some, Option.toList_some, List.mem_singleton] at hm
      rw [hm]
      simp [Json.Proper]
  have hsorted : (["alg", "crv", "d", "kid", "kty", "use", "x", "y"] : List String).Pairwise (· < ·) := by
    decide
  obtain ⟨members, hvalue, hsub⟩ := sorted_toValue k
  have hmembers : ∀ m ∈ members, m.2.Proper := by
    intro m hm
    rw [Jwk.toValue, Json.obj.injEq] at hvalue
    rw [← hvalue] at hm
    simp only [List.mem_append, List.mem_singleton, or_assoc] at hm
    rcases hm with hm | hm | hm | hm | rfl | hm | hm | hm
    all_goals first | exact hmember _ _ _ hm | simp [Json.Proper]
  rw [hvalue, Json.Proper, Json.properMembers_iff]
  exact ⟨hmembers, hsorted.sublist hsub⟩

end Oid4vc.PublicKeys
