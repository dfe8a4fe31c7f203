import Oid4vc.Crypto.SdJwt

/-!
What the disclosures of a presentation contribute to its claims.

The claims are built by successive insertions, first of the disclosures and then of the plain
claims of the payload.
-/

namespace Oid4vc.Disclosures

open Oid4vc.JsonValue Oid4vc.Text Oid4vc.Instant Oid4vc.Fallible Oid4vc.PartialMap Oid4vc.Jwks
open Oid4vc.External Oid4vc.Keys Oid4vc.Jws Oid4vc.Credentials Oid4vc.SdJwt

/-- The entry a disclosure stands for. -/
def entryOf (d : Disclosure) : String × Json := (d.claimName, d.claimValue)

/-- The plain claims of a payload. -/
def plainMembers : Json → List (String × Json)
  | .obj members => members.filter fun m => isPlainClaim m.1
  | _ => []

/-- The claims that disclosures and a payload make up, inserted in this order. -/
def claimsOf (payload : Json) (ds : List Disclosure) : PMap String Json :=
  empty.insertAll (ds.map entryOf ++ plainMembers payload)

/-- The hashes the payload carries. -/
def signedHashes (payload : Json) : List String :=
  ((payload.get "_sd").bind Json.asStrings).getD []

variable (X : Crates)

/-- The presentation passes every check of the verification, with this payload and these
disclosures. -/
structure Checked (sdJwt : String) (issuerKey : KeyPair) (clock : ℤ) (payload : Json)
    (ds : List Disclosure) : Prop where
  signed : ∃ v decoded, SdJwtVc.parse sdJwt = .ok v ∧
    verifyCompact X v.issuerJwt issuerKey = .ok decoded ∧
    X.jsonFromSlice decoded.payload = .ok payload ∧
    List.Forall₂ (fun encoded d => Disclosure.fromEncoded X encoded = .ok d) v.disclosures ds
  window : checkWindow payload (timestamp clock) = .ok ()
  hashes : ∀ d ∈ ds, d.hash ∈ signedHashes payload
  distinct : (ds.map Disclosure.hash).Nodup

variable {X}

/-! ### The checks and the claims -/

/-- **The loop over the disclosures.** -/
lemma matchDisclosures_eq_ok {sdArray encodeds seen : List String}
    {claims result : PMap String Json} :
    matchDisclosures X sdArray encodeds seen claims = .ok result ↔
      ∃ ds, List.Forall₂ (fun encoded d => Disclosure.fromEncoded X encoded = .ok d) encodeds ds ∧
        (∀ d ∈ ds, d.hash ∈ sdArray ∧ d.hash ∉ seen) ∧ (ds.map Disclosure.hash).Nodup ∧
        result = claims.insertAll (ds.map entryOf) := by
  induction encodeds generalizing seen claims with
  | nil =>
    simp only [matchDisclosures, Except.ok.injEq, List.forall₂_nil_left_iff, exists_eq_left,
      List.not_mem_nil, false_imp_iff, implies_true, List.map_nil, List.nodup_nil, true_and,
      insertAll_nil]
    exact eq_comm
  | cons encoded encodeds ih =>
    simp only [matchDisclosures, bind_eq_ok, ensure_eq_ok, exists_unit, ih]
    constructor
    · rintro ⟨d, hd, hseen, hin, ds, hds, hall, hnodup, rfl⟩
      refine ⟨d :: ds, List.Forall₂.cons hd hds, ?_, ?_, by simp [entryOf]⟩
      · intro d' hd'
        rcases List.mem_cons.mp hd' with rfl | hd'
        · exact ⟨hin, hseen⟩
        · -- a later disclosure is new also to the hash of this one
          exact ⟨(hall d' hd').1, fun h => (hall d' hd').2 (List.mem_cons_of_mem _ h)⟩
      · simp only [List.map_cons, List.nodup_cons, List.mem_map, not_exists, not_and]
        refine ⟨fun d' hd' heq => (hall d' hd').2 ?_, hnodup⟩
        rw [heq]
        exact List.mem_cons_self
    · rintro ⟨ds, hds, hall, hnodup, rfl⟩
      cases hds with
      | @cons _ d _ ds hd hds =>
        simp only [List.map_cons, List.nodup_cons, List.mem_map, not_exists, not_and] at hnodup
        obtain ⟨hin, hseen⟩ := hall d List.mem_cons_self
        refine ⟨d, hd, hseen, hin, ds, hds, fun d' hd' => ?_, hnodup.2, by simp [entryOf]⟩
        obtain ⟨hin', hseen'⟩ := hall d' (List.mem_cons_of_mem _ hd')
        refine ⟨hin', fun h => ?_⟩
        rcases List.mem_cons.mp h with h | h
        · exact hnodup.1 d' hd' h
        · exact hseen' h

lemma mergePlainClaims_eq (payload : Json) (claims : PMap String Json) :
    mergePlainClaims payload claims = claims.insertAll (plainMembers payload) := by
  cases payload with
  | obj members =>
    simp only [mergePlainClaims, plainMembers]
    induction members generalizing claims with
    | nil => rfl
    | cons m ms ih =>
      by_cases hm : isPlainClaim m.1 = true
      · simp [hm, ih]
      · simp [hm, ih]
  | _ => rfl

/-- **What verification accepts, and what it returns.** -/
theorem verifySdJwtVc_eq_ok {sdJwt : String} {issuerKey : KeyPair} {clock : ℤ}
    {v : VerifiedSdJwtVc} :
    verifySdJwtVc X sdJwt issuerKey clock = .ok v ↔
      ∃ ds, Checked X sdJwt issuerKey clock v.payload ds ∧ v.claims = claimsOf v.payload ds := by
  simp only [verifySdJwtVc, bind_eq_ok, mapError_eq_ok, pure_eq_ok, exists_unit,
    matchDisclosures_eq_ok]
  constructor
  · rintro ⟨parsed, hparse, decoded, hdec, payload, hpay, hwin, -, ⟨ds, hds, hall, hnodup, rfl⟩, rfl⟩
    refine ⟨ds, ⟨⟨parsed, decoded, hparse, hdec, hpay, hds⟩, hwin, fun d hd => (hall d hd).1,
      hnodup⟩, ?_⟩
    rw [mergePlainClaims_eq, claimsOf, insertAll_append]
  · rintro ⟨ds, ⟨⟨parsed, decoded, hparse, hdec, hpay, hds⟩, hwin, hin, hnodup⟩, hclaims⟩
    refine ⟨parsed, hparse, decoded, hdec, v.payload, hpay, hwin, _, ⟨ds, hds,
      fun d hd => ⟨hin d hd, List.not_mem_nil⟩, hnodup, rfl⟩, ?_⟩
    rw [mergePlainClaims_eq, ← insertAll_append, ← claimsOf, ← hclaims]

lemma names_eq (ds : List Disclosure) :
    (ds.map entryOf).map Prod.fst = ds.map Disclosure.claimName := by
  simp [entryOf, Function.comp_def]

end Oid4vc.Disclosures
