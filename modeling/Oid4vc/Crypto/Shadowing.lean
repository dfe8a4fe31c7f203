import Oid4vc.Crypto.Selective

/-!
Disclosures that are lost: only the digests of the disclosures are compared for duplicates, so
an entry of the claims can be overwritten by a later one of the same name.
-/

namespace Oid4vc.Shadowing

open Oid4vc.JsonValue Oid4vc.Text Oid4vc.Instant Oid4vc.Fallible Oid4vc.PartialMap Oid4vc.Jwks
open Oid4vc.External Oid4vc.Codecs Oid4vc.Keys Oid4vc.Jws Oid4vc.Credentials Oid4vc.SdJwt
open Oid4vc.Disclosures Oid4vc.Selective

/-- Every disclosure adds its entry, and nothing else, to what the others and the payload
make up. -/
def EachContributes (payload : Json) (ds : List Disclosure) : Prop :=
  ∀ before d after, ds = before ++ d :: after →
    (claimsOf payload (before ++ after)).get d.claimName = none ∧
    claimsOf payload ds = (claimsOf payload (before ++ after)).insert d.claimName d.claimValue

/-- Two disclosures have one name, or one has the name of a plain claim of the payload. -/
def Collides (payload : Json) (ds : List Disclosure) : Prop :=
  ¬ (ds.map Disclosure.claimName).Nodup ∨
    ∃ d ∈ ds, d.claimName ∈ (plainMembers payload).map Prod.fst

variable (X : Crates) in
/-- Whenever the presentation is accepted, each of its disclosures contributes its entry to
the claims returned. -/
def NothingShadowed (sdJwt : String) (issuerKey : KeyPair) (clock : ℤ) : Prop :=
  ∀ v, verifySdJwtVc X sdJwt issuerKey clock = .ok v →
    ∀ ds, Checked X sdJwt issuerKey clock v.payload ds →
      v.claims = claimsOf v.payload ds ∧ EachContributes v.payload ds

lemma claimsOf_isSome {payload : Json} {ds : List Disclosure} {name : String}
    (h : name ∈ ds.map Disclosure.claimName ∨ name ∈ (plainMembers payload).map Prod.fst) :
    ((claimsOf payload ds).get name).isSome = true := by
  apply get_insertAll_isSome
  rw [List.map_append, names_eq, List.mem_append]
  exact h

lemma eachContributes_of_not_collides {payload : Json} {ds : List Disclosure}
    (h : ¬ Collides payload ds) : EachContributes payload ds := by
  simp only [Collides, not_or, not_not, not_exists, not_and] at h
  obtain ⟨hnodup, hplain⟩ := h
  rintro before d after rfl
  have hd := hplain d (by simp)
  have hother : d.claimName ∉ (before ++ after).map Disclosure.claimName := by
    have := List.nodup_middle.mp (by simpa using hnodup)
    simpa using (List.nodup_cons.mp this).1
  have hnone : (claimsOf payload (before ++ after)).get d.claimName = none := by
    rw [claimsOf, get_insertAll_of_not_mem, get_empty]
    rw [List.map_append, names_eq, List.mem_append, not_or]
    exact ⟨hother, hd⟩
  refine ⟨hnone, PMap.ext fun name => ?_⟩
  by_cases hname : name = d.claimName
  · subst hname
    rw [get_insert_self, claimsOf, insertAll_append, get_insertAll_of_not_mem hd]
    refine get_insertAll_of_mem ?_ (List.mem_map_of_mem (f := entryOf) (by simp))
    rwa [names_eq]
  · rw [get_insert_of_ne _ _ hname, claimsOf, claimsOf]
    simp only [List.map_append, List.map_cons, List.append_assoc, List.cons_append,
      insertAll_append, insertAll_cons]
    refine get_insertAll_congr (Or.inr (get_insertAll_congr (Or.inr ?_)))
    exact get_insert_of_ne _ _ hname

lemma nodup_map_of_split {α β : Type} {f : α → β} {l : List α}
    (h : ∀ before a after, l = before ++ a :: after → f a ∉ after.map f) : (l.map f).Nodup := by
  induction l with
  | nil => exact List.nodup_nil
  | cons a l ih =>
    rw [List.map_cons, List.nodup_cons]
    exact ⟨h [] a l rfl, ih fun before b after hl => h (a :: before) b after (by rw [hl]; rfl)⟩

lemma not_collides_of_eachContributes {payload : Json} {ds : List Disclosure}
    (h : EachContributes payload ds) : ¬ Collides payload ds := by
  have habsent : ∀ {before d after}, ds = before ++ d :: after →
      d.claimName ∉ (before ++ after).map Disclosure.claimName ∧
        d.claimName ∉ (plainMembers payload).map Prod.fst := by
    intro before d after hds
    obtain ⟨hnone, -⟩ := h before d after hds
    refine ⟨fun hin => ?_, fun hin => ?_⟩
    · have hsome : ((claimsOf payload (before ++ after)).get d.claimName).isSome = true :=
        claimsOf_isSome (Or.inl hin)
      simp [hnone] at hsome
    · have hsome : ((claimsOf payload (before ++ after)).get d.claimName).isSome = true :=
        claimsOf_isSome (Or.inr hin)
      simp [hnone] at hsome
  rintro (hdup | ⟨d, hd, hin⟩)
  · refine hdup (nodup_map_of_split fun before d after hds hin => ?_)
    refine (habsent hds).1 ?_
    rw [List.map_append, List.mem_append]
    exact Or.inr hin
  · obtain ⟨before, after, hds⟩ := List.append_of_mem hd
    exact (habsent hds).2 hin

lemma checked_unique {sdJwt : String} {issuerKey : KeyPair} {clock : ℤ} {payload payload' : Json}
    {ds ds' : List Disclosure} (h : Checked X sdJwt issuerKey clock payload ds)
    (h' : Checked X sdJwt issuerKey clock payload' ds') : ds = ds' := by
  obtain ⟨v, -, hv, -, -, hds⟩ := h.signed
  obtain ⟨v', -, hv', -, -, hds'⟩ := h'.signed
  obtain rfl : v = v' := by
    rw [hv] at hv'
    exact Except.ok.inj hv'
  exact List.right_unique_forall₂' (fun _ _ _ h h' => Except.ok.inj (h.symm.trans h')) hds hds'

/-- **Which presentations lose a disclosure.** Verification never drops or overwrites a
disclosure of a presentation exactly when the presentation fails a check, or its disclosures
have distinct names, none of them that of a plain claim of the payload. -/
theorem nothingShadowed_iff (X : Crates) (sdJwt : String) (issuerKey : KeyPair) (clock : ℤ) :
    NothingShadowed X sdJwt issuerKey clock ↔
      ∀ payload ds, Checked X sdJwt issuerKey clock payload ds → ¬ Collides payload ds := by
  constructor
  · intro h payload ds hchecked
    obtain ⟨-, heach⟩ := h ⟨claimsOf payload ds, payload⟩
      (verifySdJwtVc_eq_ok.mpr ⟨ds, hchecked, rfl⟩) ds hchecked
    exact not_collides_of_eachContributes heach
  · intro h v hv ds hds
    obtain ⟨ds', hds', hclaims⟩ := verifySdJwtVc_eq_ok.mp hv
    obtain rfl := checked_unique hds hds'
    exact ⟨hclaims, eachContributes_of_not_collides (h _ ds hds)⟩

/-- A credential is issued with a plain name and a disclosable one: verification accepts the
presentation of the second, and loses it to the first. -/
theorem given_name_shadowed : ∃ compact disclosure,
    issueSdJwtVcWithX5c sampleCrates (sampleKey.toKeyPair sampleCrates)
      "https://issuer.example.com" "https://issuer.example.com/credentials/identity"
      [("given_name", .str "Ada")] [("given_name", .str "Eve")] none none none sampleClock
      sampleSalts = .ok (compact, [disclosure]) ∧
    ¬ NothingShadowed sampleCrates (presentWith compact [disclosure])
      (sampleKey.toKeyPair sampleCrates) sampleClock := by
  obtain ⟨compact, hissue⟩ :=
    issue_succeeds sampleKey_signs [("given_name", .str "Eve")] none sampleSalts
  let eve := Disclosure.new sampleCrates (sampleSalts 0) "given_name" (.str "Eve")
  refine ⟨compact, eve, hissue, fun hnothing => ?_⟩
  obtain ⟨payload, hpayload, hchecked⟩ := checked_of_issue (base64Url_tabled _ _)
    (serdeJson_tabled _ _) (tabledKey_correct _ _ _ _) hissue (by decide) (by decide)
    (by simp [Json.ProperMembers, Json.Proper]) (by simp [Json.ProperMembers, Json.Proper])
    (by simp) (by simp) (by decide)
  have hcheck : Checked sampleCrates (presentWith compact [eve])
      (sampleKey.toKeyPair sampleCrates) sampleClock payload [eve] :=
    hchecked [eve] (List.Subset.refl _) (List.nodup_singleton _) sampleClock le_rfl (by decide)
  obtain ⟨-, heach⟩ := hnothing ⟨claimsOf payload [eve], payload⟩
    (verifySdJwtVc_eq_ok.mpr ⟨_, hcheck, rfl⟩) _ hcheck
  refine not_collides_of_eachContributes heach (Or.inr ⟨_, List.mem_singleton_self _, ?_⟩)
  rw [((hpayload.plainMembers (by decide)).map Prod.fst).mem_iff]
  exact List.mem_singleton_self _

end Oid4vc.Shadowing
