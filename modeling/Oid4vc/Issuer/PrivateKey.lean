import Oid4vc.Issuer.Batch

/-!
Private members in credentials.

A proof may carry the private member of its key in its header. The JWK goes into an SD-JWT VC as it
is; the COSE_Key of an mdoc is made of its public members.
-/

namespace Oid4vc.PrivateKey

open Oid4vc.JsonValue Oid4vc.Fallible Oid4vc.Instant Oid4vc.Atomic Oid4vc.Jwks Oid4vc.External
open Oid4vc.Codecs Oid4vc.Jws Oid4vc.Tables Oid4vc.Oid4vci Oid4vc.IssuerStore Oid4vc.Credential
open Oid4vc.HolderKey Oid4vc.Processing Oid4vc.Wallet Oid4vc.Batch

variable (X : Crates)

def headerJwk (jwt : String) : Option Jwk :=
  match decodeCompact X jwt with
  | .ok decoded => decoded.header.jwk
  | .error _ => none

/-- The credentials of a response. -/
def issued (response : CredentialResponse) : List Json :=
  (response.credentials.getD []).map IssuedCredential.credential

/-- **No private key in a credential**: the holder keys are the public keys that the proofs verified
under, and come without private members. -/
def KeysPublic (config : CredentialConfiguration) (jwts : List String) (credentials : List Json) :
    Prop :=
  List.Forall₂ (fun jwt credential => BoundTo X config jwt credential ∧
    NoPrivateMember X config.format credential) jwts credentials

variable {X} {σ : Type} {ctx : IssuanceContext X σ}

lemma headerJwk_of_verifies {jwt issuerUrl : String} {config : CredentialConfiguration} {now : ℤ}
    {proof : Jwk × String} (h : verifyProofJwt X jwt issuerUrl config now = .ok proof) :
    headerJwk X jwt = some proof.1 := by
  obtain ⟨decoded, -, -, -, -, hdecoded, -, hjwk, -⟩ := verifyProofJwt_eq_ok.mp h
  rw [headerJwk, hdecoded]
  exact hjwk

lemma issued_credentialResponse (credentials : List Json) :
    issued (credentialResponse credentials) = credentials := by
  simp [issued, credentialResponse, Function.comp_def]

/-- What was issued for proofs that verify has the private members of their JWKs, unless it is an
mdoc. -/
lemma keysPublic_of_embeds {issuerUrl : String} {config : CredentialConfiguration} {now : ℤ}
    {jwts : List String} {proofs : List (Jwk × String)} {credentials : List Json}
    (hproofs : List.Forall₂ (fun jwt proof => verifyProofJwt X jwt issuerUrl config now = .ok proof) jwts
      proofs)
    (hembeds : List.Forall₂ (fun proof credential => Embeds X config.format credential proof.1) proofs
      credentials) :
    KeysPublic X config jwts credentials ↔
      config.format = "mso_mdoc" ∨ ∀ jwt ∈ jwts, ∀ jwk, headerJwk X jwt = some jwk → jwk.d = none := by
  have hembedded : List.Forall₂ (fun jwt credential => ∃ proof,
      verifyProofJwt X jwt issuerUrl config now = .ok proof ∧
        Embeds X config.format credential proof.1) jwts credentials := by
    refine forall₂_trans ?_ hproofs hembeds
    exact fun jwt proof credential hproof hembed => ⟨proof, hproof, hembed⟩
  have heach : ∀ jwt credential, (∃ proof, verifyProofJwt X jwt issuerUrl config now = .ok proof ∧
        Embeds X config.format credential proof.1) →
      ((BoundTo X config jwt credential ∧ NoPrivateMember X config.format credential) ↔
        config.format = "mso_mdoc" ∨ ∀ jwk, headerJwk X jwt = some jwk → jwk.d = none) := by
    rintro jwt credential ⟨proof, hproof, hembed⟩
    have hjwk := headerJwk_of_verifies hproof
    rw [hembed.noPrivateMember_iff]
    simp only [hjwk, Option.some.injEq, forall_eq', boundTo_of_embeds hproof hembed, true_and]
  rw [KeysPublic, forall₂_iff_forall heach hembedded]
  constructor
  · intro hall
    by_cases hmdoc : config.format = "mso_mdoc"
    · exact Or.inl hmdoc
    · exact Or.inr fun jwt hjwt => (hall jwt hjwt).resolve_left hmdoc
  · rintro (hmdoc | hnone) jwt hjwt
    · exact Or.inl hmdoc
    · exact Or.inr (hnone jwt hjwt)

/-- **Private members.** The credentials of a request that succeeds name the keys that the proofs
verified under; and they come without private members if they are mdocs, or if the JWKs of the
proofs come without. -/
theorem keysPublic_iff (hb64 : Base64Url X) (hserde : SerdeJson X) (hcbor : CborCodec X)
    (hcose : CoseCodec X) (hvalues : AllocatesValues ctx) (request : CredentialRequest)
    (token : String) (draws : RequestDraws) (b : Backend σ) (hclock : Representable b.issuer.clock)
    {grant : AccessGrant} {configId : String} {config : CredentialConfiguration}
    (hgrant : (b.issuer.store.getAccessGrant b.issuer.clock token).1 = some grant)
    (hresolved : resolveConfiguration request grant ctx.metadata = .ok (configId, config))
    {response : CredentialResponse} {b' : Backend σ}
    (h : (processCredentialRequest X request token ctx draws).exec b = (.ok response, b')) :
    KeysPublic X config (proofsOf request) (issued response) ↔
      config.format = "mso_mdoc" ∨
        ∀ jwt ∈ proofsOf request, ∀ jwk, headerJwk X jwt = some jwk → jwk.d = none := by
  obtain ⟨grant', configId', config', proofs, credentials, hgrant', hcheck, hproofs, hembeds, rfl, -⟩ :=
    processed_ok hb64 hserde hcbor hcose hvalues hclock h
  obtain rfl : grant = grant' := Option.some.inj (hgrant.symm.trans hgrant')
  obtain ⟨hresolved', -, -, -⟩ := checkRequest_ok hcheck
  rw [hresolved, Except.ok.injEq, Prod.mk.injEq] at hresolved'
  obtain ⟨rfl, rfl⟩ := hresolved'
  rw [issued_credentialResponse]
  exact keysPublic_of_embeds hproofs hembeds

/-! ### A wallet that shows its private key -/

lemma sample_resolved (proof : String) :
    resolveConfiguration (requestOf [proof]) ⟨["id"], [], none⟩ sampleContext.metadata =
      .ok ("id", sampleConfiguration) :=
  (checkRequest_ok (sample_check (by simp) (by simp))).1

/-- A wallet leaves `d` in the JWK of its proof; the issuer accepts it, and puts it in the
credential. -/
theorem private_issued : ∃ response b',
    (processCredentialRequest issuance.crates (requestOf [sampleProof holderX holderY (some holderD)])
      "token" sampleContext sampleDraws).exec sampleBackend = (.ok response, b') ∧
    ¬ KeysPublic issuance.crates sampleConfiguration [sampleProof holderX holderY (some holderD)]
      (issued response) := by
  have hproof := sampleProof_verifies holderX holderY (some holderD)
  generalize sampleProof holderX holderY (some holderD) = proof at hproof ⊢
  obtain ⟨response, b', h⟩ := sample_succeeds (by simp) (by simp) (.cons hproof .nil) (by simp)
  refine ⟨response, b', h, fun hpublic => ?_⟩
  have hclock : Representable sampleBackend.issuer.clock := ⟨by decide, by decide⟩
  obtain ⟨grant, configId, config, proofs, credentials, hgrant, hcheck, hproofs, hembeds, rfl, -⟩ :=
    processed_ok Table.base64Url Table.serdeJson Table.cborCodec Table.coseCodec sample_allocatesValues
      hclock h
  have hsame : grant = ⟨["id"], [], none⟩ := Option.some.inj (hgrant.symm.trans sample_grant)
  have hconfig : config = sampleConfiguration := by
    have hresolved := (checkRequest_ok hcheck).1
    rw [hsame, sample_resolved, Except.ok.injEq, Prod.mk.injEq] at hresolved
    exact hresolved.2.symm
  subst hconfig
  rw [issued_credentialResponse] at hpublic
  have hjwk := headerJwk_of_verifies hproof
  rcases (keysPublic_of_embeds hproofs hembeds).mp hpublic with hmdoc | hnone
  · exact absurd hmdoc (by decide)
  · have hd := hnone proof List.mem_cons_self _ hjwk
    simp [holderJwk] at hd

/-- A wallet that leaves `d` out gets a credential without it. -/
theorem public_issued : ∃ response b',
    (processCredentialRequest issuance.crates (requestOf [sampleProof holderX holderY none])
      "token" sampleContext sampleDraws).exec sampleBackend = (.ok response, b') ∧
    KeysPublic issuance.crates sampleConfiguration [sampleProof holderX holderY none]
      (issued response) := by
  have hproof := sampleProof_verifies holderX holderY none
  generalize sampleProof holderX holderY none = proof at hproof ⊢
  obtain ⟨response, b', h⟩ := sample_succeeds (by simp) (by simp) (.cons hproof .nil) (by simp)
  have hclock : Representable sampleBackend.issuer.clock := ⟨by decide, by decide⟩
  have hnone : ∀ jwt ∈ [proof], ∀ jwk, headerJwk issuance.crates jwt = some jwk → jwk.d = none := by
    intro jwt hjwt jwk hjwk
    rw [List.mem_singleton.mp hjwt, headerJwk_of_verifies hproof, Option.some.injEq] at hjwk
    rw [← hjwk]
    rfl
  exact ⟨response, b', h, (keysPublic_iff Table.base64Url Table.serdeJson Table.cborCodec
    Table.coseCodec sample_allocatesValues _ "token" sampleDraws sampleBackend hclock sample_grant
    (sample_resolved proof) h).mpr (Or.inr hnone)⟩

end Oid4vc.PrivateKey
