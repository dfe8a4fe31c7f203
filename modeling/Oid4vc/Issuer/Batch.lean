import Oid4vc.Issuer.Processing
import Oid4vc.Issuer.Wallet

/-!
What a credential request that succeeds returns: a credential for each proof, bound to the key of
the proof.
-/

namespace Oid4vc.Batch

open Oid4vc.JsonValue Oid4vc.CborBytes Oid4vc.PartialMap Oid4vc.Text Oid4vc.Fallible
open Oid4vc.Instant Oid4vc.Atomic Oid4vc.Jwks Oid4vc.External Oid4vc.Codecs Oid4vc.Keys Oid4vc.Jws
open Oid4vc.PublicKeys Oid4vc.SdJwt Oid4vc.Disclosures Oid4vc.Selective Oid4vc.Tables
open Oid4vc.Oid4vci Oid4vc.IssuerStore Oid4vc.Credential Oid4vc.HolderKey Oid4vc.Processing
open Oid4vc.Wallet

variable (X : Crates)

/-- The key signed this JWT, under the algorithm that is its own. -/
def SignedBy (key : PublicKey) (decoded : DecodedJws) : Prop :=
  key.Verifies X (utf8 decoded.signingInput) decoded.signature ∧
    decoded.header.alg = key.algorithm.asStr

/-- The credential is bound to the key that signed the proof, whose algorithm is one of those
advertised. -/
def BoundTo (config : CredentialConfiguration) (jwt : String) (credential : Json) : Prop :=
  ∃ key decoded, decodeCompact X jwt = .ok decoded ∧ SignedBy X key decoded ∧
    advertised config decoded.header.alg = true ∧ holderKey X config.format credential = some key

def proofNonce (jwt : String) : Option String :=
  (jwtClaims X jwt).bind fun payload => stringMember payload "nonce"

variable {σ : Type}

/-- The credentials are complete, in order and bound; and the nonces of the proofs are spent. -/
structure Complete (request : CredentialRequest) (ctx : IssuanceContext X σ) (grant : AccessGrant)
    (configId : String) (config : CredentialConfiguration) (b b' : Backend σ)
    (credentials : List Json) : Prop where
  resolved : Resolved request grant ctx.metadata configId config
  bound : List.Forall₂ (BoundTo X config) (proofsOf request) credentials
  nonempty : 1 ≤ credentials.length
  limit : credentials.length ≤ batchLimit ctx.metadata
  nonces : ∀ jwt ∈ proofsOf request, ∃ nonce, proofNonce X jwt = some nonce ∧
    Valid b.issuer.store b.issuer.clock nonce ∧ b'.issuer.store.cNonces.get nonce = none

variable {X} {ctx : IssuanceContext X σ} {config : CredentialConfiguration}

/-- A proof that verifies is signed by the key in its header, and carries its nonce. -/
lemma signedBy_of_verifies {jwt issuerUrl : String} {now : ℤ} {holderJwk : Jwk} {nonce : String}
    (h : verifyProofJwt X jwt issuerUrl config now = .ok (holderJwk, nonce)) :
    (∃ key decoded, PublicKey.ofJwk X holderJwk = some key ∧ decodeCompact X jwt = .ok decoded ∧
      SignedBy X key decoded ∧ advertised config decoded.header.alg = true) ∧
      proofNonce X jwt = some nonce := by
  obtain ⟨decoded, alg, payload, aud, iat, hdecoded, -, -, halg, hsame, hadvertised, hverified,
    hpayload, -, -, -, -, hnonce⟩ := verifyProofJwt_eq_ok.mp h
  obtain ⟨key, hkey, hverifies, halg'⟩ := PublicKey.exists_of_verifyWithJwk hverified
  obtain rfl : alg = key.algorithm := Except.ok.inj (halg.symm.trans halg')
  refine ⟨⟨key, decoded, hkey, hdecoded, ⟨hverifies, hsame⟩, hadvertised⟩, ?_⟩
  rw [proofNonce, jwtClaims_of_decodes hdecoded hpayload, Option.bind_some, hnonce]

lemma boundTo_of_embeds {jwt issuerUrl : String} {now : ℤ} {proof : Jwk × String} {credential : Json}
    (h : verifyProofJwt X jwt issuerUrl config now = .ok proof)
    (hembeds : Embeds X config.format credential proof.1) : BoundTo X config jwt credential := by
  obtain ⟨⟨key, decoded, hkey, hdecoded, hsigned, hadvertised⟩, -⟩ := signedBy_of_verifies h
  exact ⟨key, decoded, hdecoded, hsigned, hadvertised, by rw [hembeds.holderKey, hkey]⟩

/-- **A request that succeeds**: its proofs all verify, their nonces are valid and then spent, and
the credentials embed their keys. -/
theorem processed_ok (hb64 : Base64Url X) (hserde : SerdeJson X) (hcbor : CborCodec X)
    (hcose : CoseCodec X) (hvalues : AllocatesValues ctx) {request : CredentialRequest}
    {token : String} {draws : RequestDraws} {b b' : Backend σ} {response : CredentialResponse}
    (hclock : Representable b.issuer.clock)
    (h : (processCredentialRequest X request token ctx draws).exec b = (.ok response, b')) :
    ∃ grant configId config proofs credentials,
      (b.issuer.store.getAccessGrant b.issuer.clock token).1 = some grant ∧
      checkRequest request ctx.metadata grant = .ok (configId, config, proofsOf request) ∧
      List.Forall₂ (fun jwt proof => verifyProofJwt X jwt ctx.issuerUrl config b.issuer.clock = .ok proof)
        (proofsOf request) proofs ∧
      List.Forall₂ (fun proof credential => Embeds X config.format credential proof.1) proofs
        credentials ∧
      response = credentialResponse credentials ∧
      ∀ proof ∈ proofs, Valid b.issuer.store b.issuer.clock proof.2 ∧
        b'.issuer.store.cNonces.get proof.2 = none := by
  rw [processCredentialRequest_exec] at h
  obtain ⟨hframeClock, hframeNonces, -⟩ := getAccessGrant_frame token b
  split at h
  · simp at h
  · next grant hgrant =>
    split at h
    · simp at h
    · next configId config jwts hcheck =>
      split at h
      · simp at h
      · next proofs hproofs =>
        obtain ⟨hvalid, hissued⟩ := consumeNonces_ok h
        have hclock' : Representable (spendAll (Calls.getAccessGrant token b).2
            (draws.nonces (proofs.map Prod.snd))).issuer.clock := by
          rw [spendAll_clock, hframeClock]
          exact hclock
        obtain ⟨hissuer, credentials, rfl, hembeds⟩ :=
          issueCredentials_ok hb64 hserde hcbor hcose hvalues hclock' hissued
        obtain ⟨-, rfl, -, -⟩ := checkRequest_ok hcheck
        refine ⟨grant, configId, config, proofs, credentials, hgrant, hcheck, mapM_eq_ok.mp hproofs,
          List.forall₂_map_left_iff.mp hembeds, rfl, fun proof hproof => ?_⟩
        have hmem : proof.2 ∈ draws.nonces (proofs.map Prod.snd) := by
          rw [(draws.walks _).mem_iff, List.mem_dedup]
          exact List.mem_map_of_mem hproof
        -- a nonce of a proof is on the walk: it was valid before, and is gone after it
        constructor
        · obtain ⟨entry, hentry, hage⟩ := hvalid proof.2 hmem
          rw [hframeNonces] at hentry
          rw [hframeClock] at hage
          exact ⟨entry, hentry, hage⟩
        · rw [hissuer, spendAll_get, if_pos hmem]

/-- If a proof fails, the request fails before any nonce is consumed. -/
lemma cNonces_of_failed {request : CredentialRequest} {token : String} {draws : RequestDraws}
    {b : Backend σ} {grant : AccessGrant} {configId : String} {jwt : String}
    (hgrant : (b.issuer.store.getAccessGrant b.issuer.clock token).1 = some grant)
    (hresolved : resolveConfiguration request grant ctx.metadata = .ok (configId, config))
    (hjwt : jwt ∈ proofsOf request)
    (hfails : ∀ proof, verifyProofJwt X jwt ctx.issuerUrl config b.issuer.clock ≠ .ok proof) :
    ((processCredentialRequest X request token ctx draws).exec b).2.issuer.store.cNonces =
      b.issuer.store.cNonces := by
  have hframe := (getAccessGrant_frame token b).2.1
  have hgrant' : (Calls.getAccessGrant token b).1 = some grant := hgrant
  rw [processCredentialRequest_exec, hgrant']
  simp only
  split
  · exact hframe
  · next id config' jwts hcheck =>
    obtain ⟨hresolved', rfl, -, -⟩ := checkRequest_ok hcheck
    rw [hresolved, Except.ok.injEq, Prod.mk.injEq] at hresolved'
    obtain ⟨rfl, rfl⟩ := hresolved'
    split
    · exact hframe
    · next proofs hproofs =>
      obtain ⟨proof, -, hproof⟩ := exists_of_mem_left (mapM_eq_ok.mp hproofs) hjwt
      exact absurd hproof (hfails proof)

/-- **Batch issuance.** A request that succeeds returns one credential a proof, in order, at least
one and no more than the batch may have, each bound to the key that signed its proof; its
configuration is one the token is for, and every nonce was valid and is spent. If a proof fails,
no nonce is consumed. -/
theorem batch_complete (hb64 : Base64Url X) (hserde : SerdeJson X) (hcbor : CborCodec X)
    (hcose : CoseCodec X) (hvalues : AllocatesValues ctx) (request : CredentialRequest)
    (token : String) (draws : RequestDraws) (b : Backend σ) (hclock : Representable b.issuer.clock) :
    (∀ response b', (processCredentialRequest X request token ctx draws).exec b = (.ok response, b') →
      ∃ grant configId config credentials,
        (b.issuer.store.getAccessGrant b.issuer.clock token).1 = some grant ∧
        response.credentials = some (credentials.map IssuedCredential.mk) ∧
        Complete X request ctx grant configId config b b' credentials) ∧
      ∀ grant configId config, (b.issuer.store.getAccessGrant b.issuer.clock token).1 = some grant →
        resolveConfiguration request grant ctx.metadata = .ok (configId, config) →
        (∃ jwt ∈ proofsOf request, ∀ proof,
          verifyProofJwt X jwt ctx.issuerUrl config b.issuer.clock ≠ .ok proof) →
        ((processCredentialRequest X request token ctx draws).exec b).2.issuer.store.cNonces =
          b.issuer.store.cNonces := by
  refine ⟨fun response b' h => ?_, ?_⟩
  · obtain ⟨grant, configId, config, proofs, credentials, hgrant, hcheck, hproofs, hembeds, rfl,
      hnonces⟩ := processed_ok hb64 hserde hcbor hcose hvalues hclock h
    obtain ⟨hresolved, -, hnonempty, hlimit⟩ := checkRequest_ok hcheck
    have hbound : List.Forall₂ (BoundTo X config) (proofsOf request) credentials := by
      refine forall₂_trans ?_ hproofs hembeds
      intro jwt proof credential hproof hembed
      exact boundTo_of_embeds hproof hembed
    have hlength : (proofsOf request).length = credentials.length := hbound.length_eq
    refine ⟨grant, configId, config, credentials, hgrant, rfl, resolveConfiguration_ok hresolved,
      hbound, ?_, ?_, fun jwt hjwt => ?_⟩
    · have := List.length_pos_iff.mpr hnonempty
      omega
    · omega
    · obtain ⟨⟨jwk, nonce⟩, hmem, hproof⟩ := exists_of_mem_left hproofs hjwt
      obtain ⟨-, hnonce⟩ := signedBy_of_verifies hproof
      exact ⟨nonce, hnonce, hnonces _ hmem⟩
  · rintro grant configId config hgrant hresolved ⟨jwt, hjwt, hfails⟩
    exact cNonces_of_failed hgrant hresolved hjwt hfails

/-! ### An issuer of SD-JWT VCs, and two wallets -/

section Sample

def issuerX : ℕ := 0x71e0eabdb295f5abdbfb8a7db8591700ac7ce31b48cc420c96062169897def59

def issuerY : ℕ := 0x260bb2b661a1ba8a31f2c8152d8947af161d6babe459b0152057875669958b07

def sampleUrl : String := "https://issuer.example.com"

def credentialSalts (i : ℕ) : Bytes := bigEndian 16 (0x2a1f5c8e9b3d47608f7ae4c2d1b05936 + i)

/-- The private member that a careless wallet leaves in its JWK. -/
def holderD : String := "nYN5hGYdKAaZEBWHaDghsLE4XTJBlmKeDaRyBsv56JU"

/-- The thumbprint of the issuer's key and the disclosures, with their digests. -/
def issuerDigests : List (Bytes × Bytes) := [
  (utf8 (canonicalMembers (holderJwk issuerX issuerY none)),
    bigEndian 32 0x197d4839db6747cfa8745a98337990df2ec0b3405a18657052a7351d50ce1668),
  (utf8 "WyJLaDljanBzOVIyQ1BldVRDMGJCWk5nIiwiZ2l2ZW5fbmFtZSIsIkpvaG4iXQ",
    bigEndian 32 0x3c2abe5ca2525f90a7f6b1f2a98e45a7d6cac8feefe69b48aa58d3b2204241a6),
  (utf8 "WyJLaDljanBzOVIyQ1BldVRDMGJCWk53IiwiZmFtaWx5X25hbWUiLCJEb2UiXQ",
    bigEndian 32 0x567209628a27f52a802f408c99d8435410a8d61cb7dd0b1023623d46847a65a1),
  (utf8 "WyJLaDljanBzOVIyQ1BldVRDMGJCWk9BIiwiYmlydGhfZGF0ZSIsIjE5OTAtMDEtMDEiXQ",
    bigEndian 32 0x97782c0c3629ddb9ab11edf5287a6fc019c726cfe09bf97cf91e9edcd65ae5b6)]

def possessionInput (x y : ℕ) (d : Option String) : Bytes :=
  walletInput (walletHeader "openid4vci-proof+jwt" (holderJwk x y d))
    (possessionClaims sampleUrl "n-1" 1767225600)

def possessions : Table :=
  wallets issuerDigests
    [(possessionInput holderX holderY none,
      bigEndian 32 0x0e2712af77ab946205edae21b004a555bbc2ea2cf6dc8fcc451acbc35b43d636 ++
        bigEndian 32 0x9cb417c1f3bcd841b0771385ca16f58999292e68b842b02ee22cbccfdadfa919),
      (possessionInput holderX holderY (some holderD),
        bigEndian 32 0xa1259f21a09e7d2e4b9d78b61625b692ea5830bfcb213732c4c9a099b6773cb3 ++
          bigEndian 32 0x13a107fe3f58476b7db6cde85e89d5f52509ab3c5bfd519ce14250946ed7d949)]
    [(possessionInput otherX otherY none,
      bigEndian 32 0x80b9ebbb8a4769148ea9acf7884fd46b940f69bc45f720188d48c46d768280fd ++
        bigEndian 32 0xd3b1088f9b3a2dc9962f04e5a71714a79b91705f0fe90ccc36d71681ca2f39d5)]

def issuerInput (jwk : Jwk) : Bytes :=
  walletInput
    (buildHeader ((possessions.key issuerX issuerY).toKeyPair possessions.crates) (some "dc+sd-jwt"))
    (claimsFor sampleUrl "https://issuer.example.com/id" []
      (disclosuresFor possessions.crates demoClaims credentialSalts)
      (some (.obj [("jwk", jwk.toValue)])) none (seconds 1767225600)).toJson

def issuerSignatures : List (Bytes × Bytes) := [
  (issuerInput (holderJwk holderX holderY none),
    bigEndian 32 0xed7a9f1d16a52c9ac8a41b40d93d6e281d3ead7bf59ebd7872390e4fc5a2cfa0 ++
      bigEndian 32 0x9f0b11e384d1ae4489cef765d75300c9d2b5bf0fa7835b45891ffd40d903014c),
  (issuerInput (holderJwk otherX otherY none),
    bigEndian 32 0xd1515e4a1a602b97fb94ba0f378356d48dad4e2d787096339790b52428f590ab ++
      bigEndian 32 0x2fe2bd6e9590d9d2ad8c86b8d332ede3abcea7f42036a33d580d033c2418dd54),
  (issuerInput (holderJwk holderX holderY (some holderD)),
    bigEndian 32 0x4502d09183df7b1f32d9be34128d67e5e29c1c8e32b3319b4bc91cd607fd2ee7 ++
      bigEndian 32 0xf688877fb33bcbb3e4b93b580804c278c91537e895b05eb73accf1373b9dde37)]

def issuance : Table :=
  { possessions with
    signatures := ((bigEndian 32 issuerX, bigEndian 32 issuerY), issuerSignatures) ::
      possessions.signatures }

def sampleConfiguration : CredentialConfiguration where
  format := "dc+sd-jwt"
  scope := some "id"
  proofTypesSupported := some [("jwt", ⟨["ES256", "EdDSA"]⟩)]
  vct := some "https://issuer.example.com/id"
  doctype := none

def sampleMetadata : CredentialIssuerMetadata where
  credentialIssuer := sampleUrl
  batchCredentialIssuance := some ⟨2⟩
  credentialConfigurationsSupported := [("id", sampleConfiguration)]

/-- An issuer without status lists, and without mdocs. -/
def sampleContext : IssuanceContext issuance.crates Unit where
  issuerKey := (issuance.key issuerX issuerY).toKeyPair issuance.crates
  issuerUrl := sampleUrl
  metadata := sampleMetadata
  allocateStatus := fun _ status => some (.ok none, status)
  x5c := none
  mdoc := none

def sampleDraws : RequestDraws where
  nonces := List.dedup
  credential _ := ⟨[], demoClaims, credentialSalts, ⟨[], fun _ => []⟩, List.Perm.refl _⟩
  walks _ := List.Perm.refl _

/-- A proof of possession for the nonce 1. -/
def sampleProof (x y : ℕ) (d : Option String) : String :=
  possessionProof issuance x y d sampleUrl "n-1" 1767225600

def requestOf (proofs : List String) : CredentialRequest where
  credentialIdentifier := none
  credentialConfigurationId := some "id"
  proofs := some ⟨some proofs, []⟩
  proof := none

/-- A token for the configuration, and a nonce. -/
def sampleStore : InMemoryIssuerState :=
  { InMemoryIssuerState.new with
    accessTokens := empty.insert "token" ⟨⟨["id"], [], none⟩, seconds 1767229200⟩
    cNonces := empty.insert "n-1" ⟨seconds 1767225600, 300⟩ }

def sampleBackend : Backend Unit := ⟨⟨seconds 1767225610, 0, sampleStore⟩, ()⟩

lemma sampleProof_verifies (x y : ℕ) (d : Option String) :
    verifyProofJwt issuance.crates (sampleProof x y d) sampleUrl sampleConfiguration
      (seconds 1767225610) = .ok (holderJwk x y d, "n-1") :=
  possessionProof_verifies x y d "n-1" (by decide) (by decide) (by decide) (by decide)

lemma sample_getAccessGrant : sampleStore.getAccessGrant (seconds 1767225610) "token" =
    (some ⟨["id"], [], none⟩, sampleStore) := by
  have htoken : sampleStore.accessTokens.get "token" = some ⟨⟨["id"], [], none⟩, seconds 1767229200⟩ :=
    get_insert_self _ _ _
  have hlive : seconds 1767225610 < seconds 1767229200 := by decide
  simp only [InMemoryIssuerState.getAccessGrant, htoken, if_pos hlive]

lemma sample_grant :
    (sampleStore.getAccessGrant (seconds 1767225610) "token").1 = some ⟨["id"], [], none⟩ := by
  rw [sample_getAccessGrant]

lemma sample_check {proofs : List String} (hlimit : proofs.length ≤ 2) (hnonempty : proofs ≠ []) :
    checkRequest (requestOf proofs) sampleMetadata ⟨["id"], [], none⟩ =
      .ok ("id", sampleConfiguration, proofs) := by
  have hnamed : namedConfiguration (requestOf proofs) ⟨["id"], [], none⟩ sampleMetadata = .ok "id" := by
    simp [namedConfiguration, requestOf]
  have hresolved : resolveConfiguration (requestOf proofs) ⟨["id"], [], none⟩ sampleMetadata =
      .ok ("id", sampleConfiguration) := by
    simp only [resolveConfiguration, hnamed, bind_eq_ok, okOr_eq_ok, ensure_eq_ok, exists_unit, pure_eq_ok]
    exact ⟨"id", rfl, sampleConfiguration, List.lookup_cons_self, List.mem_cons_self, rfl⟩
  have hrequested : requestedProofs (requestOf proofs) sampleMetadata = .ok proofs := by
    simp [requestedProofs, requestOf, sampleMetadata, Option.filter_some, hnonempty, hlimit]
  simp only [checkRequest, hresolved, hrequested, bind_eq_ok, pure_eq_ok]
  exact ⟨_, rfl, _, rfl, rfl⟩

lemma sample_succeeds {proofs : List String} {verified : List (Jwk × String)}
    (hlimit : proofs.length ≤ 2) (hnonempty : proofs ≠ [])
    (hproofs : List.Forall₂ (fun jwt proof => verifyProofJwt issuance.crates jwt sampleUrl
      sampleConfiguration (seconds 1767225610) = .ok proof) proofs verified)
    (hnonces : ∀ proof ∈ verified, proof.2 = "n-1") :
    ∃ response b', (processCredentialRequest issuance.crates (requestOf proofs) "token" sampleContext
      sampleDraws).exec sampleBackend = (.ok response, b') := by
  have hvalid : Valid sampleStore (seconds 1767225610) "n-1" :=
    ⟨⟨seconds 1767225600, 300⟩, get_insert_self _ _ _, by decide⟩
  have hsign : ∀ m, ∃ s, sampleContext.issuerKey.sign m = .ok s := fun m => ⟨_, rfl⟩
  refine processed_of_valid sample_grant (sample_check hlimit hnonempty) hproofs (fun proof hproof => ?_)
    rfl rfl (fun _ _ => rfl) hsign
  rw [hnonces proof hproof]
  exact hvalid

lemma sample_allocatesValues : AllocatesValues sampleContext := by
  intro draws status v status' h
  simp [sampleContext] at h

/-- A batch of two is issued two credentials, and its nonce is spent. -/
theorem pair_issued : ∃ response b', ∃ credentials : List Json,
    (processCredentialRequest issuance.crates
      (requestOf [sampleProof holderX holderY none, sampleProof otherX otherY none]) "token"
      sampleContext sampleDraws).exec sampleBackend = (.ok response, b') ∧
    response.credentials = some (credentials.map IssuedCredential.mk) ∧ credentials.length = 2 ∧
    b'.issuer.store.cNonces.get "n-1" = none := by
  have hproof := sampleProof_verifies holderX holderY none
  have hproof' := sampleProof_verifies otherX otherY none
  generalize sampleProof holderX holderY none = proof at hproof ⊢
  generalize sampleProof otherX otherY none = proof' at hproof' ⊢
  obtain ⟨response, b', h⟩ := sample_succeeds (by simp) (by simp)
    (.cons hproof (.cons hproof' .nil)) (by simp)
  have hclock : Representable sampleBackend.issuer.clock := ⟨by decide, by decide⟩
  obtain ⟨grant, configId, config, credentials, -, hcredentials, hcomplete⟩ :=
    (batch_complete Table.base64Url Table.serdeJson Table.cborCodec Table.coseCodec
      sample_allocatesValues _ "token" sampleDraws sampleBackend hclock).1 response b' h
  have hlength := hcomplete.bound.length_eq
  have hproofs : proofsOf (requestOf [proof, proof']) = [proof, proof'] := rfl
  obtain ⟨nonce, hnonce, -, hspent⟩ := hcomplete.nonces proof (by rw [hproofs]; exact List.mem_cons_self)
  have hsame : proofNonce issuance.crates proof = some "n-1" := (signedBy_of_verifies hproof).2
  rw [hnonce, Option.some.injEq] at hsame
  rw [hsame] at hspent
  exact ⟨response, b', credentials, h, hcredentials, hlength.symm, hspent⟩

end Sample

end Oid4vc.Batch
