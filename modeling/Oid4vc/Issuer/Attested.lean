import Oid4vc.Crypto.PublicKey
import Oid4vc.Issuer.TimeLimits
import Oid4vc.Issuer.Wallet

/-!
What an accepted client attestation shows.

Two JWTs are signed by two keys: the attestation by a trusted attester, the PoP by the key
that the attestation confirms. The checks are those of the attestation and its PoP, except
where the code leaves one out.
-/

namespace Oid4vc.Attested

open Oid4vc.JsonValue Oid4vc.Text Oid4vc.Fallible Oid4vc.Instant Oid4vc.Jwks Oid4vc.External
open Oid4vc.Codecs Oid4vc.CborBytes Oid4vc.Keys Oid4vc.Jws Oid4vc.SdJwt Oid4vc.IssuerStore
open Oid4vc.ClientAttestation Oid4vc.TimeLimits Oid4vc.SelfSigned Oid4vc.Tables Oid4vc.PublicKeys
open Oid4vc.Dpop Oid4vc.Wallet

/-- A key may have signed what names this `kid`: one of the two has none, or they agree. -/
def KidCompatible (kid : Option String) (key : Jwk) : Prop :=
  ∀ k ∈ kid, ∀ k' ∈ key.kid, k' = k

/-- The audience, one text or one of several, is the server. -/
def NamesServer (aud : Option Json) (audience : String) : Prop :=
  ∃ text, sameIssuer text audience = true ∧
    (aud = some (.str text) ∨ ∃ items, aud = some (.arr items) ∧ .str text ∈ items)

variable (X : Crates)

/-- The attestation is a trusted attester's word on the client. -/
structure SoundAttestation (now : ℤ) (decoded : DecodedJws) (claims : Json)
    (trustedAttesters : List Jwk) (client : AttestedClient) : Prop where
  typ : decoded.header.typ = some "oauth-client-attestation+jwt"
  alg : decoded.header.alg ∈ attestationSigningAlgs
  signed : ∃ key ∈ trustedAttesters, KidCompatible decoded.header.kid key ∧
    verifyWithJwk X key (utf8 decoded.signingInput) decoded.signature = .ok ()
  exp : (∃ v, claims.get "exp" = some v) ∧ Meets claims "exp" (attestationLimits now).exp
  nbf : Meets claims "nbf" (attestationLimits now).nbf
  sub : claims.get "sub" = some (.str client.clientId) ∧ client.clientId ≠ ""
  cnf : cnfJwk claims = some client.instanceKey
  publicOnly : client.instanceKey.d = none

/-- The PoP is the client's word to this server, given now and for the first time. -/
structure SoundPop (now recordedAt : ℤ) (decoded : DecodedJws) (claims : Json)
    (client : AttestedClient) (audience : String) (s : InMemoryIssuerState) : Prop where
  typ : decoded.header.typ = some "oauth-client-attestation-pop+jwt"
  alg : decoded.header.alg ∈ attestationSigningAlgs
  signed : verifyWithJwk X client.instanceKey (utf8 decoded.signingInput) decoded.signature = .ok ()
  iss : ∀ iss, claims.get "iss" = some iss → iss = .str client.clientId
  aud : NamesServer (claims.get "aud") audience
  iat : ∃ iat, i64Claim claims "iat" = some iat ∧ now - popMaxAgeSecs ≤ iat ∧ iat ≤ now + skewSecs
  jti : ∃ jti, claims.get "jti" = some (.str jti) ∧
    ∀ expires, s.seenJtis.get (popKey client.clientId jti) = some expires → expires ≤ recordedAt

/-- Both JWTs decode, and are sound. -/
def Sound (now recordedAt : ℤ) (attestation pop : String) (trustedAttesters : List Jwk)
    (audience : String) (s : InMemoryIssuerState) (client : AttestedClient) : Prop :=
  ∃ decoded claims popDecoded popClaims,
    decodeCompact X attestation = .ok decoded ∧ X.jsonFromSlice decoded.payload = .ok claims ∧
    decodeCompact X pop = .ok popDecoded ∧ X.jsonFromSlice popDecoded.payload = .ok popClaims ∧
    SoundAttestation X (timestamp now) decoded claims trustedAttesters client ∧
    SoundPop X (timestamp now) recordedAt popDecoded popClaims client audience s

/-- What the code does not see to: the confirmed key is no Ed25519 key, the PoP's `iss` is a
text if there is one, and the attestation's `nbf` is not unreadable and missed. -/
structure Careful (now : ℤ) (attestation pop : String) : Prop where
  key : ∀ claims jwk, jwtClaims X attestation = some claims → cnfJwk claims = some jwk →
    algorithmForJwk jwk ≠ .ok .edDSA
  iss : ∀ claims, jwtClaims X pop = some claims → ∀ iss, claims.get "iss" = some iss →
    ∃ text, iss = .str text
  nbf : ∀ claims, jwtClaims X attestation = some claims →
    ¬ Unread claims "nbf" (attestationLimits (timestamp now)).nbf

variable {X}

lemma strClaim_eq_some {claims : Json} {name text : String} (h : strClaim claims name = some text) :
    claims.get name = some (.str text) := by
  obtain ⟨v, hv, htext⟩ := Option.bind_eq_some_iff.mp h
  rw [hv, Json.asStr_eq_some htext]

lemma namesServer_of_namesAudience {aud : Option Json} {audience : String}
    (h : namesAudience aud audience = true) : NamesServer aud audience := by
  unfold namesAudience at h
  split at h
  · next text => exact ⟨text, h, .inl rfl⟩
  · next items =>
    obtain ⟨text, hmem, hsame⟩ := List.any_eq_true.mp h
    obtain ⟨item, hitem, htext⟩ := List.mem_filterMap.mp hmem
    rw [Json.asStr_eq_some htext] at hitem
    exact ⟨text, hsame, .inr ⟨items, rfl, hitem⟩⟩
  · cases h

lemma exists_signer_of_signedByTrusted {attestation : String} {kid : Option String}
    {trustedAttesters : List Jwk} {decoded : DecodedJws}
    (hdecoded : decodeCompact X attestation = .ok decoded)
    (h : signedByTrusted X attestation kid trustedAttesters = true) :
    ∃ key ∈ trustedAttesters, KidCompatible kid key ∧
      verifyWithJwk X key (utf8 decoded.signingInput) decoded.signature = .ok () := by
  obtain ⟨key, hmem, hok⟩ := List.any_eq_true.mp h
  obtain ⟨htrusted, hkid⟩ := List.mem_filter.mp hmem
  refine ⟨key, htrusted, ?_, ?_⟩
  · rintro k hk k' hk'
    simp only [Option.mem_def] at hk hk'
    simpa [hk, hk'] using hkid
  · cases hverify : verifyWithPublicJwk X attestation key with
    | error e =>
      rw [hverify] at hok
      cases hok
    | ok d =>
      obtain ⟨hd, -, hsigned⟩ := verifyWithPublicJwk_eq_ok.mp hverify
      rw [hdecoded, Except.ok.injEq] at hd
      rwa [hd]

/-- **The attestation.** What is accepted is sound, but for an `nbf` that was not read. -/
lemma soundAttestation_of_checkAttestation {now : ℤ} {attestation : String}
    {trustedAttesters : List Jwk} {client : AttestedClient}
    (h : checkAttestation X now attestation trustedAttesters = .ok client) :
    ∃ decoded claims, decodeCompact X attestation = .ok decoded ∧
      X.jsonFromSlice decoded.payload = .ok claims ∧ cnfJwk claims = some client.instanceKey ∧
      (¬ Unread claims "nbf" (attestationLimits (timestamp now)).nbf ↔
        SoundAttestation X (timestamp now) decoded claims trustedAttesters client) := by
  simp only [checkAttestation, bind_eq_ok, mapError_eq_ok, ensure_eq_ok, okOr_eq_ok, pure_eq_ok,
    exists_unit, Option.filter_eq_some_iff, bne_iff_ne] at h
  obtain ⟨decoded, hdecoded, htyp, halg, hsigned, claims, hclaims, -, sub, ⟨hsub, hne⟩, hwindow, key,
    hcnf, hpublic, rfl⟩ := h
  obtain hhold := checkTimeWindow_eq_ok.mp hwindow
  obtain ⟨exp, hexp⟩ := Option.ne_none_iff_exists'.mp (hhold.2.1 rfl)
  obtain ⟨v, hv, hi⟩ := Option.bind_eq_some_iff.mp hexp
  -- the expiry was read, since it is required
  have hread : ¬ Unread claims "exp" (attestationLimits (timestamp now)).exp := by
    rintro ⟨w, hw, hnone, -⟩
    rw [hv, Option.some.injEq] at hw
    rw [← hw, hi] at hnone
    cases hnone
  have hkept := kept_iff_of_readableHold hhold
  rw [Kept, Missed, not_or] at hkept
  refine ⟨decoded, claims, hdecoded, hclaims, hcnf, fun hnbf => ?_, fun hsound => ?_⟩
  · obtain ⟨hexpMet, hnbfMet⟩ := hkept.mpr ⟨hread, hnbf⟩
    exact ⟨htyp, halg, exists_signer_of_signedByTrusted hdecoded hsigned, ⟨⟨v, hv⟩, hexpMet⟩,
      hnbfMet, ⟨strClaim_eq_some hsub, hne⟩, hcnf, hpublic⟩
  · exact (hkept.mp ⟨hsound.exp.2, hsound.nbf⟩).2

lemma jwtClaims_eq_some {jws : String} {decoded : DecodedJws} {claims claims' : Json}
    (hdecoded : decodeCompact X jws = .ok decoded) (hclaims : X.jsonFromSlice decoded.payload = .ok claims)
    (h : jwtClaims X jws = some claims') : claims' = claims := by
  rw [jwtClaims_of_decodes hdecoded hclaims, Option.some.injEq] at h
  exact h.symm

/-- A JWT that verifies under a JWK is signed with an accepted algorithm, unless the JWK is an
Ed25519 key. -/
lemma alg_mem_iff {jwk : Jwk} {decoded : DecodedJws} {a : Algorithm}
    (ha : algorithmForJwk jwk = .ok a) (halg : decoded.header.alg = a.asStr) :
    decoded.header.alg ∈ attestationSigningAlgs ↔ algorithmForJwk jwk ≠ .ok .edDSA := by
  rw [halg, ha]
  cases a <;> decide

/-- **The PoP.** What is accepted is sound, but for its algorithm and an `iss` that is no text. -/
lemma soundPop_of_checkPop {now recordedAt : ℤ} {pop audience jti : String}
    {client : AttestedClient} {s : InMemoryIssuerState}
    (h : checkPop X now pop client audience = .ok jti)
    (hfresh : ∀ expires, s.seenJtis.get (popKey client.clientId jti) = some expires →
      expires ≤ recordedAt) :
    ∃ decoded claims, decodeCompact X pop = .ok decoded ∧
      X.jsonFromSlice decoded.payload = .ok claims ∧
      (algorithmForJwk client.instanceKey ≠ .ok .edDSA ∧
          (∀ iss, claims.get "iss" = some iss → ∃ text, iss = .str text) ↔
        SoundPop X (timestamp now) recordedAt decoded claims client audience s) := by
  simp only [checkPop, checkPopClaims, bind_eq_ok, mapError_eq_ok, ensure_eq_ok, okOr_eq_ok,
    exists_unit, not_or, Int.not_lt] at h
  obtain ⟨decoded, hverified, htyp, claims, hclaims, hiss, haud, iat, hiat, ⟨hyoung, hold⟩, -, hjti⟩ := h
  obtain ⟨hdecoded, ⟨a, ha, halg⟩, hsigned⟩ := verifyWithPublicJwk_eq_ok.mp hverified
  have hmem := alg_mem_iff ha halg
  refine ⟨decoded, claims, hdecoded, hclaims, ?_, ?_⟩
  · rintro ⟨hkey, htext⟩
    refine ⟨htyp, hmem.mpr hkey, hsigned, fun iss hget => ?_, namesServer_of_namesAudience haud,
      ⟨iat, hiat, hold, hyoung⟩, jti, strClaim_eq_some hjti, hfresh⟩
    obtain ⟨text, rfl⟩ := htext iss hget
    have hclaim : strClaim claims "iss" = some text := by
      rw [strClaim, hget, Option.bind_some, Json.asStr_str]
    rw [hiss text hclaim]
  · intro hsound
    refine ⟨hmem.mp hsound.alg, fun iss hget => ⟨client.clientId, hsound.iss iss hget⟩⟩

/-- **Client attestations.** What an accepted client shows is sound if and only if the code's
gaps are not used: an Ed25519 key in the attestation, an `iss` of the PoP that is no text, an
`nbf` of the attestation that is unreadable and missed. -/
theorem sound_iff_careful {now recordedAt : ℤ} {attestation pop audience : String}
    {trustedAttesters : List Jwk} {s s' : InMemoryIssuerState} {client : AttestedClient}
    (h : verifyClientAttestation X now recordedAt attestation pop trustedAttesters audience s =
      (.ok client, s')) :
    Sound X now recordedAt attestation pop trustedAttesters audience s client ↔
      Careful X now attestation pop := by
  obtain ⟨jti, hcheck, hrecorded⟩ := verifyClientAttestation_eq_ok h
  simp only [checkClientAttestation, bind_eq_ok, pure_eq_ok, Prod.mk.injEq] at hcheck
  obtain ⟨_, hattestation, _, hpop, rfl, rfl⟩ := hcheck
  have hfresh := (InMemoryIssuerState.recordJti_eq_true (s := s) (by rw [hrecorded])).1
  obtain ⟨decoded, claims, hdecoded, hclaims, hcnf, hsound⟩ :=
    soundAttestation_of_checkAttestation hattestation
  obtain ⟨popDecoded, popClaims, hpopDecoded, hpopClaims, hpopSound⟩ :=
    soundPop_of_checkPop hpop hfresh
  constructor
  · rintro ⟨decoded', claims', popDecoded', popClaims', hd, hc, hpd, hpc, ha, hp⟩
    rw [hdecoded, Except.ok.injEq] at hd
    rw [hpopDecoded, Except.ok.injEq] at hpd
    subst hd hpd
    rw [hclaims, Except.ok.injEq] at hc
    rw [hpopClaims, Except.ok.injEq] at hpc
    subst hc hpc
    obtain ⟨hkey, htext⟩ := hpopSound.mpr hp
    refine ⟨fun c jwk hj hjwk => ?_, fun c hj => ?_, fun c hj => ?_⟩
    · rw [jwtClaims_eq_some hdecoded hclaims hj, hcnf, Option.some.injEq] at hjwk
      rwa [← hjwk]
    · rw [jwtClaims_eq_some hpopDecoded hpopClaims hj]
      exact htext
    · rw [jwtClaims_eq_some hdecoded hclaims hj]
      exact hsound.mpr ha
  · intro hcareful
    have hj := jwtClaims_of_decodes hdecoded hclaims
    have hpj := jwtClaims_of_decodes hpopDecoded hpopClaims
    exact ⟨decoded, claims, popDecoded, popClaims, hdecoded, hclaims, hpopDecoded, hpopClaims,
      hsound.mp (hcareful.nbf _ hj),
      hpopSound.mp ⟨hcareful.key _ _ hj hcnf, hcareful.iss _ hpj⟩⟩

/-! ### Two wallets of one attester -/

section Sample

def attesterX : ℕ := 0x63a368870a92ca5c9bd79580b8d9492523c492ecf1626c76ce5c11a4e184ea7a

def attesterY : ℕ := 0x60ca7abb5e95efa40e73cf895a1e08c2aee67e37bf738bb602c732c18953b726

def walletX : ℕ := 0xa86fe3718dddd5371ffc00c17985b1e0310cdfdf14290f48145b84a339caaf0b

def walletY : ℕ := 0xd068ed445ca66e1725e545a8b23a3bea9f058a4aeca0b91121b9513393a861d8

def edKey : Bytes := bigEndian 32 0x1277c8121a593fa3506f3a8c29b9a042e0f371977ce2e0d913864ba6eca622c1

def edJwk : Jwk where
  kty := "OKP"
  crv := some "Ed25519"
  x := some (codecs.base64UrlEncode edKey)
  y := none
  d := none
  alg := none
  kid := none
  use := none

def attestationHeader : JwsHeader :=
  ⟨"ES256", some "oauth-client-attestation+jwt", none, none, none⟩

def attestationClaims (jwk : Jwk) : Json :=
  .obj [("cnf", .obj [("jwk", jwk.toValue)]), ("exp", .num (.posInt 1767225900)),
    ("iss", .str "https://attester.example.com"), ("sub", .str "wallet-client")]

def popHeader (a : Algorithm) : JwsHeader :=
  ⟨a.asStr, some "oauth-client-attestation-pop+jwt", none, none, none⟩

def clientPop (jti : String) : Json :=
  .obj [("aud", .str "https://issuer.example.com"), ("iat", .num (.posInt 1767225600)),
    ("iss", .str "wallet-client"), ("jti", .str jti)]

def popClaims : Json := clientPop "c2f4e0f6-0f6e-4b0e-8a55-3d8a6e4b9d11"

/-- What the attester and the first wallet sign. -/
def attestationTable : Table where
  digests := []
  signatures := [
    ((bigEndian 32 attesterX, bigEndian 32 attesterY),
      [(walletInput attestationHeader (attestationClaims (holderJwk walletX walletY none)),
        bigEndian 32 0x047dc39083908edfd0ba49d44ec6e129daad779f097a5cdf72919ddfc0ec8475 ++
          bigEndian 32 0x927df8d87b328add412637b47362561f078f062bfc4bf87011e486738e3565b5),
      (walletInput attestationHeader (attestationClaims edJwk),
        bigEndian 32 0x454425b1434148efe24573451d5b2a0f4e27128e0117269b95ca84cdbba446e1 ++
          bigEndian 32 0x9713b90c90aa7afda310cee0acdba5b27a8c3c2dd5af06a1c6b393d6df6e62a4)]),
    ((bigEndian 32 walletX, bigEndian 32 walletY),
      [(walletInput (popHeader .es256) popClaims,
        bigEndian 32 0x2b35e6c401db03c0681387eab3be2a531c9678fc87a04c2ebe8686883a31a07c ++
          bigEndian 32 0x3f1a882bea20029560957e8722a2226e61229a5012a1c3edda75e833f3894c4e)])]
  certificates := []
  derSignatures := []
  dates := []

def edSign (message : Bytes) : Bytes :=
  if message = walletInput (popHeader .edDSA) popClaims then
    bigEndian 32 0x8e8fbfd684b862b32ee2a562d28cadc95fa1305e755e1ae261376c5f2957265b ++
      bigEndian 32 0xa33b6d150a82c640d36c88fa2362c47c6bbc90017314baff90077f1a0671790e
  else List.replicate 64 0

def walletCrates : Crates :=
  { attestationTable.crates with
    ed25519Key := fun _ => .ok ()
    ed25519Verify := fun key message signature =>
      if key = edKey ∧ signature = edSign message then .ok () else .error "signature error" }

def attester : SigningKey := attestationTable.key attesterX attesterY

def p256Wallet : SigningKey := attestationTable.key walletX walletY

def edWallet : SigningKey := .ed25519 ⟨edKey, fun message => .ok (edSign message)⟩

lemma reading_wallet : Reading walletCrates := reading_of_codecs rfl rfl rfl rfl rfl rfl

lemma key_correct_wallet (x y : ℕ) : (attestationTable.key x y).Correct walletCrates :=
  Table.key_correct_of_eq (t := attestationTable) (X := walletCrates) rfl rfl rfl x y

lemma length_edSign (message : Bytes) : (edSign message).length = 64 := by
  unfold edSign
  split_ifs
  · rw [List.length_append, length_bigEndian, length_bigEndian]
  · rw [List.length_replicate]

lemma edWallet_correct : edWallet.Correct walletCrates := by
  refine ⟨length_bigEndian _ _, rfl, ?_⟩
  rintro m s ⟨⟩
  exact ⟨length_edSign m, if_pos ⟨rfl, rfl⟩⟩

lemma sortMembers_attestationClaims (jwk : Jwk) :
    sortMembers (attestationClaims jwk) = attestationClaims jwk := by
  apply sortMembers_of_sorted
  simp only [List.pairwise_cons, List.mem_cons, List.not_mem_nil, or_false, forall_eq_or_imp, forall_eq,
    false_implies, implies_true, List.Pairwise.nil, and_true]
  decide

lemma sortMembers_clientPop (jti : String) : sortMembers (clientPop jti) = clientPop jti := by
  apply sortMembers_of_sorted
  simp only [List.pairwise_cons, List.mem_cons, List.not_mem_nil, or_false, forall_eq_or_imp, forall_eq,
    false_implies, implies_true, List.Pairwise.nil, and_true]
  decide

lemma cnfJwk_attestationClaims (jwk : Jwk) : cnfJwk (attestationClaims jwk) = some jwk := by
  simp [cnfJwk, attestationClaims, Json.get, ofJson_toValue]

def attestationOf (jwk : Jwk) : String :=
  signJwt walletCrates attester attestationHeader (attestationClaims jwk)

def popOf (wallet : SigningKey) : String :=
  signJwt walletCrates wallet (popHeader (wallet.toKeyPair walletCrates).algorithm) popClaims

def attesterJwk : Jwk := holderJwk attesterX attesterY none

/-- What a trusted attester signs attests the client. -/
lemma checkAttestation_signJwt {X : Crates} (h : Reading X) {t : Table} {x y : ℕ}
    (hkey : (t.key x y).Correct X) (jwk : Jwk) (hd : jwk.d = none) :
    checkAttestation X (seconds 1767225600)
      (signJwt X (t.key x y) attestationHeader (attestationClaims jwk)) [holderJwk x y none] =
      .ok ⟨"wallet-client", jwk⟩ := by
  obtain ⟨signature, signingInput, hdecoded, hverify⟩ := signJwt_decodes h.base64Url h.serdeJson hkey
    (Table.key_signs (t := t) x y) attestationHeader (attestationClaims jwk)
  have hverified := verifyWithPublicJwk_eq_ok.mpr ⟨hdecoded,
    ⟨.es256, algorithmForJwk_holderJwk x y none, rfl⟩,
    hverify _ (holderJwk_publicMembers h.encode x y none)⟩
  have htrusted : signedByTrusted X (signJwt X (t.key x y) attestationHeader (attestationClaims jwk)) none
      [holderJwk x y none] = true := by
    simp only [signedByTrusted, List.filter_cons, beq_self_eq_true, Bool.true_or, if_true,
      List.any_cons, hverified]
    rfl
  have hcnf := cnfJwk_attestationClaims jwk
  have hiss : (strClaim (attestationClaims jwk) "iss").isSome = true := by
    simp [strClaim, attestationClaims, Json.get]
  have hsub : (strClaim (attestationClaims jwk) "sub").filter (fun s => s != "") =
      some "wallet-client" := by
    simp [strClaim, attestationClaims, Json.get, Option.filter]
  have hexp : i64Claim (attestationClaims jwk) "exp" = some 1767225900 :=
    i64Claim_posInt (n := 1767225900) (by simp [attestationClaims, Json.get]) (by decide)
  have hnbf : i64Claim (attestationClaims jwk) "nbf" = none := by
    simp [i64Claim, attestationClaims, Json.get]
  have hwindow : checkTimeWindow (attestationClaims jwk) (timestamp (seconds 1767225600))
      "attestation" true = .ok () := by
    refine checkTimeWindow_eq_ok.mpr ⟨?_, ?_, ?_⟩
    · rw [hexp]
      rintro exp ⟨⟩
      decide
    · rw [hexp]
      simp
    · rw [hnbf]
      simp
  have hread : X.jsonFromSlice (X.jsonToVec (attestationClaims jwk)) = .ok (attestationClaims jwk) := by
    rw [h.read, sortMembers_attestationClaims]
  simp only [checkAttestation, bind_eq_ok, mapError_eq_ok, ensure_eq_ok, okOr_eq_ok, pure_eq_ok,
    exists_unit]
  exact ⟨_, hdecoded, rfl, by simp [attestationHeader, attestationSigningAlgs], htrusted,
    attestationClaims jwk, hread, hiss, "wallet-client", hsub, hwindow, jwk, hcnf, hd, rfl⟩

lemma checkPopClaims_clientPop (jti : String) : checkPopClaims (seconds 1767225600) (clientPop jti)
    "wallet-client" "https://issuer.example.com" = .ok jti := by
  have hget : (clientPop jti).get "aud" = some (.str "https://issuer.example.com") ∧
      (clientPop jti).get "iat" = some (.num (.posInt 1767225600)) ∧
      (clientPop jti).get "iss" = some (.str "wallet-client") ∧
      (clientPop jti).get "jti" = some (.str jti) ∧ (clientPop jti).get "exp" = none ∧
      (clientPop jti).get "nbf" = none := by
    simp [clientPop, Json.get]
  obtain ⟨haud, hgetIat, hgetIss, hgetJti, hexp, hnbf⟩ := hget
  have hiss : strClaim (clientPop jti) "iss" = some "wallet-client" := by
    simp [strClaim, hgetIss, Json.asStr]
  have hjti : strClaim (clientPop jti) "jti" = some jti := by simp [strClaim, hgetJti, Json.asStr]
  have hiat : i64Claim (clientPop jti) "iat" = some 1767225600 := i64Claim_posInt hgetIat (by decide)
  have hwindow : checkTimeWindow (clientPop jti) (timestamp (seconds 1767225600)) "PoP" false =
      .ok () := by
    refine checkTimeWindow_eq_ok.mpr ⟨?_, ?_, ?_⟩ <;> simp [i64Claim, hexp, hnbf]
  have hnow : ¬ (timestamp (seconds 1767225600) + skewSecs < 1767225600 ∨
      (1767225600 : ℤ) < timestamp (seconds 1767225600) - popMaxAgeSecs) := by decide
  simp only [checkPopClaims, bind_eq_ok, ensure_eq_ok, okOr_eq_ok, exists_unit]
  refine ⟨?_, by rw [haud]; exact beq_self_eq_true _, 1767225600, hiat, hnow, hwindow, hjti⟩
  rw [hiss]
  exact fun iss h => (Option.mem_some_iff.mp h).symm

lemma checkPop_signJwt {X : Crates} (h : Reading X) {wallet : SigningKey} (hcorrect : wallet.Correct X)
    (hsigns : wallet.Signs) {jwk : Jwk}
    (hjwk : jwk.publicMembers = (wallet.toKeyPair X).publicJwk.publicMembers) (jti : String) :
    checkPop X (seconds 1767225600)
      (signJwt X wallet (popHeader (wallet.toKeyPair X).algorithm) (clientPop jti))
      ⟨"wallet-client", jwk⟩ "https://issuer.example.com" = .ok jti := by
  obtain ⟨signature, signingInput, hdecoded, hverify⟩ := signJwt_decodes h.base64Url h.serdeJson hcorrect
    hsigns (popHeader (wallet.toKeyPair X).algorithm) (clientPop jti)
  have halg := (algorithmForJwk_congr hjwk).mpr wallet.algorithmForJwk_publicJwk
  have hverified := verifyWithPublicJwk_eq_ok.mpr ⟨hdecoded, ⟨_, halg, rfl⟩, hverify jwk hjwk⟩
  have hread : X.jsonFromSlice (X.jsonToVec (clientPop jti)) = .ok (clientPop jti) := by
    rw [h.read, sortMembers_clientPop]
  simp only [checkPop, bind_eq_ok, mapError_eq_ok, ensure_eq_ok, exists_unit]
  exact ⟨_, hverified, rfl, clientPop jti, hread, checkPopClaims_clientPop jti⟩

lemma verifyClientAttestation_sample {wallet : SigningKey} (hcorrect : wallet.Correct walletCrates)
    (hsigns : wallet.Signs) {jwk : Jwk} (hd : jwk.d = none)
    (hjwk : jwk.publicMembers = (wallet.toKeyPair walletCrates).publicJwk.publicMembers) :
    ∃ s', verifyClientAttestation walletCrates (seconds 1767225600) (seconds 1767225600)
      (attestationOf jwk) (popOf wallet) [attesterJwk] "https://issuer.example.com"
      InMemoryIssuerState.new = (.ok ⟨"wallet-client", jwk⟩, s') := by
  have hcheck : checkClientAttestation walletCrates (seconds 1767225600) (attestationOf jwk)
      (popOf wallet) [attesterJwk] "https://issuer.example.com" =
        .ok (⟨"wallet-client", jwk⟩, "c2f4e0f6-0f6e-4b0e-8a55-3d8a6e4b9d11") := by
    simp only [checkClientAttestation, bind_eq_ok, pure_eq_ok]
    exact ⟨_, checkAttestation_signJwt reading_wallet (key_correct_wallet attesterX attesterY) jwk hd, _,
      checkPop_signJwt reading_wallet hcorrect hsigns hjwk _, rfl⟩
  rw [verifyClientAttestation, hcheck]
  exact ⟨_, rfl⟩

lemma jwtClaims_attestationOf (jwk : Jwk) :
    jwtClaims walletCrates (attestationOf jwk) = some (attestationClaims jwk) :=
  jwtClaims_signJwt reading_wallet (key_correct_wallet attesterX attesterY)
    (Table.key_signs (t := attestationTable) attesterX attesterY) attestationHeader
    (sortMembers_attestationClaims jwk)

lemma jwtClaims_popOf {wallet : SigningKey} (hcorrect : wallet.Correct walletCrates)
    (hsigns : wallet.Signs) : jwtClaims walletCrates (popOf wallet) = some popClaims :=
  jwtClaims_signJwt reading_wallet hcorrect hsigns (popHeader (wallet.toKeyPair walletCrates).algorithm)
    (sortMembers_clientPop _)

/-- The wallet with a P-256 key is sound. -/
theorem p256Wallet_sound :
    Sound walletCrates (seconds 1767225600) (seconds 1767225600)
      (attestationOf (holderJwk walletX walletY none)) (popOf p256Wallet) [attesterJwk]
      "https://issuer.example.com" InMemoryIssuerState.new
      ⟨"wallet-client", holderJwk walletX walletY none⟩ := by
  have hcorrect : p256Wallet.Correct walletCrates := key_correct_wallet walletX walletY
  have hsigns : p256Wallet.Signs := Table.key_signs (t := attestationTable) walletX walletY
  obtain ⟨s', hverified⟩ := verifyClientAttestation_sample hcorrect hsigns rfl
    (holderJwk_publicMembers (X := walletCrates) (t := attestationTable) rfl walletX walletY none)
  refine (sound_iff_careful hverified).mpr ⟨fun claims jwk hclaims hjwk => ?_,
    fun claims hclaims => ?_, fun claims hclaims => ?_⟩
  · rw [jwtClaims_attestationOf, Option.some.injEq] at hclaims
    rw [← hclaims, cnfJwk_attestationClaims, Option.some.injEq] at hjwk
    rw [← hjwk, algorithmForJwk_holderJwk]
    simp
  · rw [jwtClaims_popOf hcorrect hsigns, Option.some.injEq] at hclaims
    rw [← hclaims]
    rintro iss ⟨⟩
    exact ⟨"wallet-client", rfl⟩
  · rw [jwtClaims_attestationOf, Option.some.injEq] at hclaims
    rintro ⟨v, hv, -⟩
    rw [← hclaims] at hv
    simp [attestationClaims, Json.get] at hv

/-- The wallet with an Ed25519 key is accepted, with a PoP that is signed with EdDSA. -/
theorem edWallet_accepted :
    ∃ s', verifyClientAttestation walletCrates (seconds 1767225600) (seconds 1767225600)
        (attestationOf edJwk) (popOf edWallet) [attesterJwk] "https://issuer.example.com"
        InMemoryIssuerState.new = (.ok ⟨"wallet-client", edJwk⟩, s') ∧
      ¬ Sound walletCrates (seconds 1767225600) (seconds 1767225600) (attestationOf edJwk)
        (popOf edWallet) [attesterJwk] "https://issuer.example.com" InMemoryIssuerState.new
        ⟨"wallet-client", edJwk⟩ := by
  have hsigns : edWallet.Signs := fun _ => ⟨_, rfl⟩
  have hpublic : edJwk.publicMembers =
      (edWallet.toKeyPair walletCrates).publicJwk.publicMembers := rfl
  obtain ⟨s', hverified⟩ := verifyClientAttestation_sample edWallet_correct hsigns rfl hpublic
  refine ⟨s', hverified, ?_⟩
  rintro ⟨decoded, claims, popDecoded, claims', -, -, hpop, -, -, hsound⟩
  obtain ⟨signature, signingInput, hdecoded, -⟩ := signJwt_decodes
    reading_wallet.base64Url reading_wallet.serdeJson edWallet_correct hsigns
    (popHeader (edWallet.toKeyPair walletCrates).algorithm) popClaims
  have halg := hsound.alg
  rw [popOf, hdecoded, Except.ok.injEq] at hpop
  rw [← hpop] at halg
  simp [popHeader, attestationSigningAlgs, edWallet, SigningKey.toKeyPair,
    Ed25519KeyPair.toKeyPair, Algorithm.asStr] at halg

end Sample

end Oid4vc.Attested
