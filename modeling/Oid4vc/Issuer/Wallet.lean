import Oid4vc.Crypto.SelfSigned
import Oid4vc.Crypto.Tables
import Oid4vc.Issuer.Credential
import Oid4vc.Issuer.Dpop

/-!
What the wallet of a P-256 key sends: DPoP proofs, and proofs that it holds the key.
-/

namespace Oid4vc.Wallet

open Oid4vc.JsonValue Oid4vc.CborBytes Oid4vc.Text Oid4vc.Instant Oid4vc.Jwks Oid4vc.External
open Oid4vc.Codecs Oid4vc.Keys Oid4vc.Jws Oid4vc.SdJwt Oid4vc.SelfSigned Oid4vc.Tables
open Oid4vc.Oid4vci Oid4vc.Dpop Oid4vc.Credential

/-- The JWK of a key; a careless wallet leaves its private member in. -/
def holderJwk (x y : ℕ) (d : Option String) : Jwk where
  kty := "EC"
  crv := some "P-256"
  x := some (codecs.base64UrlEncode (bigEndian 32 x))
  y := some (codecs.base64UrlEncode (bigEndian 32 y))
  d := d
  alg := none
  kid := none
  use := none

def walletHeader (typ : String) (jwk : Jwk) : JwsHeader := ⟨"ES256", some typ, none, some jwk, none⟩

/-- The claims of a DPoP proof for a request without an access token. -/
def dpopClaims (ctx : DpopContext) (iat : BitVec 64) (jti : String) : Json :=
  .obj [("htm", .str ctx.htm), ("htu", .str ctx.htu), ("iat", .num (.posInt iat)), ("jti", .str jti)]

/-- The claims of a DPoP proof for a request with an access token of this hash. -/
def boundDpopClaims (ath : String) (ctx : DpopContext) (iat : BitVec 64) (jti : String) : Json :=
  .obj [("ath", .str ath), ("htm", .str ctx.htm), ("htu", .str ctx.htu), ("iat", .num (.posInt iat)),
    ("jti", .str jti)]

def possessionClaims (aud nonce : String) (iat : BitVec 64) : Json :=
  .obj [("aud", .str aud), ("iat", .num (.posInt iat)), ("nonce", .str nonce)]

/-- What is signed, as bytes. -/
def walletInput (header : JwsHeader) (claims : Json) : Bytes :=
  utf8 (codecs.base64UrlEncode (codecs.jsonToVec header.toJson) ++ "." ++
    codecs.base64UrlEncode (codecs.jsonToVec claims))

variable (t : Table)

/-- The crates of a table, with URLs that have no query. -/
def web : Crates := { t.crates with urlParse := some, urlWithoutQuery := id }

def dpopProof (x y : ℕ) (ctx : DpopContext) (iat : BitVec 64) (jti : String) : String :=
  signJwt (web t) (t.key x y) (walletHeader "dpop+jwt" (holderJwk x y none)) (dpopClaims ctx iat jti)

def possessionProof (x y : ℕ) (d : Option String) (aud nonce : String) (iat : BitVec 64) : String :=
  signJwt t.crates (t.key x y) (walletHeader "openid4vci-proof+jwt" (holderJwk x y d))
    (possessionClaims aud nonce iat)

/-! ### Two wallets -/

def holderX : ℕ := 0xce2d1ee69197de81f8ab8c41ca68d45fe1af359f4c71fdee598b9d4f7f3b8280

def holderY : ℕ := 0xe4a5b1936d73ccc43faf95eeb961e425ae45b523f341d80e8084457f6e41a1eb

def otherX : ℕ := 0xf0111325804fa1f1f77c6a196e68e2063a8d9c1fa52d847f42381a150918e687

def otherY : ℕ := 0x7cc31a0478137bcb72bfb72cd8b9f6327f50a59e07949d4b1b2e4e1ad66cfeb5

/-- The digests of the texts that their thumbprints are of. -/
def holderDigests : List (Bytes × Bytes) := [
  (utf8 (canonicalMembers (holderJwk holderX holderY none)),
    bigEndian 32 0xb6bef602b0e982f7576f541e9ecd969ca1a63728c39ddc8d5309935e62e321ee),
  (utf8 (canonicalMembers (holderJwk otherX otherY none)),
    bigEndian 32 0x5cbd1e9d153fa2da90661ebf4f86a21810af116ac79390236e8cf9ef463be29c)]

/-- A table of what the two of them sign. -/
def wallets (digests holderSignatures otherSignatures : List (Bytes × Bytes)) : Table where
  digests := holderDigests ++ digests
  signatures := [((bigEndian 32 holderX, bigEndian 32 holderY), holderSignatures),
    ((bigEndian 32 otherX, bigEndian 32 otherY), otherSignatures)]
  certificates := []
  derSignatures := []
  dates := []

variable {t}

lemma holderJwk_publicMembers {X : Crates} (hencode : X.base64UrlEncode = codecs.base64UrlEncode)
    (x y : ℕ) (d : Option String) :
    (holderJwk x y d).publicMembers = ((t.key x y).toKeyPair X).publicJwk.publicMembers := by
  simp only [Jwk.publicMembers, holderJwk, Table.key, SigningKey.toKeyPair,
    EcdsaP256KeyPair.toKeyPair, EcdsaP256KeyPair.buildPublicJwk, hencode]

lemma algorithmForJwk_holderJwk (x y : ℕ) (d : Option String) :
    algorithmForJwk (holderJwk x y d) = .ok .es256 :=
  algorithmForJwk_es256.mpr ⟨rfl, rfl⟩

lemma i64Claim_posInt {claims : Json} {name : String} {n : BitVec 64}
    (h : claims.get name = some (.num (.posInt n))) (hn : n.toNat < 2 ^ 63) :
    i64Claim claims name = some (n.toNat : ℤ) := by
  have hread : (Json.num (.posInt n)).asI64 = some (n.toNat : ℤ) := by
    simp only [Json.asI64, if_pos hn]
  rw [i64Claim, h, Option.bind_some, hread]

lemma sortMembers_of_sorted {members : List (String × Json)}
    (h : members.Pairwise fun a b => a.1 ≤ b.1) : sortMembers (.obj members) = .obj members := by
  have hsorted : members.Pairwise fun a b => decide (a.1 ≤ b.1) = true :=
    h.imp fun hab => decide_eq_true hab
  rw [sortMembers, List.mergeSort_of_pairwise hsorted]

lemma sortMembers_dpopClaims (ctx : DpopContext) (iat : BitVec 64) (jti : String) :
    sortMembers (dpopClaims ctx iat jti) = dpopClaims ctx iat jti := by
  apply sortMembers_of_sorted
  simp only [List.pairwise_cons, List.mem_cons, List.not_mem_nil, or_false, forall_eq_or_imp, forall_eq,
    false_implies, implies_true, List.Pairwise.nil, and_true]
  decide

lemma sortMembers_boundDpopClaims (ath : String) (ctx : DpopContext) (iat : BitVec 64) (jti : String) :
    sortMembers (boundDpopClaims ath ctx iat jti) = boundDpopClaims ath ctx iat jti := by
  apply sortMembers_of_sorted
  simp only [List.pairwise_cons, List.mem_cons, List.not_mem_nil, or_false, forall_eq_or_imp, forall_eq,
    false_implies, implies_true, List.Pairwise.nil, and_true]
  decide

lemma sortMembers_possessionClaims (aud nonce : String) (iat : BitVec 64) :
    sortMembers (possessionClaims aud nonce iat) = possessionClaims aud nonce iat := by
  apply sortMembers_of_sorted
  simp only [List.pairwise_cons, List.mem_cons, List.not_mem_nil, or_false, forall_eq_or_imp, forall_eq,
    false_implies, implies_true, List.Pairwise.nil, and_true]
  decide

/-! ### Crates that read what a wallet writes -/

/-- The crates read and write base64url and JSON as the codecs do. -/
structure Reading (X : Crates) : Prop where
  base64Url : Base64Url X
  serdeJson : SerdeJson X
  encode : X.base64UrlEncode = codecs.base64UrlEncode
  read : ∀ v, X.jsonFromSlice (X.jsonToVec v) = .ok (sortMembers v)

lemma reading_of_codecs {X : Crates} (hencode : X.base64UrlEncode = codecs.base64UrlEncode)
    (hdecode : X.base64UrlDecode = codecs.base64UrlDecode) (hvec : X.jsonToVec = codecs.jsonToVec)
    (hslice : X.jsonFromSlice = codecs.jsonFromSlice)
    (harray : X.jsonArrayFromSlice = codecs.jsonArrayFromSlice)
    (hheader : X.headerFromSlice = codecs.headerFromSlice) : Reading X where
  base64Url := by
    constructor
    · rw [hencode, hdecode]
      exact base64Url_codecs.decode_encode
    · rw [hencode]
      exact base64Url_codecs.alphabet
    · rw [hencode]
      exact base64Url_codecs.nonempty
  serdeJson := serdeJson_codecs.congr hvec hslice harray hheader
  encode := hencode
  read v := by
    rw [hvec, hslice]
    exact jsonFromSlice_codecs v

lemma reading_table : Reading t.crates := reading_of_codecs rfl rfl rfl rfl rfl rfl

lemma reading_web : Reading (web t) := reading_of_codecs rfl rfl rfl rfl rfl rfl

section Signed

variable {X : Crates} {x y : ℕ}

lemma jwtClaims_signJwt (h : Reading X) {key : SigningKey} (hkey : key.Correct X) (hsigns : key.Signs)
    (header : JwsHeader) {claims : Json} (hsorted : sortMembers claims = claims) :
    jwtClaims X (signJwt X key header claims) = some claims := by
  obtain ⟨signature, signingInput, hdecoded, -⟩ :=
    signJwt_decodes h.base64Url h.serdeJson hkey hsigns header claims
  have hread : X.jsonFromSlice (X.jsonToVec claims) = .ok claims := by rw [h.read, hsorted]
  exact jwtClaims_of_decodes hdecoded hread

/-- What a key of the wallet signs is a DPoP proof, if the claims pass the checks. -/
lemma checkDpopProof_signJwt (h : Reading X) (hkey : (t.key x y).Correct X) {ctx : DpopContext}
    {now : ℤ} {claims : Json} {jti : String} (hsorted : sortMembers claims = claims)
    (hchecked : checkClaims X now claims ctx = .ok jti) :
    checkDpopProof X now (signJwt X (t.key x y) (walletHeader "dpop+jwt" (holderJwk x y none)) claims)
      ctx = .ok (jti, computeThumbprint X (holderJwk x y none)) := by
  obtain ⟨signature, signingInput, hdecoded, hverify⟩ := signJwt_decodes h.base64Url h.serdeJson hkey
    (Table.key_signs (t := t) x y) (walletHeader "dpop+jwt" (holderJwk x y none)) claims
  have hverified := verifyWithPublicJwk_eq_ok.mpr ⟨hdecoded,
    ⟨.es256, algorithmForJwk_holderJwk x y none, rfl⟩,
    hverify _ (holderJwk_publicMembers h.encode x y none)⟩
  have hread : X.jsonFromSlice (X.jsonToVec claims) = .ok claims := by rw [h.read, hsorted]
  exact checkDpopProof_eq_ok.mpr ⟨_, holderJwk x y none, _, hverified, rfl, List.mem_cons_self, rfl, rfl,
    hread, hchecked, rfl⟩

/-- What a key of the wallet signs is a proof of possession, if the claims say what is asked of
them. -/
lemma verifyProofJwt_signJwt (h : Reading X) (hkey : (t.key x y).Correct X) (d : Option String)
    {claims : Json} {aud nonce : String} {iat now : ℤ} {config : CredentialConfiguration}
    (hsorted : sortMembers claims = claims) (hadvertised : advertised config "ES256" = true)
    (haud : stringMember claims "aud" = some aud) (hiat : i64Claim claims "iat" = some iat)
    (hage : ¬ proofMaxAgeSecs < wrapI64 (wrapI64 (timestamp now - iat)).natAbs)
    (hnonce : stringMember claims "nonce" = some nonce) :
    verifyProofJwt X (signJwt X (t.key x y) (walletHeader "openid4vci-proof+jwt" (holderJwk x y d))
      claims) aud config now = .ok (holderJwk x y d, nonce) := by
  obtain ⟨signature, signingInput, hdecoded, hverify⟩ := signJwt_decodes h.base64Url h.serdeJson hkey
    (Table.key_signs (t := t) x y) (walletHeader "openid4vci-proof+jwt" (holderJwk x y d)) claims
  have hread : X.jsonFromSlice (X.jsonToVec claims) = .ok claims := by rw [h.read, hsorted]
  exact verifyProofJwt_eq_ok.mpr ⟨_, .es256, claims, aud, iat, hdecoded, rfl, rfl,
    algorithmForJwk_holderJwk x y d, rfl, hadvertised,
    hverify _ (holderJwk_publicMembers h.encode x y d), hread, haud, rfl, hiat, hage, hnonce⟩

end Signed

/-! ### DPoP proofs -/

/-- The claims fit the request, from a minute before the time they state to five minutes after it. -/
lemma checkClaims_of_get {X : Crates} {ctx : DpopContext} {claims : Json} {now : ℤ} {iat : BitVec 64}
    {jti : String} (hhtm : claims.get "htm" = some (.str ctx.htm))
    (hhtu : claims.get "htu" = some (.str ctx.htu)) (hgetIat : claims.get "iat" = some (.num (.posInt iat)))
    (hjti : claims.get "jti" = some (.str jti))
    (hath : ∀ token ∈ ctx.accessToken, strClaim claims "ath" = some (accessTokenHash X token))
    (hiat : iat.toNat < 2 ^ 63) (hfrom : (iat.toNat : ℤ) ≤ timestamp now + maxSkewSecs)
    (huntil : timestamp now - maxAgeSecs ≤ iat.toNat) : checkClaims X now claims ctx = .ok jti :=
  checkClaims_eq_ok.mpr ⟨by simp [strClaim, hhtm, Json.asStr],
    ⟨ctx.htu, by simp [strClaim, hhtu, Json.asStr], rfl⟩,
    ⟨iat.toNat, i64Claim_posInt hgetIat hiat, hfrom, huntil⟩, hath, by simp [strClaim, hjti, Json.asStr]⟩

lemma checkClaims_dpopClaims {X : Crates} {ctx : DpopContext} (hctx : ctx.accessToken = none) {now : ℤ}
    {iat : BitVec 64} (jti : String) (hiat : iat.toNat < 2 ^ 63)
    (hfrom : (iat.toNat : ℤ) ≤ timestamp now + maxSkewSecs)
    (huntil : timestamp now - maxAgeSecs ≤ iat.toNat) :
    checkClaims X now (dpopClaims ctx iat jti) ctx = .ok jti := by
  have hget : (dpopClaims ctx iat jti).get "htm" = some (.str ctx.htm) ∧
      (dpopClaims ctx iat jti).get "htu" = some (.str ctx.htu) ∧
      (dpopClaims ctx iat jti).get "iat" = some (.num (.posInt iat)) ∧
      (dpopClaims ctx iat jti).get "jti" = some (.str jti) := by
    simp [dpopClaims, Json.get]
  obtain ⟨hhtm, hhtu, hgetIat, hjti⟩ := hget
  exact checkClaims_of_get hhtm hhtu hgetIat hjti (by simp [hctx]) hiat hfrom huntil

lemma checkClaims_boundDpopClaims {X : Crates} {ctx : DpopContext} {token : String}
    (hctx : ctx.accessToken = some token) {now : ℤ} {iat : BitVec 64} (jti : String)
    (hiat : iat.toNat < 2 ^ 63) (hfrom : (iat.toNat : ℤ) ≤ timestamp now + maxSkewSecs)
    (huntil : timestamp now - maxAgeSecs ≤ iat.toNat) :
    checkClaims X now (boundDpopClaims (accessTokenHash X token) ctx iat jti) ctx = .ok jti := by
  set claims := boundDpopClaims (accessTokenHash X token) ctx iat jti with hclaims
  have hget : claims.get "ath" = some (.str (accessTokenHash X token)) ∧
      claims.get "htm" = some (.str ctx.htm) ∧ claims.get "htu" = some (.str ctx.htu) ∧
      claims.get "iat" = some (.num (.posInt iat)) ∧ claims.get "jti" = some (.str jti) := by
    simp [hclaims, boundDpopClaims, Json.get]
  obtain ⟨hath, hhtm, hhtu, hgetIat, hjti⟩ := hget
  refine checkClaims_of_get hhtm hhtu hgetIat hjti (fun token' htoken => ?_) hiat hfrom huntil
  rw [hctx, Option.mem_some_iff] at htoken
  simp [strClaim, hath, Json.asStr, htoken]

/-- **A DPoP proof passes** for its request, from a minute before the time it states to five
minutes after it. -/
theorem dpopProof_checks (x y : ℕ) {ctx : DpopContext} (hctx : ctx.accessToken = none) {now : ℤ}
    {iat : BitVec 64} (jti : String) (hiat : iat.toNat < 2 ^ 63)
    (hfrom : (iat.toNat : ℤ) ≤ timestamp now + maxSkewSecs)
    (huntil : timestamp now - maxAgeSecs ≤ iat.toNat) :
    checkDpopProof (web t) now (dpopProof t x y ctx iat jti) ctx =
      .ok (jti, computeThumbprint (web t) (holderJwk x y none)) := by
  have hkey := Table.key_correct_of_eq (t := t) (X := web t) rfl rfl rfl x y
  have hchecked : checkClaims (web t) now (dpopClaims ctx iat jti) ctx = .ok jti :=
    checkClaims_dpopClaims hctx jti hiat hfrom huntil
  unfold dpopProof
  exact checkDpopProof_signJwt reading_web hkey (sortMembers_dpopClaims ctx iat jti) hchecked

lemma thumbprint_ne (hdigests : Function.Injective (web t).sha256) {j k : Jwk}
    (h : canonicalMembers j ≠ canonicalMembers k) :
    computeThumbprint (web t) j ≠ computeThumbprint (web t) k := by
  intro heq
  exact h (utf8_inj (hdigests (reading_web.base64Url.inj heq)))

/-! ### Proofs of possession -/

/-- The claims name the issuer, and are stated near the time. -/
lemma verifyProofJwt_possession {X : Crates} (h : Reading X) {x y : ℕ} (hkey : (t.key x y).Correct X)
    (d : Option String) {aud : String} (nonce : String) {iat : BitVec 64} {now : ℤ}
    {config : CredentialConfiguration} (hadvertised : advertised config "ES256" = true)
    (hiat : iat.toNat < 2 ^ 63) (hfrom : (iat.toNat : ℤ) ≤ timestamp now + 300)
    (huntil : timestamp now - 300 ≤ iat.toNat) :
    verifyProofJwt X (signJwt X (t.key x y) (walletHeader "openid4vci-proof+jwt" (holderJwk x y d))
      (possessionClaims aud nonce iat)) aud config now = .ok (holderJwk x y d, nonce) := by
  have hage : ¬ proofMaxAgeSecs < wrapI64 (wrapI64 (timestamp now - iat.toNat)).natAbs := by
    have hinner : wrapI64 (timestamp now - iat.toNat) = timestamp now - iat.toNat :=
      wrapI64_of_fits ⟨by omega, by omega⟩
    rw [hinner, wrapI64_of_fits ⟨by omega, by omega⟩, proofMaxAgeSecs]
    omega
  have hget : (possessionClaims aud nonce iat).get "aud" = some (.str aud) ∧
      (possessionClaims aud nonce iat).get "iat" = some (.num (.posInt iat)) ∧
      (possessionClaims aud nonce iat).get "nonce" = some (.str nonce) := by
    simp [possessionClaims, Json.get]
  obtain ⟨haud, hgetIat, hnonce⟩ := hget
  exact verifyProofJwt_signJwt h hkey d (sortMembers_possessionClaims aud nonce iat) hadvertised
    (by simp [stringMember, haud, Json.asStr]) (i64Claim_posInt hgetIat hiat) hage
    (by simp [stringMember, hnonce, Json.asStr])

/-- **A proof of possession verifies** for the issuer it names, near the time it states. -/
theorem possessionProof_verifies (x y : ℕ) (d : Option String) {aud : String} (nonce : String)
    {iat : BitVec 64} {now : ℤ} {config : CredentialConfiguration}
    (hadvertised : advertised config "ES256" = true) (hiat : iat.toNat < 2 ^ 63)
    (hfrom : (iat.toNat : ℤ) ≤ timestamp now + 300) (huntil : timestamp now - 300 ≤ iat.toNat) :
    verifyProofJwt t.crates (possessionProof t x y d aud nonce iat) aud config now =
      .ok (holderJwk x y d, nonce) :=
  verifyProofJwt_possession reading_table (Table.key_correct x y) d nonce hadvertised hiat hfrom huntil

end Oid4vc.Wallet
