import Oid4vc.Crypto.KeyIdentity
import Oid4vc.Issuer.Batch
import Oid4vc.Issuer.Tokens
import Oid4vc.Server.Effects
import Oid4vc.Server.Headers

/-!
A wallet that follows the protocol is served.

It takes up an offer, redeems the pre-authorized code, asks for a nonce, and sends a proof of
possession with it: four requests in a row, and nobody else's in between.
-/

namespace Oid4vc.Honest

open Oid4vc.JsonValue Oid4vc.Fallible Oid4vc.Run Oid4vc.PartialMap Oid4vc.Atomic Oid4vc.Instant
open Oid4vc.External Oid4vc.Jwks Oid4vc.Keys Oid4vc.Oid4vci Oid4vc.IssuerStore Oid4vc.Token
open Oid4vc.Endpoints Oid4vc.Credential Oid4vc.Processing Oid4vc.Manager Oid4vc.Server
open Oid4vc.IssuerRoutes Oid4vc.Requests Oid4vc.Effects

variable {X : Crates} {app : AppState X} {b : Stores} {headers : Headers}

/-! ### The token -/

lemma exec_processTokenRequest_offer {w : IssuerWorld} {request : TokenRequest} {ctx : TokenContext}
    {code : String} {entry : PreAuthEntry} (hcode : RedeemsOffer request code)
    (hnamed : namesOtherClient request ctx = false)
    (hentry : w.store.preAuthCodes.get code = some entry) (hunused : entry.consumed = false)
    (htx : entry.txCode = request.txCode) :
    (processTokenRequest X request ctx).exec w =
      (.ok (tokenResponse entry.credentialConfigurationIds false ctx.dpopJkt
        (drawnUuids X w entry.credentialConfigurationIds false)),
        minted X { w with store := { w.store with
          preAuthCodes := w.store.preAuthCodes.insert code { entry with consumed := true } } }
          entry.credentialConfigurationIds false ctx.dpopJkt) := by
  have hgrant : request.grantType ≠ "authorization_code" := by
    rw [hcode.1]
    decide
  have hredeem : w.store.redeemPreAuthorizedCode code request.txCode =
      (some entry.credentialConfigurationIds, { w.store with
        preAuthCodes := w.store.preAuthCodes.insert code { entry with consumed := true } }) := by
    have hok : ¬ (entry.consumed = true ∨ entry.txCode ≠ request.txCode) := by
      rw [hunused, htx]
      simp
    rw [InMemoryIssuerState.redeemPreAuthorizedCode, hentry]
    exact if_neg hok
  rw [processTokenRequest, hnamed, if_neg Bool.false_ne_true, if_neg hgrant, if_pos hcode.1,
    processPreAuthorizedCodeGrant, hcode.2]
  simp only [Prog.exec_call, Token.Calls.redeemPreAuthorizedCode, hredeem, Prog.exec_bind,
    issueAccessToken, storeToken, Prog.exec_ret]
  rfl

/-- A request without headers is one of no client and no key. -/
lemma exec_tokenEndpoint_offer {request : TokenRequest} {code : String} {entry : PreAuthEntry}
    (hcode : RedeemsOffer request code)
    (hentry : b.issuer.store.preAuthCodes.get code = some entry) (hunused : entry.consumed = false)
    (htx : entry.txCode = request.txCode) :
    (tokenEndpoint app [] request).exec b =
      (.response (tokenAnswer (.ok (tokenResponse entry.credentialConfigurationIds false none
        (drawnUuids X b.issuer entry.credentialConfigurationIds false)))),
        withIssuer b (minted X { b.issuer with store := { b.issuer.store with
          preAuthCodes := b.issuer.store.preAuthCodes.insert code { entry with consumed := true } } }
          entry.credentialConfigurationIds false none)) := by
  have hclient : (attestedClient app []).exec b = (.ok none, b) := rfl
  have hproof : (dpopJkt app [] "/token" none).exec b = (.ok none, b) := exec_dpopJkt_none rfl
  have hnamed : namesOtherClient request ⟨none, none⟩ = false := by
    unfold namesOtherClient
    cases request.clientId <;> rfl
  have hprocessed := exec_processTokenRequest_offer (X := X) hcode hnamed hentry hunused htx
  rw [tokenEndpoint, Prog.exec_bind, hclient]
  simp only [Prog.exec_bind, hproof, Option.map_none, exec_onWorld, hprocessed, Prog.exec_ret]

/-! ### The credential -/

lemma getAccessGrant_alive {token : String} {entry : TokenEntry}
    (hentry : b.issuer.store.accessTokens.get token = some entry)
    (halive : b.issuer.clock < entry.expiresAt) :
    Credential.Calls.getAccessGrant token b = (some entry.grant, b) := by
  unfold Credential.Calls.getAccessGrant InMemoryIssuerState.getAccessGrant
  simp only [hentry, if_pos halive]

lemma exec_authorizeResource_bearer {path token : String} {entry : TokenEntry}
    (hpresented : presentedToken X headers = .ok (token, false))
    (hentry : b.issuer.store.accessTokens.get token = some entry)
    (halive : b.issuer.clock < entry.expiresAt) (hunbound : entry.grant.dpopJkt = none) :
    (authorizeResource app headers path).exec b = (.ok token, b) := by
  unfold authorizeResource
  rw [hpresented]
  simp only [Prog.exec_call, getAccessGrant_alive hentry halive, checkPossession, hunbound,
    Prog.exec_ret]

/-- **Credentials for proofs.** A request that may use its token, and whose proofs verify with valid
nonces, is answered with what is issued once these are spent. -/
theorem exec_credentialEndpoint_of_verified {request : CredentialRequest} {draws : RequestDraws}
    {token configId : String} {grant : AccessGrant} {config : CredentialConfiguration}
    {jwts : List String} {proofs : List (Jwk × String)} {response : CredentialResponse} {b₁ b' : Stores}
    (hauthorized : (authorizeResource app headers "/credential").exec b = (.ok token, b₁))
    (hgranted : Credential.Calls.getAccessGrant token b₁ = (some grant, b₁))
    (hcheck : checkRequest request app.metadata grant = .ok (configId, config, jwts))
    (hproofs : List.Forall₂ (fun jwt proof =>
      verifyProofJwt X jwt app.issuerId config b₁.issuer.clock = .ok proof) jwts proofs)
    (hvalid : ∀ proof ∈ proofs, Valid b₁.issuer.store b₁.issuer.clock proof.2)
    (hissued : (issueCredentials X configId config (issuanceContext app) draws (proofs.map Prod.fst)
      []).exec (spendAll b₁ (draws.nonces (proofs.map Prod.snd))) = (.ok response, b')) :
    (credentialEndpoint app headers request draws).exec b =
      (.response ⟨200, [], .credential response⟩, b') := by
  have hwalks := draws.walks (proofs.map Prod.snd)
  have hnodup : (draws.nonces (proofs.map Prod.snd)).Nodup :=
    hwalks.nodup_iff.mpr (List.nodup_dedup _)
  have hnonces : ∀ nonce ∈ draws.nonces (proofs.map Prod.snd),
      Valid b₁.issuer.store b₁.issuer.clock nonce := by
    intro nonce hnonce
    obtain ⟨proof, hproof, rfl⟩ := List.mem_map.mp (List.mem_dedup.mp (hwalks.mem_iff.mp hnonce))
    exact hvalid proof hproof
  have hprocessed : (processCredentialRequest X request token (issuanceContext app) draws).exec b₁ =
      (.ok response, b') := by
    rw [@exec_of_verified X _ configId config (issuanceContext app) draws request token grant b₁ jwts
      proofs (congrArg Prod.fst hgranted) hcheck hproofs, hgranted,
      consumeNonces_of_valid hnodup hnonces]
    exact hissued
  rw [credentialEndpoint, Prog.exec_bind, hauthorized]
  simp only [Prog.exec_bind, hprocessed, Prog.exec_ret]
  rfl

lemma exec_issueCredentials_cons {configId : String} {config : CredentialConfiguration}
    {ctx : IssuanceContext X StatusManager} {draws : RequestDraws} {holderJwk : Jwk}
    {holderKeys : List Jwk} {issued : List Json} {credential : Json} {b' : Stores}
    (h : (issueCredential X configId config ctx holderJwk (draws.credential issued.length)).exec b =
      (.ok credential, b')) :
    (issueCredentials X configId config ctx draws (holderJwk :: holderKeys) issued).exec b =
      (issueCredentials X configId config ctx draws holderKeys (issued ++ [credential])).exec b' := by
  rw [issueCredentials, Prog.exec_bind, h]

lemma nonces_eq_singleton {draws : RequestDraws} {nonces : List String} {nonce : String}
    (hnonempty : nonces ≠ []) (hsame : ∀ n ∈ nonces, n = nonce) : draws.nonces nonces = [nonce] := by
  have hdedup : nonces.dedup = [nonce] := by
    have hmem : ∀ n, n ∈ nonces.dedup ↔ n ∈ [nonce] := by
      intro n
      rw [List.mem_dedup, List.mem_singleton]
      refine ⟨hsame n, ?_⟩
      rintro rfl
      obtain ⟨m, hm⟩ := List.exists_mem_of_ne_nil nonces hnonempty
      exact hsame m hm ▸ hm
    exact List.perm_singleton.mp
      ((List.perm_ext_iff_of_nodup (List.nodup_dedup _) (List.nodup_singleton _)).mpr hmem)
  have hwalks := draws.walks nonces
  rw [hdedup] at hwalks
  exact List.perm_singleton.mp hwalks

/-! ### The visit -/

/-- The token request of a wallet that took up an offer. -/
def redemption (code : String) : TokenRequest where
  grantType := "urn:ietf:params:oauth:grant-type:pre-authorized_code"
  code := none
  redirectUri := none
  codeVerifier := none
  clientId := none
  preAuthorizedCode := some code
  txCode := none

/-- The credential request with these proofs. -/
def askingAll (configId : String) (jwts : List String) : CredentialRequest where
  credentialIdentifier := none
  credentialConfigurationId := some configId
  proofs := some ⟨some jwts, []⟩
  proof := none

/-- The credential request with one proof. -/
def asking (configId proof : String) : CredentialRequest := askingAll configId [proof]

def bearer (token : String) : Headers := [("authorization", Text.utf8 ("Bearer " ++ token))]

/-- What comes before the credential request, when so many identifiers were drawn before. -/
def preparation (X : Crates) (drawn : ℕ) (configId : String) : List Input :=
  [.request (.credentialOffer (some configId)), .request (.token [] (redemption (X.uuid (drawn + 1)))),
    .request .nonce]

/-- The wallet has a token for the configuration, and a nonce. -/
structure Ready (X : Crates) (b b' : Stores) (configId : String) : Prop where
  clock : b'.issuer.clock = b.issuer.clock
  status : b'.status = b.status
  token : ∃ entry, b'.issuer.store.accessTokens.get (X.uuid (b.issuer.drawn + 2)) = some entry ∧
    b'.issuer.clock < entry.expiresAt ∧ entry.grant = ⟨[configId], [], none⟩
  nonce : Valid b'.issuer.store b'.issuer.clock (X.uuid (b.issuer.drawn + 3))

lemma exec_credentialOfferEndpoint {configId : String} {config : CredentialConfiguration}
    (hconfig : app.metadata.credentialConfigurationsSupported.lookup configId = some config) :
    ((credentialOfferEndpoint app (some configId)).exec b).2 =
      withIssuer b (makeOffer X app.externalUrl (offerParams configId) none b.issuer).2 := by
  have hsome : ¬ (app.metadata.credentialConfigurationsSupported.lookup configId).isNone = true := by
    rw [hconfig]
    exact Bool.false_ne_true
  rw [credentialOfferEndpoint]
  simp only [Option.getD_some, if_neg hsome]
  rfl

lemma valid_newNonce (w : IssuerWorld) :
    Valid (newNonce X cNonceTtlSecs w).2.store (newNonce X cNonceTtlSecs w).2.clock
      (X.uuid w.drawn) := by
  refine ⟨⟨w.clock, cNonceTtlSecs⟩, get_insert_self _ _ _, ?_⟩
  have hclock : (newNonce X cNonceTtlSecs w).2.clock = w.clock := rfl
  have hzero : InMemoryIssuerState.elapsedSeconds 0 ≤ cNonceTtlSecs := by decide
  rw [hclock, Int.sub_self]
  exact hzero

/-- **A wallet that takes up an offer gets ready.** -/
theorem ready_of_preparation {configId : String} {config : CredentialConfiguration}
    (hconfig : app.metadata.credentialConfigurationsSupported.lookup configId = some config)
    (b : Stores) :
    Ready X b (run (server app) b (preparation X b.issuer.drawn configId)) configId := by
  set b₁ := withIssuer b (makeOffer X app.externalUrl (offerParams configId) none b.issuer).2
  have hoffer : ((server app).step b (.request (.credentialOffer (some configId)))).1 = b₁ :=
    exec_credentialOfferEndpoint hconfig
  have hentry : b₁.issuer.store.preAuthCodes.get (X.uuid (b.issuer.drawn + 1)) =
      some ⟨none, [configId], false⟩ := get_insert_self _ _ _
  have hexec := @exec_tokenEndpoint_offer X app b₁ (redemption (X.uuid (b.issuer.drawn + 1))) _ _
    ⟨rfl, rfl⟩ hentry rfl rfl
  generalize hb₂ : withIssuer b₁ _ = b₂ at hexec
  have htoken : ((server app).step b₁
      (.request (.token [] (redemption (X.uuid (b.issuer.drawn + 1)))))).1 = b₂ := congrArg Prod.snd hexec
  have hnonce : ((server app).step b₂ (.request .nonce)).1 =
      withIssuer b₂ (newNonce X cNonceTtlSecs b₂.issuer).2 := rfl
  -- the clock stands still, and three identifiers were drawn
  have hclock : b₂.issuer.clock = b.issuer.clock := by rw [← hb₂]; rfl
  have hdrawn : b₂.issuer.drawn = b.issuer.drawn + 3 := by rw [← hb₂]; rfl
  have hvalid := valid_newNonce (X := X) b₂.issuer
  rw [preparation, run_cons, run_cons, run_cons, run_nil, hoffer, htoken, hnonce]
  rw [hdrawn] at hvalid
  refine ⟨hclock, ?_, ⟨⟨⟨[configId], [], none⟩, b.issuer.clock + seconds accessTokenTtlSecs⟩, ?_, ?_, rfl⟩,
    hvalid⟩
  · rw [← hb₂]
    rfl
  · rw [← hb₂]
    exact get_insert_self _ _ _
  · have hpos : 0 < seconds accessTokenTtlSecs := by decide
    have hsame : (withIssuer b₂ (newNonce X cNonceTtlSecs b₂.issuer).2).issuer.clock =
        b.issuer.clock := hclock
    have hlater : b.issuer.clock < b.issuer.clock + seconds accessTokenTtlSecs := by omega
    rw [hsame]
    exact hlater

/-- What the request names is found, for a grant of the configuration without identifiers. -/
lemma checkRequest_askingAll {configId : String} {config : CredentialConfiguration} {grant : AccessGrant}
    {jwts : List String}
    (hconfig : app.metadata.credentialConfigurationsSupported.lookup configId = some config)
    (hids : grant.credentialIdentifiers = []) (hgranted : configId ∈ grant.credentialConfigurationIds)
    (hnonempty : jwts ≠ []) (hlimit : jwts.length ≤ batchLimit app.metadata) :
    checkRequest (askingAll configId jwts) app.metadata grant = .ok (configId, config, jwts) := by
  have hnamed : namedConfiguration (askingAll configId jwts) grant app.metadata = .ok configId :=
    if_neg fun h => h.2 hids
  have hproofs : requestedProofs (askingAll configId jwts) app.metadata = .ok jwts := by
    have hlimit' : jwts.length ≤
        (app.metadata.batchCredentialIssuance.map BatchCredentialIssuance.batchSize).getD 1 := hlimit
    have hsome : (some jwts).filter (fun jwts => !jwts.isEmpty) = some jwts := by
      simp [Option.filter_some, hnonempty]
    simp only [requestedProofs, bind_eq_ok, okOr_eq_ok, ensure_eq_ok, exists_unit]
    refine ⟨rfl, _, rfl, ?_⟩
    simp only [bind_eq_ok, okOr_eq_ok, ensure_eq_ok, exists_unit, pure_eq_ok]
    exact ⟨_, hsome, hlimit', rfl⟩
  simp only [checkRequest, resolveConfiguration, hnamed, hproofs, bind_eq_ok, okOr_eq_ok,
    ensure_eq_ok, exists_unit, pure_eq_ok]
  exact ⟨_, ⟨_, rfl, config, hconfig, hgranted, rfl⟩, _, rfl, rfl⟩

/-- **The wallet is answered** with what is issued for its proofs, which carry the nonce that it was
given. -/
theorem answered_of_issued {configId : String} {config : CredentialConfiguration} {jwts : List String}
    {proofs : List (Jwk × String)} {draws : RequestDraws} {response : CredentialResponse}
    (b b' : Stores)
    (hconfig : app.metadata.credentialConfigurationsSupported.lookup configId = some config)
    (hpresented : presentedToken X (bearer (X.uuid (b.issuer.drawn + 2))) =
      .ok (X.uuid (b.issuer.drawn + 2), false))
    (hproofs : List.Forall₂ (fun jwt proof =>
      verifyProofJwt X jwt app.issuerId config b.issuer.clock = .ok proof) jwts proofs)
    (hnonces : ∀ proof ∈ proofs, proof.2 = X.uuid (b.issuer.drawn + 3)) (hnonempty : proofs ≠ [])
    (hbatch : jwts.length ≤ batchLimit app.metadata)
    (hissued : (issueCredentials X configId config (issuanceContext app) draws (proofs.map Prod.fst)
      []).exec (spendAll (run (server app) b (preparation X b.issuer.drawn configId))
        [X.uuid (b.issuer.drawn + 3)]) = (.ok response, b')) :
    (server app).step (run (server app) b (preparation X b.issuer.drawn configId))
        (.request (.credential (bearer (X.uuid (b.issuer.drawn + 2))) (askingAll configId jwts) draws)) =
      (b', some (.response ⟨200, [], .credential response⟩)) := by
  obtain ⟨hclock, -, ⟨entry, hentry, halive, hgrant⟩, hvalid⟩ :=
    @ready_of_preparation X app configId config hconfig b
  have hunbound : entry.grant.dpopJkt = none := by rw [hgrant]
  have hgranted : configId ∈ entry.grant.credentialConfigurationIds := by
    rw [hgrant]
    exact List.mem_cons_self
  have hjwts : jwts ≠ [] := by
    rintro rfl
    cases hproofs
    exact hnonempty rfl
  -- all proofs have the nonce that was handed out, so it is spent once
  have hwalk : draws.nonces (proofs.map Prod.snd) = [X.uuid (b.issuer.drawn + 3)] := by
    refine nonces_eq_singleton (by simpa using hnonempty) fun nonce hnonce => ?_
    obtain ⟨proof, hproof, rfl⟩ := List.mem_map.mp hnonce
    exact hnonces proof hproof
  rw [← hclock] at hproofs
  rw [← hwalk] at hissued
  have hexec := exec_credentialEndpoint_of_verified
    (exec_authorizeResource_bearer hpresented hentry halive hunbound)
    (getAccessGrant_alive hentry halive)
    (checkRequest_askingAll hconfig (by rw [hgrant]) hgranted hjwts hbatch) hproofs
    (fun proof hproof => by rw [hnonces proof hproof]; exact hvalid) hissued
  rw [step_request, handle, hexec]

/-- **The wallet is served**: with a credential of the configuration it was offered, for the holder of
the key that it proved. -/
theorem served {configId vct proof : String} {config : CredentialConfiguration} {holderJwk : Jwk}
    {status : Option Json} {m : StatusManager} {draws : RequestDraws} (b : Stores)
    (hconfig : app.metadata.credentialConfigurationsSupported.lookup configId = some config)
    (hformat : config.format = "dc+sd-jwt") (hvct : config.vct = some vct)
    (hpresented : presentedToken X (bearer (X.uuid (b.issuer.drawn + 2))) =
      .ok (X.uuid (b.issuer.drawn + 2), false))
    (hproof : verifyProofJwt X proof app.issuerId config b.issuer.clock =
      .ok (holderJwk, X.uuid (b.issuer.drawn + 3)))
    (hbatch : 1 ≤ batchLimit app.metadata)
    (halloc : allocateStatus app (draws.credential 0).index b.status = some (.ok status, m))
    (hsign : ∀ m, ∃ s, app.primaryKey.sign m = .ok s) : ∃ credential,
      signSdJwtCredential X (issuanceContext app) vct holderJwk status (draws.credential 0)
        b.issuer.clock = .ok credential ∧
      (server app).step (run (server app) b (preparation X b.issuer.drawn configId))
        (.request (.credential (bearer (X.uuid (b.issuer.drawn + 2))) (asking configId proof) draws)) =
      ({ spendAll (run (server app) b (preparation X b.issuer.drawn configId))
          [X.uuid (b.issuer.drawn + 3)] with status := m },
        some (.response ⟨200, [], .credential (credentialResponse [credential])⟩)) := by
  obtain ⟨hclock, hstatus, -, -⟩ := @ready_of_preparation X app configId config hconfig b
  set spent := spendAll (run (server app) b (preparation X b.issuer.drawn configId))
    [X.uuid (b.issuer.drawn + 3)] with hspent
  have hspentStatus : spent.status = b.status := hstatus
  have hspentClock : spent.issuer.clock = b.issuer.clock := by
    rw [hspent, spendAll_clock, hclock]
  obtain ⟨credential, hissued, hsigned⟩ := @issueSdJwtCredential_allocated X _ configId config
    (issuanceContext app) vct (draws.credential 0) status m spent hformat hvct
    (by rw [hspentStatus]; exact halloc) hsign holderJwk
  rw [hspentClock] at hsigned
  refine ⟨credential, hsigned, ?_⟩
  refine answered_of_issued b _ hconfig hpresented (.cons hproof .nil) (by simp) (List.cons_ne_nil _ _)
    hbatch ?_
  rw [List.map_cons, exec_issueCredentials_cons hissued]
  rfl

/-! ### A wallet that visits -/

section Sample

open Oid4vc.Text Oid4vc.CborBytes Oid4vc.Jws Oid4vc.Codecs Oid4vc.X509 Oid4vc.Tables
open Oid4vc.Selective Oid4vc.Wallet Oid4vc.Batch Oid4vc.Redemption Oid4vc.Tokens Oid4vc.KeyIdentity

lemma allocateStatus_of_draw (app : AppState X) {m : StatusManager} {l : ManagedList}
    {allocated : Finset ℕ} {index : ℕ} {draws : List ℕ}
    (hget : m.lists.get (StatusTypes.StatusPurpose.toString .revocation) = some l)
    (hdraw : drawIndex l.allocated l.capacity draws = some (.ok (index, allocated))) :
    ∃ m', allocateStatus app draws m =
        some (.ok (some (statusClaim (app.urlFor "/status/revocation/token") index.repr)), m') ∧
      m'.lists.get (StatusTypes.StatusPurpose.toString .revocation) =
        some { l with allocated := allocated } := by
  rw [allocateStatus, StatusManager.allocateEntry, hget]
  simp only [hdraw, Option.map_some]
  exact ⟨_, rfl, get_insert_self _ _ _⟩

lemma drawIndex_of_notMem {allocated : Finset ℕ} {index : ℕ} (hindex : index < listCapacity)
    (hfree : index ∉ allocated) (hcard : allocated.card < listCapacity) :
    drawIndex allocated listCapacity [index] = some (.ok (index, insert index allocated)) := by
  have hmod : index % listCapacity = index := Nat.mod_eq_of_lt hindex
  rw [drawIndex, if_neg (Nat.not_le.mpr hcard), List.map_singleton, hmod, List.find?_singleton,
    if_pos (decide_eq_true hfree)]

lemma get_newLists (issuerUrl : String) :
    (StatusManager.new issuerUrl).lists.get (StatusTypes.StatusPurpose.toString .revocation) =
      some (newList .revocation) := by
  simp [StatusManager.new, StatusTypes.StatusPurpose.toString]

lemma allocateStatus_fresh (app : AppState X) {index : ℕ} (hindex : index < listCapacity) :
    ∃ m, allocateStatus app [index] (StatusManager.new app.externalUrl) =
      some (.ok (some (statusClaim (app.urlFor "/status/revocation/token") index.repr)), m) := by
  have hdraw : drawIndex (newList .revocation).allocated (newList .revocation).capacity [index] =
      some (.ok (index, {index})) :=
    drawIndex_of_notMem hindex (Finset.notMem_empty index) (by decide)
  obtain ⟨m, halloc, -⟩ := allocateStatus_of_draw app (get_newLists _) hdraw
  exact ⟨m, halloc⟩

lemma allocateStatus_pair (app : AppState X) {index index' : ℕ} (hindex : index < listCapacity)
    (hindex' : index' < listCapacity) (hne : index' ≠ index) :
    ∃ m m', allocateStatus app [index] (StatusManager.new app.externalUrl) =
        some (.ok (some (statusClaim (app.urlFor "/status/revocation/token") index.repr)), m) ∧
      allocateStatus app [index'] m =
        some (.ok (some (statusClaim (app.urlFor "/status/revocation/token") index'.repr)), m') := by
  have hdraw : drawIndex (newList .revocation).allocated (newList .revocation).capacity [index] =
      some (.ok (index, {index})) :=
    drawIndex_of_notMem hindex (Finset.notMem_empty index) (by decide)
  have hdraw' : drawIndex {index} listCapacity [index'] = some (.ok (index', {index', index})) :=
    drawIndex_of_notMem hindex' (by simpa using hne) (by simp [listCapacity])
  obtain ⟨m, halloc, hget⟩ := allocateStatus_of_draw app (get_newLists _) hdraw
  obtain ⟨m', halloc', -⟩ := allocateStatus_of_draw app hget hdraw'
  exact ⟨m, m', halloc, halloc'⟩

lemma verifyProofJwt_congr {X Y : Crates} (hdecode : decodeCompact X = decodeCompact Y)
    (hverify : verifyWithJwk X = verifyWithJwk Y) (hslice : X.jsonFromSlice = Y.jsonFromSlice) :
    verifyProofJwt X = verifyProofJwt Y := by
  funext jwt issuerUrl config now
  rw [verifyProofJwt, verifyProofJwt, hdecode, hverify, hslice]

/-- A token of visible characters, none of them a blank, is presented with its scheme. -/
lemma presentedToken_of_scheme (hheader : HeaderValues X) {headers : Headers} {scheme token : String}
    (hall : getAll headers "authorization" = [utf8 (scheme ++ " " ++ token)])
    (hscheme : ∀ c ∈ scheme.toList, Visible c) (hone : ' ' ∉ scheme.toList)
    (hknown : eqIgnoreAsciiCase scheme "DPoP" = true ∨ eqIgnoreAsciiCase scheme "Bearer" = true)
    (hvisible : ∀ c ∈ token.toList, Visible c)
    (hblank : ∀ c ∈ token.toList, isWhitespace c = false) (hnonempty : token ≠ "") :
    presentedToken X headers = .ok (token, eqIgnoreAsciiCase scheme "DPoP") := by
  have hspace : " ".toList = [' '] := rfl
  have hvalue : ∀ c ∈ (scheme ++ " " ++ token).toList, Visible c := by
    intro c hc
    rw [String.toList_append, String.toList_append, hspace, List.mem_append, List.mem_append,
      List.mem_singleton] at hc
    rcases hc with (hc | rfl) | hc
    · exact hscheme c hc
    · exact ⟨by decide, by decide⟩
    · exact hvisible c hc
  have htext : headerText X headers "authorization" = some (scheme ++ " " ++ token) := by
    rw [headerText, hall]
    simp only [List.head?_cons, Option.bind_some, hheader.toStr _ hvalue, Except.toOption]
  have hsplit : splitOnce ' ' (scheme ++ " " ++ token) = some (scheme, token) := by
    rw [splitOnce, splitn, String.toList_append, String.toList_append, hspace, List.append_assoc,
      List.singleton_append, splitFirst_append hone]
    simp only [splitFirst, List.map_cons, List.map_nil, String.ofList_toList]
  have htrim : trim token = token :=
    trim_of_ends (fun c hc => hblank c (List.mem_of_head? hc))
      fun c hc => hblank c (List.mem_of_getLast? hc)
  rw [presentedToken, htext]
  simp only [Option.getD_some, hsplit, htrim, if_neg (not_or.mpr ⟨hnonempty, not_not.mpr hknown⟩)]

lemma presentedToken_bearer (hheader : HeaderValues X) {token : String}
    (hvisible : ∀ c ∈ token.toList, Visible c)
    (hblank : ∀ c ∈ token.toList, isWhitespace c = false) (hnonempty : token ≠ "") :
    presentedToken X (bearer token) = .ok (token, false) := by
  have hscheme : "Bearer".toList = ['B', 'e', 'a', 'r', 'e', 'r'] := rfl
  have hletters : (['B', 'e', 'a', 'r', 'e', 'r'].all fun c => decide (Visible c)) = true := rfl
  have hall : getAll (bearer token) "authorization" = [utf8 ("Bearer" ++ " " ++ token)] := by
    simp [getAll, bearer]
  have hknown : eqIgnoreAsciiCase "Bearer" "Bearer" = true := by decide
  have hdpop : eqIgnoreAsciiCase "Bearer" "DPoP" = false := by decide
  have hpresented := presentedToken_of_scheme hheader hall
    (by rw [hscheme]; exact fun c hc => of_decide_eq_true (List.all_eq_true.mp hletters c hc))
    (by rw [hscheme]; decide) (.inr hknown) hvisible hblank hnonempty
  rwa [hdpop] at hpresented

/-- What a holder signs, to prove that it has the key, with the third nonce that is drawn. -/
def visitProofInput (x y : ℕ) : Bytes :=
  walletInput (walletHeader "openid4vci-proof+jwt" (holderJwk x y none))
    (possessionClaims sampleUrl (codeCrates.uuid 3) 1767225600)

/-- The thumbprints of the keys, and the disclosures, with their digests. -/
def visitDigests : List (Bytes × Bytes) :=
  (utf8 (canonicalMembers (holderJwk signerX signerY none)),
    bigEndian 32 0xa0a232c2f194a53553cb1310ddbc0821e414b9d7ebfc290b323084d7d1020fe5) :: issuerDigests

def visitors : Table :=
  wallets visitDigests
    [(visitProofInput holderX holderY,
      bigEndian 32 0xc1e6becf3bb34a163270a81234db43d9717de606263ab1d31e0f95a229926d9d ++
        bigEndian 32 0xfcb050d55a4eef7a4269d92b676560dcb41d9b1de04049a7f534d31bc6de32f4)]
    [(visitProofInput otherX otherY,
      bigEndian 32 0x7071eabb82d37fe7ca9ae0337103df4644edab279ca134086fc2afce78e400aa ++
        bigEndian 32 0xae79d6a51cf55621458889316d73f35440dda31c1be6d3d97d7ed1b21ad47ad5)]

def base64 (bytes : Bytes) : String :=
  Base64.encode '+' '/' bytes ++ String.ofList (List.replicate ((3 - bytes.length % 3) % 3) '=')

/-- What the issuer signs: a credential of a holder, at an index of the revocation list. -/
def visitInput (x y : ℕ) (index : String) : Bytes :=
  walletInput
    { buildHeader ((visitors.key signerX signerY).toKeyPair visitors.crates) (some "dc+sd-jwt") with
      x5c := some [base64 signerDer] }
    (claimsFor sampleUrl "urn:eudi:pid:1" []
      (disclosuresFor visitors.crates demoClaims credentialSalts)
      (some (.obj [("jwk", (holderJwk x y none).toValue)]))
      (some (statusClaim "https://issuer.example.com/status/revocation/token" index))
      (seconds 1767225600)).toJson

def visitTable : Table :=
  { visitors with
    signatures := ((bigEndian 32 signerX, bigEndian 32 signerY),
      [(visitInput holderX holderY "7",
        bigEndian 32 0x285a02405e2cbaec13d78158194a571598f153478610f9a1ec503ba9f19472b0 ++
          bigEndian 32 0x2b1abe87efd801c450f8d0fac4eeb8ac6f0a7ac3bdd940decc5bfefc77a2d8fa),
      (visitInput otherX otherY "8",
        bigEndian 32 0x51eb2edb50f25fc3f159b6821590dc0dbb0f969dea58d5b6c11862e7f03fc322 ++
          bigEndian 32 0xfb563224fef08dcb4828adcb87d729052fc2c894e52194a5f78ff6b4b8b97d86)]) ::
      visitors.signatures }

/-- The crates of the table, with URLs that are joined as they are, and numbered identifiers. -/
def visitCrates : Crates :=
  { visitTable.crates with
    base64Encode := base64
    zlib := fun bytes => .ok bytes
    urlParse := some
    urlJoin := fun base path => base ++ path
    uuid := codeCrates.uuid
    certificateFromDer := (pki [] [] [] []).crates.certificateFromDer }

lemma parses_visitCrates : visitCrates.certificateFromDer signerDer = .ok signerCertificate := by
  have hfrom : visitCrates.certificateFromDer = (pki [] [] [] []).crates.certificateFromDer := rfl
  rw [hfrom]
  exact certificateFromDer_signer rfl

def visitSigner : IssuerCertificate visitCrates :=
  ⟨signerDer, signerCertificate, parses_visitCrates⟩

def visitConfiguration : CredentialConfiguration where
  format := "dc+sd-jwt"
  scope := some "pid"
  proofTypesSupported := some [("jwt", ⟨["ES256"]⟩)]
  vct := some "urn:eudi:pid:1"
  doctype := none

def visitApp : AppState visitCrates where
  metadata := ⟨sampleUrl, none, [("pid", visitConfiguration)]⟩
  primaryKey := (visitTable.key signerX signerY).toKeyPair visitCrates
  leaf := visitSigner
  mdocSigner := visitSigner
  externalUrl := sampleUrl
  issuerId := sampleUrl
  adminToken := "5c6ffbdd40d9556b73a21e63c3e0e904"
  clientAttesters := []

/-- The first number that is drawn is 7. -/
def visitDraws : RequestDraws :=
  { sampleDraws with credential := fun i => { sampleDraws.credential i with index := [7] } }

def proofOf (x y : ℕ) : String :=
  possessionProof visitTable x y none sampleUrl (codeCrates.uuid 3) 1767225600

def visitProof : String := proofOf holderX holderY

lemma verifyProofJwt_proofOf (x y : ℕ) : verifyProofJwt visitCrates (proofOf x y) sampleUrl
    visitConfiguration (seconds 1767225600) = .ok (holderJwk x y none, codeCrates.uuid 3) := by
  have hdecode : decodeCompact visitCrates = decodeCompact visitTable.crates := rfl
  have hverify : verifyWithJwk visitCrates = verifyWithJwk visitTable.crates := rfl
  have hslice : visitCrates.jsonFromSlice = visitTable.crates.jsonFromSlice := rfl
  rw [verifyProofJwt_congr hdecode hverify hslice]
  exact possessionProof_verifies x y none _ (by decide) (by decide) (by decide) (by decide)

lemma verifyProofJwt_visit : verifyProofJwt visitCrates visitProof sampleUrl visitConfiguration
    (seconds 1767225600) = .ok (holderJwk holderX holderY none, codeCrates.uuid 3) :=
  verifyProofJwt_proofOf holderX holderY

lemma injective_uuid_visit : Function.Injective visitCrates.uuid := codeCrates_uuid_injective

lemma injective_sha256_visit : Function.Injective visitCrates.sha256 := by
  have hsha : visitCrates.sha256 = extend (holderDigests ++ visitDigests) := rfl
  rw [hsha]
  exact extend_injective (by decide +kernel) (by decide +kernel)

lemma canonicalBase64Url_visit : CanonicalBase64Url visitCrates := by
  have hb64 := canonicalBase64Url_table visitTable
  exact ⟨⟨hb64.decode_encode, hb64.alphabet, hb64.nonempty⟩, hb64.encode_of_decode, hb64.unquoted⟩

lemma serdeJson_visit : SerdeJson visitCrates := serdeJson_codecs.congr rfl rfl rfl rfl

lemma correct_visit (x y : ℕ) : (visitTable.key x y).Correct visitCrates :=
  Table.key_correct_of_eq (t := visitTable) (X := visitCrates) rfl rfl rfl x y

lemma urlEncoding_visit : UrlEncoding visitCrates := ⟨fun _ => rfl⟩

lemma headerValues_visit : HeaderValues visitCrates := ⟨headerValues_codecs.toStr⟩

lemma visible_uuid : ∀ c ∈ (codeCrates.uuid 2).toList, Visible c := by
  have hall : ((codeCrates.uuid 2).toList.all fun c => decide (Visible c)) = true := by decide +kernel
  exact fun c hc => of_decide_eq_true (List.all_eq_true.mp hall c hc)

lemma notBlank_uuid : ∀ c ∈ (codeCrates.uuid 2).toList, isWhitespace c = false := by
  have hall : ((codeCrates.uuid 2).toList.all fun c => isWhitespace c == false) = true := by
    decide +kernel
  exact fun c hc => beq_iff_eq.mp (List.all_eq_true.mp hall c hc)

lemma uuid_ne_empty : codeCrates.uuid 2 ≠ "" := by decide +kernel

lemma presentedToken_visit (hheader : HeaderValues X) :
    presentedToken X (bearer (codeCrates.uuid 2)) = .ok (codeCrates.uuid 2, false) :=
  presentedToken_bearer hheader visible_uuid notBlank_uuid uuid_ne_empty

/-- The request of the holder for its credential. -/
def visitAsking : Input :=
  .request (.credential (bearer (codeCrates.uuid 2)) (asking "pid" visitProof) visitDraws)

def visitStores : Stores := freshStores visitApp (seconds 1767225600)

/-- **The holder is served** with a credential that refers to index 7 of the revocation list. -/
theorem visit_served : ∃ credential m,
    signSdJwtCredential visitCrates (issuanceContext visitApp) "urn:eudi:pid:1"
      (holderJwk holderX holderY none)
      (some (statusClaim (visitApp.urlFor "/status/revocation/token") "7")) (visitDraws.credential 0)
      (seconds 1767225600) = .ok credential ∧
    allocateStatus visitApp [7] visitStores.status =
      some (.ok (some (statusClaim (visitApp.urlFor "/status/revocation/token") "7")), m) ∧
    (server visitApp).step (run (server visitApp) visitStores (preparation visitCrates 0 "pid"))
        visitAsking =
      ({ spendAll (run (server visitApp) visitStores (preparation visitCrates 0 "pid"))
          [codeCrates.uuid 3] with status := m },
        some (.response ⟨200, [], .credential (credentialResponse [credential])⟩)) := by
  have hconfig : visitApp.metadata.credentialConfigurationsSupported.lookup "pid" =
      some visitConfiguration := List.lookup_cons_self
  have hsign : ∀ m, ∃ s, visitApp.primaryKey.sign m = .ok s := fun m => ⟨_, rfl⟩
  obtain ⟨m, halloc⟩ := @allocateStatus_fresh visitCrates visitApp 7 (by decide)
  obtain ⟨credential, hsigned, hstep⟩ := @served visitCrates visitApp "pid" "urn:eudi:pid:1" visitProof
    visitConfiguration (holderJwk holderX holderY none) _ m visitDraws visitStores hconfig rfl rfl
    (presentedToken_visit headerValues_visit) verifyProofJwt_visit (by decide) halloc hsign
  exact ⟨credential, m, hsigned, halloc, hstep⟩

end Sample

end Oid4vc.Honest
