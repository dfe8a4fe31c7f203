import Oid4vc.Issuer.HolderKey
import Mathlib.Data.List.Dedup

/-!
A credential request from beginning to end: the proofs are verified, then the nonces consumed, then
the credentials issued.
-/

namespace Oid4vc.Processing

open Oid4vc.JsonValue Oid4vc.PartialMap Oid4vc.Fallible Oid4vc.Instant Oid4vc.Atomic Oid4vc.Jwks
open Oid4vc.External Oid4vc.Codecs Oid4vc.SdJwt Oid4vc.Selective Oid4vc.Oid4vci Oid4vc.IssuerStore Oid4vc.Credential
open Oid4vc.HolderKey

variable {X : Crates} {σ : Type} {configId : String} {config : CredentialConfiguration}
  {ctx : IssuanceContext X σ} {draws : RequestDraws}

/-! ### The proofs -/

/-- **The proofs are verified in order**, up to the first that fails; nothing is changed. -/
lemma verifyProofs_exec (b : Backend σ) (jwts : List String) (verified : List (Jwk × String)) :
    (verifyProofs X configId config ctx draws jwts verified).exec b =
      match jwts.mapM fun jwt => verifyProofJwt X jwt ctx.issuerUrl config b.issuer.clock with
      | .error e => (.error (.err e), b)
      | .ok proofs =>
        (consumeNonces X configId config ctx draws ((verified ++ proofs).map Prod.fst)
          (draws.nonces ((verified ++ proofs).map Prod.snd))).exec b := by
  induction jwts generalizing verified with
  | nil => simp [verifyProofs, pure, Except.pure]
  | cons jwt jwts ih =>
    rw [verifyProofs, Prog.exec_call, List.mapM_cons]
    simp only [Calls.readClock]
    cases hproof : verifyProofJwt X jwt ctx.issuerUrl config b.issuer.clock with
    | error e => rfl
    | ok proof =>
      simp only
      rw [ih]
      cases hrest : jwts.mapM fun jwt => verifyProofJwt X jwt ctx.issuerUrl config b.issuer.clock with
      | error e => rfl
      | ok proofs => simp [bind, Except.bind, pure, Except.pure]

/-! ### The nonces -/

/-- The nonce is stored, and not expired. -/
def Valid (s : InMemoryIssuerState) (now : ℤ) (nonce : String) : Prop :=
  ∃ entry, s.cNonces.get nonce = some entry ∧
    InMemoryIssuerState.elapsedSeconds (now - entry.createdAt) ≤ entry.expiresIn

/-- The store without this nonce. -/
def spend (b : Backend σ) (nonce : String) : Backend σ :=
  { b with issuer := { b.issuer with store := { b.issuer.store with
    cNonces := b.issuer.store.cNonces.remove nonce } } }

lemma consumeCNonce_valid {s : InMemoryIssuerState} {now : ℤ} {nonce : String} :
    (s.consumeCNonce now nonce).1 = true ↔ Valid s now nonce := by
  unfold InMemoryIssuerState.consumeCNonce Valid
  cases hget : s.cNonces.get nonce with
  | none => simp
  | some entry => simp

/-- A nonce that is consumed is gone, whether it was valid or not. -/
lemma consumeCNonce_store (s : InMemoryIssuerState) (now : ℤ) (nonce : String) :
    (s.consumeCNonce now nonce).2 = { s with cNonces := s.cNonces.remove nonce } := by
  unfold InMemoryIssuerState.consumeCNonce
  cases hget : s.cNonces.get nonce with
  | none =>
    have hsame : s.cNonces.remove nonce = s.cNonces := by
      ext n
      by_cases h : n = nonce
      · rw [h, get_remove_self, hget]
      · rw [get_remove_of_ne _ h]
    rw [hsame]
  | some entry => rfl

lemma consumeCNonce_eq (b : Backend σ) (nonce : String) :
    Calls.consumeCNonce nonce b =
      ((b.issuer.store.consumeCNonce b.issuer.clock nonce).1, spend b nonce) := by
  rw [Calls.consumeCNonce, consumeCNonce_store]
  rfl

/-- The nonces that are left, one by one: they are all valid, or the request is refused. -/
lemma consumeNonces_exec_cons (holderKeys : List Jwk) (nonce : String) (nonces : List String)
    (b : Backend σ) :
    ((Valid b.issuer.store b.issuer.clock nonce) ∧
      (consumeNonces X configId config ctx draws holderKeys (nonce :: nonces)).exec b =
        (consumeNonces X configId config ctx draws holderKeys nonces).exec (spend b nonce)) ∨
      (¬ Valid b.issuer.store b.issuer.clock nonce ∧
        (consumeNonces X configId config ctx draws holderKeys (nonce :: nonces)).exec b =
          (.error (.err .invalidNonce), spend b nonce)) := by
  rw [consumeNonces, Prog.exec_call, consumeCNonce_eq]
  by_cases hvalid : Valid b.issuer.store b.issuer.clock nonce
  · refine Or.inl ⟨hvalid, ?_⟩
    simp only [consumeCNonce_valid.mpr hvalid, if_true]
  · refine Or.inr ⟨hvalid, ?_⟩
    have hfalse : ¬ (b.issuer.store.consumeCNonce b.issuer.clock nonce).1 = true :=
      fun h => hvalid (consumeCNonce_valid.mp h)
    simp only [if_neg hfalse, Prog.exec_ret]

lemma valid_spend {b : Backend σ} {now : ℤ} {nonce other : String} (h : other ≠ nonce) :
    Valid (spend b nonce).issuer.store now other ↔ Valid b.issuer.store now other := by
  unfold Valid spend
  rw [get_remove_of_ne _ h]

/-- The store without these nonces. -/
def spendAll (b : Backend σ) (nonces : List String) : Backend σ := nonces.foldl spend b

lemma spendAll_get (nonces : List String) (b : Backend σ) (nonce : String) :
    (spendAll b nonces).issuer.store.cNonces.get nonce =
      if nonce ∈ nonces then none else b.issuer.store.cNonces.get nonce := by
  induction nonces generalizing b with
  | nil => simp [spendAll]
  | cons n nonces ih =>
    rw [spendAll, List.foldl_cons, ← spendAll, ih, spend]
    by_cases heq : nonce = n
    · simp [heq]
    · simp [heq]

lemma spendAll_clock (nonces : List String) (b : Backend σ) :
    (spendAll b nonces).issuer.clock = b.issuer.clock := by
  induction nonces generalizing b with
  | nil => rfl
  | cons n nonces ih => exact ih (spend b n)

/-- **Credentials are issued only for nonces that are all valid**, and then these are spent. -/
lemma consumeNonces_ok {holderKeys : List Jwk} {nonces : List String} {b b' : Backend σ} {response : CredentialResponse}
    (h : (consumeNonces X configId config ctx draws holderKeys nonces).exec b = (.ok response, b')) :
    (∀ nonce ∈ nonces, Valid b.issuer.store b.issuer.clock nonce) ∧
      (issueCredentials X configId config ctx draws holderKeys []).exec (spendAll b nonces) =
        (.ok response, b') := by
  induction nonces generalizing b with
  | nil => exact ⟨by simp, h⟩
  | cons nonce nonces ih =>
    rcases consumeNonces_exec_cons holderKeys nonce nonces b with ⟨hvalid, heq⟩ | ⟨-, heq⟩
    · rw [heq] at h
      obtain ⟨hrest, hissued⟩ := ih h
      refine ⟨fun n hn => ?_, hissued⟩
      by_cases hne : n = nonce
      · rw [hne]
        exact hvalid
      · have hmem : n ∈ nonces := (List.mem_cons.mp hn).resolve_left hne
        exact (valid_spend hne).mp (hrest n hmem)
    · rw [heq] at h
      cases (Prod.mk.inj h).1

/-! ### The credentials -/

/-- **One credential a holder key, in order.** -/
lemma issueCredentials_ok (hb64 : Base64Url X) (hserde : SerdeJson X) (hcbor : CborCodec X)
    (hcose : CoseCodec X) (hvalues : AllocatesValues ctx) {holderKeys : List Jwk} :
    ∀ {issued : List Json} {b b' : Backend σ} {response : CredentialResponse},
      Representable b.issuer.clock →
      (issueCredentials X configId config ctx draws holderKeys issued).exec b = (.ok response, b') →
      b'.issuer = b.issuer ∧ ∃ credentials, response = credentialResponse (issued ++ credentials) ∧
        List.Forall₂ (fun jwk credential => Embeds X config.format credential jwk) holderKeys
          credentials := by
  induction holderKeys with
  | nil =>
    intro issued b b' response _ h
    simp only [issueCredentials, Prog.exec_ret, Prod.mk.injEq, Except.ok.injEq] at h
    obtain ⟨rfl, rfl⟩ := h
    exact ⟨rfl, [], by rw [List.append_nil], .nil⟩
  | cons holderJwk holderKeys ih =>
    intro issued b b' response hclock h
    rw [issueCredentials, Prog.exec_bind] at h
    have hissuer : ((issueCredential X configId config ctx holderJwk
        (draws.credential issued.length)).exec b).2.issuer = b.issuer := issueCredential_issuer
    have hembeds : ∀ credential, ((issueCredential X configId config ctx holderJwk
        (draws.credential issued.length)).exec b).1 = .ok credential →
          Embeds X config.format credential holderJwk := fun credential h =>
      issueCredential_embeds hb64 hserde hcbor hcose hvalues hclock h
    generalize (issueCredential X configId config ctx holderJwk (draws.credential issued.length)).exec b
      = r at h hissuer hembeds
    obtain ⟨answer, b₁⟩ := r
    cases answer with
    | error e => simp at h
    | ok credential =>
      have hclock₁ : Representable b₁.issuer.clock := by
        rw [hissuer]
        exact hclock
      obtain ⟨hsame, credentials, rfl, hall⟩ := ih hclock₁ h
      refine ⟨hsame.trans hissuer, credential :: credentials, ?_, .cons (hembeds credential rfl) hall⟩
      rw [List.append_assoc, List.singleton_append]

/-! ### The request -/

def proofsOf (request : CredentialRequest) : List String := (request.proofs.bind Proofs.jwt).getD []

/-- How many proofs a request may have: one, unless the metadata says otherwise. -/
def batchLimit (metadata : CredentialIssuerMetadata) : ℕ :=
  (metadata.batchCredentialIssuance.map BatchCredentialIssuance.batchSize).getD 1

lemma requestedProofs_ok {request : CredentialRequest} {metadata : CredentialIssuerMetadata}
    {jwts : List String} (h : requestedProofs request metadata = .ok jwts) :
    proofsOf request = jwts ∧ jwts ≠ [] ∧ jwts.length ≤ batchLimit metadata := by
  simp only [requestedProofs, bind_eq_ok, ensure_eq_ok, exists_unit, okOr_eq_ok] at h
  obtain ⟨-, proofs, hproofs, h⟩ := h
  split at h
  · cases h
  · simp only [bind_eq_ok, ensure_eq_ok, exists_unit, okOr_eq_ok, pure_eq_ok] at h
    obtain ⟨jwts', hjwts, hlimit, rfl⟩ := h
    obtain ⟨hjwt, hnonempty⟩ := Option.filter_eq_some_iff.mp hjwts
    refine ⟨by simp [proofsOf, hproofs, hjwt], ?_, hlimit⟩
    simpa using hnonempty

/-- The configuration is one that the token is for; and if the token names credential identifiers,
the request has one of them. -/
structure Resolved (request : CredentialRequest) (grant : AccessGrant)
    (metadata : CredentialIssuerMetadata) (configId : String) (config : CredentialConfiguration) :
    Prop where
  supported : metadata.credentialConfigurationsSupported.lookup configId = some config
  granted : configId ∈ grant.credentialConfigurationIds
  asked : request.credentialConfigurationId = some configId ∨ ∃ identifier,
    request.credentialIdentifier = some identifier ∧
      grant.credentialIdentifiers.lookup identifier = some configId
  named : grant.credentialIdentifiers ≠ [] → ∃ identifier,
    request.credentialIdentifier = some identifier ∧
      grant.credentialIdentifiers.lookup identifier = some configId

lemma resolveConfiguration_ok {request : CredentialRequest} {grant : AccessGrant}
    {metadata : CredentialIssuerMetadata}
    (h : resolveConfiguration request grant metadata = .ok (configId, config)) :
    Resolved request grant metadata configId config := by
  simp only [resolveConfiguration, bind_eq_ok, okOr_eq_ok, ensure_eq_ok, exists_unit, pure_eq_ok,
    Prod.mk.injEq] at h
  obtain ⟨id, hid, c, hconfig, hgranted, rfl, rfl⟩ := h
  unfold namedConfiguration at hid
  split at hid
  · cases hid
  · cases hid
  · next identifier hidentifier _ =>
    rw [okOr_eq_ok] at hid
    exact ⟨hconfig, hgranted, Or.inr ⟨identifier, hidentifier, hid⟩, fun _ => ⟨identifier, hidentifier, hid⟩⟩
  · next configId' hidentifier hconfigId =>
    split_ifs at hid with hnamed
    rw [Except.ok.injEq] at hid
    subst hid
    refine ⟨hconfig, hgranted, Or.inl hconfigId, fun hsome => absurd ⟨?_, hsome⟩ hnamed⟩
    rw [hconfig, Option.isSome_some]

lemma checkRequest_ok {request : CredentialRequest} {grant : AccessGrant}
    {metadata : CredentialIssuerMetadata} {jwts : List String}
    (h : checkRequest request metadata grant = .ok (configId, config, jwts)) :
    resolveConfiguration request grant metadata = .ok (configId, config) ∧ proofsOf request = jwts ∧
      jwts ≠ [] ∧ jwts.length ≤ batchLimit metadata := by
  simp only [checkRequest, bind_eq_ok, pure_eq_ok, Prod.mk.injEq] at h
  obtain ⟨⟨id, c⟩, hresolved, jwts', hjwts, rfl, rfl, rfl⟩ := h
  exact ⟨hresolved, requestedProofs_ok hjwts⟩

/-- Looking up a token changes no nonce, no status entry, and not the clock. -/
lemma getAccessGrant_frame (token : String) (b : Backend σ) :
    (Calls.getAccessGrant token b).2.issuer.clock = b.issuer.clock ∧
      (Calls.getAccessGrant token b).2.issuer.store.cNonces = b.issuer.store.cNonces ∧
      (Calls.getAccessGrant token b).2.status = b.status := by
  have hnonces : (b.issuer.store.getAccessGrant b.issuer.clock token).2.cNonces =
      b.issuer.store.cNonces := by
    unfold InMemoryIssuerState.getAccessGrant
    split
    · split_ifs <;> rfl
    · rfl
  exact ⟨rfl, hnonces, rfl⟩

/-- **A request from beginning to end.** -/
theorem processCredentialRequest_exec (request : CredentialRequest) (token : String)
    (ctx : IssuanceContext X σ) (draws : RequestDraws) (b : Backend σ) :
    (processCredentialRequest X request token ctx draws).exec b =
      match (Calls.getAccessGrant token b).1 with
      | none => (.error (.err .invalidAccessToken), (Calls.getAccessGrant token b).2)
      | some grant =>
        match checkRequest request ctx.metadata grant with
        | .error e => (.error (.err e), (Calls.getAccessGrant token b).2)
        | .ok (configId, config, jwts) =>
          match jwts.mapM fun jwt => verifyProofJwt X jwt ctx.issuerUrl config b.issuer.clock with
          | .error e => (.error (.err e), (Calls.getAccessGrant token b).2)
          | .ok proofs => (consumeNonces X configId config ctx draws (proofs.map Prod.fst)
              (draws.nonces (proofs.map Prod.snd))).exec (Calls.getAccessGrant token b).2 := by
  rw [processCredentialRequest, Prog.exec_call]
  cases hgrant : (Calls.getAccessGrant token b).1 with
  | none => rfl
  | some grant =>
    simp only
    cases hcheck : checkRequest request ctx.metadata grant with
    | error e => rfl
    | ok checked =>
      obtain ⟨configId, config, jwts⟩ := checked
      simp only
      rw [verifyProofs_exec, (getAccessGrant_frame token b).1]
      simp only [List.nil_append]

lemma exec_of_verified {request : CredentialRequest} {token : String} {grant : AccessGrant}
    {b : Backend σ} {jwts : List String} {proofs : List (Jwk × String)}
    (hgrant : (b.issuer.store.getAccessGrant b.issuer.clock token).1 = some grant)
    (hcheck : checkRequest request ctx.metadata grant = .ok (configId, config, jwts))
    (hproofs : List.Forall₂ (fun jwt proof =>
      verifyProofJwt X jwt ctx.issuerUrl config b.issuer.clock = .ok proof) jwts proofs) :
    (processCredentialRequest X request token ctx draws).exec b =
      (consumeNonces X configId config ctx draws (proofs.map Prod.fst)
        (draws.nonces (proofs.map Prod.snd))).exec (Calls.getAccessGrant token b).2 := by
  have hgrant' : (Calls.getAccessGrant token b).1 = some grant := hgrant
  rw [processCredentialRequest_exec, hgrant']
  simp only [hcheck, mapM_eq_ok.mpr hproofs]

/-! ### Requests that succeed -/

/-- Valid nonces are consumed one after the other. -/
lemma consumeNonces_of_valid {holderKeys : List Jwk} {nonces : List String} (hnodup : nonces.Nodup)
    {b : Backend σ} (hvalid : ∀ nonce ∈ nonces, Valid b.issuer.store b.issuer.clock nonce) :
    (consumeNonces X configId config ctx draws holderKeys nonces).exec b =
      (issueCredentials X configId config ctx draws holderKeys []).exec (spendAll b nonces) := by
  induction nonces generalizing b with
  | nil => rfl
  | cons nonce nonces ih =>
    rw [List.nodup_cons] at hnodup
    have hhead := hvalid nonce List.mem_cons_self
    rcases consumeNonces_exec_cons (X := X) holderKeys nonce nonces b with ⟨-, heq⟩ | ⟨hnot, -⟩
    · rw [heq]
      refine ih hnodup.2 fun n hn => ?_
      have hne : n ≠ nonce := by
        rintro rfl
        exact hnodup.1 hn
      exact (valid_spend hne).mpr (hvalid n (List.mem_cons_of_mem _ hn))
    · exact absurd hhead hnot

/-- An SD-JWT VC is issued if its configuration has a type, there is a status entry for it if it has
one, and the issuer can sign. -/
lemma issueSdJwtCredential_allocated {vct : String} {draws : CredentialDraws} {status : Option Json}
    {m : σ} {b : Backend σ} (hformat : config.format = "dc+sd-jwt") (hvct : config.vct = some vct)
    (halloc : ctx.allocateStatus draws.index b.status = some (.ok status, m))
    (hsign : ∀ m, ∃ s, ctx.issuerKey.sign m = .ok s) (holderJwk : Jwk) : ∃ credential,
      (issueCredential X configId config ctx holderJwk draws).exec b =
        (.ok credential, { b with status := m }) ∧
      signSdJwtCredential X ctx vct holderJwk status draws b.issuer.clock = .ok credential := by
  have hallocate : Calls.allocate ctx.allocateStatus draws.index b =
      (some (.ok status), { b with status := m }) := by
    rw [Calls.allocate, halloc]
  obtain ⟨compact, hissued⟩ := issue_succeeds hsign draws.claims ctx.x5c draws.salts
  have hsigned : signSdJwtCredential X ctx vct holderJwk status draws b.issuer.clock =
      .ok (.str compact) := by
    simp only [signSdJwtCredential, bind_eq_ok, mapError_eq_ok, pure_eq_ok]
    exact ⟨_, hissued, rfl⟩
  refine ⟨.str compact, ?_, hsigned⟩
  rw [issueCredential, if_pos hformat, issueSdJwtCredential, hvct]
  simp only [Prog.exec_call, hallocate, Calls.readClock, Prog.exec_ret, hsigned]

/-- An SD-JWT VC is issued if its configuration has a type and the issuer can sign, by an issuer
without status lists. -/
lemma issueSdJwtCredential_succeeds {vct : String} (hformat : config.format = "dc+sd-jwt")
    (hvct : config.vct = some vct)
    (halloc : ∀ index status, ctx.allocateStatus index status = some (.ok none, status))
    (hsign : ∀ m, ∃ s, ctx.issuerKey.sign m = .ok s) (holderJwk : Jwk) (draws : CredentialDraws)
    (b : Backend σ) : ∃ credential,
      (issueCredential X configId config ctx holderJwk draws).exec b = (.ok credential, b) := by
  obtain ⟨credential, hissued, -⟩ := @issueSdJwtCredential_allocated X σ configId config ctx vct draws none
    b.status b hformat hvct (halloc draws.index b.status) hsign holderJwk
  exact ⟨credential, hissued⟩

lemma issueCredentials_succeeds {vct : String} (hformat : config.format = "dc+sd-jwt")
    (hvct : config.vct = some vct)
    (halloc : ∀ index status, ctx.allocateStatus index status = some (.ok none, status))
    (hsign : ∀ m, ∃ s, ctx.issuerKey.sign m = .ok s) (holderKeys : List Jwk) (b : Backend σ) :
    ∀ issued, ∃ response, (issueCredentials X configId config ctx draws holderKeys issued).exec b =
      (.ok response, b) := by
  induction holderKeys with
  | nil => exact fun issued => ⟨_, rfl⟩
  | cons holderJwk holderKeys ih =>
    intro issued
    obtain ⟨credential, hcredential⟩ : ∃ credential, (issueCredential X configId config ctx holderJwk
        (draws.credential issued.length)).exec b = (.ok credential, b) :=
      issueSdJwtCredential_succeeds hformat hvct halloc hsign holderJwk _ b
    obtain ⟨response, hresponse⟩ := ih (issued ++ [credential])
    refine ⟨response, ?_⟩
    rw [issueCredentials, Prog.exec_bind, hcredential]
    exact hresponse

/-- **A request succeeds** if its proofs verify and their nonces are valid, at an issuer of SD-JWT
VCs without status lists. -/
theorem processed_of_valid {request : CredentialRequest} {token : String} {grant : AccessGrant}
    {b : Backend σ} {proofs : List (Jwk × String)} {vct : String}
    (hgrant : (b.issuer.store.getAccessGrant b.issuer.clock token).1 = some grant)
    (hcheck : checkRequest request ctx.metadata grant = .ok (configId, config, proofsOf request))
    (hproofs : List.Forall₂ (fun jwt proof =>
      verifyProofJwt X jwt ctx.issuerUrl config b.issuer.clock = .ok proof) (proofsOf request) proofs)
    (hvalid : ∀ proof ∈ proofs, Valid b.issuer.store b.issuer.clock proof.2)
    (hformat : config.format = "dc+sd-jwt") (hvct : config.vct = some vct)
    (halloc : ∀ index status, ctx.allocateStatus index status = some (.ok none, status))
    (hsign : ∀ m, ∃ s, ctx.issuerKey.sign m = .ok s) :
    ∃ response b', (processCredentialRequest X request token ctx draws).exec b = (.ok response, b') := by
  obtain ⟨hframeClock, hframeNonces, -⟩ := getAccessGrant_frame token b
  have hwalks := draws.walks (proofs.map Prod.snd)
  have hnonces : ∀ nonce ∈ draws.nonces (proofs.map Prod.snd),
      Valid (Calls.getAccessGrant token b).2.issuer.store
        (Calls.getAccessGrant token b).2.issuer.clock nonce := by
    intro nonce hnonce
    rw [hwalks.mem_iff, List.mem_dedup] at hnonce
    obtain ⟨proof, hproof, rfl⟩ := List.mem_map.mp hnonce
    unfold Valid
    rw [hframeNonces, hframeClock]
    exact hvalid proof hproof
  set spent := spendAll (Calls.getAccessGrant token b).2 (draws.nonces (proofs.map Prod.snd))
  obtain ⟨response, hresponse⟩ : ∃ response, (issueCredentials X configId config ctx draws
      (proofs.map Prod.fst) []).exec spent = (.ok response, spent) :=
    issueCredentials_succeeds hformat hvct halloc hsign _ spent []
  refine ⟨response, spent, ?_⟩
  rw [exec_of_verified hgrant hcheck hproofs, consumeNonces_of_valid (hwalks.nodup_iff.mpr (List.nodup_dedup _)) hnonces, hresponse]

end Oid4vc.Processing
