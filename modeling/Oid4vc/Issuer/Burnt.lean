import Oid4vc.Issuer.Batch

/-!
What a credential request that is refused leaves behind.

The proofs are verified before a nonce is consumed; from then on nothing is given back.
-/

namespace Oid4vc.Burnt

open Oid4vc.JsonValue Oid4vc.CborBytes Oid4vc.PartialMap Oid4vc.Fallible Oid4vc.Instant Oid4vc.Atomic
open Oid4vc.Jwks Oid4vc.External Oid4vc.Codecs Oid4vc.Tables Oid4vc.Oid4vci Oid4vc.IssuerStore
open Oid4vc.Credential Oid4vc.HolderKey Oid4vc.Processing Oid4vc.Wallet Oid4vc.Batch

section Effects

variable {σ : Type}

/-- Every nonce that was valid still is, and no status entry has been allocated. -/
structure NoLastingEffect (b b' : Backend σ) : Prop where
  nonces : ∀ nonce, Valid b.issuer.store b.issuer.clock nonce →
    Valid b'.issuer.store b'.issuer.clock nonce
  status : b'.status = b.status

variable (X : Crates)

def firstNonce (request : CredentialRequest) (draws : RequestDraws) : Option String :=
  (draws.nonces ((proofsOf request).filterMap (proofNonce X))).head?

/-- The request passes all that is checked before its nonces, and the first of these is valid. -/
def ReachesValidNonce (request : CredentialRequest) (token : String) (ctx : IssuanceContext X σ)
    (draws : RequestDraws) (b : Backend σ) : Prop :=
  ∃ grant configId config nonce,
    (b.issuer.store.getAccessGrant b.issuer.clock token).1 = some grant ∧
    checkRequest request ctx.metadata grant = .ok (configId, config, proofsOf request) ∧
    (∀ jwt ∈ proofsOf request, ∃ proof,
      verifyProofJwt X jwt ctx.issuerUrl config b.issuer.clock = .ok proof) ∧
    firstNonce X request draws = some nonce ∧ Valid b.issuer.store b.issuer.clock nonce

end Effects

variable {X : Crates} {σ : Type} {ctx : IssuanceContext X σ} {config : CredentialConfiguration}
  {configId : String} {draws : RequestDraws}

/-! ### What is consumed stays consumed -/

lemma issueCredentials_issuer (holderKeys : List Jwk) (issued : List Json) (b : Backend σ) :
    ((issueCredentials X configId config ctx draws holderKeys issued).exec b).2.issuer = b.issuer := by
  induction holderKeys generalizing issued b with
  | nil => rfl
  | cons holderJwk holderKeys ih =>
    rw [issueCredentials, Prog.exec_bind]
    have hissuer : ((issueCredential X configId config ctx holderJwk
        (draws.credential issued.length)).exec b).2.issuer = b.issuer := issueCredential_issuer
    generalize (issueCredential X configId config ctx holderJwk (draws.credential issued.length)).exec b
      = r at hissuer
    obtain ⟨answer, b₁⟩ := r
    cases answer with
    | error e => exact hissuer
    | ok credential =>
      have hrest := ih (issued ++ [credential]) b₁
      exact hrest.trans hissuer

lemma consumeNonces_get_none (holderKeys : List Jwk) (nonces : List String) {b : Backend σ}
    {nonce : String} (h : b.issuer.store.cNonces.get nonce = none) :
    ((consumeNonces X configId config ctx draws holderKeys nonces).exec
      b).2.issuer.store.cNonces.get nonce = none := by
  induction nonces generalizing b with
  | nil => rw [consumeNonces, issueCredentials_issuer, h]
  | cons n nonces ih =>
    have hspend : (spend b n).issuer.store.cNonces.get nonce = none := by
      have hget := spendAll_get [n] b nonce
      rw [h, ite_self] at hget
      exact hget
    rcases consumeNonces_exec_cons holderKeys n nonces b with ⟨-, heq⟩ | ⟨-, heq⟩
    · rw [heq]
      exact ih hspend
    · rw [heq]
      exact hspend

lemma consumeNonces_refused {holderKeys : List Jwk} {nonces : List String} {nonce : String}
    {b : Backend σ} (hmem : nonce ∈ nonces) (h : ¬ Valid b.issuer.store b.issuer.clock nonce) :
    ((consumeNonces X configId config ctx draws holderKeys nonces).exec b).1 =
      .error (.err .invalidNonce) := by
  induction nonces generalizing b with
  | nil => cases hmem
  | cons n nonces ih =>
    rcases consumeNonces_exec_cons (X := X) holderKeys n nonces b with ⟨hvalid, heq⟩ | ⟨-, heq⟩
    · have hne : nonce ≠ n := by
        rintro rfl
        exact h hvalid
      rw [heq]
      exact ih ((List.mem_cons.mp hmem).resolve_left hne) fun hs => h ((valid_spend hne).mp hs)
    · rw [heq]

lemma not_valid_of_get_none {s : InMemoryIssuerState} {now : ℤ} {nonce : String}
    (h : s.cNonces.get nonce = none) : ¬ Valid s now nonce := by
  rintro ⟨entry, hentry, -⟩
  rw [h] at hentry
  cases hentry

/-- The first nonce decides: a request that consumes it loses it for good, and one that does not
is refused on the spot. -/
lemma noLastingEffect_of_walk {holderKeys : List Jwk} {nonces : List String} {nonce : String}
    {b : Backend σ} (hhead : nonces.head? = some nonce) :
    NoLastingEffect b ((consumeNonces X configId config ctx draws holderKeys nonces).exec b).2 ↔
      ¬ Valid b.issuer.store b.issuer.clock nonce := by
  obtain ⟨rest, rfl⟩ : ∃ rest, nonces = nonce :: rest := by
    cases nonces with
    | nil => cases hhead
    | cons n rest => exact ⟨rest, by rw [Option.some.inj hhead]⟩
  rcases consumeNonces_exec_cons (X := X) holderKeys nonce rest b with ⟨hvalid, heq⟩ | ⟨hnot, heq⟩
  · have hgone : (spend b nonce).issuer.store.cNonces.get nonce = none := get_remove_self _ _
    refine iff_of_false (fun heffect => ?_) (not_not_intro hvalid)
    have hstill := heffect.nonces nonce hvalid
    rw [heq] at hstill
    exact not_valid_of_get_none (consumeNonces_get_none holderKeys rest hgone) hstill
  · refine iff_of_true ?_ hnot
    rw [heq]
    refine ⟨fun n hn => ?_, rfl⟩
    have hne : n ≠ nonce := by
      rintro rfl
      exact hnot hn
    exact (valid_spend hne).mpr hn

lemma noLastingEffect_congr {b b₁ b' : Backend σ} (hclock : b₁.issuer.clock = b.issuer.clock)
    (hnonces : b₁.issuer.store.cNonces = b.issuer.store.cNonces) (hstatus : b₁.status = b.status) :
    NoLastingEffect b₁ b' ↔ NoLastingEffect b b' := by
  have hvalid : ∀ nonce, Valid b₁.issuer.store b₁.issuer.clock nonce ↔
      Valid b.issuer.store b.issuer.clock nonce := by
    intro nonce
    rw [Valid, Valid, hclock, hnonces]
  constructor
  · rintro ⟨h, hs⟩
    exact ⟨fun nonce hn => h nonce ((hvalid nonce).mpr hn), hs.trans hstatus⟩
  · rintro ⟨h, hs⟩
    exact ⟨fun nonce hn => h nonce ((hvalid nonce).mp hn), hs.trans hstatus.symm⟩

lemma filterMap_proofNonce {issuerUrl : String} {now : ℤ} {jwts : List String}
    {proofs : List (Jwk × String)} (h : List.Forall₂ (fun jwt proof =>
      verifyProofJwt X jwt issuerUrl config now = .ok proof) jwts proofs) :
    jwts.filterMap (proofNonce X) = proofs.map Prod.snd := by
  induction h with
  | nil => rfl
  | cons hproof _ ih =>
    have hnonce := (signedBy_of_verifies hproof).2
    rw [List.filterMap_cons, hnonce, ih, List.map_cons]

lemma exists_head_nonces (draws : RequestDraws) {proofs : List (Jwk × String)} (h : proofs ≠ []) :
    ∃ nonce, (draws.nonces (proofs.map Prod.snd)).head? = some nonce := by
  have hwalks := draws.walks (proofs.map Prod.snd)
  cases hwalk : draws.nonces (proofs.map Prod.snd) with
  | nil =>
    rw [hwalk, List.nil_perm, List.dedup_eq_nil, List.map_eq_nil_iff] at hwalks
    exact absurd hwalks h
  | cons nonce nonces => exact ⟨nonce, rfl⟩

lemma noLastingEffect_of_verified {request : CredentialRequest} {token : String}
    {grant : AccessGrant} {b : Backend σ} {jwts : List String} {proofs : List (Jwk × String)}
    {nonce : String} (hgrant : (b.issuer.store.getAccessGrant b.issuer.clock token).1 = some grant)
    (hcheck : checkRequest request ctx.metadata grant = .ok (configId, config, jwts))
    (hproofs : List.Forall₂ (fun jwt proof =>
      verifyProofJwt X jwt ctx.issuerUrl config b.issuer.clock = .ok proof) jwts proofs)
    (hhead : (draws.nonces (proofs.map Prod.snd)).head? = some nonce) :
    NoLastingEffect b ((processCredentialRequest X request token ctx draws).exec b).2 ↔
      ¬ Valid b.issuer.store b.issuer.clock nonce := by
  obtain ⟨hclock, hnonces, hstatus⟩ := getAccessGrant_frame token b
  rw [exec_of_verified hgrant hcheck hproofs, ← noLastingEffect_congr hclock hnonces hstatus,
    noLastingEffect_of_walk hhead, Valid, hclock, hnonces, Valid]

/-! ### Refusals -/

/-- **A refused request leaves nothing behind** exactly if it is refused at its first nonce or
before. -/
theorem noLastingEffect_iff (request : CredentialRequest) (token : String)
    (ctx : IssuanceContext X σ) (draws : RequestDraws) (b : Backend σ) {e : CredentialError}
    {b' : Backend σ}
    (h : (processCredentialRequest X request token ctx draws).exec b = (.error (.err e), b')) :
    NoLastingEffect b b' ↔ ¬ ReachesValidNonce X request token ctx draws b := by
  have hb' : b' = ((processCredentialRequest X request token ctx draws).exec b).2 := by rw [h]
  -- looking the token up has no effect that lasts
  have hnothing : NoLastingEffect b (Calls.getAccessGrant token b).2 := by
    obtain ⟨hclock, hnonces, hstatus⟩ := getAccessGrant_frame token b
    rw [← noLastingEffect_congr hclock hnonces hstatus]
    exact ⟨fun _ hn => hn, rfl⟩
  -- the request gets to its nonces only if the token, the checks and the proofs pass
  cases hgrant : (Calls.getAccessGrant token b).1 with
  | none =>
    rw [hb', processCredentialRequest_exec, hgrant]
    refine iff_of_true hnothing ?_
    rintro ⟨grant, -, -, -, hgrant', -⟩
    exact absurd (hgrant.symm.trans hgrant') (by simp)
  | some grant =>
    cases hcheck : checkRequest request ctx.metadata grant with
    | error e =>
      rw [hb', processCredentialRequest_exec, hgrant]
      simp only [hcheck]
      refine iff_of_true hnothing ?_
      rintro ⟨grant', configId, config, -, hgrant', hcheck', -⟩
      obtain rfl : grant = grant' := Option.some.inj (hgrant.symm.trans hgrant')
      exact absurd (hcheck.symm.trans hcheck') (by simp)
    | ok checked =>
      obtain ⟨configId, config, jwts⟩ := checked
      obtain ⟨-, rfl, hnonempty, -⟩ := checkRequest_ok hcheck
      cases hproofs : (proofsOf request).mapM fun jwt =>
        verifyProofJwt X jwt ctx.issuerUrl config b.issuer.clock with
      | error e =>
        rw [hb', processCredentialRequest_exec, hgrant]
        simp only [hcheck, hproofs]
        refine iff_of_true hnothing ?_
        rintro ⟨grant', configId', config', -, hgrant', hcheck', hverify, -⟩
        obtain rfl : grant = grant' := Option.some.inj (hgrant.symm.trans hgrant')
        rw [hcheck, Except.ok.injEq, Prod.mk.injEq, Prod.mk.injEq] at hcheck'
        obtain ⟨rfl, rfl, -⟩ := hcheck'
        obtain ⟨proofs, hall⟩ := exists_mapM_of_forall hverify
        exact absurd (hproofs.symm.trans hall) (by simp)
      | ok proofs =>
        have hforall := mapM_eq_ok.mp hproofs
        have hfirst : firstNonce X request draws = (draws.nonces (proofs.map Prod.snd)).head? := by
          rw [firstNonce, filterMap_proofNonce hforall]
        obtain ⟨nonce, hhead⟩ := exists_head_nonces draws (fun hnil : proofs = [] => by
          rw [hnil] at hforall
          exact hnonempty (List.forall₂_nil_right_iff.mp hforall))
        -- all of them passed: it is up to the first nonce of the walk
        rw [hb', noLastingEffect_of_verified hgrant hcheck hforall hhead, not_iff_not]
        constructor
        · intro hvalid
          exact ⟨grant, configId, config, nonce, hgrant, hcheck, fun jwt hjwt =>
            (exists_of_mem_left hforall hjwt).imp fun _ hproof => hproof.2, hfirst.trans hhead, hvalid⟩
        · rintro ⟨-, -, -, nonce', -, -, -, hnonce', hvalid⟩
          obtain rfl : nonce = nonce' := Option.some.inj ((hfirst.trans hhead).symm.trans hnonce')
          exact hvalid

/-! ### A batch with two nonces -/

section Sample

def spareInput : Bytes :=
  walletInput (walletHeader "openid4vci-proof+jwt" (holderJwk otherX otherY none))
    (possessionClaims sampleUrl "n-2" 1767225600)

/-- The second wallet signs for a nonce that was never given out. -/
def unmatched : Table :=
  { issuance with
    signatures := ((bigEndian 32 otherX, bigEndian 32 otherY), [(spareInput,
      bigEndian 32 0x3a65a1df796857e9073e76f8823f6abc1ad01de4bc0cfc3d88c653847d3b98ee ++
        bigEndian 32 0xf05d67a6169f6e7876d72a46a891b6716662870de0517e9924f613d77584757f)]) ::
      issuance.signatures }

def unmatchedContext : IssuanceContext unmatched.crates Unit where
  issuerKey := (unmatched.key issuerX issuerY).toKeyPair unmatched.crates
  issuerUrl := sampleUrl
  metadata := sampleMetadata
  allocateStatus := fun _ status => some (.ok none, status)
  x5c := none
  mdoc := none

def holderProof : String := possessionProof unmatched holderX holderY none sampleUrl "n-1" 1767225600

def otherProof : String := possessionProof unmatched otherX otherY none sampleUrl "n-2" 1767225600

def backwards : RequestDraws :=
  { sampleDraws with
    nonces := fun ns => ns.dedup.reverse
    walks := fun _ => List.reverse_perm _ }

lemma holderProof_verifies :
    verifyProofJwt unmatched.crates holderProof sampleUrl sampleConfiguration (seconds 1767225610) =
      .ok (holderJwk holderX holderY none, "n-1") :=
  possessionProof_verifies holderX holderY none "n-1" (by decide) (by decide) (by decide) (by decide)

lemma otherProof_verifies :
    verifyProofJwt unmatched.crates otherProof sampleUrl sampleConfiguration (seconds 1767225610) =
      .ok (holderJwk otherX otherY none, "n-2") :=
  possessionProof_verifies otherX otherY none "n-2" (by decide) (by decide) (by decide) (by decide)

lemma sample_valid : Valid sampleStore (seconds 1767225610) "n-1" :=
  ⟨⟨seconds 1767225600, 300⟩, get_insert_self _ _ _, by decide⟩

lemma sample_not_valid : ¬ Valid sampleStore (seconds 1767225610) "n-2" := by
  apply not_valid_of_get_none
  have hget : sampleStore.cNonces = empty.insert "n-1" ⟨seconds 1767225600, 300⟩ := rfl
  rw [hget, get_insert_of_ne _ _ (by decide), get_empty]

lemma unmatched_check (proof proof' : String) :
    checkRequest (requestOf [proof, proof']) unmatchedContext.metadata ⟨["id"], [], none⟩ =
      .ok ("id", sampleConfiguration, [proof, proof']) :=
  sample_check (by simp) (by simp)

lemma unmatched_proofs : List.Forall₂ (fun jwt proof => verifyProofJwt unmatched.crates jwt
    unmatchedContext.issuerUrl sampleConfiguration sampleBackend.issuer.clock = .ok proof)
    [holderProof, otherProof]
    [(holderJwk holderX holderY none, "n-1"), (holderJwk otherX otherY none, "n-2")] := by
  have hproof := holderProof_verifies
  have hproof' := otherProof_verifies
  generalize holderProof = proof at hproof ⊢
  generalize otherProof = proof' at hproof' ⊢
  exact .cons hproof (.cons hproof' .nil)

/-- The batch is refused, in whatever order its nonces are walked. -/
lemma unmatched_refused (draws : RequestDraws) : ∃ b',
    (processCredentialRequest unmatched.crates (requestOf [holderProof, otherProof]) "token"
      unmatchedContext draws).exec sampleBackend = (.error (.err .invalidNonce), b') := by
  have hproofs := unmatched_proofs
  generalize holderProof = proof at hproofs ⊢
  generalize otherProof = proof' at hproofs ⊢
  have hmem : "n-2" ∈ draws.nonces ["n-1", "n-2"] := by
    rw [(draws.walks _).mem_iff]
    decide
  obtain ⟨hclock, hnonces, -⟩ := getAccessGrant_frame "token" sampleBackend
  have hexec : (processCredentialRequest unmatched.crates (requestOf [proof, proof']) "token"
      unmatchedContext draws).exec sampleBackend = _ :=
    exec_of_verified sample_grant (unmatched_check proof proof') hproofs
  have hinvalid : ¬ Valid (Calls.getAccessGrant "token" sampleBackend).2.issuer.store
      (Calls.getAccessGrant "token" sampleBackend).2.issuer.clock "n-2" := by
    rw [Valid, hclock, hnonces]
    exact sample_not_valid
  rw [hexec]
  exact ⟨_, Prod.ext (consumeNonces_refused hmem hinvalid) rfl⟩

/-- The first nonce was given out, the second was not: the batch is refused, and the first nonce
is lost. -/
theorem unmatched_burns : ∃ b',
    (processCredentialRequest unmatched.crates (requestOf [holderProof, otherProof]) "token"
      unmatchedContext sampleDraws).exec sampleBackend = (.error (.err .invalidNonce), b') ∧
    ¬ NoLastingEffect sampleBackend b' := by
  obtain ⟨b', hrefused⟩ := unmatched_refused sampleDraws
  refine ⟨b', hrefused, ?_⟩
  have hproofs := unmatched_proofs
  generalize holderProof = proof at hproofs hrefused
  generalize otherProof = proof' at hproofs hrefused
  have hhead : (sampleDraws.nonces ["n-1", "n-2"]).head? = some "n-1" := by decide
  have heffect : NoLastingEffect sampleBackend ((processCredentialRequest unmatched.crates
      (requestOf [proof, proof']) "token" unmatchedContext sampleDraws).exec sampleBackend).2 ↔ _ :=
    noLastingEffect_of_verified sample_grant (unmatched_check proof proof') hproofs hhead
  rw [hrefused] at heffect
  exact fun h => heffect.mp h sample_valid

/-- Refused at the nonce that was not given out, the batch leaves nothing behind. -/
theorem unmatched_backwards : ∃ b',
    (processCredentialRequest unmatched.crates (requestOf [holderProof, otherProof]) "token"
      unmatchedContext backwards).exec sampleBackend = (.error (.err .invalidNonce), b') ∧
    NoLastingEffect sampleBackend b' := by
  obtain ⟨b', hrefused⟩ := unmatched_refused backwards
  refine ⟨b', hrefused, (noLastingEffect_iff _ _ _ _ _ hrefused).mpr ?_⟩
  rintro ⟨-, -, -, nonce, -, -, -, hfirst, hvalid⟩
  have hsecond : firstNonce unmatched.crates (requestOf [holderProof, otherProof]) backwards =
      some "n-2" := by
    have hproofs := unmatched_proofs
    generalize holderProof = proof at hproofs ⊢
    generalize otherProof = proof' at hproofs ⊢
    have hnonces : [proof, proof'].filterMap (proofNonce unmatched.crates) = ["n-1", "n-2"] :=
      filterMap_proofNonce hproofs
    have hrequest : proofsOf (requestOf [proof, proof']) = [proof, proof'] := rfl
    rw [firstNonce, hrequest, hnonces]
    decide
  obtain rfl : nonce = "n-2" := Option.some.inj (hfirst.symm.trans hsecond)
  exact sample_not_valid hvalid

end Sample

end Oid4vc.Burnt
