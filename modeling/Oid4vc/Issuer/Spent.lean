import Oid4vc.Issuer.Batch
import Oid4vc.Issuer.Effects
import Oid4vc.Issuer.Tokens

/-!
Nonces and pre-authorized codes under concurrency.

Credential requests, nonce requests, token requests and offers run on one backend, call by call.
A nonce is spent by the request that consumes it, and a pre-authorized code by the one that
redeems it; each of them only once, whatever the interleaving.
-/

namespace Oid4vc.Spent

open Oid4vc.Run Oid4vc.Fallible Oid4vc.Atomic Oid4vc.Spending Oid4vc.PartialMap Oid4vc.Instant
open Oid4vc.JsonValue Oid4vc.Jwks Oid4vc.External Oid4vc.Oid4vci Oid4vc.IssuerStore
open Oid4vc.Credential Oid4vc.Processing
open Oid4vc.Batch Oid4vc.Offer Oid4vc.Token Oid4vc.Endpoints Oid4vc.Effects

variable {θ α β : Type}

/-! ### The requests as threads -/

section Requests

variable (X : Crates) (σ : Type)

/-- What is asked of the issuer. -/
inductive Request
  | credential (request : CredentialRequest) (accessToken : String) (ctx : IssuanceContext X σ)
    (draws : RequestDraws)
  | nonce (expiresIn : ℕ)
  | token (request : TokenRequest) (ctx : TokenContext)
  | offer (issuerUrl : String) (params : OfferParams) (txCode : Option String)

inductive Reply
  | credential (a : Credential.Answer)
  | nonce (nonce : String)
  | token (a : Token.Answer)
  | offer (offer : CredentialOffer)

variable {σ}

/-- A call on the issuer's own world. -/
def onIssuer (op : IssuerWorld → β × IssuerWorld) : Backend σ → β × Backend σ :=
  Prog.through Backend.issuer (fun b w => { b with issuer := w }) op

def Request.prog : Request X σ → Prog (Backend σ) Reply
  | .credential request accessToken ctx draws =>
    (processCredentialRequest X request accessToken ctx draws).bind fun a => .ret (.credential a)
  | .nonce expiresIn => .call (onIssuer (newNonce X expiresIn)) fun nonce => .ret (.nonce nonce)
  | .token request ctx =>
    ((processTokenRequest X request ctx).zoom Backend.issuer fun b w => { b with issuer := w }).bind
      fun a => .ret (.token a)
  | .offer issuerUrl params txCode =>
    .call (onIssuer (makeOffer X issuerUrl params txCode)) fun offer => .ret (.offer offer)

variable [DecidableEq θ]

/-- The requests on one backend; the outside sets the clock. -/
abbrev backend (θ σ : Type) [DecidableEq θ] :
    Machine (Pool θ (Backend σ) Reply) (Event θ ℤ) Unit :=
  machine θ (Backend σ) Reply fun t b => { b with issuer := { b.issuer with clock := t } }

variable {X}

/-- Each thread about to process its request. -/
def start (requests : θ → Request X σ) (b : Backend σ) : Pool θ (Backend σ) Reply where
  shared := b
  prog t := (requests t).prog X

def offeredCode (offer : CredentialOffer) : Option String :=
  (offer.grants.bind Grants.preAuthorizedCode).map PreAuthorizedCodeGrant.preAuthorizedCode

variable (requests : θ → Request X σ) (b : Backend σ) (p : Pool θ (Backend σ) Reply)

/-- The thread was issued credentials, for proofs one of which carries this nonce. -/
def BackedBy (t : θ) (nonce : String) : Prop :=
  ∃ request token ctx draws response, requests t = .credential request token ctx draws ∧
    (p.prog t).answer = some (.credential (.ok response)) ∧
    ∃ jwt ∈ proofsOf request, proofNonce X jwt = some nonce

/-- The thread was given an access token for this code, having presented this transaction code. -/
def MintedFrom (t : θ) (code : String) (txCode : Option String) : Prop :=
  ∃ request ctx response, requests t = .token request ctx ∧ RedeemsOffer request code ∧
    (p.prog t).answer = some (.token (.ok response)) ∧ request.txCode = txCode

/-- The code was offered with this transaction code, by a thread or before. -/
def OfferedWith (code : String) (txCode : Option String) : Prop :=
  (∃ entry, b.issuer.store.preAuthCodes.get code = some entry ∧ entry.txCode = txCode) ∨
    ∃ t issuerUrl params offer, requests t = .offer issuerUrl params txCode ∧
      (p.prog t).answer = some (.offer offer) ∧ offeredCode offer = some code

/-- **Single-use secrets are spent at most once.** -/
structure SpentOnce : Prop where
  /-- A nonce backs one response. -/
  nonces : ∀ nonce t u, BackedBy requests p t nonce → BackedBy requests p u nonce → t = u
  /-- A pre-authorized code mints one token. -/
  codes : ∀ code t u txCode txCode', MintedFrom requests p t code txCode →
    MintedFrom requests p u code txCode' → t = u
  /-- Who was given it has presented what the offer bound the code to. -/
  bound : ∀ code t txCode, MintedFrom requests p t code txCode →
    ∀ txCode', OfferedWith requests b p code txCode' ↔ txCode' = txCode
  /-- Who presents anything else does not spend a code. -/
  wrong : ∀ t request ctx code, requests t = .token request ctx → RedeemsOffer request code →
    ¬ OfferedWith requests b p code request.txCode →
    (p.advance t).shared.issuer.store.preAuthCodes = p.shared.issuer.store.preAuthCodes

end Requests

variable {X : Crates} {σ : Type}

/-! ### The ledger -/

/-- What can be had once: a nonce, a pre-authorized code with the transaction code that it takes,
and the offer of such a code. -/
inductive Resource
  | nonce (nonce : String)
  | code (code : String) (txCode : Option String)
  | offered (code : String) (txCode : Option String)

/-- The identifiers still to be drawn are no nonces and no codes yet. -/
def Unused (X : Crates) (w : IssuerWorld) : Prop :=
  ∀ i, w.drawn ≤ i → w.store.cNonces.get (X.uuid i) = none ∧
    w.store.preAuthCodes.get (X.uuid i) = none

/-- A nonce is spent if it is gone, and not still to come; a code, if it is marked so. -/
def SpentIn (X : Crates) (w : IssuerWorld) : Resource → Prop
  | .nonce nonce => w.store.cNonces.get nonce = none ∧ ∀ i, w.drawn ≤ i → nonce ≠ X.uuid i
  | .code code txCode => ∃ entry, w.store.preAuthCodes.get code = some entry ∧
      entry.txCode = txCode ∧ entry.consumed = true
  | .offered code txCode => ∃ entry, w.store.preAuthCodes.get code = some entry ∧
      entry.txCode = txCode

def ledger (X : Crates) (σ : Type) : Ledger (Backend σ) Resource :=
  ⟨fun b => Unused X b.issuer, fun b => SpentIn X b.issuer⟩

/-- The nonces in the proofs of a request, which it has to consume. -/
def Needs (X : Crates) (request : CredentialRequest) (nonce : String) : Prop :=
  ∃ jwt ∈ proofsOf request, proofNonce X jwt = some nonce

/-- What a credential request owes for its answer. -/
def OwesNonces (X : Crates) (request : CredentialRequest) : Credential.Answer → Resource → Prop
  | .ok _, .nonce nonce => Needs X request nonce
  | _, _ => False

/-- What a token request owes for its answer. -/
def OwesCode (request : TokenRequest) : Token.Answer → Resource → Prop
  | .ok _, .code code txCode => RedeemsOffer request code ∧ request.txCode = txCode
  | _, _ => False

/-- What a reply is worth. -/
def Owes : Request X σ → Reply → Resource → Prop
  | .credential request _ _ _, .credential a, r => OwesNonces X request a r
  | .token request _, .token a, r => OwesCode request a r
  | .offer _ _ txCode', .offer offer, .offered code txCode =>
    offeredCode offer = some code ∧ txCode' = txCode
  | _, _, _ => False

/-! ### What the calls keep -/

/-- Nothing happens to nonces and codes. -/
structure SameSecrets (w w' : IssuerWorld) : Prop where
  nonces : w'.store.cNonces = w.store.cNonces
  codes : w'.store.preAuthCodes = w.store.preAuthCodes
  drawn : w.drawn ≤ w'.drawn

/-- A call that leaves nonces and codes alone. -/
def Calm (β : Type) (op : IssuerWorld → β × IssuerWorld) : Prop := ∀ w, SameSecrets w (op w).2

/-- A call on the backend that leaves them alone. -/
def BackendCalm (β : Type) (op : Backend σ → β × Backend σ) : Prop :=
  ∀ b, SameSecrets b.issuer (op b).2.issuer

/-- A call that leaves the codes alone. -/
def KeepsCodes (β : Type) (op : Backend σ → β × Backend σ) : Prop :=
  ∀ b, (op b).2.issuer.store.preAuthCodes = b.issuer.store.preAuthCodes

/-- A call that keeps the ledger and leaves the codes alone. -/
def Careful (X : Crates) (β : Type) (op : Backend σ → β × Backend σ) : Prop :=
  (ledger X σ).Keeps β op ∧ KeepsCodes β op

lemma SameSecrets.keeps {w w' : IssuerWorld} (h : SameSecrets w w') (hunused : Unused X w) :
    Unused X w' ∧ ∀ r, SpentIn X w r → SpentIn X w' r := by
  obtain ⟨hnonces, hcodes, hdrawn⟩ := h
  refine ⟨fun i hi => ?_, fun r hr => ?_⟩
  · rw [hnonces, hcodes]
    exact hunused i (by omega)
  · cases r with
    | nonce nonce =>
      obtain ⟨hgone, hnever⟩ := hr
      exact ⟨by rw [hnonces]; exact hgone, fun i hi => hnever i (by omega)⟩
    | code code txCode =>
      unfold SpentIn at hr ⊢
      rw [hcodes]
      exact hr
    | offered code txCode =>
      unfold SpentIn at hr ⊢
      rw [hcodes]
      exact hr

lemma BackendCalm.careful {op : Backend σ → β × Backend σ} (h : BackendCalm β op) :
    Careful X β op :=
  ⟨fun b hb => (h b).keeps hb, fun b => (h b).codes⟩

lemma SameSecrets.refl (w : IssuerWorld) : SameSecrets w w := ⟨rfl, rfl, Nat.le_refl _⟩

lemma careful_consumeCNonce (nonce : String) :
    Careful X Bool (Calls.consumeCNonce (σ := σ) nonce) := by
  refine ⟨fun b hb => ?_, fun b => ?_⟩
  · rw [consumeCNonce_eq]
    refine ⟨fun i hi => ⟨?_, (hb i hi).2⟩, fun r hr => ?_⟩
    · have hget := spendAll_get [nonce] b (X.uuid i)
      rw [(hb i hi).1, ite_self] at hget
      exact hget
    · cases r with
      | nonce other =>
        have hget := spendAll_get [nonce] b other
        rw [hr.1, ite_self] at hget
        exact ⟨hget, hr.2⟩
      | code code txCode => exact hr
      | offered code txCode => exact hr
  · rw [consumeCNonce_eq]
    rfl

lemma gains_consumeCNonce (nonce : String) :
    (ledger X σ).Gains (Calls.consumeCNonce nonce) fun valid =>
      if valid = true then some (.nonce nonce) else none := by
  intro b hb r hr
  rw [consumeCNonce_eq] at hr ⊢
  simp only at hr
  split_ifs at hr with hvalid
  cases hr
  obtain ⟨entry, hentry, -⟩ := consumeCNonce_valid.mp hvalid
  refine ⟨fun hspent => ?_, get_remove_self _ _, fun i hi heq => ?_⟩
  · rw [hspent.1] at hentry
    cases hentry
  · rw [heq, (hb i hi).1] at hentry
    cases hentry

lemma careful_newNonce (huuid : Function.Injective X.uuid) (expiresIn : ℕ) :
    Careful X String (onIssuer (σ := σ) (newNonce X expiresIn)) := by
  refine ⟨fun b hb => ⟨fun i hi => ?_, fun r hr => ?_⟩, fun b => rfl⟩
  · have hlt : b.issuer.drawn < i := hi
    have hne : X.uuid i ≠ X.uuid b.issuer.drawn := fun heq => by
      have := huuid heq
      omega
    obtain ⟨hnonce, hcode⟩ := hb i (by omega)
    exact ⟨(get_insert_of_ne _ _ hne).trans hnonce, hcode⟩
  · cases r with
    | nonce nonce =>
      obtain ⟨hgone, hnever⟩ := hr
      have hne : nonce ≠ X.uuid b.issuer.drawn := hnever _ (Nat.le_refl _)
      refine ⟨(get_insert_of_ne _ _ hne).trans hgone, fun i hi => hnever i ?_⟩
      have hlt : b.issuer.drawn < i := hi
      omega
    | code code txCode => exact hr
    | offered code txCode => exact hr

/-- What redeeming a code does: nothing, or the one with that transaction code is consumed. -/
lemma redeem_cases (code : String) (txCode : Option String) (b : Backend σ) :
    onIssuer (Calls.redeemPreAuthorizedCode code txCode) b = (none, b) ∨
      ∃ entry, b.issuer.store.preAuthCodes.get code = some entry ∧ entry.consumed = false ∧
        entry.txCode = txCode ∧ onIssuer (Calls.redeemPreAuthorizedCode code txCode) b =
          (some entry.credentialConfigurationIds, { b with issuer := { b.issuer with
            store := { b.issuer.store with preAuthCodes :=
              b.issuer.store.preAuthCodes.insert code { entry with consumed := true } } } }) := by
  unfold onIssuer Prog.through Calls.redeemPreAuthorizedCode
  unfold InMemoryIssuerState.redeemPreAuthorizedCode
  cases hentry : b.issuer.store.preAuthCodes.get code with
  | none => exact Or.inl rfl
  | some entry =>
    simp only
    split_ifs with hused
    · exact Or.inl rfl
    · rw [not_or, not_not] at hused
      exact Or.inr ⟨entry, rfl, by simpa using hused.1, hused.2, rfl⟩

/-- A code that is consumed keeps its transaction code, and the others keep theirs. -/
lemma exists_entry_insert {m : PMap String PreAuthEntry} {code other : String}
    {entry entry' : PreAuthEntry} (hentry : m.get code = some entry)
    (hentry' : m.get other = some entry') :
    ∃ e, (m.insert code { entry with consumed := true }).get other = some e ∧
      e.txCode = entry'.txCode ∧ (entry'.consumed = true → e.consumed = true) := by
  by_cases hother : other = code
  · rw [hother, hentry, Option.some.injEq] at hentry'
    rw [hother, ← hentry']
    exact ⟨_, get_insert_self _ _ _, rfl, fun _ => rfl⟩
  · exact ⟨entry', (get_insert_of_ne _ _ hother).trans hentry', rfl, id⟩

lemma keeps_redeem (code : String) (txCode : Option String) :
    (ledger X σ).Keeps _ (onIssuer (Calls.redeemPreAuthorizedCode code txCode)) := by
  intro b hb
  rcases redeem_cases code txCode b with heq | ⟨entry, hentry, -, -, heq⟩
  · rw [heq]
    exact ⟨hb, fun r hr => hr⟩
  · rw [heq]
    refine ⟨fun i hi => ⟨(hb i hi).1, ?_⟩, fun r hr => ?_⟩
    · have hne : X.uuid i ≠ code := by
        rintro rfl
        rw [(hb i hi).2] at hentry
        cases hentry
      exact (get_insert_of_ne _ _ hne).trans (hb i hi).2
    · cases r with
      | nonce nonce => exact hr
      | code other txCode' =>
        obtain ⟨entry', hentry', htxCode, hconsumed⟩ := hr
        obtain ⟨e, he, hsame, hstill⟩ := exists_entry_insert hentry hentry'
        exact ⟨e, he, hsame.trans htxCode, hstill hconsumed⟩
      | offered other txCode' =>
        obtain ⟨entry', hentry', htxCode⟩ := hr
        obtain ⟨e, he, hsame, -⟩ := exists_entry_insert hentry hentry'
        exact ⟨e, he, hsame.trans htxCode⟩

lemma gains_redeem (code : String) (txCode : Option String) :
    (ledger X σ).Gains (onIssuer (Calls.redeemPreAuthorizedCode code txCode)) fun answer =>
      answer.map fun _ => .code code txCode := by
  intro b hb r hr
  rcases redeem_cases code txCode b with heq | ⟨entry, hentry, hunused, htxCode, heq⟩
  · rw [heq] at hr
    cases hr
  · rw [heq] at hr ⊢
    cases hr
    refine ⟨?_, { entry with consumed := true }, get_insert_self _ _ _, htxCode, rfl⟩
    rintro ⟨entry', hentry', -, hconsumed⟩
    have hsame : entry = entry' := Option.some.inj (hentry.symm.trans hentry')
    rw [← hsame, hunused] at hconsumed
    cases hconsumed

/-- What making an offer does: nothing to nonces and codes, or it stores a code that is new. -/
lemma makeOffer_cases (issuerUrl : String) (params : OfferParams) (txCode : Option String)
    (w : IssuerWorld) :
    (offeredCode (makeOffer X issuerUrl params txCode w).1 = none ∧
      SameSecrets w (makeOffer X issuerUrl params txCode w).2) ∨
    ∃ i, w.drawn ≤ i ∧ offeredCode (makeOffer X issuerUrl params txCode w).1 = some (X.uuid i) ∧
      (makeOffer X issuerUrl params txCode w).2.drawn = i + 1 ∧
      (makeOffer X issuerUrl params txCode w).2.store =
        w.store.storePreAuthorizedCode (X.uuid i) txCode params.credentialConfigurationIds := by
  unfold makeOffer createOffer storeOffer
  cases params.usePreAuthorizedCode with
  | false => exact Or.inl ⟨rfl, rfl, rfl, by simp⟩
  | true => exact Or.inr ⟨_, Nat.le_add_right _ _, rfl, rfl, rfl⟩

lemma keeps_makeOffer (huuid : Function.Injective X.uuid) (issuerUrl : String)
    (params : OfferParams) (txCode : Option String) :
    (ledger X σ).Keeps _ (onIssuer (makeOffer X issuerUrl params txCode)) := by
  intro b hb
  rcases makeOffer_cases (X := X) issuerUrl params txCode b.issuer with ⟨-, hsame⟩ |
    ⟨i, hi, -, hdrawn, hstore⟩
  · exact hsame.keeps hb
  · have hnonces : (makeOffer X issuerUrl params txCode b.issuer).2.store.cNonces =
        b.issuer.store.cNonces := by rw [hstore]; rfl
    have hcodes : ∀ code, code ≠ X.uuid i →
        (makeOffer X issuerUrl params txCode b.issuer).2.store.preAuthCodes.get code =
          b.issuer.store.preAuthCodes.get code := by
      intro code hne
      rw [hstore]
      exact get_insert_of_ne _ _ hne
    -- the code is one that was never drawn, so no other code is replaced
    have hold : ∀ {code : String} {entry : PreAuthEntry},
        b.issuer.store.preAuthCodes.get code = some entry → code ≠ X.uuid i := by
      rintro code entry hentry rfl
      rw [(hb i hi).2] at hentry
      cases hentry
    refine ⟨fun j hj => ?_, fun r hr => ?_⟩
    · have hlt : i < j := by
        have : (makeOffer X issuerUrl params txCode b.issuer).2.drawn ≤ j := hj
        omega
      have hne : X.uuid j ≠ X.uuid i := fun heq => by
        have := huuid heq
        omega
      obtain ⟨hnonce, hcode⟩ := hb j (by omega)
      exact ⟨(congrArg (fun m => m.get (X.uuid j)) hnonces).trans hnonce, (hcodes _ hne).trans hcode⟩
    · cases r with
      | nonce nonce =>
        obtain ⟨hgone, hnever⟩ := hr
        refine ⟨(congrArg (fun m => m.get nonce) hnonces).trans hgone, fun j hj => hnever j ?_⟩
        have : (makeOffer X issuerUrl params txCode b.issuer).2.drawn ≤ j := hj
        omega
      | code code txCode' =>
        obtain ⟨entry, hentry, h⟩ := hr
        exact ⟨entry, (hcodes code (hold hentry)).trans hentry, h⟩
      | offered code txCode' =>
        obtain ⟨entry, hentry, h⟩ := hr
        exact ⟨entry, (hcodes code (hold hentry)).trans hentry, h⟩

lemma gains_makeOffer (issuerUrl : String) (params : OfferParams) (txCode : Option String) :
    (ledger X σ).Gains (onIssuer (makeOffer X issuerUrl params txCode)) fun offer =>
      (offeredCode offer).map fun code => .offered code txCode := by
  intro b hb r hr
  have hanswer : (onIssuer (makeOffer X issuerUrl params txCode) b).1 =
      (makeOffer X issuerUrl params txCode b.issuer).1 := rfl
  simp only [hanswer] at hr
  rcases makeOffer_cases (X := X) issuerUrl params txCode b.issuer with ⟨hnone, -⟩ |
    ⟨i, hi, hcode, -, hstore⟩
  · rw [hnone] at hr
    cases hr
  · rw [hcode] at hr
    cases hr
    refine ⟨?_, ⟨txCode, params.credentialConfigurationIds, false⟩, ?_, rfl⟩
    · rintro ⟨entry, hentry, -⟩
      have hnone := (hb i hi).2
      rw [hnone] at hentry
      cases hentry
    · have hget : (makeOffer X issuerUrl params txCode b.issuer).2.store.preAuthCodes.get
          (X.uuid i) = some ⟨txCode, params.credentialConfigurationIds, false⟩ := by
        rw [hstore]
        exact get_insert_self _ _ _
      exact hget

/-! ### What the programs do -/

lemma calm_readClock : Calm ℤ Token.Calls.readClock := SameSecrets.refl

lemma calm_newUuids (n : ℕ) : Calm (List String) (Token.Calls.newUuids X n) :=
  fun _ => ⟨rfl, rfl, Nat.le_add_right _ _⟩

lemma calm_getSessionByCode (code : String) :
    Calm (Option AuthorizationSession) (Token.Calls.getSessionByCode code) := SameSecrets.refl

lemma calm_consumeAuthorizationCode (code : String) :
    Calm Unit (Token.Calls.consumeAuthorizationCode code) := by
  intro w
  unfold Token.Calls.consumeAuthorizationCode InMemoryIssuerState.consumeAuthorizationCode
  cases w.store.codeToUri.get code <;> exact ⟨rfl, rfl, Nat.le_refl _⟩

lemma calm_recordTokenForCode (code accessToken : String) :
    Calm Unit (Token.Calls.recordTokenForCode code accessToken) := fun _ => ⟨rfl, rfl, Nat.le_refl _⟩

lemma calm_revokeTokensForCode (code : String) :
    Calm Unit (Token.Calls.revokeTokensForCode code) := by
  intro w
  unfold Token.Calls.revokeTokensForCode InMemoryIssuerState.revokeTokensForCode
  cases w.store.tokensByCode.get code <;> exact ⟨rfl, rfl, Nat.le_refl _⟩

lemma calm_storeAccessToken (token : String) (grant : AccessGrant) (expiresIn : ℕ) :
    Calm Unit (Token.Calls.storeAccessToken token grant expiresIn) := fun _ => ⟨rfl, rfl, Nat.le_refl _⟩

lemma calm_grant : GrantCalls Calm X where
  readClock := calm_readClock
  newUuids := calm_newUuids
  getSessionByCode := calm_getSessionByCode
  consumeAuthorizationCode := calm_consumeAuthorizationCode
  recordTokenForCode := calm_recordTokenForCode
  revokeTokensForCode := calm_revokeTokensForCode
  storeAccessToken := calm_storeAccessToken

/-- A token request that redeems a pre-authorized code does so first; the others leave the codes
alone. -/
lemma processTokenRequest_cases (request : TokenRequest) (ctx : TokenContext) :
    (∃ e, processTokenRequest X request ctx = .ret (.error e)) ∨
      ((∀ code, ¬ RedeemsOffer request code) ∧ Within Calm (processTokenRequest X request ctx)) ∨
      ∃ code k, RedeemsOffer request code ∧ processTokenRequest X request ctx =
          .call (Token.Calls.redeemPreAuthorizedCode code request.txCode) k ∧
        (∃ e, k none = .ret (.error e)) ∧ ∀ ids, Within Calm (k ids) := by
  unfold processTokenRequest
  split_ifs with hclient hgrant hpre
  · exact Or.inl ⟨_, rfl⟩
  · refine Or.inr (Or.inl ⟨fun code hcode => ?_, within_processAuthorizationCodeGrant calm_grant request ctx⟩)
    rw [hcode.1] at hgrant
    exact absurd hgrant (by decide)
  · unfold processPreAuthorizedCodeGrant
    cases hcode : request.preAuthorizedCode with
    | none => exact Or.inl ⟨_, rfl⟩
    | some code =>
      refine Or.inr (Or.inr ⟨code, _, ⟨hpre, hcode⟩, rfl, ⟨_, rfl⟩, fun ids => ?_⟩)
      cases ids with
      | none => exact .ret _
      | some configIds => exact (within_issueAccessToken calm_grant _ _ _).bind fun response => .ret _
  · exact Or.inl ⟨_, rfl⟩

variable {configId : String} {config : CredentialConfiguration} {ctx : IssuanceContext X σ}

lemma careful_readClock : Careful X ℤ (Credential.Calls.readClock (σ := σ)) :=
  BackendCalm.careful fun b => .refl b.issuer

lemma careful_getAccessGrant (token : String) :
    Careful X (Option AccessGrant) (Credential.Calls.getAccessGrant (σ := σ) token) := by
  refine BackendCalm.careful fun b => ?_
  unfold Credential.Calls.getAccessGrant InMemoryIssuerState.getAccessGrant
  cases b.issuer.store.accessTokens.get token with
  | none => exact .refl _
  | some entry =>
    simp only
    split_ifs
    · exact .refl _
    · exact ⟨rfl, rfl, Nat.le_refl _⟩

lemma careful_allocate {ρ : Type} (alloc : StatusAllocator σ ρ) (draws : List ℕ) :
    Careful X (Option (Except String (Option ρ))) (Credential.Calls.allocate alloc draws) := by
  refine BackendCalm.careful fun b => ?_
  unfold Credential.Calls.allocate
  cases alloc draws b.status <;> exact .refl _

lemma careful_issuing : IssuingCalls (Careful X) ctx where
  readClock := careful_readClock
  allocate := careful_allocate _
  allocateMdoc _ _ := careful_allocate _

lemma pays_consumeNonces {request : CredentialRequest} (draws : RequestDraws)
    (holderKeys : List Jwk) (nonces : List String) {held : Resource → Prop}
    (h : ∀ nonce, Needs X request nonce → held (.nonce nonce) ∨ nonce ∈ nonces) :
    (ledger X σ).Pays (Careful X) (OwesNonces X request) held
      (consumeNonces X configId config ctx draws holderKeys nonces) := by
  induction nonces generalizing held with
  | nil =>
    refine pays_of_within (within_issueCredentials careful_issuing draws holderKeys []) fun a r hr => ?_
    cases a with
    | error e => cases hr
    | ok response =>
      cases r with
      | nonce nonce => exact (h nonce hr).resolve_right List.not_mem_nil
      | code code txCode => cases hr
      | offered code txCode => cases hr
  | cons nonce nonces ih =>
    refine .call _ (careful_consumeCNonce nonce) (gains_consumeCNonce nonce) fun valid => ?_
    by_cases hvalid : valid = true
    · simp only [if_pos hvalid]
      refine ih fun other hother => ?_
      rcases h other hother with hheld | hmem
      · exact Or.inl (Or.inr hheld)
      · rcases List.mem_cons.mp hmem with rfl | hmem
        · exact Or.inl (Or.inl rfl)
        · exact Or.inr hmem
    · simp only [if_neg hvalid]
      exact .ret fun r hr => by cases hr

lemma pays_verifyProofs {request : CredentialRequest} (draws : RequestDraws)
    (jwts : List String) (verified : List (Jwk × String))
    (h : ∀ jwt ∈ proofsOf request, jwt ∈ jwts ∨
      ∃ proof ∈ verified, proofNonce X jwt = some proof.2) {held : Resource → Prop} :
    (ledger X σ).Pays (Careful X) (OwesNonces X request) held
      (verifyProofs X configId config ctx draws jwts verified) := by
  induction jwts generalizing verified with
  | nil =>
    refine pays_consumeNonces draws _ _ fun nonce hneeds => Or.inr ?_
    obtain ⟨jwt, hjwt, hnonce⟩ := hneeds
    obtain ⟨proof, hproof, hsame⟩ := (h jwt hjwt).resolve_left List.not_mem_nil
    rw [hnonce, Option.some.injEq] at hsame
    rw [hsame, (draws.walks _).mem_iff, List.mem_dedup]
    exact List.mem_map_of_mem hproof
  | cons jwt jwts ih =>
    refine pays_call careful_readClock fun now => ?_
    cases hproof : verifyProofJwt X jwt ctx.issuerUrl config now with
    | error e => exact .ret fun r hr => by cases hr
    | ok proof =>
      refine ih _ fun other hother => ?_
      rcases h other hother with hmem | ⟨proof', hmem, hsame⟩
      · rcases List.mem_cons.mp hmem with rfl | hmem
        · have hnonce : proofNonce X other = some proof.2 := (signedBy_of_verifies hproof).2
          exact Or.inr ⟨proof, List.mem_append_right _ List.mem_cons_self, hnonce⟩
        · exact Or.inl hmem
      · exact Or.inr ⟨proof', List.mem_append_left _ hmem, hsame⟩

/-- **A credential request consumes the nonces of its proofs** before it answers with credentials. -/
lemma pays_processCredentialRequest (request : CredentialRequest) (accessToken : String)
    (ctx : IssuanceContext X σ) (draws : RequestDraws) {held : Resource → Prop} :
    (ledger X σ).Pays (Careful X) (OwesNonces X request) held
      (processCredentialRequest X request accessToken ctx draws) := by
  refine pays_call (careful_getAccessGrant accessToken) fun answer => ?_
  cases answer with
  | none => exact .ret fun r hr => by cases hr
  | some grant =>
    simp only
    cases hcheck : checkRequest request ctx.metadata grant with
    | error e => exact .ret fun r hr => by cases hr
    | ok checked =>
      obtain ⟨configId, config, jwts⟩ := checked
      obtain ⟨-, rfl, -, -⟩ := checkRequest_ok hcheck
      exact pays_verifyProofs draws _ [] fun jwt hjwt => Or.inl hjwt

lemma calm_through {op : IssuerWorld → β × IssuerWorld} (h : Calm β op) :
    BackendCalm β (onIssuer (σ := σ) op) := fun b => h b.issuer

lemma within_zoom {p : Prog IssuerWorld α} (h : Within Calm p) :
    Within (Careful X) (p.zoom (Backend.issuer (σ := σ)) fun b w => { b with issuer := w }) :=
  h.zoom fun _ _ hop => (calm_through hop).careful

/-- **A token request redeems its code** before it answers with a token. -/
lemma pays_processTokenRequest (request : TokenRequest) (ctx : TokenContext)
    {held : Resource → Prop} :
    (ledger X σ).Pays (ledger X σ).Keeps (OwesCode request) held
      ((processTokenRequest X request ctx).zoom Backend.issuer fun b w => { b with issuer := w }) := by
  rcases processTokenRequest_cases (X := X) request ctx with ⟨e, heq⟩ | ⟨hno, hwithin⟩ |
    ⟨code, k, hcode, heq, ⟨e, hnone⟩, hk⟩
  · rw [heq]
    exact .ret fun r hr => by cases hr
  · refine pays_of_within ((within_zoom hwithin).mono fun _ _ hop => hop.1) fun a r hr => ?_
    cases a with
    | error e => cases hr
    | ok response =>
      cases r with
      | nonce nonce => cases hr
      | code code txCode => exact absurd hr.1 (hno code)
      | offered code txCode => cases hr
  · rw [heq]
    refine .call _ (keeps_redeem code request.txCode) (gains_redeem code request.txCode) fun ids => ?_
    cases ids with
    | none =>
      rw [hnone]
      exact .ret fun r hr => by cases hr
    | some ids =>
      refine pays_of_within ((within_zoom (hk _)).mono fun _ _ hop => hop.1) fun a r hr => Or.inl ?_
      cases a with
      | error e => cases hr
      | ok response =>
        cases r with
        | nonce nonce => cases hr
        | code other txCode =>
          -- what the answer owes is the code that was redeemed for it
          obtain ⟨hother, rfl⟩ := hr
          have hsame : code = other := Option.some.inj (hcode.2.symm.trans hother.2)
          rw [hsame]
          rfl
        | offered code txCode => cases hr

/-- **Every request pays what it owes**: nonces, the code that it redeems, and the code that it
offers. -/
lemma pays_prog (huuid : Function.Injective X.uuid) (request : Request X σ) :
    (ledger X σ).Pays (ledger X σ).Keeps (Owes request) (fun _ => False) (request.prog X) := by
  cases request with
  | credential request accessToken ctx draws =>
    have hpays : (ledger X σ).Pays (Careful X) (OwesNonces X request) (fun _ => False)
        (processCredentialRequest X request accessToken ctx draws) :=
      pays_processCredentialRequest request accessToken ctx draws
    exact (hpays.mono fun _ _ hop => hop.1).map (f := Reply.credential) fun _ _ hr => hr
  | nonce expiresIn =>
    exact pays_call (careful_newNonce huuid expiresIn).1 fun nonce => .ret fun r hr => by cases hr
  | token request ctx =>
    exact (pays_processTokenRequest request ctx).map (f := Reply.token) fun _ _ hr => hr
  | offer issuerUrl params txCode =>
    refine .call _ (keeps_makeOffer huuid issuerUrl params txCode)
      (gains_makeOffer issuerUrl params txCode) fun offer => .ret fun r hr => Or.inl ?_
    cases r with
    | nonce nonce => cases hr
    | code code txCode' => cases hr
    | offered code txCode' =>
      obtain ⟨hcode, rfl⟩ := hr
      rw [hcode]
      rfl

lemma settled_start (huuid : Function.Injective X.uuid) (requests : θ → Request X σ)
    {b : Backend σ} (hunused : Unused X b.issuer) : Settled (ledger X σ) (fun t => Owes (requests t))
      (fun _ _ => False) (start requests b) :=
  ⟨hunused, fun t => pays_prog huuid (requests t), fun _ _ h => h.elim, fun _ _ _ h => h.elim⟩

/-! ### Offers -/

/-- A request redeems or offers a code first, if it ever does. -/
lemma prog_cases (request : Request X σ) : Within KeepsCodes (request.prog X) ∨
    (∃ tokenRequest ctx code k, request = .token tokenRequest ctx ∧ RedeemsOffer tokenRequest code ∧
      request.prog X =
        .call (onIssuer (Token.Calls.redeemPreAuthorizedCode code tokenRequest.txCode)) k ∧
      ∀ ids, Within KeepsCodes (k ids)) ∨
    ∃ issuerUrl params txCode, request = .offer issuerUrl params txCode := by
  cases request with
  | credential request accessToken ctx draws =>
    have hpays : (ledger X σ).Pays (Careful X) (OwesNonces X request) (fun _ => False)
        (processCredentialRequest X request accessToken ctx draws) :=
      pays_processCredentialRequest request accessToken ctx draws
    exact Or.inl ((hpays.within.mono fun _ _ hop => hop.2).bind fun a => .ret _)
  | nonce expiresIn => exact Or.inl (.call (fun b => rfl) fun nonce => .ret _)
  | token request ctx =>
    have hzoom : ∀ {p : Prog IssuerWorld Token.Answer}, Within Calm p → Within KeepsCodes
        ((p.zoom (Backend.issuer (σ := σ)) fun b w => { b with issuer := w }).bind
          fun a => .ret (Reply.token a)) := fun h =>
      ((within_zoom (X := X) h).mono fun _ _ hop => hop.2).bind fun a => .ret _
    rcases processTokenRequest_cases (X := X) request ctx with ⟨e, heq⟩ | ⟨-, hwithin⟩ |
      ⟨code, k, hcode, heq, -, hk⟩
    · refine Or.inl ?_
      rw [Request.prog, heq]
      exact .ret _
    · exact Or.inl (hzoom hwithin)
    · refine Or.inr (Or.inl ⟨request, ctx, code, _, rfl, hcode, ?_, fun ids => hzoom (hk ids)⟩)
      rw [Request.prog, heq]
      rfl
  | offer issuerUrl params txCode => exact Or.inr (Or.inr ⟨_, _, _, rfl⟩)

variable {requests : θ → Request X σ} {b : Backend σ} {p : Pool θ (Backend σ) Reply}

/-- Each request is at its beginning, or done with the codes; and every code in the store was
offered. -/
structure Staged (requests : θ → Request X σ) (b : Backend σ) (p : Pool θ (Backend σ) Reply) :
    Prop where
  stage : ∀ t, p.prog t = (requests t).prog X ∨ Within KeepsCodes (p.prog t)
  offered : ∀ code entry, p.shared.issuer.store.preAuthCodes.get code = some entry →
    OfferedWith requests b p code entry.txCode

lemma staged_start (requests : θ → Request X σ) (b : Backend σ) :
    Staged requests b (start requests b) :=
  ⟨fun _ => Or.inl rfl, fun _ entry hentry => Or.inl ⟨entry, hentry, rfl⟩⟩

variable [DecidableEq θ]

lemma OfferedWith.advance {code : String} {txCode : Option String}
    (h : OfferedWith requests b p code txCode) (t : θ) :
    OfferedWith requests b (p.advance t) code txCode := by
  rcases h with hbefore | ⟨u, issuerUrl, params, offer, hrequest, hanswer, hcode⟩
  · exact Or.inl hbefore
  · exact Or.inr ⟨u, issuerUrl, params, offer, hrequest, answer_advance t hanswer, hcode⟩

lemma keepsCodes_advance {t : θ} (h : Within KeepsCodes (p.prog t)) :
    (p.advance t).shared.issuer.store.preAuthCodes = p.shared.issuer.store.preAuthCodes := by
  rcases h.advance.2 with heq | ⟨β, op, hop, heq⟩
  · rw [heq]
  · rw [heq]
    exact hop p.shared

lemma Staged.stage_advance (h : Staged requests b p) {t : θ}
    (ht : Within KeepsCodes ((p.advance t).prog t)) (u : θ) :
    (p.advance t).prog u = (requests u).prog X ∨ Within KeepsCodes ((p.advance t).prog u) := by
  by_cases hut : u = t
  · rw [hut]
    exact Or.inr ht
  · rw [advance_prog_of_ne p hut]
    exact h.stage u

/-- **A step of a request** that leaves the codes alone, redeems one or offers one. -/
lemma Staged.advance (h : Staged requests b p) (t : θ) : Staged requests b (p.advance t) := by
  have hcalm : Within KeepsCodes (p.prog t) → Staged requests b (p.advance t) := by
    intro hwithin
    refine ⟨h.stage_advance hwithin.advance.1, fun code entry hentry => ?_⟩
    rw [keepsCodes_advance hwithin] at hentry
    exact (h.offered code entry hentry).advance t
  -- a request that has started has redeemed or offered its code, if it ever does
  rcases h.stage t with hstart | hwithin
  · rcases prog_cases (requests t) with hwithin | ⟨request, ctx, code, k, -, -, heq, hk⟩ |
      ⟨issuerUrl, params, txCode, hoffer⟩
    · exact hcalm (by rw [hstart]; exact hwithin)
    · rw [heq] at hstart
      refine ⟨h.stage_advance (by rw [advance_prog_self hstart]; exact hk _), fun other e he => ?_⟩
      rw [advance_shared hstart] at he
      rcases redeem_cases code request.txCode p.shared with hsame | ⟨entry, hentry, -, -, hredeemed⟩
      · rw [hsame] at he
        exact (h.offered other e he).advance t
      · rw [hredeemed] at he
        -- redeeming a code marks its entry, and leaves the `tx_code` of all
        have hold : ∃ entry', p.shared.issuer.store.preAuthCodes.get other = some entry' ∧
            entry'.txCode = e.txCode := by
          rcases get_of_get_insert he with ⟨rfl, rfl⟩ | ⟨-, hold⟩
          · exact ⟨entry, hentry, rfl⟩
          · exact ⟨e, hold, rfl⟩
        obtain ⟨entry', hentry', hsame⟩ := hold
        rw [← hsame]
        exact (h.offered other entry' hentry').advance t
    · have hcall : p.prog t = .call (onIssuer (makeOffer X issuerUrl params txCode))
          fun offer => .ret (.offer offer) := by
        rw [hstart, hoffer]
        rfl
      have hanswer : ((p.advance t).prog t).answer =
          some (.offer (makeOffer X issuerUrl params txCode p.shared.issuer).1) := by
        rw [advance_prog_self hcall]
        rfl
      have hshared : (p.advance t).shared.issuer =
          (makeOffer X issuerUrl params txCode p.shared.issuer).2 := by
        rw [advance_shared hcall]
        rfl
      refine ⟨h.stage_advance (by rw [advance_prog_self hcall]; exact .ret _), fun code e he => ?_⟩
      rw [hshared] at he
      rcases makeOffer_cases (X := X) issuerUrl params txCode p.shared.issuer with ⟨-, hsame⟩ |
        ⟨i, -, hcode, -, hstore⟩
      · rw [hsame.codes] at he
        exact (h.offered code e he).advance t
      · rw [hstore] at he
        rcases get_of_get_insert he with ⟨rfl, rfl⟩ | ⟨-, hold⟩
        · exact Or.inr ⟨t, issuerUrl, params, _, hoffer, hanswer, hcode⟩
        · exact (h.offered code e hold).advance t
  · exact hcalm hwithin

lemma staged_run (requests : θ → Request X σ) (b : Backend σ) (events : List (Event θ ℤ)) :
    Staged requests b (run (backend θ σ) (start requests b) events) := by
  have hstep : ∀ (q : Pool θ (Backend σ) Reply) (e : Event θ ℤ), Staged requests b q → True →
      Staged requests b ((backend θ σ).step q e).1 := by
    rintro q e hq -
    cases e with
    | thread t => exact hq.advance t
    | outside now => exact ⟨hq.stage, hq.offered⟩
  exact run_inv hstep (staged_start requests b) (every_true _ events)

/-- Whoever presents what no offer has bound the code to leaves the codes alone. -/
lemma Staged.wrong (h : Staged requests b p) {t : θ} {request : TokenRequest} {ctx : TokenContext}
    {code : String} (hrequest : requests t = .token request ctx) (hcode : RedeemsOffer request code)
    (hwrong : ¬ OfferedWith requests b p code request.txCode) :
    (p.advance t).shared.issuer.store.preAuthCodes = p.shared.issuer.store.preAuthCodes := by
  rcases h.stage t with hstart | hwithin
  · rcases prog_cases (requests t) with hwithin | ⟨request', ctx', code', k, hsame, hcode', heq, -⟩ |
      ⟨issuerUrl, params, txCode, hoffer⟩
    · exact keepsCodes_advance (by rw [hstart]; exact hwithin)
    · rw [hrequest, Request.token.injEq] at hsame
      obtain ⟨rfl, -⟩ := hsame
      have hcodes : code = code' := Option.some.inj (hcode.2.symm.trans hcode'.2)
      subst hcodes
      rw [heq] at hstart
      rw [advance_shared hstart]
      rcases redeem_cases code request.txCode p.shared with hsame | ⟨entry, hentry, -, htxCode, -⟩
      · rw [hsame]
      · have hoffered := h.offered code entry hentry
        rw [htxCode] at hoffered
        exact absurd hoffered hwrong
    · rw [hrequest] at hoffer
      cases hoffer
  · exact keepsCodes_advance hwithin

/-! ### Every interleaving -/

/-- **At most once, in every interleaving.** -/
theorem spentOnce_run (huuid : Function.Injective X.uuid) (requests : θ → Request X σ)
    (b : Backend σ) (hunused : Unused X b.issuer) (events : List (Event θ ℤ)) :
    SpentOnce requests b (run (backend θ σ) (start requests b) events) := by
  have hclock : ∀ (now : ℤ) (b : Backend σ), (ledger X σ).inv b →
      (ledger X σ).inv { b with issuer := { b.issuer with clock := now } } ∧ ∀ r,
        (ledger X σ).spent b r → (ledger X σ).spent { b with issuer := { b.issuer with clock := now } } r :=
    fun now b hb => SameSecrets.keeps ⟨rfl, rfl, Nat.le_refl _⟩ hb
  obtain ⟨⟨held, hsettled⟩, hpermanent⟩ := (settled_start huuid requests hunused).run hclock events
  have hstaged := staged_run requests b events
  generalize run (backend θ σ) (start requests b) events = p at hsettled hpermanent hstaged ⊢
  have hnonce : ∀ {t : θ} {nonce : String}, BackedBy requests p t nonce → ∃ a,
      (p.prog t).answer = some a ∧ Owes (requests t) a (.nonce nonce) := by
    rintro t nonce ⟨request, accessToken, ctx, draws, response, hrequest, hanswer, hneeds⟩
    exact ⟨_, hanswer, by rw [hrequest]; exact hneeds⟩
  have hcode : ∀ {t : θ} {code : String} {txCode : Option String}, MintedFrom requests p t code txCode →
      ∃ a, (p.prog t).answer = some a ∧ Owes (requests t) a (.code code txCode) := by
    rintro t code txCode ⟨request, ctx, response, hrequest, hredeems, hanswer, htxCode⟩
    exact ⟨_, hanswer, by rw [hrequest]; exact ⟨hredeems, htxCode⟩⟩
  -- the code of a request that minted has its entry, with the code that the request gave
  have hentry : ∀ {t : θ} {code : String} {txCode : Option String}, MintedFrom requests p t code txCode →
      ∃ entry, p.shared.issuer.store.preAuthCodes.get code = some entry ∧ entry.txCode = txCode := by
    intro t code txCode h
    obtain ⟨a, hanswer, howes⟩ := hcode h
    obtain ⟨-, entry, hget, htxCode, -⟩ := hsettled.paid hanswer howes
    exact ⟨entry, hget, htxCode⟩
  refine ⟨fun nonce t u ht hu => ?_, fun code t u txCode txCode' ht hu => ?_,
    fun code t txCode ht txCode' => ⟨fun hoffered => ?_, ?_⟩, fun t request ctx code => hstaged.wrong⟩
  · obtain ⟨a, ha, howes⟩ := hnonce ht
    obtain ⟨a', ha', howes'⟩ := hnonce hu
    exact hsettled.eq_of_owes ha ha' howes howes'
  · obtain ⟨entry, hget, rfl⟩ := hentry ht
    obtain ⟨entry', hget', rfl⟩ := hentry hu
    have hsame : entry = entry' := Option.some.inj (hget.symm.trans hget')
    subst hsame
    obtain ⟨a, ha, howes⟩ := hcode ht
    obtain ⟨a', ha', howes'⟩ := hcode hu
    exact hsettled.eq_of_owes ha ha' howes howes'
  · -- what is offered is spent from the start, or by the answer that offers it
    have hspent : SpentIn X p.shared.issuer (.offered code txCode') := by
      rcases hoffered with hbefore | ⟨u, issuerUrl, params, offer, hrequest, hanswer, hoffer⟩
      · exact hpermanent (.offered code txCode') hbefore
      · have howes : Owes (requests u) (.offer offer) (.offered code txCode') := by
          rw [hrequest]
          exact ⟨hoffer, rfl⟩
        exact (hsettled.paid hanswer howes).2
    obtain ⟨entry, hget, rfl⟩ := hentry ht
    obtain ⟨entry', hget', rfl⟩ := hspent
    rw [Option.some.inj (hget.symm.trans hget')]
  · rintro rfl
    obtain ⟨entry, hget, rfl⟩ := hentry ht
    exact hstaged.offered code entry hget

/-! ### A race for a code -/

section Race

open Oid4vc.Redemption (codeCrates)
open Oid4vc.Tokens (codeCrates_uuid_injective)

def offerParams : OfferParams where
  credentialConfigurationIds := ["id"]
  useAuthorizationCode := false
  usePreAuthorizedCode := true
  requireTxCode := true

/-- A request for the first code that is drawn. -/
def preAuthRequest (txCode : Option String) : TokenRequest where
  grantType := "urn:ietf:params:oauth:grant-type:pre-authorized_code"
  code := none
  redirectUri := none
  clientId := none
  codeVerifier := none
  preAuthorizedCode := some (codeCrates.uuid 0)
  txCode := txCode

/-- An offer, and three requests for it: one with a wrong transaction code. -/
def race : Fin 4 → Request codeCrates Unit
  | 0 => .offer "https://issuer.example.com" offerParams (some "493536")
  | 1 => .token (preAuthRequest (some "111111")) ⟨none, none⟩
  | _ => .token (preAuthRequest (some "493536")) ⟨none, none⟩

def raceBackend : Backend Unit := ⟨⟨0, 0, .new⟩, ()⟩

/-- The wrong one comes first, and the others take turns. -/
def raceEvents : List (Event (Fin 4) ℤ) :=
  [.thread 0, .thread 1, .thread 2, .thread 3, .outside (seconds 1), .thread 2, .thread 2]

theorem race_once : (∃ response, ((run (backend (Fin 4) Unit) (start race raceBackend)
      raceEvents).prog 2).answer = some (.token (.ok response))) ∧
    ((run (backend (Fin 4) Unit) (start race raceBackend) raceEvents).prog 3).answer =
      some (.token (.error .invalidPreAuthorizedCode)) ∧
    SpentOnce race raceBackend (run (backend (Fin 4) Unit) (start race raceBackend) raceEvents) :=
  ⟨⟨_, rfl⟩, rfl, spentOnce_run codeCrates_uuid_injective race raceBackend
    (fun _ _ => ⟨rfl, rfl⟩) raceEvents⟩

end Race

end Oid4vc.Spent
