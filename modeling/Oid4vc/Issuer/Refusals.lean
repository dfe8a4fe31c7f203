import Oid4vc.Issuer.Tokens
import Mathlib.Data.List.Pairwise

/-!
What failed token requests leave behind: nothing, or, after a replayed code, everything but the
token that the code has minted.
-/

namespace Oid4vc.Refusals

open Oid4vc.Run Oid4vc.Fallible Oid4vc.Atomic Oid4vc.PartialMap Oid4vc.Instant Oid4vc.External
open Oid4vc.Oid4vci Oid4vc.IssuerStore Oid4vc.Authorization Oid4vc.Token Oid4vc.Endpoints
open Oid4vc.Tokens

variable (X : Crates)

/-- A correct request for a code within its lifetime. -/
inductive Correct (request : TokenRequest) (ctx : TokenContext) (w : IssuerWorld) (code : String) :
    Prop
  | authorized {clientId : String} {session : AuthorizationSession} {issuedAt : ℤ}
    (hcode : Redeems request code) (hclient : ctx.authenticatedClient = some clientId)
    (hparam : ∀ param ∈ request.clientId, param = clientId)
    (hsession : w.store.getSessionByCode code = some session) (hunused : session.consumed = false)
    (hissued : session.codeIssuedAt = some issuedAt)
    (hlifetime : w.clock ≤ issuedAt + seconds authorizationCodeTtlSecs)
    (hentitled : Entitled X request ctx clientId session)
  | preAuthorized {entry : PreAuthEntry} (hcode : RedeemsOffer request code)
    (hparam : ∀ param ∈ request.clientId, ∀ clientId ∈ ctx.authenticatedClient, param = clientId)
    (hentry : w.store.preAuthCodes.get code = some entry) (hunused : entry.consumed = false)
    (htxCode : entry.txCode = request.txCode)

/-- Time goes by, or a token request fails that replays no code. -/
def Refused (w : IssuerWorld) (c : Call) : Prop :=
  (∃ nanoseconds, c = .wait nanoseconds) ∨ ∃ request ctx e, c = .token request ctx ∧
    e ≠ TokenError.codeConsumed ∧ ((issuerMachine X).step w c).2 = .token (.error e)

def withoutTokenOf (code : String) (s : InMemoryIssuerState) : PMap String TokenEntry :=
  match s.tokensByCode.get code with
  | some token => s.accessTokens.remove token
  | none => s.accessTokens

/-- **What a failed request does to the world it found.** -/
structure FailsCleanly (request : TokenRequest) (ctx : TokenContext) (w : IssuerWorld) : Prop where
  /-- A failure changes nothing. -/
  unchanged : ∀ e, ((processTokenRequest X request ctx).exec w).1 = .error e → e ≠ .codeConsumed →
    ((processTokenRequest X request ctx).exec w).2 = w
  /-- A correct request succeeds as it would have before the failure, also after others. -/
  retry : ∀ e, ((processTokenRequest X request ctx).exec w).1 = .error e → e ≠ .codeConsumed →
    ∀ calls, Every (issuerMachine X) (Refused X) ((processTokenRequest X request ctx).exec w).2 calls →
    ∀ later, later = run (issuerMachine X) ((processTokenRequest X request ctx).exec w).2 calls →
    ∀ request' ctx' code, Correct X request' ctx' { w with clock := later.clock } code →
      ∃ r, ((processTokenRequest X request' ctx').exec later).1 = .ok r
  /-- A replay removes the token of the code, and its record. -/
  replayed : ((processTokenRequest X request ctx).exec w).1 = .error .codeConsumed →
    ∃ code, Redeems request code ∧ ((processTokenRequest X request ctx).exec w).2 = { w with
      store := { w.store with
        tokensByCode := w.store.tokensByCode.remove code
        accessTokens := withoutTokenOf code w.store } }

variable {X} {w : IssuerWorld}

lemma Correct.succeeds {request : TokenRequest} {ctx : TokenContext} {code : String}
    (h : Correct X request ctx w code) : ∃ r, ((processTokenRequest X request ctx).exec w).1 = .ok r := by
  cases h with
  | authorized hcode hclient hparam hsession hunused hissued hlifetime hentitled =>
    refine (redeems_ok_iff hcode w).mpr
      ⟨_, _, _, hclient, hparam, hsession, hunused, hissued, ?_, hentitled⟩
    unfold seconds at hlifetime ⊢
    omega
  | preAuthorized hcode hparam hentry hunused htxCode =>
    exact (redeemsOffer_ok_iff hcode w).mpr ⟨hparam, _, hentry, hunused, htxCode⟩

lemma refused_unchanged {request : TokenRequest} {ctx : TokenContext} {e : TokenError}
    (h : ((processTokenRequest X request ctx).exec w).1 = .error e) (he : e ≠ .codeConsumed) :
    ((processTokenRequest X request ctx).exec w).2 = w := by
  have houtcome := exec_processTokenRequest (X := X) request ctx w
  rw [h] at houtcome
  generalize ((processTokenRequest X request ctx).exec w).2 = w' at houtcome ⊢
  cases houtcome with
  | refused => rfl
  | replayed => exact absurd rfl he

/-- The step lemma: only the clock moves. -/
lemma refused_step {c : Call} (h : Refused X w c) :
    ((issuerMachine X).step w c).1 = { w with clock := ((issuerMachine X).step w c).1.clock } := by
  rcases h with ⟨nanoseconds, rfl⟩ | ⟨request, ctx, e, rfl, he, hanswer⟩
  · rfl
  · have herror : ((processTokenRequest X request ctx).exec w).1 = .error e := by
      simpa [issuerMachine] using hanswer
    have hsame : ((issuerMachine X).step w (.token request ctx)).1 = w := refused_unchanged herror he
    rw [hsame]

/-- The run lemma. -/
lemma refused_run {calls : List Call} (h : Every (issuerMachine X) (Refused X) w calls) :
    run (issuerMachine X) w calls = { w with clock := (run (issuerMachine X) w calls).clock } := by
  have hstep : ∀ (s : IssuerWorld) c, s = { w with clock := s.clock } → Refused X s c →
      ((issuerMachine X).step s c).1 = { w with clock := ((issuerMachine X).step s c).1.clock } := by
    intro s c hs hc
    have hrest := refused_step hc
    rw [hs] at hrest
    rw [hs]
    exact hrest
  exact run_inv hstep rfl h

lemma revokeTokensForCode_eq (s : InMemoryIssuerState) (code : String) :
    s.revokeTokensForCode code = { s with
      tokensByCode := s.tokensByCode.remove code
      accessTokens := withoutTokenOf code s } := by
  unfold InMemoryIssuerState.revokeTokensForCode withoutTokenOf
  cases hrecord : s.tokensByCode.get code with
  | some token => rfl
  | none =>
    have hsame : s.tokensByCode.remove code = s.tokensByCode := by
      ext1 k
      by_cases hk : k = code
      · rw [hk, get_remove_self, hrecord]
      · exact get_remove_of_ne _ hk
    rw [hsame]

/-- The token that is recorded for a code is the one that the code has minted. -/
lemma recorded_minted (huuid : Function.Injective X.uuid) (start : ℤ) (calls : List Call)
    {code token : String}
    (h : (run (issuerMachine X) (initial start) calls).store.tokensByCode.get code = some token) :
    (∃ e ∈ log (issuerMachine X) (initial start) calls, ∃ r, MintedFrom e code r ∧
      r.accessToken = token) ∧
    ∀ e ∈ log (issuerMachine X) (initial start) calls, ∀ r, MintedFrom e code r →
      r.accessToken = token := by
  have hkept := (invariant_run huuid start calls).kept
  obtain ⟨e, he, r, hr, htoken⟩ := hkept.recorded code token h
  refine ⟨⟨e, he, r, hr, htoken⟩, fun e' he' r' hr' => ?_⟩
  by_cases hsame : e = e'
  · subst hsame
    rw [← hr.minted.unique hr'.minted]
    exact htoken
  · have : Std.Symm fun e e' : Event =>
        ¬ ((∃ r, MintedFrom e code r) ∧ ∃ r, MintedFrom e' code r) :=
      ⟨fun _ _ hne hboth => hne hboth.symm⟩
    exact absurd ⟨⟨r, hr⟩, r', hr'⟩ ((hkept.once code).forall he he' hsame)

/-- **A failed token request changes nothing**, but that a replayed code loses the token recorded
for it; and in every run of the issuer that is the one token the code has minted. -/
theorem failed_cleanly (X : Crates) (huuid : Function.Injective X.uuid) :
    (∀ request ctx w, FailsCleanly X request ctx w) ∧
      ∀ start calls code token,
        (run (issuerMachine X) (initial start) calls).store.tokensByCode.get code = some token →
        (∃ e ∈ log (issuerMachine X) (initial start) calls, ∃ r, MintedFrom e code r ∧
          r.accessToken = token) ∧
        ∀ e ∈ log (issuerMachine X) (initial start) calls, ∀ r, MintedFrom e code r →
          r.accessToken = token := by
  refine ⟨fun request ctx w => ⟨fun e h he => refused_unchanged h he, ?_, fun h => ?_⟩,
    fun start calls code token h => recorded_minted huuid start calls h⟩
  · intro e h he calls hcalls later hlater request' ctx' code hcorrect
    rw [refused_unchanged h he] at hcalls hlater
    have hsame : later = { w with clock := later.clock } := by
      rw [hlater]
      exact refused_run hcalls
    rw [hsame]
    exact hcorrect.succeeds
  · have houtcome := exec_processTokenRequest (X := X) request ctx w
    rw [h] at houtcome
    generalize ((processTokenRequest X request ctx).exec w).2 = w' at houtcome ⊢
    cases houtcome with
    | refused e he => exact absurd rfl he
    | replayed code session hcode hsession hconsumed =>
      exact ⟨code, hcode, by rw [revokeTokensForCode_eq]⟩

section Retry

open Oid4vc.Redemption (codeCrates codeVerifier codeChallenge)

/-- A request with another verifier than the one that was challenged. -/
def wrongRequest : TokenRequest :=
  { tokenRequest with codeVerifier := some "wvWFMNNVrEBYJLtDZ_D2IAPlp8rQnAyCyMuwVUIRTl4" }

/-- After a wrong verifier nothing has changed, and the right one succeeds a second later. -/
theorem retry_after_wrongVerifier :
    let w := run (issuerMachine codeCrates) (initial 0) (replayCalls.take 2)
    ((processTokenRequest codeCrates wrongRequest tokenContext).exec w).2 = w ∧
      ∃ r, ((processTokenRequest codeCrates tokenRequest tokenContext).exec
        (run (issuerMachine codeCrates)
          ((processTokenRequest codeCrates wrongRequest tokenContext).exec w).2
            [.wait 1000000000])).1 = .ok r := by
  intro w
  have hclean := (failed_cleanly codeCrates codeCrates_uuid_injective).1 wrongRequest tokenContext w
  have herror : ((processTokenRequest codeCrates wrongRequest tokenContext).exec w).1 =
      .error .pkceVerificationFailed := rfl
  have hpkce : verifyPkce codeCrates codeVerifier codeChallenge = true := by
    simp [verifyPkce, codeCrates]
  refine ⟨hclean.unchanged _ herror (by decide),
    hclean.retry _ herror (by decide) [.wait 1000000000] ⟨Or.inl ⟨_, rfl⟩, trivial⟩ _ rfl tokenRequest tokenContext
      drawnCode ?_⟩
  exact .authorized ⟨rfl, rfl⟩ rfl (by simp [tokenRequest]) rfl rfl rfl (by decide)
    ⟨rfl, rfl, ⟨_, rfl, hpkce⟩, _, rfl, by intro bound hbound; cases hbound⟩

end Retry

end Oid4vc.Refusals
