import Oid4vc.Issuer.OfferUri
import Oid4vc.Server.Presenting

/-!
An offer, from its link to an access token, while everyone else is served as well.
-/

namespace Oid4vc.OfferTaken

open Oid4vc.Run Oid4vc.Atomic Oid4vc.Spending Oid4vc.Rely Oid4vc.PartialMap Oid4vc.External
open Oid4vc.Codecs Oid4vc.Oid4vci Oid4vc.IssuerStore Oid4vc.Offer Oid4vc.OfferUri Oid4vc.Token
open Oid4vc.Endpoints Oid4vc.Serialized Oid4vc.Effects Oid4vc.Server Oid4vc.IssuerRoutes
open Oid4vc.Requests Oid4vc.Routes Oid4vc.Guarantees Oid4vc.Promises

variable {X : Crates} {θ : Type} {app : ServerState X} {window : ℤ → Prop}
  {states codes : String → Prop} {r : ServerRequest}

/-! ### The offer -/

/-- An offer that is answered can be redeemed, unless its code is one of these. -/
def Offering (X : Crates) (codes : String → Prop) (reply : ServerReply) (w : ServerWorld) : Prop :=
  ∀ status headers offer, reply = .reply (.response ⟨status, headers, .offer offer⟩) →
    OfferFits offer ∧ ∃ code, Spent.offeredCode offer = some code ∧
      (¬ codes code → Offered X code ⟨none, offer.credentialConfigurationIds, false⟩ w.stores)

lemma stable_offering (reply : ServerReply) :
    Stable (Relied app window states codes) (Offering X codes reply) := by
  intro w w' hrelied hoffering status headers offer hreply
  obtain ⟨hfits, code, hcode, hoffered⟩ := hoffering status headers offer hreply
  exact ⟨hfits, code, hcode, fun hfree => hrelied.2.offers _ _ (hoffered hfree) hfree⟩

lemma makeOffer_offered (issuerUrl configId : String) (b : Stores) :
    OfferFits (makeOffer X issuerUrl (offerParams configId) none b.issuer).1 ∧
    ∃ code, Spent.offeredCode (makeOffer X issuerUrl (offerParams configId) none b.issuer).1 =
        some code ∧
      Offered X code
        ⟨none, (makeOffer X issuerUrl (offerParams configId) none b.issuer).1.credentialConfigurationIds,
          false⟩
        (onIssuer (makeOffer X issuerUrl (offerParams configId) none) b).2 := by
  refine ⟨fun grants hgrants grant hgrant c hc => ?_, X.uuid (b.issuer.drawn + 1), rfl,
    b.issuer.drawn + 1, Nat.lt_succ_self _, rfl, get_insert_self _ _ _⟩
  obtain rfl := Option.some.inj hgrants
  obtain rfl := Option.some.inj hgrant
  cases hc

lemma outline_offer (huuid : Function.Injective X.uuid) (configurationId : Option String) :
    Outline (Relied app window states codes) (Keeps app r) (Offering X codes) (fun _ => True)
      (serve app (.issuer (.credentialOffer configurationId))) := by
  have hserve : serve app (.issuer (.credentialOffer configurationId)) =
      (onStores (credentialOfferEndpoint app.toAppState configurationId)).bind
        fun reply => .ret (.reply reply) := rfl
  rw [hserve, credentialOfferEndpoint]
  split_ifs
  · refine outline_ret fun w status headers offer hreply => ?_
    cases hreply
  · refine .call (fun _ => True) (fun offer => Offering X codes
        (.reply (.response ⟨200, [], .offer offer⟩))) (fun _ h => h) (stable_const True)
      (fun w _ => keeps_onStores (quiets_makeOffer huuid _ _ _) w) (fun w _ => ?_)
      fun offer _ => .ret (fun _ h => h) (stable_offering _)
    intro status headers offer hreply
    cases hreply
    obtain ⟨hfits, code, hcode, hoffered⟩ := makeOffer_offered (X := X) app.externalUrl
      (configurationId.getD "IdentityCredential_SD_JWT_VC") w.stores
    exact ⟨hfits, code, hcode, fun _ => hoffered⟩

/-! ### The token -/

/-- A part of the handler of a token request without headers. -/
def redeeming (p : Prog IssuerWorld Token.Answer) : Prog ServerWorld ServerReply :=
  (onStores ((p.zoom Credential.Backend.issuer fun b w => { b with issuer := w }).bind fun answer =>
    .ret (.response (tokenAnswer answer)))).bind fun reply => .ret (.reply reply)

/-- A token request without headers is one of no client, and redeems its code first. -/
lemma serve_redeems {request : TokenRequest} {code : String} (hcode : RedeemsOffer request code) :
    serve app (.issuer (.token [] request)) =
      redeeming (.call (Token.Calls.redeemPreAuthorizedCode code request.txCode) fun
        | none => .ret (.error .invalidPreAuthorizedCode)
        | some configIds => (issueAccessToken X configIds false none).bind fun response =>
            .ret (.ok response)) := by
  have hserve : serve app (.issuer (.token [] request)) =
      redeeming (processTokenRequest X request ⟨none, none⟩) := rfl
  have hnamed : namesOtherClient request ⟨none, none⟩ = false := by
    unfold namesOtherClient
    cases request.clientId <;> rfl
  have hgrant : request.grantType ≠ "authorization_code" := by
    rw [hcode.1]
    decide
  have hcase : processTokenRequest X request ⟨none, none⟩ =
      processPreAuthorizedCodeGrant X request ⟨none, none⟩ := by
    rw [processTokenRequest, hnamed, if_neg Bool.false_ne_true, if_neg hgrant, if_pos hcode.1]
  rw [hserve, hcase]
  refine congrArg redeeming ?_
  obtain ⟨-, hsome⟩ := hcode
  cases request
  subst hsome
  exact rfl

/-- The answer with a bearer token. -/
def tokenReply (token : String) : ServerReply :=
  .reply (.response (tokenAnswer (.ok ⟨token, "Bearer", accessTokenTtlSecs, none⟩)))

lemma keeps_token {β : Type} {request : TokenRequest} {op : IssuerWorld → β × IssuerWorld}
    (h : ∀ w : IssuerWorld, w.drawn ≤ (op w).2.drawn ∧ ∀ code, ¬ RedeemsOffer request code →
      (op w).2.store.preAuthCodes.get code = w.store.preAuthCodes.get code)
    (hclock : ∀ w, (op w).2.clock = w.clock) (w : ServerWorld) :
    Keeps app (.issuer (.token [] request)) w
      (Prog.through ServerWorld.stores (fun w b => { w with stores := b }) (onIssuer op) w).2 :=
  keeps_onStores (quiets_token [] h hclock) w

lemma redeem_offered {code : String} {ids : List String} {b : Stores}
    (h : Offered X code ⟨none, ids, false⟩ b) :
    (Token.Calls.redeemPreAuthorizedCode code none b.issuer).1 = some ids := by
  obtain ⟨k, -, -, hentry⟩ := h
  unfold Token.Calls.redeemPreAuthorizedCode InMemoryIssuerState.redeemPreAuthorizedCode
  simp [hentry]

lemma outline_taken {request : TokenRequest} {code : String} {ids : List String}
    (hcode : RedeemsOffer request code) (htx : request.txCode = none) (hfree : ¬ codes code) :
    Outline (Relied app window states codes) (Keeps app (.issuer (.token [] request)))
      (fun reply _ => ∃ n, reply = tokenReply (X.uuid n))
      (fun w => Offered X code ⟨none, ids, false⟩ w.stores)
      (serve app (.issuer (.token [] request))) := by
  have hcalm : ∀ {β : Type} {op : IssuerWorld → β × IssuerWorld}, Spent.Calm β op →
      ∀ w, w.drawn ≤ (op w).2.drawn ∧ ∀ code, ¬ RedeemsOffer request code →
        (op w).2.store.preAuthCodes.get code = w.store.preAuthCodes.get code :=
    fun h w => ⟨(h w).drawn, fun code _ => by rw [(h w).codes]⟩
  rw [serve_redeems hcode, htx]
  refine .call (fun w => Offered X code ⟨none, ids, false⟩ w.stores)
    (fun answer _ => answer = some ids) (fun _ h => h)
    (fun w w' h hw => h.2.offers _ _ hw hfree)
    (fun w _ => keeps_token (redeem_keeps hcode _) (fun _ => rfl) w) (fun w hw => redeem_offered hw)
    fun answer hanswer => ?_
  obtain ⟨w, hw, hanswer⟩ := hanswer
  obtain rfl : some ids = answer := (redeem_offered hw).symm.trans hanswer
  refine .call (fun _ => True) (fun uuids _ => ∃ n, uuids.headD "" = X.uuid n) (fun _ _ => trivial)
    (stable_const _) (fun w _ => keeps_token (hcalm (Spent.calm_newUuids _)) (fun _ => rfl) w)
    (fun w _ => ⟨w.stores.issuer.drawn, rfl⟩) fun uuids huuids => ?_
  obtain ⟨w, -, rfl⟩ := huuids
  refine .call (fun _ => True) (fun _ _ => True) (fun _ _ => trivial) (stable_const _)
    (fun w _ => keeps_token (hcalm (Spent.calm_storeAccessToken _ _ _)) (fun _ => rfl) w)
    (fun _ _ => trivial) fun _ _ => outline_ret fun _ => ⟨w.stores.issuer.drawn, rfl⟩

lemma bounded_redeems {request : TokenRequest} {code : String} (hcode : RedeemsOffer request code) :
    Bounded 3 (serve app (.issuer (.token [] request))) := by
  rw [serve_redeems hcode]
  refine .call fun answer => ?_
  cases answer with
  | none => exact .ret 2 _
  | some ids => exact .call fun _ => .call fun _ => .ret 0 _

/-! ### Both -/

variable [DecidableEq θ] {requests : θ → ServerRequest} {clock : ℤ}

/-- **An offer is taken up.** The link of an offer that was answered carries the offer, and who takes
it up, by a token request with the code, gets a bearer token: at any time, and whatever else is
served meanwhile, as long as nobody else redeems the code. -/
theorem offer_taken (hurl : UrlEncoding X) (hserde : SerdeOrder X)
    (huuid : Function.Injective X.uuid)
    {before after : List (Event θ ℤ)} {t v : θ} {configurationId : Option String} {status : ℕ}
    {headers : List (String × String)} {offer : CredentialOffer}
    (hoffer : requests t = .issuer (.credentialOffer configurationId))
    (hanswer : ((run (service θ) (arrived app requests clock) before).prog t).answer =
      some (.reply (.response ⟨status, headers, .offer offer⟩)))
    {code : String} (hcode : Spent.offeredCode offer = some code) {request : TokenRequest}
    (hredeems : RedeemsOffer request code) (htx : request.txCode = none)
    (hrequest : requests v = .issuer (.token [] request)) (hlate : .thread v ∉ before)
    (hsecret : ∀ u, u ≠ v → .thread u ∈ before ++ after → ¬ RedeemsCode (requests u) code)
    (hturns : 3 ≤ turns v after) :
    readOfferUri X (encodeOfferUri X app.externalUrl offer) = some offer ∧
    ∃ n, ((run (service θ) (arrived app requests clock) (before ++ after)).prog v).answer =
      some (tokenReply (X.uuid n)) := by
  have hothers : ∀ u, u ≠ v → .thread u ∈ before ++ after → ∀ c, RedeemsCode (requests u) c →
      c ≠ code := by
    rintro u hu hmem c hc rfl
    exact hsecret u hu hmem hc
  have hstart : Served app requests (arrived app requests clock) :=
    (run_served huuid requests clock []).1
  have hstands : Stands (Relied app (fun _ => True) (fun _ => True) (· ≠ code)) (Keeps app (requests t))
      (Offering X (· ≠ code)) (arrived app requests clock).shared
      ((arrived app requests clock).prog t) := by
    have hprog : (arrived app requests clock).prog t =
        serve app (.issuer (.credentialOffer configurationId)) := congrArg (serve app) hoffer
    rw [hprog]
    exact ⟨_, trivial, outline_offer huuid configurationId⟩
  obtain ⟨hfits, code', hcode', hoffered⟩ := (run_focus hstart hstands (fun u _ hmem =>
    ⟨fun _ _ => trivial, hothers u (fun heq => hlate (heq ▸ hmem)) (List.mem_append_left _ hmem)⟩)
    (clockIn_any _ before)).answered hanswer _ _ _ rfl
  obtain rfl : code' = code := Option.some.inj (hcode'.symm.trans hcode)
  -- the code is still good when it is redeemed
  have hprog : (run (service θ) (arrived app requests clock) before).prog v =
      serve app (.issuer (.token [] request)) := by
    rw [run_prog_of_not_mem hlate]
    exact congrArg (serve app) hrequest
  have hstands : Stands (Relied app (fun _ => True) (fun _ => True) (· ≠ code')) (Keeps app (requests v))
      (fun reply _ => ∃ n, reply = tokenReply (X.uuid n))
      (run (service θ) (arrived app requests clock) before).shared
      ((run (service θ) (arrived app requests clock) before).prog v) := by
    rw [hprog, hrequest]
    exact ⟨_, hoffered fun hne => hne rfl, outline_taken hredeems htx fun hne => hne rfl⟩
  obtain ⟨reply, hreply⟩ : ∃ reply, ((run (service θ)
      (run (service θ) (arrived app requests clock) before) after).prog v).answer = some reply :=
    answered_of_turns (by rw [hprog]; exact bounded_redeems hredeems) hturns
  obtain ⟨n, rfl⟩ := (run_focus (run_served huuid requests clock before).1 hstands (fun u hu hmem =>
    ⟨fun _ _ => trivial, hothers u hu (List.mem_append_right _ hmem)⟩) (clockIn_any _ after)).answered
    hreply
  exact ⟨readOfferUri_encodeOfferUri hurl hserde hfits _, n, by rw [run_append, hreply]⟩

/-! ### A wallet that takes up an offer -/

section Sample

open Oid4vc.Instant Oid4vc.Honest Oid4vc.Presenting

/-- An offer, and a wallet that redeems its code. -/
def takerRequests : ℕ → ServerRequest
  | 0 => .issuer (.credentialOffer (some "pid"))
  | _ + 1 => .issuer (.token [] (redemption (visitCrates.uuid 1)))

def takerArrived : Pool ℕ ServerWorld ServerReply :=
  arrived visitServer takerRequests (seconds 1767225600)

def takerOffer : CredentialOffer :=
  (makeOffer visitCrates visitServer.externalUrl (offerParams "pid") none
    (freshWorld visitServer (seconds 1767225600)).stores.issuer).1

lemma taker_offered : ∃ n, ((run (service ℕ) takerArrived (List.replicate n (.thread 0))).prog 0).answer =
    some (.reply (.response ⟨200, [], .offer takerOffer⟩)) := by
  obtain ⟨n, hn⟩ := exec_alone wait takerArrived 0
  have hsupported : ¬ (visitServer.metadata.credentialConfigurationsSupported.lookup "pid").isNone =
      true := by decide
  have hprog : takerArrived.prog 0 = (onStores (.call (onIssuer
      (makeOffer visitCrates visitServer.externalUrl (offerParams "pid") none)) fun offer =>
        .ret (.response ⟨200, [], .offer offer⟩))).bind fun reply => .ret (.reply reply) := by
    have hserve : takerArrived.prog 0 = (onStores (credentialOfferEndpoint visitServer.toAppState
        (some "pid"))).bind fun reply => .ret (.reply reply) := rfl
    rw [hserve, credentialOfferEndpoint]
    simp only [Option.getD_some, if_neg hsupported]
  refine ⟨n, ?_⟩
  rw [hn, hprog]
  simp only [Function.update_self, Prog.answer_ret]
  rfl

/-- The wallet gets its token. -/
theorem taker_served : ∃ (n k : ℕ),
    readOfferUri visitCrates (encodeOfferUri visitCrates visitServer.externalUrl takerOffer) =
      some takerOffer ∧
    ((run (service ℕ) takerArrived
      (List.replicate n (.thread 0) ++ List.replicate 3 (.thread 1))).prog 1).answer =
        some (tokenReply (visitCrates.uuid k)) := by
  obtain ⟨n, hoffered⟩ := taker_offered
  have hoffer : takerRequests 0 = .issuer (.credentialOffer (some "pid")) := rfl
  have hcode : Spent.offeredCode takerOffer = some (visitCrates.uuid 1) := rfl
  have hrequest : takerRequests 1 = .issuer (.token [] (redemption (visitCrates.uuid 1))) := rfl
  have hturns : 3 ≤ turns 1 (List.replicate 3 (.thread 1) : List (Event ℕ ℤ)) :=
    (turns_replicate 1 3).ge
  obtain ⟨hread, k, htaken⟩ := offer_taken urlEncoding_visit serdeOrder_visit injective_uuid_visit hoffer hoffered hcode
    ⟨rfl, rfl⟩ rfl hrequest (not_mem_asking 0 n) (fun u hu hmem => by
      rw [asking_of_mem hu hmem]
      rintro ⟨headers, request, hof, -⟩
      cases hof) hturns
  exact ⟨n, k, hread, htaken⟩

end Sample

end Oid4vc.OfferTaken
