import Oid4vc.Issuer.Endpoints
import Oid4vc.Issuer.Redemption

/-!
The life of an access token, when requests come one at a time.

A code mints one token at most; a replay of the code revokes that token and no other; and apart
from revocation a token is valid until it expires, whenever expired tokens are removed.
-/

namespace Oid4vc.Tokens

open Oid4vc.Run Oid4vc.Fallible Oid4vc.PartialMap Oid4vc.Instant Oid4vc.External Oid4vc.Oid4vci
open Oid4vc.IssuerStore Oid4vc.Authorization Oid4vc.Offer Oid4vc.Token Oid4vc.Endpoints

/-- A request with what the issuer answered to it, as the history keeps it. -/
abbrev Event := Entry IssuerWorld Call CallAnswer

/-- The request was answered with this token. -/
def Minted (e : Event) (r : TokenResponse) : Prop :=
  ∃ request ctx, e.input = .token request ctx ∧ e.answer = .token (.ok r)

/-- The request redeemed this authorization code for this token. -/
def MintedFrom (e : Event) (code : String) (r : TokenResponse) : Prop :=
  ∃ request ctx, e.input = .token request ctx ∧ Redeems request code ∧ e.answer = .token (.ok r)

/-- The request was told that this code is consumed. -/
def Replayed (e : Event) (code : String) : Prop :=
  ∃ request ctx, e.input = .token request ctx ∧ Redeems request code ∧
    e.answer = .token (.error .codeConsumed)

/-- The token was minted from a code that was replayed. -/
def Revoked (history : List Event) (e : Event) (r : TokenResponse) : Prop :=
  ∃ code, MintedFrom e code r ∧ ∃ e' ∈ history, Replayed e' code

/-- How long a token that was minted just then is accepted. -/
def expiry (e : Event) : ℤ := e.before.clock + seconds accessTokenTtlSecs

/-- What is true of the tokens of a history, and of the world after it. -/
structure WellKept (X : Crates) (history : List Event) (w : IssuerWorld) : Prop where
  /-- No code mints two tokens. -/
  once : ∀ code, history.Pairwise fun e e' =>
    ¬ ((∃ r, MintedFrom e code r) ∧ ∃ r, MintedFrom e' code r)
  /-- A token whose code was replayed is valid no longer. -/
  revoked : ∀ e ∈ history, ∀ r, Revoked history e r →
    ∀ now, (w.store.getAccessGrant now r.accessToken).1 = none
  /-- A replay leaves the tokens that were not minted from its code as they are. -/
  others : ∀ e ∈ history, ∀ code, Replayed e code → ∀ token,
    (∀ e' ∈ history, ∀ r, MintedFrom e' code r → r.accessToken ≠ token) → ∀ now,
      (((issuerMachine X).step e.before e.input).1.store.getAccessGrant now token).1 =
        (e.before.store.getAccessGrant now token).1
  /-- A token is accepted until it expires, unless it was revoked. -/
  lifetime : ∀ e ∈ history, ∀ r, Minted e r → ¬ Revoked history e r → ∃ grant, ∀ now,
    w.clock ≤ now → (w.store.getAccessGrant now r.accessToken).1 =
      if now < expiry e then some grant else none

/-! ### The store -/

/-- The session of this code is consumed. -/
def Spent (w : IssuerWorld) (code : String) : Prop :=
  ∃ session, w.store.getSessionByCode code = some session ∧ session.consumed = true

variable (X : Crates)

/-- Request URIs and codes are identifiers that were drawn. -/
structure Drawn (w : IssuerWorld) : Prop where
  uris : ∀ uri session, w.store.sessions.get uri = some session →
    ∃ k < w.drawn, uri = "urn:ietf:params:oauth:request_uri:" ++ X.uuid k
  codes : ∀ code uri, w.store.codeToUri.get code = some uri → ∃ k < w.drawn, code = X.uuid k

variable {X}

/-- A call that mints no token and revokes none. -/
structure Quiet (w w' : IssuerWorld) : Prop where
  drawn : w.drawn ≤ w'.drawn
  clock : w.clock ≤ w'.clock
  spent : ∀ code, Spent w code → Spent w' code
  records : w'.store.tokensByCode = w.store.tokensByCode
  tokens : ∀ token, w'.store.accessTokens.get token = w.store.accessTokens.get token ∨
    w'.store.accessTokens.get token = none ∧
      ∀ entry, w.store.accessTokens.get token = some entry → entry.expiresAt ≤ w.clock

lemma Quiet.refl (w : IssuerWorld) : Quiet w w :=
  ⟨Nat.le_refl _, Int.le_refl _, fun _ h => h, rfl, fun _ => Or.inl rfl⟩

lemma Quiet.of_same {w w' : IssuerWorld} (hdrawn : w.drawn ≤ w'.drawn) (hclock : w.clock ≤ w'.clock)
    (hsessions : w'.store.sessions = w.store.sessions)
    (hcodes : w'.store.codeToUri = w.store.codeToUri)
    (hrecords : w'.store.tokensByCode = w.store.tokensByCode)
    (htokens : w'.store.accessTokens = w.store.accessTokens) : Quiet w w' := by
  refine ⟨hdrawn, hclock, fun code h => ?_, hrecords, fun token => Or.inl (by rw [htokens])⟩
  unfold Spent InMemoryIssuerState.getSessionByCode at h ⊢
  rwa [hsessions, hcodes]

lemma Drawn.of_same {w w' : IssuerWorld} (h : Drawn X w) (hdrawn : w.drawn ≤ w'.drawn)
    (hsessions : w'.store.sessions = w.store.sessions)
    (hcodes : w'.store.codeToUri = w.store.codeToUri) : Drawn X w' := by
  constructor
  · intro uri session hs
    rw [hsessions] at hs
    obtain ⟨k, hk, huri⟩ := h.uris uri session hs
    exact ⟨k, by omega, huri⟩
  · intro code uri hc
    rw [hcodes] at hc
    obtain ⟨k, hk, hcode⟩ := h.codes code uri hc
    exact ⟨k, by omega, hcode⟩

lemma requestUri_inj (huuid : Function.Injective X.uuid) {m n : ℕ}
    (h : "urn:ietf:params:oauth:request_uri:" ++ X.uuid m =
      "urn:ietf:params:oauth:request_uri:" ++ X.uuid n) : m = n := by
  apply huuid
  rw [← String.toList_inj, String.toList_append, String.toList_append,
    List.append_cancel_left_eq, String.toList_inj] at h
  exact h

/-- A pushed request gets a session of its own. -/
lemma quiet_processPar (huuid : Function.Injective X.uuid) {w : IssuerWorld} (h : Drawn X w)
    (request : PushedAuthorizationRequest) (ctx : ParContext) (metadata : CredentialIssuerMetadata) :
    Quiet w (processPar X request ctx metadata w).2 ∧
      Drawn X (processPar X request ctx metadata w).2 := by
  unfold processPar
  cases checkPar request ctx metadata with
  | error e => exact ⟨.refl w, h⟩
  | ok r =>
    obtain ⟨dpopJkt, ids, viaDetails⟩ := r
    refine ⟨⟨Nat.le_succ _, Int.le_refl _, ?_, rfl, fun _ => Or.inl rfl⟩, ?_, ?_⟩
    · rintro code ⟨session, hsession, hconsumed⟩
      refine ⟨session, ?_, hconsumed⟩
      simp only [InMemoryIssuerState.getSessionByCode, Option.bind_eq_some_iff] at hsession ⊢
      obtain ⟨uri, huri, hsession⟩ := hsession
      refine ⟨uri, huri, ?_⟩
      obtain ⟨k, hk, rfl⟩ := h.uris uri session hsession
      have hne : "urn:ietf:params:oauth:request_uri:" ++ X.uuid k ≠
          "urn:ietf:params:oauth:request_uri:" ++ X.uuid w.drawn := by
        intro heq
        have := requestUri_inj huuid heq
        omega
      exact (get_insert_of_ne _ _ hne).trans hsession
    · intro uri session hs
      rcases get_of_get_insert hs with ⟨rfl, -⟩ | ⟨-, hs⟩
      · exact ⟨w.drawn, Nat.lt_succ_self _, rfl⟩
      · obtain ⟨k, hk, huri⟩ := h.uris uri session hs
        exact ⟨k, Nat.lt_succ_of_lt hk, huri⟩
    · intro code uri hc
      obtain ⟨k, hk, hcode⟩ := h.codes code uri hc
      exact ⟨k, Nat.lt_succ_of_lt hk, hcode⟩

/-- A new code leaves the sessions of the others consumed if they were. -/
lemma quiet_generateAuthorizationCode (huuid : Function.Injective X.uuid) {w : IssuerWorld}
    (h : Drawn X w) (requestUri : String) :
    Quiet w (generateAuthorizationCode X requestUri w).2 ∧
      Drawn X (generateAuthorizationCode X requestUri w).2 := by
  unfold generateAuthorizationCode InMemoryIssuerState.setAuthorizationCode
  cases hget : w.store.sessions.get requestUri with
  | none =>
    exact ⟨.of_same (Nat.le_succ _) (Int.le_refl _) rfl rfl rfl rfl, h.of_same (Nat.le_succ _) rfl rfl⟩
  | some session =>
    refine ⟨⟨Nat.le_succ _, Int.le_refl _, ?_, rfl, fun _ => Or.inl rfl⟩, ?_, ?_⟩
    · rintro code ⟨found, hfound, hconsumed⟩
      simp only [InMemoryIssuerState.getSessionByCode, Option.bind_eq_some_iff] at hfound
      obtain ⟨uri, huri, hfound⟩ := hfound
      obtain ⟨k, hk, rfl⟩ := h.codes code uri huri
      -- the code of that session was drawn before
      have hne : X.uuid k ≠ X.uuid w.drawn := fun heq => by
        have := huuid heq
        omega
      by_cases hsame : uri = requestUri
      · subst hsame
        rw [hget, Option.some.injEq] at hfound
        subst hfound
        refine ⟨{ session with
          authorizationCode := some (X.uuid w.drawn), codeIssuedAt := some w.clock }, ?_, hconsumed⟩
        simp [InMemoryIssuerState.getSessionByCode, hne, huri]
      · exact ⟨found, by simp [InMemoryIssuerState.getSessionByCode, hne, huri, hsame, hfound],
          hconsumed⟩
    · intro uri found hs
      rcases get_of_get_insert hs with ⟨rfl, -⟩ | ⟨-, hs⟩
      · obtain ⟨k, hk, huri⟩ := h.uris uri session hget
        exact ⟨k, Nat.lt_succ_of_lt hk, huri⟩
      · obtain ⟨k, hk, huri⟩ := h.uris uri found hs
        exact ⟨k, Nat.lt_succ_of_lt hk, huri⟩
    · intro code uri hc
      rcases get_of_get_insert hc with ⟨rfl, -⟩ | ⟨-, hc⟩
      · exact ⟨w.drawn, Nat.lt_succ_self _, rfl⟩
      · obtain ⟨k, hk, hcode⟩ := h.codes code uri hc
        exact ⟨k, Nat.lt_succ_of_lt hk, hcode⟩

/-- Looking a token up removes it just if it has expired. -/
lemma quiet_getAccessGrant (w : IssuerWorld) (token : String) :
    Quiet w { w with store := (w.store.getAccessGrant w.clock token).2 } := by
  unfold InMemoryIssuerState.getAccessGrant
  cases hget : w.store.accessTokens.get token with
  | none => exact .refl w
  | some entry =>
    by_cases hlt : w.clock < entry.expiresAt
    · simp only [hlt, if_true]
      exact .refl w
    · simp only [hlt, if_false]
      refine ⟨Nat.le_refl _, Int.le_refl _, fun _ h => h, rfl, fun token' => ?_⟩
      by_cases hsame : token' = token
      · subst hsame
        refine Or.inr ⟨get_remove_self _ _, fun entry' h => ?_⟩
        rw [hget, Option.some.injEq] at h
        rw [← h]
        omega
      · exact Or.inl (get_remove_of_ne _ hsame)

/-- Every call but a token request is quiet. -/
lemma quiet_step (huuid : Function.Injective X.uuid) {w : IssuerWorld} (h : Drawn X w) {c : Call}
    (hc : ∀ request ctx, c ≠ .token request ctx) :
    Quiet w ((issuerMachine X).step w c).1 ∧ Drawn X ((issuerMachine X).step w c).1 := by
  cases c with
  | par request ctx metadata => exact quiet_processPar huuid h request ctx metadata
  | approve requestUri => exact quiet_generateAuthorizationCode huuid h requestUri
  | offer issuerUrl params txCode =>
    simp only [issuerMachine, makeOffer, createOffer, storeOffer]
    split
    · exact ⟨.of_same (by simp only; omega) (Int.le_refl _) rfl rfl rfl rfl,
        h.of_same (by simp only; omega) rfl rfl⟩
    · exact ⟨.of_same (by simp only; omega) (Int.le_refl _) rfl rfl rfl rfl,
        h.of_same (by simp only; omega) rfl rfl⟩
  | token request ctx => exact absurd rfl (hc request ctx)
  | nonce expiresIn =>
    exact ⟨.of_same (Nat.le_succ _) (Int.le_refl _) rfl rfl rfl rfl,
      h.of_same (Nat.le_succ _) rfl rfl⟩
  | accessGrant token =>
    have hsame : (w.store.getAccessGrant w.clock token).2.sessions = w.store.sessions ∧
        (w.store.getAccessGrant w.clock token).2.codeToUri = w.store.codeToUri := by
      unfold InMemoryIssuerState.getAccessGrant
      split
      · split_ifs <;> exact ⟨rfl, rfl⟩
      · exact ⟨rfl, rfl⟩
    exact ⟨quiet_getAccessGrant w token, h.of_same (Nat.le_refl _) hsame.1 hsame.2⟩
  | consumeNonce nonce =>
    simp only [issuerMachine, InMemoryIssuerState.consumeCNonce]
    split
    · exact ⟨.of_same (Nat.le_refl _) (Int.le_refl _) rfl rfl rfl rfl,
        h.of_same (Nat.le_refl _) rfl rfl⟩
    · exact ⟨.refl w, h⟩
  | recordJti key ttl =>
    simp only [issuerMachine, InMemoryIssuerState.recordJti]
    split_ifs
    · exact ⟨.of_same (Nat.le_refl _) (Int.le_refl _) rfl rfl rfl rfl,
        h.of_same (Nat.le_refl _) rfl rfl⟩
    · exact ⟨.of_same (Nat.le_refl _) (Int.le_refl _) rfl rfl rfl rfl,
        h.of_same (Nat.le_refl _) rfl rfl⟩
  | wait nanoseconds =>
    have hlater : w.clock ≤ w.clock + nanoseconds := by omega
    exact ⟨.of_same (Nat.le_refl _) hlater rfl rfl rfl rfl, h.of_same (Nat.le_refl _) rfl rfl⟩

/-! ### The history -/

/-- The token is stored, or it was removed when it had expired. -/
def Lasting (w : IssuerWorld) (token : String) (grant : AccessGrant) (expires : ℤ) : Prop :=
  w.store.accessTokens.get token = some ⟨grant, expires⟩ ∨
    w.store.accessTokens.get token = none ∧ expires ≤ w.clock

variable (X) in
/-- **What the store keeps of the tokens of a history.** -/
structure Kept (history : List Event) (w : IssuerWorld) : Prop where
  drawn : ∀ e ∈ history, ∀ r, Minted e r → ∃ k < w.drawn, r.accessToken = X.uuid k
  distinct : ∀ e ∈ history, ∀ e' ∈ history, ∀ r r', Minted e r → Minted e' r' →
    r.accessToken = r'.accessToken → e = e'
  spent : ∀ e ∈ history, ∀ code, ((∃ r, MintedFrom e code r) ∨ Replayed e code) → Spent w code
  once : ∀ code, history.Pairwise fun e e' =>
    ¬ ((∃ r, MintedFrom e code r) ∧ ∃ r, MintedFrom e' code r)
  recorded : ∀ code token, w.store.tokensByCode.get code = some token →
    ∃ e ∈ history, ∃ r, MintedFrom e code r ∧ r.accessToken = token
  kept : ∀ e ∈ history, ∀ code r, MintedFrom e code r → ¬ Revoked history e r →
    w.store.tokensByCode.get code = some r.accessToken
  revoked : ∀ e ∈ history, ∀ r, Revoked history e r →
    w.store.accessTokens.get r.accessToken = none
  lasting : ∀ e ∈ history, ∀ r, Minted e r → ¬ Revoked history e r →
    ∃ grant, Lasting w r.accessToken grant (expiry e)
  others : ∀ e ∈ history, ∀ code, Replayed e code → ∀ token,
    (∀ e' ∈ history, ∀ r, MintedFrom e' code r → r.accessToken ≠ token) →
    ((issuerMachine X).step e.before e.input).1.store.accessTokens.get token =
      e.before.store.accessTokens.get token

lemma MintedFrom.minted {e : Event} {code : String} {r : TokenResponse} (h : MintedFrom e code r) :
    Minted e r := by
  obtain ⟨request, ctx, hinput, -, hanswer⟩ := h
  exact ⟨request, ctx, hinput, hanswer⟩

lemma Minted.unique {e : Event} {r r' : TokenResponse} (h : Minted e r) (h' : Minted e r') :
    r = r' := by
  obtain ⟨-, -, -, hanswer⟩ := h
  obtain ⟨-, -, -, hanswer'⟩ := h'
  rw [hanswer] at hanswer'
  simpa using hanswer'

lemma MintedFrom.unique {e : Event} {code code' : String} {r r' : TokenResponse}
    (h : MintedFrom e code r) (h' : MintedFrom e code' r') : code = code' := by
  obtain ⟨request, ctx, hinput, ⟨-, hcode⟩, -⟩ := h
  obtain ⟨request', ctx', hinput', ⟨-, hcode'⟩, -⟩ := h'
  rw [hinput, Call.token.injEq] at hinput'
  rw [hinput'.1, hcode', Option.some.injEq] at hcode
  exact hcode.symm

lemma Minted.not_replayed {e : Event} {r : TokenResponse} (h : Minted e r) (code : String) :
    ¬ Replayed e code := by
  rintro ⟨-, -, -, -, hanswer'⟩
  obtain ⟨-, -, -, hanswer⟩ := h
  rw [hanswer] at hanswer'
  simp at hanswer'

variable {history : List Event} {w w' : IssuerWorld} {n : Event}

/-- A token is revoked by the replays of the history, or by the last one. -/
lemma revoked_snoc {e : Event} {r : TokenResponse} : Revoked (history ++ [n]) e r ↔
    Revoked history e r ∨ ∃ code, MintedFrom e code r ∧ Replayed n code := by
  simp only [Revoked, List.mem_append, List.mem_singleton]
  constructor
  · rintro ⟨code, hminted, e', he' | rfl, hreplayed⟩
    · exact Or.inl ⟨code, hminted, e', he', hreplayed⟩
    · exact Or.inr ⟨code, hminted, hreplayed⟩
  · rintro (⟨code, hminted, e', he', hreplayed⟩ | ⟨code, hminted, hreplayed⟩)
    · exact ⟨code, hminted, e', Or.inl he', hreplayed⟩
    · exact ⟨code, hminted, n, Or.inr rfl, hreplayed⟩

lemma Lasting.quiet {token : String} {grant : AccessGrant} {expires : ℤ}
    (h : Lasting w token grant expires) (hq : Quiet w w') : Lasting w' token grant expires := by
  have hclock := hq.clock
  rcases h with h | ⟨h, hexpired⟩
  · rcases hq.tokens token with hsame | ⟨hgone, hexpired⟩
    · exact Or.inl (hsame.trans h)
    · have hle : expires ≤ w.clock := hexpired _ h
      exact Or.inr ⟨hgone, by omega⟩
  · rcases hq.tokens token with hsame | ⟨hgone, -⟩
    · exact Or.inr ⟨hsame.trans h, by omega⟩
    · exact Or.inr ⟨hgone, by omega⟩

/-- **A call that neither mints nor revokes.** -/
lemma Kept.quiet (h : Kept X history w) (hq : Quiet w w') (hmint : ∀ r, ¬ Minted n r)
    (hreplay : ∀ code, ¬ Replayed n code) : Kept X (history ++ [n]) w' := by
  have hfrom : ∀ code r, ¬ MintedFrom n code r := fun code r hn => hmint r hn.minted
  have hrevoked : ∀ {e : Event} {r : TokenResponse},
      Revoked (history ++ [n]) e r ↔ Revoked history e r := by
    intro e r
    rw [revoked_snoc, or_iff_left]
    rintro ⟨code, -, hn⟩
    exact hreplay code hn
  -- what minted, minted before this call
  have hold : ∀ {e : Event} {r : TokenResponse}, e ∈ history ++ [n] → Minted e r → e ∈ history := by
    intro e r he hr
    rcases List.mem_append.mp he with he | he
    · exact he
    · rw [List.mem_singleton.mp he] at hr
      exact absurd hr (hmint r)
  refine ⟨fun e he r hr => ?_, fun e he e' he' r r' hr hr' heq => ?_, fun e he code hcode => ?_,
    fun code => ?_, fun code token htoken => ?_, fun e he code r hr hn => ?_, fun e he r hr => ?_,
    fun e he r hr hn => ?_, fun e he code hcode token htoken => ?_⟩
  · obtain ⟨k, hk, htoken⟩ := h.drawn e (hold he hr) r hr
    exact ⟨k, lt_of_lt_of_le hk hq.drawn, htoken⟩
  · exact h.distinct e (hold he hr) e' (hold he' hr') r r' hr hr' heq
  · rcases List.mem_append.mp he with he | he
    · exact hq.spent code (h.spent e he code hcode)
    · rw [List.mem_singleton.mp he] at hcode
      rcases hcode with ⟨r, hr⟩ | hr
      · exact absurd hr (hfrom code r)
      · exact absurd hr (hreplay code)
  · refine List.pairwise_append.mpr ⟨h.once code, List.pairwise_singleton _ _, ?_⟩
    intro e _ e' he' hboth
    obtain ⟨-, r, hr⟩ := hboth
    rw [List.mem_singleton.mp he'] at hr
    exact hfrom code r hr
  · rw [hq.records] at htoken
    obtain ⟨e, he, r, hr, hsame⟩ := h.recorded code token htoken
    exact ⟨e, List.mem_append_left _ he, r, hr, hsame⟩
  · rw [hq.records]
    exact h.kept e (hold he hr.minted) code r hr fun hrev => hn (hrevoked.mpr hrev)
  · have hrev := hrevoked.mp hr
    obtain ⟨code, hfrom', -⟩ := hr
    have hgone := h.revoked e (hold he hfrom'.minted) r hrev
    -- a quiet call brings no token back that was revoked
    rcases hq.tokens r.accessToken with hsame | ⟨hnone, -⟩
    · rw [hsame, hgone]
    · exact hnone
  · obtain ⟨grant, hlasting⟩ :=
      h.lasting e (hold he hr) r hr fun hrev => hn (hrevoked.mpr hrev)
    exact ⟨grant, hlasting.quiet hq⟩
  · rcases List.mem_append.mp he with he | he
    · exact h.others e he code hcode token fun e' he' r hr =>
        htoken e' (List.mem_append_left _ he') r hr
    · rw [List.mem_singleton.mp he] at hcode
      exact absurd hcode (hreplay code)

lemma revoke_cases (s : InMemoryIssuerState) (code : String) :
    (s.tokensByCode.get code = none ∧ s.revokeTokensForCode code = s) ∨
      ∃ token, s.tokensByCode.get code = some token ∧
        (s.revokeTokensForCode code).tokensByCode = s.tokensByCode.remove code ∧
        (s.revokeTokensForCode code).accessTokens = s.accessTokens.remove token := by
  unfold InMemoryIssuerState.revokeTokensForCode
  cases hcode : s.tokensByCode.get code with
  | none => exact Or.inl ⟨rfl, rfl⟩
  | some token => exact Or.inr ⟨token, rfl, rfl, rfl⟩

lemma spent_revoke {code code' : String} (h : Spent w code') :
    Spent { w with store := w.store.revokeTokensForCode code } code' := by
  obtain ⟨session, hsession, hconsumed⟩ := h
  refine ⟨session, ?_, hconsumed⟩
  unfold InMemoryIssuerState.revokeTokensForCode
  split <;> exact hsession

/-- **A replay.** It revokes the token that was minted from its code. -/
lemma Kept.replay (h : Kept X history w) {code : String} (hreplay : Replayed n code)
    (hbefore : n.before = w) (hspent : Spent w code)
    (hafter : ((issuerMachine X).step n.before n.input).1 =
      { w with store := w.store.revokeTokensForCode code }) :
    Kept X (history ++ [n]) { w with store := w.store.revokeTokensForCode code } := by
  have hmint : ∀ r, ¬ Minted n r := fun r hr => hr.not_replayed code hreplay
  have hcode : ∀ code', Replayed n code' → code' = code := by
    rintro code' ⟨request', ctx', hinput', ⟨-, hcode'⟩, -⟩
    obtain ⟨request, ctx, hinput, ⟨-, hcode⟩, -⟩ := hreplay
    rw [hinput', Call.token.injEq] at hinput
    rw [hinput.1, hcode, Option.some.injEq] at hcode'
    exact hcode'.symm
  have hold : ∀ {e : Event} {r : TokenResponse}, e ∈ history ++ [n] → Minted e r → e ∈ history := by
    intro e r he hr
    rcases List.mem_append.mp he with he | he
    · exact he
    · rw [List.mem_singleton.mp he] at hr
      exact absurd hr (hmint r)
  have hnot : ∀ {e : Event} {r : TokenResponse}, ¬ Revoked (history ++ [n]) e r →
      ¬ Revoked history e r ∧ ¬ MintedFrom e code r := by
    intro e r hn
    rw [revoked_snoc, not_or] at hn
    exact ⟨hn.1, fun hfrom => hn.2 ⟨code, hfrom, hreplay⟩⟩
  -- a token that is kept was not minted from the code, and keeps its place
  have htoken : ∀ {e : Event} {r : TokenResponse}, e ∈ history → Minted e r → ¬ MintedFrom e code r →
      (w.store.revokeTokensForCode code).accessTokens.get r.accessToken =
        w.store.accessTokens.get r.accessToken := by
    intro e r he hr hfrom
    rcases revoke_cases w.store code with ⟨-, hsame⟩ | ⟨token, hrecord, -, htokens⟩
    · rw [hsame]
    · rw [htokens]
      refine get_remove_of_ne _ fun heq => ?_
      obtain ⟨e', he', r', hr', htoken'⟩ := h.recorded code token hrecord
      have hsame := h.distinct e he e' he' r r' hr hr'.minted (by rw [heq, htoken'])
      subst hsame
      rw [hr.unique hr'.minted] at hfrom
      exact hfrom hr'
  refine ⟨fun e he r hr => h.drawn e (hold he hr) r hr, fun e he e' he' r r' hr hr' heq =>
    h.distinct e (hold he hr) e' (hold he' hr') r r' hr hr' heq, fun e he code' hcode' => ?_,
    fun code' => ?_, fun code' token hrecord => ?_, fun e he code' r hr hn => ?_,
    fun e he r hr => ?_, fun e he r hr hn => ?_, fun e he code' hcode' token hothers => ?_⟩
  · rcases List.mem_append.mp he with he | he
    · exact spent_revoke (h.spent e he code' hcode')
    · rw [List.mem_singleton.mp he] at hcode'
      rcases hcode' with ⟨r, hr⟩ | hr
      · exact absurd hr.minted (hmint r)
      · rw [hcode code' hr]
        exact spent_revoke hspent
  · refine List.pairwise_append.mpr ⟨h.once code', List.pairwise_singleton _ _, ?_⟩
    intro e _ e' he' hboth
    obtain ⟨-, r, hr⟩ := hboth
    rw [List.mem_singleton.mp he'] at hr
    exact hmint r hr.minted
  · have hrecord' : w.store.tokensByCode.get code' = some token := by
      rcases revoke_cases w.store code with ⟨-, hsame⟩ | ⟨_, -, hrecords, -⟩
      · simpa only [hsame] using hrecord
      · simp only [hrecords] at hrecord
        exact (get_of_get_remove hrecord).2
    obtain ⟨e, he, r, hr, hsame⟩ := h.recorded code' token hrecord'
    exact ⟨e, List.mem_append_left _ he, r, hr, hsame⟩
  · obtain ⟨hn, hfrom⟩ := hnot hn
    have hne : code' ≠ code := by
      rintro rfl
      exact hfrom hr
    have hkept := h.kept e (hold he hr.minted) code' r hr hn
    rcases revoke_cases w.store code with ⟨-, hsame⟩ | ⟨_, -, hrecords, -⟩
    · simpa only [hsame] using hkept
    · simp only [hrecords]
      exact (get_remove_of_ne _ hne).trans hkept
  · have hgone : w.store.accessTokens.get r.accessToken = none →
        (w.store.revokeTokensForCode code).accessTokens.get r.accessToken = none := by
      intro hnone
      exact (InMemoryIssuerState.revokeTokensForCode_spec code).2.2.2 _ hnone
    obtain ⟨code', hfrom, e', he', hreplayed⟩ := id hr
    have he := hold he hfrom.minted
    by_cases hrev : Revoked history e r
    · exact hgone (h.revoked e he r hrev)
    · rcases revoked_snoc.mp hr with hr | ⟨code'', hfrom', hlast⟩
      · exact absurd hr hrev
      · rw [hcode code'' hlast] at hfrom'
        have hkept := h.kept e he code r hfrom' hrev
        exact (InMemoryIssuerState.revokeTokensForCode_spec code).2.2.1 _ hkept
  · obtain ⟨hn, hfrom⟩ := hnot hn
    have he := hold he hr
    obtain ⟨grant, hlasting⟩ := h.lasting e he r hr hn
    refine ⟨grant, ?_⟩
    unfold Lasting at hlasting ⊢
    simp only [htoken he hr hfrom]
    exact hlasting
  · rcases List.mem_append.mp he with he | he
    · exact h.others e he code' hcode' token fun e' he' r hr =>
        hothers e' (List.mem_append_left _ he') r hr
    · rw [List.mem_singleton] at he
      subst he
      rw [hcode code' hcode'] at hothers
      rw [hafter, hbefore]
      rcases revoke_cases w.store code with ⟨-, hsame⟩ | ⟨token', hrecord, -, htokens⟩
      · simp only [hsame]
      · simp only [htokens]
        refine get_remove_of_ne _ fun heq => ?_
        obtain ⟨e', he', r', hr', htoken'⟩ := h.recorded code token' hrecord
        exact hothers e' (List.mem_append_left _ he') r' hr' (htoken'.trans heq.symm)

/-- **A new token.** It is the next identifier; if it is minted from a code, that code was not
spent, and is spent from then on. -/
lemma Kept.mint (huuid : Function.Injective X.uuid) (h : Kept X history w) {r : TokenResponse}
    (hmint : Minted n r) (hbefore : n.before = w) (htoken : r.accessToken = X.uuid w.drawn)
    (hdrawn : w.drawn < w'.drawn) (hclock : w'.clock = w.clock)
    (hspent : ∀ code, Spent w code → Spent w' code) (grant : AccessGrant)
    (htokens : w'.store.accessTokens =
      w.store.accessTokens.insert (X.uuid w.drawn) ⟨grant, w.clock + seconds accessTokenTtlSecs⟩)
    (hcode : ∀ code, MintedFrom n code r → ¬ Spent w code ∧ Spent w' code ∧
      w'.store.tokensByCode.get code = some r.accessToken)
    (hother : ∀ code, ¬ MintedFrom n code r →
      w'.store.tokensByCode.get code = w.store.tokensByCode.get code) :
    Kept X (history ++ [n]) w' := by
  have hreplay := hmint.not_replayed
  have hrevoked : ∀ {e : Event} {r : TokenResponse},
      Revoked (history ++ [n]) e r ↔ Revoked history e r := by
    intro e r
    rw [revoked_snoc, or_iff_left]
    rintro ⟨code, -, hn⟩
    exact hreplay code hn
  -- the token is none of those before it
  have hfresh : ∀ {e : Event} {r' : TokenResponse}, e ∈ history → Minted e r' →
      r'.accessToken ≠ X.uuid w.drawn := by
    intro e r' he hr' heq
    obtain ⟨k, hk, hsame⟩ := h.drawn e he r' hr'
    have := huuid (hsame.symm.trans heq)
    omega
  have hnew : ¬ Revoked history n r := by
    rintro ⟨code, hfrom, e, he, hr⟩
    exact (hcode code hfrom).1 (h.spent e he code (Or.inr hr))
  refine ⟨fun e he r' hr' => ?_, fun e he e' he' r₁ r₂ hr₁ hr₂ heq => ?_, fun e he code hr' => ?_,
    fun code => ?_, fun code token hrecord => ?_, fun e he code r' hr' hn => ?_,
    fun e he r' hr' => ?_, fun e he r' hr' hn => ?_, fun e he code hr' token hothers => ?_⟩
  · rcases List.mem_append.mp he with he | he
    · obtain ⟨k, hk, hsame⟩ := h.drawn e he r' hr'
      exact ⟨k, by omega, hsame⟩
    · rw [List.mem_singleton.mp he] at hr'
      rw [← hmint.unique hr']
      exact ⟨w.drawn, hdrawn, htoken⟩
  · rcases List.mem_append.mp he with he | he <;> rcases List.mem_append.mp he' with he' | he'
    · exact h.distinct e he e' he' r₁ r₂ hr₁ hr₂ heq
    · rw [List.mem_singleton.mp he'] at hr₂
      rw [← hmint.unique hr₂, htoken] at heq
      exact absurd heq (hfresh he hr₁)
    · rw [List.mem_singleton.mp he] at hr₁
      rw [← hmint.unique hr₁, htoken] at heq
      exact absurd heq.symm (hfresh he' hr₂)
    · rw [List.mem_singleton.mp he, List.mem_singleton.mp he']
  · rcases List.mem_append.mp he with he | he
    · exact hspent code (h.spent e he code hr')
    · rw [List.mem_singleton.mp he] at hr'
      rcases hr' with ⟨r', hr'⟩ | hr'
      · rw [← hmint.unique hr'.minted] at hr'
        exact (hcode code hr').2.1
      · exact absurd hr' (hreplay code)
  · refine List.pairwise_append.mpr ⟨h.once code, List.pairwise_singleton _ _, ?_⟩
    rintro e he e' he' ⟨hfirst, r', hr'⟩
    rw [List.mem_singleton.mp he'] at hr'
    rw [← hmint.unique hr'.minted] at hr'
    exact (hcode code hr').1 (h.spent e he code (Or.inl hfirst))
  · by_cases hfrom : MintedFrom n code r
    · rw [(hcode code hfrom).2.2, Option.some.injEq] at hrecord
      exact ⟨n, by simp, r, hfrom, hrecord⟩
    · rw [hother code hfrom] at hrecord
      obtain ⟨e, he, r', hr', hsame⟩ := h.recorded code token hrecord
      exact ⟨e, List.mem_append_left _ he, r', hr', hsame⟩
  · rcases List.mem_append.mp he with he | he
    · have hne : ¬ MintedFrom n code r := fun hfrom =>
        (hcode code hfrom).1 (h.spent e he code (Or.inl ⟨r', hr'⟩))
      rw [hother code hne]
      exact h.kept e he code r' hr' fun hrev => hn (hrevoked.mpr hrev)
    · rw [List.mem_singleton.mp he] at hr'
      have hsame := hmint.unique hr'.minted
      subst hsame
      exact (hcode code hr').2.2
  · have hrev := hrevoked.mp hr'
    rcases List.mem_append.mp he with he | he
    · obtain ⟨code, hfrom, -⟩ := hr'
      rw [htokens, get_insert_of_ne _ _ (hfresh he hfrom.minted)]
      exact h.revoked e he r' hrev
    · rw [List.mem_singleton.mp he] at hrev
      obtain ⟨code, hfrom, hlater⟩ := id hrev
      rw [← hmint.unique hfrom.minted] at hrev
      exact absurd hrev hnew
  · rcases List.mem_append.mp he with he | he
    · obtain ⟨grant', hlasting⟩ := h.lasting e he r' hr' fun hrev => hn (hrevoked.mpr hrev)
      refine ⟨grant', ?_⟩
      unfold Lasting at hlasting ⊢
      rw [htokens, get_insert_of_ne _ _ (hfresh he hr'), hclock]
      exact hlasting
    · rw [List.mem_singleton.mp he] at hr' ⊢
      rw [← hmint.unique hr']
      refine ⟨grant, Or.inl ?_⟩
      rw [htokens, htoken, get_insert_self, expiry, hbefore]
  · rcases List.mem_append.mp he with he | he
    · exact h.others e he code hr' token fun e' he' r' hr' =>
        hothers e' (List.mem_append_left _ he') r' hr'
    · rw [List.mem_singleton.mp he] at hr'
      exact absurd hr' (hreplay code)

/-! ### Runs -/

/-- Consuming a code spends it, and no spent code is spent less. -/
lemma spent_consume {code : String} {session : AuthorizationSession}
    (hsession : w.store.getSessionByCode code = some session) :
    Spent { w with store := w.store.consumeAuthorizationCode code } code ∧
      ∀ code', Spent w code' →
        Spent { w with store := w.store.consumeAuthorizationCode code } code' := by
  constructor
  · refine ⟨{ session with consumed := true }, ?_, rfl⟩
    simp only [InMemoryIssuerState.getSessionByCode_consume, hsession, Option.map_some]
  · rintro code' ⟨found, hfound, hconsumed⟩
    unfold Spent InMemoryIssuerState.consumeAuthorizationCode
    simp only [InMemoryIssuerState.getSessionByCode, Option.bind_eq_some_iff] at hsession hfound ⊢
    obtain ⟨uri, huri, hsession⟩ := hsession
    obtain ⟨uri', huri', hfound⟩ := hfound
    simp only [huri]
    by_cases hsame : uri' = uri
    · subst hsame
      exact ⟨{ found with consumed := true }, ⟨uri', huri', by simp [hfound]⟩, rfl⟩
    · exact ⟨found, ⟨uri', huri', by simp [hsame, hfound]⟩, hconsumed⟩

lemma drawn_consume {code : String} (h : Drawn X w) :
    Drawn X { w with store := w.store.consumeAuthorizationCode code } := by
  unfold InMemoryIssuerState.consumeAuthorizationCode
  cases huri : w.store.codeToUri.get code with
  | none => exact h
  | some uri =>
    refine ⟨fun uri' session hs => ?_, h.codes⟩
    by_cases hsame : uri' = uri
    · subst hsame
      simp only [get_modify_self, Option.map_eq_some_iff] at hs
      obtain ⟨found, hfound, -⟩ := hs
      exact h.uris uri' found hfound
    · exact h.uris uri' session (by simpa [hsame] using hs)

lemma accessTokens_redeemed (code : String) (session : AuthorizationSession) (jkt : String) :
    (redeemed X w code session jkt).store.accessTokens =
      w.store.accessTokens.insert (X.uuid w.drawn)
        ⟨tokenGrant session.credentialConfigurationIds session.viaAuthorizationDetails (some jkt)
          (drawnUuids X w session.credentialConfigurationIds session.viaAuthorizationDetails),
          w.clock + seconds accessTokenTtlSecs⟩ := by
  have hsame : (w.store.consumeAuthorizationCode code).accessTokens = w.store.accessTokens := by
    unfold InMemoryIssuerState.consumeAuthorizationCode
    split <;> rfl
  rw [← hsame]
  rfl

/-- Everything that holds of a history and the world after it. -/
structure Invariant (X : Crates) (history : List Event) (w : IssuerWorld) : Prop where
  drawn : Drawn X w
  kept : Kept X history w

/-- A token request keeps the invariant, whatever its outcome. -/
lemma Invariant.token (huuid : Function.Injective X.uuid) (h : Invariant X history w)
    (request : TokenRequest) (ctx : TokenContext) :
    Invariant X (history ++ [entry (issuerMachine X) w (.token request ctx)])
      ((issuerMachine X).step w (.token request ctx)).1 := by
  have houtcome := exec_processTokenRequest (X := X) request ctx w
  have hanswer : (entry (issuerMachine X) w (.token request ctx)).answer =
      .token ((processTokenRequest X request ctx).exec w).1 := rfl
  have hafter : ((issuerMachine X).step w (.token request ctx)).1 =
      ((processTokenRequest X request ctx).exec w).2 := rfl
  set n := entry (issuerMachine X) w (.token request ctx) with hn
  have hinput : n.input = .token request ctx := rfl
  have hbefore : n.before = w := rfl
  rw [hafter]
  have hfrom : ∀ {code : String} {r : TokenResponse}, MintedFrom n code r → Redeems request code := by
    rintro code r ⟨request', ctx', hinput', hredeems, -⟩
    rw [hinput, Call.token.injEq] at hinput'
    rw [hinput'.1]
    exact hredeems
  have hstep : ((issuerMachine X).step n.before n.input).1 =
      ((processTokenRequest X request ctx).exec w).2 := rfl
  generalize ((processTokenRequest X request ctx).exec w).1 = a at houtcome hanswer
  generalize ((processTokenRequest X request ctx).exec w).2 = w' at houtcome hstep ⊢
  cases houtcome with
  -- nothing is minted, and what is refused is no replay
  | refused e he =>
    refine ⟨h.drawn, h.kept.quiet (.refl w) ?_ ?_⟩
    · rintro r ⟨-, -, -, hok⟩
      rw [hanswer] at hok
      simp at hok
    · rintro code ⟨-, -, -, -, herr⟩
      rw [hanswer] at herr
      simp [he] at herr
  | replayed code session hcode hsession hconsumed =>
    refine ⟨?_, h.kept.replay ⟨request, ctx, hinput, hcode, hanswer⟩ hbefore
      ⟨session, hsession, hconsumed⟩ hstep⟩
    -- a revocation removes tokens and leaves the sessions
    unfold InMemoryIssuerState.revokeTokensForCode
    split <;> exact ⟨h.drawn.uris, h.drawn.codes⟩
  | redeemed code clientId jkt session issuedAt hcode _ hsession hunused _ _ =>
    have hspent := spent_consume hsession
    refine ⟨(drawn_consume h.drawn).of_same ?_ rfl rfl, h.kept.mint huuid
      ⟨request, ctx, hinput, hanswer⟩ hbefore (accessToken_drawnUuids _ _ _ _) ?_ rfl ?_ _
      (accessTokens_redeemed _ _ _) ?_ ?_⟩
    · simp only [redeemed, minted, tokenUuids]
      omega
    · simp only [redeemed, minted, tokenUuids]
      omega
    · exact fun code' hs => hspent.2 code' hs
    · -- the code is the one of the request, and was unused before it
      intro code' hfrom'
      have hsame : code' = code := by
        have := (hfrom hfrom').2
        rw [hcode.2, Option.some.injEq] at this
        exact this.symm
      subst hsame
      refine ⟨?_, hspent.1, ?_⟩
      · rintro ⟨found, hfound, hconsumed⟩
        rw [hsession, Option.some.injEq] at hfound
        rw [← hfound, hunused] at hconsumed
        cases hconsumed
      · rw [accessToken_drawnUuids]
        exact get_insert_self _ _ _
    · -- the tokens recorded for other codes stay
      intro code' hno
      have hne : code' ≠ code := by
        rintro rfl
        exact hno ⟨request, ctx, hinput, hcode, hanswer⟩
      have hsame : (redeemed X w code session jkt).store.tokensByCode.get code' =
          (w.store.consumeAuthorizationCode code).tokensByCode.get code' := get_insert_of_ne _ _ hne
      rw [hsame, InMemoryIssuerState.tokensByCode_consume]
  | preAuthorized code entry hcode hentry hunused =>
    refine ⟨h.drawn.of_same ?_ rfl rfl, h.kept.mint huuid ⟨request, ctx, hinput, hanswer⟩ hbefore
      (accessToken_drawnUuids _ _ _ _) ?_ rfl (fun _ hs => hs) _ rfl ?_ fun _ _ => rfl⟩
    · simp only [minted, tokenUuids]
      omega
    · simp only [minted, tokenUuids]
      omega
    · -- a token of the other grant is minted from no authorization code
      intro code' hfrom'
      have hgrant := (hfrom hfrom').1
      rw [hcode.1] at hgrant
      exact absurd hgrant (by decide)

/-- A world in which nothing has been stored yet. -/
def initial (start : ℤ) : IssuerWorld := ⟨start, 0, InMemoryIssuerState.new⟩

lemma invariant_initial (start : ℤ) : Invariant X [] (initial start) := by
  have hnone : ∀ {e : Event}, e ∈ ([] : List Event) → False := List.not_mem_nil
  refine ⟨⟨fun _ _ h => by simp [initial, InMemoryIssuerState.new] at h,
    fun _ _ h => by simp [initial, InMemoryIssuerState.new] at h⟩, ?_⟩
  exact ⟨fun _ h => absurd h hnone, fun _ h => absurd h hnone, fun _ h => absurd h hnone,
    fun _ => List.Pairwise.nil, fun _ _ h => by simp [initial, InMemoryIssuerState.new] at h,
    fun _ h => absurd h hnone, fun _ h => absurd h hnone, fun _ h => absurd h hnone,
    fun _ h => absurd h hnone⟩

/-- **The step lemma.** -/
lemma Invariant.step (huuid : Function.Injective X.uuid) (h : Invariant X history w) (c : Call) :
    Invariant X (history ++ [entry (issuerMachine X) w c]) ((issuerMachine X).step w c).1 := by
  by_cases hc : ∃ request ctx, c = .token request ctx
  · obtain ⟨request, ctx, rfl⟩ := hc
    exact h.token huuid request ctx
  · have hother : ∀ request ctx, c ≠ .token request ctx := fun request ctx heq =>
      hc ⟨request, ctx, heq⟩
    obtain ⟨hquiet, hdrawn⟩ := quiet_step huuid h.drawn hother
    refine ⟨hdrawn, h.kept.quiet hquiet ?_ ?_⟩
    · rintro r ⟨request, ctx, hinput, -⟩
      exact hother request ctx hinput
    · rintro code ⟨request, ctx, hinput, -, -⟩
      exact hother request ctx hinput

lemma invariant_run (huuid : Function.Injective X.uuid) (start : ℤ) (calls : List Call) :
    Invariant X (log (issuerMachine X) (initial start) calls)
      (run (issuerMachine X) (initial start) calls) := by
  have hstep : ∀ l s c, Invariant X l s → True →
      Invariant X (l ++ [entry (issuerMachine X) s c]) ((issuerMachine X).step s c).1 :=
    fun _ _ c h _ => h.step huuid c
  exact log_inv hstep (invariant_initial start) (every_true _ calls)

lemma getAccessGrant_congr {s s' : InMemoryIssuerState} {token : String}
    (h : s'.accessTokens.get token = s.accessTokens.get token) (now : ℤ) :
    (s'.getAccessGrant now token).1 = (s.getAccessGrant now token).1 := by
  unfold InMemoryIssuerState.getAccessGrant
  rw [h]
  cases s.accessTokens.get token with
  | none => rfl
  | some entry => simp only; split_ifs <;> rfl

lemma Lasting.getAccessGrant {token : String} {grant : AccessGrant} {expires now : ℤ}
    (h : Lasting w token grant expires) (hnow : w.clock ≤ now) :
    (w.store.getAccessGrant now token).1 = if now < expires then some grant else none := by
  unfold InMemoryIssuerState.getAccessGrant
  rcases h with h | ⟨h, hexpired⟩
  · simp only [h]
    split_ifs <;> rfl
  · rw [if_neg (by omega)]
    simp only [h]

/-- **The life of a token.** In every run of the issuer a code mints one token at most, a replay
of the code revokes that token for good and no other one, and a token that is not revoked is
accepted exactly until it expires. -/
theorem tokens_wellKept (X : Crates) (huuid : Function.Injective X.uuid) (start : ℤ)
    (calls : List Call) : WellKept X (log (issuerMachine X) (initial start) calls)
      (run (issuerMachine X) (initial start) calls) := by
  obtain ⟨-, h⟩ := invariant_run huuid start calls
  refine ⟨h.once, fun e he r hr now => ?_, fun e he code hcode token hothers now => ?_,
    fun e he r hr hn => ?_⟩
  · simp [InMemoryIssuerState.getAccessGrant, h.revoked e he r hr]
  · exact getAccessGrant_congr (h.others e he code hcode token hothers) now
  · obtain ⟨grant, hlasting⟩ := h.lasting e he r hr hn
    exact ⟨grant, fun now hnow => hlasting.getAccessGrant hnow⟩

section Replay

open Oid4vc.Redemption (codeCrates codeVerifier codeChallenge)

def oneConfiguration : CredentialIssuerMetadata where
  credentialIssuer := "https://issuer.example.com"
  batchCredentialIssuance := none
  credentialConfigurationsSupported := [("IdentityCredential_SD_JWT_VC", {
    format := "dc+sd-jwt"
    scope := none
    proofTypesSupported := none
    vct := some "urn:eudi:pid:1"
    doctype := none })]

def parRequest : PushedAuthorizationRequest where
  responseType := "code"
  clientId := "wallet.example.com"
  redirectUri := "https://wallet.example.com/cb"
  scope := none
  state := none
  codeChallenge := codeChallenge
  codeChallengeMethod := "S256"
  authorizationDetails :=
    some [⟨"openid_credential", some "IdentityCredential_SD_JWT_VC"⟩]
  issuerState := none
  dpopJkt := none
  requestUri := none

def drawnCode : String := codeCrates.uuid 1

def tokenRequest : TokenRequest where
  grantType := "authorization_code"
  code := some drawnCode
  redirectUri := some "https://wallet.example.com/cb"
  codeVerifier := some codeVerifier
  clientId := none
  preAuthorizedCode := none
  txCode := none

def tokenContext : TokenContext where
  authenticatedClient := some "wallet.example.com"
  dpopJkt := some "0ZcOCORZNYy-DWpqq30jZyJGHTN0d2HglBV3uiguA4I"

/-- A code is redeemed, and replayed. -/
def replayCalls : List Call :=
  [.par parRequest ⟨"wallet.example.com", none⟩ oneConfiguration,
    .approve ("urn:ietf:params:oauth:request_uri:" ++ codeCrates.uuid 0),
    .token tokenRequest tokenContext, .token tokenRequest tokenContext]

lemma codeCrates_uuid_injective : Function.Injective codeCrates.uuid := by
  intro m n h
  have happend : "6fa459ea-ee8a-4ca4-894e-" ++ m.repr = "6fa459ea-ee8a-4ca4-894e-" ++ n.repr := h
  rw [← String.toList_inj, String.toList_append, String.toList_append,
    List.append_cancel_left_eq, String.toList_inj] at happend
  exact Text.natRepr_inj happend

/-- The code mints a token, which its replay revokes. -/
theorem replay_revokes :
    (∃ e ∈ log (issuerMachine codeCrates) (initial 0) replayCalls, ∃ r,
      MintedFrom e drawnCode r ∧
        Revoked (log (issuerMachine codeCrates) (initial 0) replayCalls) e r) ∧
      WellKept codeCrates (log (issuerMachine codeCrates) (initial 0) replayCalls)
        (run (issuerMachine codeCrates) (initial 0) replayCalls) := by
  refine ⟨?_, tokens_wellKept codeCrates codeCrates_uuid_injective 0 replayCalls⟩
  set w₂ := run (issuerMachine codeCrates) (initial 0) (replayCalls.take 2) with hw₂
  set w₃ := run (issuerMachine codeCrates) (initial 0) (replayCalls.take 3) with hw₃
  have hlog : log (issuerMachine codeCrates) (initial 0) replayCalls =
      log (issuerMachine codeCrates) (initial 0) (replayCalls.take 2) ++
        [entry (issuerMachine codeCrates) w₂ (.token tokenRequest tokenContext),
          entry (issuerMachine codeCrates) w₃ (.token tokenRequest tokenContext)] := rfl
  have hredeems : Redeems tokenRequest drawnCode := ⟨rfl, rfl⟩
  obtain ⟨r, hr⟩ : ∃ r, MintedFrom (entry (issuerMachine codeCrates) w₂
      (.token tokenRequest tokenContext)) drawnCode r :=
    ⟨_, tokenRequest, tokenContext, rfl, hredeems, rfl⟩
  have hreplayed : Replayed (entry (issuerMachine codeCrates) w₃
      (.token tokenRequest tokenContext)) drawnCode :=
    ⟨tokenRequest, tokenContext, rfl, hredeems, rfl⟩
  rw [hlog]
  refine ⟨_, List.mem_append_right _ List.mem_cons_self, r, hr, drawnCode, hr, _, ?_, hreplayed⟩
  exact List.mem_append_right _ (List.mem_cons_of_mem _ List.mem_cons_self)

end Replay

end Oid4vc.Tokens
