import Oid4vc.Issuer.Tokens
import Oid4vc.Server.Effects

/-!
What a run of the server does to its sessions: it adds one under a new `request_uri` now and then,
and never drops one or takes back the code of one.
-/

namespace Oid4vc.StoredSessions

open Oid4vc.Run Oid4vc.PartialMap Oid4vc.Atomic Oid4vc.External Oid4vc.Oid4vci Oid4vc.IssuerStore
open Oid4vc.Authorization Oid4vc.Token Oid4vc.Offer Oid4vc.Endpoints Oid4vc.Tokens Oid4vc.Server
open Oid4vc.IssuerRoutes Oid4vc.Requests Oid4vc.Effects

variable {X : Crates} {app : AppState X} {b b' b'' : Stores} {uri : String}

/-- What became of a session: a code was issued for it, or it was consumed, or nothing. -/
structure Advances (s s' : AuthorizationSession) : Prop where
  same : s' = { s with
    authorizationCode := s'.authorizationCode
    codeIssuedAt := s'.codeIssuedAt
    consumed := s'.consumed }
  decided : s.authorizationCode.isSome = true → s'.authorizationCode.isSome = true

lemma Advances.refl (s : AuthorizationSession) : Advances s s := ⟨rfl, id⟩

/-- The sessions that are stored were given the `request_uri` that they are under, and it was
drawn. -/
def Keyed (X : Crates) (b : Stores) : Prop :=
  ∀ uri session, b.issuer.store.sessions.get uri = some session → session.requestUri = uri ∧
    ∃ k < b.issuer.drawn, uri = "urn:ietf:params:oauth:request_uri:" ++ X.uuid k

/-- The session under a `request_uri` is as it was, but for what became of it. -/
def Keeps (b b' : Stores) (uri : String) : Prop :=
  ∃ advance, (∀ s, Advances s (advance s)) ∧
    b'.issuer.store.sessions.get uri = (b.issuer.store.sessions.get uri).map advance

/-- There is a session under a `request_uri` that was just drawn, and there was none. -/
def Adds (X : Crates) (b b' : Stores) (uri : String) : Prop :=
  b.issuer.store.sessions.get uri = none ∧
    ∃ session, b'.issuer.store.sessions.get uri = some session ∧ session.requestUri = uri ∧
      ∃ k < b'.issuer.drawn, uri = "urn:ietf:params:oauth:request_uri:" ++ X.uuid k

/-- What a step does to the sessions. -/
structure Moves (X : Crates) (b b' : Stores) : Prop where
  drawn : b.issuer.drawn ≤ b'.issuer.drawn
  sessions : ∀ uri, Keeps b b' uri ∨ Adds X b b' uri

lemma keeps_of_same (h : b'.issuer.store.sessions.get uri = b.issuer.store.sessions.get uri) :
    Keeps b b' uri := by
  refine ⟨id, Advances.refl, ?_⟩
  rw [h, Option.map_id_fun, id]

lemma moves_of_idle (h : Idle b b') : Moves X b b' :=
  ⟨h.drawn, fun uri => Or.inl (keeps_of_same (by rw [h.sessions]))⟩

/-! ### The requests that are not idle -/

lemma get_newRequestUri (huuid : Function.Injective X.uuid) (h : Keyed X b)
    (hdrawn : b.issuer.drawn ≤ b'.issuer.drawn) :
    b.issuer.store.sessions.get (newRequestUri X b'.issuer) = none := by
  cases hget : b.issuer.store.sessions.get (newRequestUri X b'.issuer) with
  | none => rfl
  | some session =>
    obtain ⟨-, k, hk, huri⟩ := h _ _ hget
    have := requestUri_inj huuid huri
    omega

lemma moves_of_parOutcome (huuid : Function.Injective X.uuid) (h : Keyed X b) {headers : Headers}
    {request : PushedAuthorizationRequest} {reply : Reply}
    (hout : ParOutcome app headers request b reply b') : Moves X b b' := by
  cases hout with
  | refused _ hidle => exact moves_of_idle hidle
  | @pushed b₁ client jkt bound ids viaDetails _ _ _ hidle =>
    refine ⟨Nat.le_succ_of_le hidle.drawn, fun uri => ?_⟩
    by_cases hnew : uri = newRequestUri X b₁.issuer
    · subst hnew
      refine Or.inr ⟨get_newRequestUri huuid h hidle.drawn, _, get_insert_self _ _ _, rfl, ?_⟩
      exact ⟨b₁.issuer.drawn, Nat.lt_succ_self _, rfl⟩
    · refine Or.inl (keeps_of_same ?_)
      have hother : (Effects.pushed X request bound ids viaDetails b₁.issuer).store.sessions.get uri =
          b₁.issuer.store.sessions.get uri := get_insert_of_ne _ _ hnew
      rw [hother, hidle.sessions]

/-- A code is stored for a session that is there. -/
lemma moves_of_stored {requestUri : String} {stored : AuthorizationSession}
    (hstored : b.issuer.store.sessions.get requestUri = some stored) :
    Moves X b { b with issuer := (generateAuthorizationCode X requestUri b.issuer).2 } := by
  rcases generateAuthorizationCode_cases (X := X) requestUri b.issuer with
    ⟨hnone, -⟩ | ⟨stored', hstored', heq⟩
  · rw [hnone] at hstored
    cases hstored
  · rw [heq]
    refine ⟨Nat.le_succ _, fun uri => Or.inl ?_⟩
    by_cases hsame : uri = requestUri
    · subst hsame
      refine ⟨fun s => { s with
        authorizationCode := some (X.uuid b.issuer.drawn)
        codeIssuedAt := some b.issuer.clock }, fun s => ⟨rfl, fun _ => rfl⟩, ?_⟩
      rw [hstored']
      exact get_insert_self _ _ _
    · exact keeps_of_same (get_insert_of_ne _ _ hsame)

lemma moves_of_decisionOutcome {decision : Decision} {reply : Reply}
    (hout : DecisionOutcome app decision b reply b') : Moves X b b' := by
  cases hout with
  | refused _ _ hidle => exact moves_of_idle hidle
  | denied session target _ _ _ _ => exact moves_of_idle (.refl b)
  | approved session stored target _ _ hstored _ _ => exact moves_of_stored hstored

lemma drawn_of_tokenOutcome {request : TokenRequest} {ctx : TokenContext} {w w' : IssuerWorld}
    {r : Token.Answer} (h : TokenOutcome X request ctx w r w') : w.drawn ≤ w'.drawn := by
  cases h with
  | refused e _ => exact Nat.le_refl _
  | replayed code session _ _ _ => exact Nat.le_refl _
  | redeemed code clientId jkt session issuedAt _ _ _ _ _ _ => exact Nat.le_add_right _ _
  | preAuthorized code entry _ _ _ => exact Nat.le_add_right _ _

lemma moves_of_tokenReply {headers : Headers} {request : TokenRequest} {reply : Reply}
    (hout : TokenReply app headers request b reply b') : Moves X b b' := by
  cases hout with
  | refused _ hidle => exact moves_of_idle hidle
  | @processed b₁ r w client jkt _ _ hidle houtcome =>
    refine ⟨Nat.le_trans hidle.drawn (drawn_of_tokenOutcome houtcome), fun uri => Or.inl ?_⟩
    obtain ⟨consumed, hconsumed⟩ := sessions_of_tokenOutcome houtcome uri
    refine ⟨fun s => { s with consumed := consumed s }, fun s => ⟨rfl, id⟩, ?_⟩
    rw [← hidle.sessions]
    exact hconsumed

lemma moves_of_offerReply {configurationId : Option String} {reply : Reply}
    (hout : OfferReply app configurationId b reply b') : Moves X b b' := by
  cases hout with
  | refused _ => exact moves_of_idle (.refl b)
  | offered configId =>
    have hdrawn : (makeOffer X app.externalUrl (offerParams configId) none b.issuer).2.drawn =
        b.issuer.drawn + 1 + 1 := rfl
    refine ⟨?_, fun uri => Or.inl (keeps_of_same rfl)⟩
    simp only [withIssuer, hdrawn]
    omega

/-! ### Steps and runs -/

/-- **What a step does to the sessions.** -/
theorem step_moves (huuid : Function.Injective X.uuid) (h : Keyed X b) (i : Input) :
    Moves X b ((server app).step b i).1 := by
  cases i with
  | wait nanoseconds => exact ⟨Nat.le_refl _, fun uri => Or.inl (keeps_of_same rfl)⟩
  | request r =>
    rw [step_request]
    by_cases hminor : Minor r
    · exact moves_of_idle (idle_exec (within_handle hminor) b)
    · cases r with
      | par headers request => exact moves_of_parOutcome huuid h (parEndpoint_exec request)
      | decision decision => exact moves_of_decisionOutcome (authorizeDecision_exec decision)
      | token headers request => exact moves_of_tokenReply (tokenEndpoint_exec request)
      | credentialOffer configurationId =>
        exact moves_of_offerReply (credentialOfferEndpoint_exec configurationId)
      | _ => exact absurd trivial hminor

lemma Moves.keyed (hmoves : Moves X b b') (h : Keyed X b) : Keyed X b' := by
  intro uri session hget
  rcases hmoves.sessions uri with ⟨advance, hadvance, hmap⟩ | ⟨-, session', hget', hnamed, hdrawn⟩
  · rw [hmap, Option.map_eq_some_iff] at hget
    obtain ⟨s, hs, rfl⟩ := hget
    obtain ⟨hnamed, k, hk, huri⟩ := h uri s hs
    refine ⟨?_, k, Nat.lt_of_lt_of_le hk hmoves.drawn, huri⟩
    rw [(hadvance s).same]
    exact hnamed
  · rw [hget', Option.some.injEq] at hget
    rw [← hget]
    exact ⟨hnamed, hdrawn⟩

lemma keyed_fresh (clock : ℤ) : Keyed X (freshStores app clock) :=
  fun uri session h => absurd h (by simp [freshStores, InMemoryIssuerState.new])

/-- **Sessions are found under their own `request_uri`**, after every run. -/
theorem run_keyed (huuid : Function.Injective X.uuid) (clock : ℤ) (is : List Input) :
    Keyed X (run (server app) (freshStores app clock) is) :=
  @run_inv Stores Input (Option Reply) (server app) (fun _ _ => True) (Keyed X)
    (fun _ i h _ => (step_moves huuid h i).keyed h) _ is (keyed_fresh clock) (every_true _ _)

/-- A code has been issued for the session under the `request_uri`. -/
def Decided (b : Stores) (uri : String) : Prop :=
  ∃ session, b.issuer.store.sessions.get uri = some session ∧ session.authorizationCode.isSome = true

lemma Moves.kept (h : Moves X b b') {session : AuthorizationSession}
    (hget : b.issuer.store.sessions.get uri = some session) :
    ∃ session', b'.issuer.store.sessions.get uri = some session' ∧ Advances session session' := by
  rcases h.sessions uri with ⟨advance, hadvance, hmap⟩ | ⟨hnone, -⟩
  · rw [hget, Option.map_some] at hmap
    exact ⟨_, hmap, hadvance session⟩
  · rw [hget] at hnone
    cases hnone

lemma Moves.decided (hmoves : Moves X b b') (h : Decided b uri) : Decided b' uri := by
  obtain ⟨session, hget, hcode⟩ := h
  obtain ⟨session', hget', hadv⟩ := hmoves.kept hget
  exact ⟨session', hget', hadv.decided hcode⟩

/-- **A code that was issued is never taken back.** -/
theorem run_decided (huuid : Function.Injective X.uuid) (hkeyed : Keyed X b) (h : Decided b uri)
    (is : List Input) : Decided (run (server app) b is) uri := by
  have hinv : Keyed X (run (server app) b is) ∧ Decided (run (server app) b is) uri := by
    refine @run_inv Stores Input (Option Reply) (server app) (fun _ _ => True)
      (fun b => Keyed X b ∧ Decided b uri) ?_ b is ⟨hkeyed, h⟩ (every_true _ _)
    rintro s i ⟨hk, hd⟩ -
    have hmoves := @step_moves X app s huuid hk i
    exact ⟨hmoves.keyed hk, hmoves.decided hd⟩
  exact hinv.2

end Oid4vc.StoredSessions
