import Oid4vc.Issuer.Token

/-!
How often an authorization code mints a token, and what a replay of it revokes.

Token requests with one code run concurrently on one store, call by call, while time passes.
A request reads the code's session, then marks the code as consumed, then mints its token,
then records it for the code, and the store is free for others in between. Each request goes
through the stages below; the results hold for runs in which no request consumes a code that
was consumed since it was read, and no replay revokes while a token is on its way.
-/

namespace Oid4vc.Redemption

open Oid4vc.Run Oid4vc.Atomic Oid4vc.PartialMap Oid4vc.External Oid4vc.Fallible
open Oid4vc.Oid4vci Oid4vc.IssuerStore Oid4vc.Authorization Oid4vc.Token

/-- A request of the authorization code grant that carries this code. -/
structure CodeRequest (code : String) where
  request : TokenRequest
  ctx : TokenContext
  grant : request.grantType = "authorization_code"
  carries : request.code = some code

variable {θ : Type} [DecidableEq θ] (X : Crates) (code : String)

/-- The requests as threads on one store; the outside sets the clock. -/
abbrev requests (θ : Type) [DecidableEq θ] :
    Machine (Pool θ IssuerWorld Answer) (Event θ ℤ) Unit :=
  machine θ IssuerWorld Answer fun t w => { w with clock := t }

variable {code} in
/-- Each thread about to process its request. -/
def start (request : θ → CodeRequest code) (w : IssuerWorld) : Pool θ IssuerWorld Answer where
  shared := w
  prog t := processTokenRequest X (request t).request (request t).ctx

/-- Nobody has used the code yet. -/
def FreshCode (s : InMemoryIssuerState) : Prop :=
  (∀ session, s.getSessionByCode code = some session → session.consumed = false) ∧
    s.tokensByCode.get code = none

/-- At most one request was answered with an access token. -/
def AtMostOneToken (p : Pool θ IssuerWorld Answer) : Prop :=
  ∀ t u r r', (p.prog t).answer = some (.ok r) → (p.prog u).answer = some (.ok r') → t = u

/-- With all requests finished and one of them told that the code was consumed, no token
minted from the code is valid. -/
def ReplayRevokes (p : Pool θ IssuerWorld Answer) : Prop :=
  (∀ t, (p.prog t).answer.isSome = true) →
    (∃ t, (p.prog t).answer = some (.error .codeConsumed)) →
    ∀ u r, (p.prog u).answer = some (.ok r) →
      ∀ now, (p.shared.store.getAccessGrant now r.accessToken).1 = none

/-- The programs of a request that has consumed the code, and not yet recorded its token. -/
inductive Minting : Prog IssuerWorld Answer → Prop
  | mint (session : AuthorizationSession) (jkt : String) :
    Minting (mintToken X code session jkt)
  | store (ids : List String) (viaDetails : Bool) (jkt : Option String) (uuids : List String) :
    Minting ((storeToken ids viaDetails jkt uuids).bind (recordToken code))
  | record (response : TokenResponse) : Minting (recordToken code response)

/-- If this step consumes the code, nobody has consumed it before. -/
def ConsumesOnce (p : Pool θ IssuerWorld Answer) (e : Event θ ℤ) : Prop :=
  ∀ t session jkt, e = .thread t → p.prog t = consumeCode X code session jkt →
    ∀ s, p.shared.store.getSessionByCode code = some s → s.consumed = false

/-- If this step is the revocation of a replay, no token is on its way. -/
def RevokesSettled (p : Pool θ IssuerWorld Answer) (e : Event θ ℤ) : Prop :=
  ∀ t, e = .thread t → p.prog t = replayedCode code → ∀ u, ¬ Minting X code (p.prog u)

/-! ### The stages of a request -/

/-- What a request does next. -/
inductive Stage
  | lookUp (request : TokenRequest) (ctx : TokenContext) (clientId : String)
  | check (request : TokenRequest) (ctx : TokenContext) (clientId : String)
    (session : AuthorizationSession) (issuedAt : ℤ)
  | consume (session : AuthorizationSession) (jkt : String)
  | mint (session : AuthorizationSession) (jkt : String)
  | store (ids : List String) (viaDetails : Bool) (jkt : Option String) (uuids : List String)
  | record (response : TokenResponse)
  | replayed
  | done (a : Answer)

namespace Stage

/-- The program of a request at this stage. -/
def prog : Stage → Prog IssuerWorld Answer
  | lookUp request ctx clientId => lookUpCode X request ctx clientId code
  | check request ctx clientId session issuedAt =>
    redeemCode X request ctx clientId code session issuedAt
  | consume session jkt => consumeCode X code session jkt
  | mint session jkt => mintToken X code session jkt
  | store ids viaDetails jkt uuids => (storeToken ids viaDetails jkt uuids).bind (recordToken code)
  | record response => recordToken code response
  | replayed => replayedCode code
  | done a => .ret a

/-- The stage of a request that has found this session. -/
def ofSession (request : TokenRequest) (ctx : TokenContext) (clientId : String)
    (session : AuthorizationSession) : Stage :=
  if session.consumed = true then replayed
  else
    match session.codeIssuedAt with
    | none => done (.error .invalidCode)
    | some issuedAt => check request ctx clientId session issuedAt

/-- The stage after the check of a request. -/
def ofCheck (session : AuthorizationSession) : Except TokenError String → Stage
  | .error e => done (.error e)
  | .ok jkt => consume session jkt

def next (w : IssuerWorld) : Stage → Stage
  | lookUp request ctx clientId =>
    match w.store.getSessionByCode code with
    | none => done (.error .invalidCode)
    | some session => ofSession request ctx clientId session
  | check request ctx clientId session issuedAt =>
    ofCheck session (checkRedemption X request ctx clientId session issuedAt w.clock)
  | consume session jkt => mint session jkt
  | mint session jkt =>
    store session.credentialConfigurationIds session.viaAuthorizationDetails (some jkt)
      (Calls.newUuids X (1 + if session.viaAuthorizationDetails then
        session.credentialConfigurationIds.length else 0) w).1
  | store ids viaDetails jkt uuids => record (tokenResponse ids viaDetails jkt uuids)
  | record response => done (.ok response)
  | replayed => done (.error .codeConsumed)
  | done a => done a

/-- The store after the step of a request at this stage. -/
def effect (w : IssuerWorld) : Stage → InMemoryIssuerState
  | consume _ _ => w.store.consumeAuthorizationCode code
  | store ids viaDetails jkt uuids =>
    w.store.storeAccessToken w.clock (tokenResponse ids viaDetails jkt uuids).accessToken
      (tokenGrant ids viaDetails jkt uuids) accessTokenTtlSecs
  | record response => w.store.recordTokenForCode code response.accessToken
  | replayed => w.store.revokeTokensForCode code
  | _ => w.store

/-- The request has consumed the code. -/
def holds : Stage → Bool
  | mint .. | store .. | record _ | done (.ok _) => true
  | _ => false

/-- The request has consumed the code, and not yet recorded its token. -/
def minting : Stage → Bool
  | mint .. | store .. | record _ => true
  | _ => false

/-- The request has found the session of the code. -/
def found : Stage → Bool
  | check .. | consume .. => true
  | _ => false

end Stage

variable {X code}

lemma prog_ofSession (request : TokenRequest) (ctx : TokenContext) (clientId : String)
    (session : AuthorizationSession) :
    (Stage.ofSession request ctx clientId session).prog X code =
      useSession X request ctx clientId code session := by
  unfold Stage.ofSession useSession
  split_ifs
  · rfl
  · cases session.codeIssuedAt <;> rfl

/-- **The stages are the programs.** A request at a stage goes on to the next one. -/
theorem advance_stage {p : Pool θ IssuerWorld Answer} {t : θ} {g : Stage}
    (h : p.prog t = g.prog X code) :
    (p.advance t).prog t = (g.next X code p.shared).prog X code ∧
      (p.advance t).shared.store = g.effect code p.shared := by
  cases g with
  | lookUp request ctx clientId =>
    refine ⟨?_, congrArg IssuerWorld.store (advance_shared h)⟩
    rw [advance_prog_self h]
    simp only [Calls.getSessionByCode, Stage.next]
    cases p.shared.store.getSessionByCode code with
    | none => rfl
    | some session => exact (prog_ofSession request ctx clientId session).symm
  | check request ctx clientId session issuedAt =>
    refine ⟨?_, congrArg IssuerWorld.store (advance_shared h)⟩
    rw [advance_prog_self h]
    simp only [Calls.readClock, Stage.next]
    cases checkRedemption X request ctx clientId session issuedAt p.shared.clock <;> rfl
  | consume session jkt =>
    exact ⟨advance_prog_self h, congrArg IssuerWorld.store (advance_shared h)⟩
  | mint session jkt =>
    exact ⟨advance_prog_self h, by rw [advance_shared h]; rfl⟩
  | store ids viaDetails jkt uuids =>
    exact ⟨advance_prog_self h, by rw [advance_shared h]; rfl⟩
  | record response =>
    exact ⟨advance_prog_self h, congrArg IssuerWorld.store (advance_shared h)⟩
  | replayed => exact ⟨advance_prog_self h, congrArg IssuerWorld.store (advance_shared h)⟩
  | done a =>
    rw [advance_of_ret h]
    exact ⟨h, rfl⟩

lemma start_stage (r : CodeRequest code) :
    ∃ g : Stage, processTokenRequest X r.request r.ctx = g.prog X code ∧
      ((∃ clientId, g = .lookUp r.request r.ctx clientId) ∨
        ∃ msg, g = .done (.error (.invalidClient msg))) := by
  unfold processTokenRequest processAuthorizationCodeGrant
  rw [if_pos r.grant, r.carries]
  split_ifs
  · exact ⟨.done _, rfl, Or.inr ⟨_, rfl⟩⟩
  · cases r.ctx.authenticatedClient with
    | none => exact ⟨.done _, rfl, Or.inr ⟨_, rfl⟩⟩
    | some clientId => exact ⟨.lookUp r.request r.ctx clientId, rfl, Or.inl ⟨clientId, rfl⟩⟩

/-! ### What holds of the stages after every step -/

def CodeConsumed (code : String) (s : InMemoryIssuerState) : Prop :=
  ∃ session, s.getSessionByCode code = some session ∧ session.consumed = true

/-- The token answered has been revoked. -/
def Revoked (code : String) (s : InMemoryIssuerState) (r : TokenResponse) : Prop :=
  s.tokensByCode.get code = none ∧ s.accessTokens.get r.accessToken = none

/-- The store and the stages of the requests on it: one request at most has consumed the
code, its token is recorded for the code until it is revoked, and a replay was told so only
with no token on its way. -/
structure Sound (code : String) (s : InMemoryIssuerState) (stage : θ → Stage) : Prop where
  found : ∀ t, (stage t).found = true → (s.getSessionByCode code).isSome = true
  idle : ¬ CodeConsumed code s → s.tokensByCode.get code = none
  holder : CodeConsumed code s ↔ ∃ t, (stage t).holds = true
  single : ∀ t u, (stage t).holds = true → (stage u).holds = true → t = u
  unrecorded : ∀ t, (stage t).minting = true → s.tokensByCode.get code = none
  minted : ∀ t r, stage t = .done (.ok r) →
    s.tokensByCode.get code = some r.accessToken ∨ Revoked code s r
  replayed : ∀ t, stage t = .replayed → CodeConsumed code s
  refused : ∀ t, stage t = .done (.error .codeConsumed) → CodeConsumed code s ∧
    s.tokensByCode.get code = none ∧ ∀ u, (stage u).minting = false

lemma update_cases (stage : θ → Stage) (t : θ) (g : Stage) (u : θ) :
    (u = t ∧ Function.update stage t g u = g) ∨
      (u ≠ t ∧ Function.update stage t g u = stage u) := by
  by_cases hu : u = t
  · subst hu
    exact Or.inl ⟨rfl, Function.update_self ..⟩
  · exact Or.inr ⟨hu, Function.update_of_ne hu ..⟩

variable {s s' : InMemoryIssuerState} {stage : θ → Stage} {t : θ}

lemma codeConsumed_congr (h : s'.getSessionByCode code = s.getSessionByCode code) :
    CodeConsumed code s' ↔ CodeConsumed code s := by
  unfold CodeConsumed
  rw [h]

/-- **A step that neither consumes, records nor revokes.** -/
lemma Sound.frame (h : Sound code s stage) {g : Stage}
    (hsession : s'.getSessionByCode code = s.getSessionByCode code)
    (htokens : s'.tokensByCode.get code = s.tokensByCode.get code)
    (haccess : ∀ u r, stage u = .done (.ok r) → s.accessTokens.get r.accessToken = none →
      s'.accessTokens.get r.accessToken = none)
    (hfound : g.found = true → (s.getSessionByCode code).isSome = true)
    (hholds : g.holds = (stage t).holds) (hminting : g.minting = true → (stage t).minting = true)
    (hok : ∀ r, g = .done (.ok r) → stage t = .done (.ok r))
    (hreplayed : g = .replayed → CodeConsumed code s)
    (hrefused : g = .done (.error .codeConsumed) → stage t = .done (.error .codeConsumed)) :
    Sound code s' (Function.update stage t g) := by
  have hcode := codeConsumed_congr hsession
  have hheld : ∀ u, (Function.update stage t g u).holds = (stage u).holds := by
    intro u
    rcases update_cases stage t g u with ⟨rfl, hu⟩ | ⟨-, hu⟩
    · rw [hu, hholds]
    · rw [hu]
  have hmints : ∀ u, (Function.update stage t g u).minting = true → (stage u).minting = true := by
    intro u hm
    rcases update_cases stage t g u with ⟨rfl, hu⟩ | ⟨-, hu⟩
    · exact hminting (by rw [← hu]; exact hm)
    · rwa [hu] at hm
  refine ⟨fun u hu => ?_, fun hn => ?_, ?_, fun u v hu hv => ?_, fun u hu => ?_, fun u r hu => ?_,
    fun u hu => ?_, fun u hu => ?_⟩
  · rw [hsession]
    rcases update_cases stage t g u with ⟨rfl, hg⟩ | ⟨-, hg⟩ <;> rw [hg] at hu
    · exact hfound hu
    · exact h.found u hu
  · rw [htokens]
    exact h.idle fun hc => hn (hcode.mpr hc)
  · rw [hcode, h.holder]
    exact exists_congr fun u => by rw [hheld u]
  · exact h.single u v (by rw [← hheld u]; exact hu) (by rw [← hheld v]; exact hv)
  · rw [htokens]
    exact h.unrecorded u (hmints u hu)
  · have hold : stage u = .done (.ok r) := by
      rcases update_cases stage t g u with ⟨rfl, hg⟩ | ⟨-, hg⟩ <;> rw [hg] at hu
      · exact hok r hu
      · exact hu
    rcases h.minted u r hold with hrec | ⟨hnone, hgone⟩
    · exact Or.inl (by rw [htokens]; exact hrec)
    · exact Or.inr ⟨by rw [htokens]; exact hnone, haccess u r hold hgone⟩
  · rw [hcode]
    rcases update_cases stage t g u with ⟨rfl, hg⟩ | ⟨-, hg⟩ <;> rw [hg] at hu
    · exact hreplayed hu
    · exact h.replayed u hu
  · have hold : stage u = .done (.error .codeConsumed) := by
      rcases update_cases stage t g u with ⟨rfl, hg⟩ | ⟨-, hg⟩ <;> rw [hg] at hu
      · exact hrefused hu
      · exact hu
    obtain ⟨hc, hnone, hno⟩ := h.refused u hold
    refine ⟨hcode.mpr hc, by rw [htokens]; exact hnone, fun v => ?_⟩
    -- a thread that mints after the step was minting before it
    by_contra hv
    have := hmints v (by simpa using hv)
    rw [hno v] at this
    cases this

/-- Consuming a code that nobody has consumed. -/
lemma Sound.consume (h : Sound code s stage) {session : AuthorizationSession} {jkt : String}
    (ht : stage t = .consume session jkt) (hfresh : ¬ CodeConsumed code s) :
    Sound code (s.consumeAuthorizationCode code)
      (Function.update stage t (.mint session jkt)) := by
  have hsome := h.found t (by rw [ht]; rfl)
  have hconsumed : CodeConsumed code (s.consumeAuthorizationCode code) := by
    obtain ⟨found, hfound⟩ := Option.isSome_iff_exists.mp hsome
    exact ⟨_, by rw [InMemoryIssuerState.getSessionByCode_consume, hfound]; rfl, rfl⟩
  have hnobody : ∀ u, (stage u).holds = true → False :=
    fun u hu => hfresh (h.holder.mpr ⟨u, hu⟩)
  have hnone : (s.consumeAuthorizationCode code).tokensByCode.get code = none := by
    rw [InMemoryIssuerState.tokensByCode_consume]
    exact h.idle hfresh
  have honly : ∀ u, (Function.update stage t (.mint session jkt) u).holds = true → u = t := by
    intro u hu
    rcases update_cases stage t (.mint session jkt) u with ⟨rfl, -⟩ | ⟨-, hg⟩
    · rfl
    · rw [hg] at hu
      exact (hnobody u hu).elim
  refine ⟨fun u _ => ?_, fun hn => absurd hconsumed hn, ?_, fun u v hu hv => ?_, fun u _ => hnone,
    fun u r hu => ?_, fun u _ => hconsumed, fun u hu => ?_⟩
  · rw [InMemoryIssuerState.getSessionByCode_consume, Option.isSome_map]
    exact hsome
  · exact ⟨fun _ => ⟨t, by rw [Function.update_self]; rfl⟩, fun _ => hconsumed⟩
  · rw [honly u hu, honly v hv]
  · obtain rfl := honly u (by rw [hu]; rfl)
    rw [Function.update_self] at hu
    cases hu
  · rcases update_cases stage t (.mint session jkt) u with ⟨-, hg⟩ | ⟨-, hg⟩ <;> rw [hg] at hu
    · cases hu
    · exact absurd (h.refused u hu).1 hfresh

/-- Recording the token of the only request that has consumed the code. -/
lemma Sound.record (h : Sound code s stage) {response : TokenResponse}
    (ht : stage t = .record response) :
    Sound code (s.recordTokenForCode code response.accessToken)
      (Function.update stage t (.done (.ok response))) := by
  have hholds : (stage t).holds = true := by rw [ht]; rfl
  have hconsumed : CodeConsumed code s := h.holder.mpr ⟨t, hholds⟩
  have hheld : ∀ u, (Function.update stage t (.done (.ok response)) u).holds =
      (stage u).holds := by
    intro u
    rcases update_cases stage t (.done (.ok response)) u with ⟨rfl, hu⟩ | ⟨-, hu⟩
    · rw [hu, ht]
      rfl
    · rw [hu]
  -- no other request has consumed the code, so none records a token for it
  have hother : ∀ u, u ≠ t → (stage u).holds = true → False :=
    fun u hu hh => hu (h.single u t hh hholds)
  refine ⟨fun u hu => ?_, fun hn => absurd hconsumed hn, ?_, fun u v hu hv => ?_, fun u hu => ?_,
    fun u r hu => ?_, fun u _ => hconsumed, fun u hu => ?_⟩
  · rcases update_cases stage t (.done (.ok response)) u with ⟨-, hg⟩ | ⟨-, hg⟩ <;> rw [hg] at hu
    · cases hu
    · exact h.found u hu
  · exact ⟨fun _ => ⟨t, by rw [hheld]; exact hholds⟩, fun _ => hconsumed⟩
  · exact h.single u v (by rw [← hheld u]; exact hu) (by rw [← hheld v]; exact hv)
  · rcases update_cases stage t (.done (.ok response)) u with ⟨-, hg⟩ | ⟨hne, hg⟩ <;> rw [hg] at hu
    · cases hu
    · exact (hother u hne (by cases hs : stage u <;> simp_all [Stage.minting, Stage.holds])).elim
  · rcases update_cases stage t (.done (.ok response)) u with ⟨-, hg⟩ | ⟨hne, hg⟩ <;> rw [hg] at hu
    · cases hu
      exact Or.inl (get_insert_self _ _ _)
    · exact (hother u hne (by rw [hu]; rfl)).elim
  · rcases update_cases stage t (.done (.ok response)) u with ⟨-, hg⟩ | ⟨-, hg⟩ <;> rw [hg] at hu
    · cases hu
    · have := (h.refused u hu).2.2 t
      rw [ht] at this
      cases this

/-- Revoking with no token on its way. -/
lemma Sound.revoke (h : Sound code s stage) (ht : stage t = .replayed)
    (hsettled : ∀ u, (stage u).minting = false) :
    Sound code (s.revokeTokensForCode code)
      (Function.update stage t (.done (.error .codeConsumed))) := by
  obtain ⟨hsession, hnone, hgone, hstill⟩ :=
    InMemoryIssuerState.revokeTokensForCode_spec (s := s) code
  have hconsumed : CodeConsumed code (s.revokeTokensForCode code) :=
    (codeConsumed_congr hsession).mpr (h.replayed t ht)
  have hheld : ∀ u, (Function.update stage t (.done (.error .codeConsumed)) u).holds =
      (stage u).holds := by
    intro u
    rcases update_cases stage t (.done (.error .codeConsumed)) u with ⟨rfl, hu⟩ | ⟨-, hu⟩
    · rw [hu, ht]
      rfl
    · rw [hu]
  -- no token is on its way, so none can be recorded after the revocation
  have hmints : ∀ u, (Function.update stage t (.done (.error .codeConsumed)) u).minting =
      false := by
    intro u
    rcases update_cases stage t (.done (.error .codeConsumed)) u with ⟨-, hu⟩ | ⟨-, hu⟩ <;> rw [hu]
    · rfl
    · exact hsettled u
  refine ⟨fun u hu => ?_, fun hn => absurd hconsumed hn, ?_, fun u v hu hv => ?_,
    fun u _ => hnone, fun u r hu => ?_, fun u _ => hconsumed, fun u _ => ⟨hconsumed, hnone, hmints⟩⟩
  · rw [hsession]
    rcases update_cases stage t (.done (.error .codeConsumed)) u with ⟨-, hg⟩ | ⟨-, hg⟩ <;>
      rw [hg] at hu
    · cases hu
    · exact h.found u hu
  · obtain ⟨u, hu⟩ := h.holder.mp (h.replayed t ht)
    exact ⟨fun _ => ⟨u, by rw [hheld]; exact hu⟩, fun _ => hconsumed⟩
  · exact h.single u v (by rw [← hheld u]; exact hu) (by rw [← hheld v]; exact hv)
  · rcases update_cases stage t (.done (.error .codeConsumed)) u with ⟨-, hg⟩ | ⟨-, hg⟩ <;>
      rw [hg] at hu
    · cases hu
    · rcases h.minted u r hu with hrec | ⟨-, habsent⟩
      · exact Or.inr ⟨hnone, hgone _ hrec⟩
      · exact Or.inr ⟨hnone, hstill _ habsent⟩

/-- A step that the conditions allow. -/
def Orderly (X : Crates) (code : String) (p : Pool θ IssuerWorld Answer) (e : Event θ ℤ) : Prop :=
  ConsumesOnce X code p e ∧ RevokesSettled X code p e

/-- The requests of a pool are at these stages, which are sound. -/
def Tracks (X : Crates) (code : String) (p : Pool θ IssuerWorld Answer) (stage : θ → Stage) : Prop :=
  (∀ t, p.prog t = (stage t).prog X code) ∧ Sound code p.shared.store stage

lemma answer_prog {g : Stage} {a : Answer} :
    (g.prog X code).answer = some a ↔ g = .done a := by
  cases g <;> simp [Stage.prog, lookUpCode, redeemCode, consumeCode, mintToken, issueAccessToken,
    storeToken, recordToken, replayedCode, Prog.bind]

lemma minting_prog {g : Stage} (h : g.minting = true) : Minting X code (g.prog X code) := by
  cases g with
  | mint session jkt => exact .mint session jkt
  | store ids viaDetails jkt uuids => exact .store ids viaDetails jkt uuids
  | record response => exact .record response
  | _ => cases h

/-- **One call of a request** keeps the stages sound. -/
lemma sound_next {p : Pool θ IssuerWorld Answer} {stage : θ → Stage} {t : θ}
    (h : Tracks X code p stage) (horderly : Orderly X code p (.thread t)) :
    Sound code ((stage t).effect code p.shared)
      (Function.update stage t ((stage t).next X code p.shared)) := by
  obtain ⟨hprog, hsound⟩ := h
  cases hg : stage t with
  | lookUp request ctx clientId =>
    simp only [Stage.effect, Stage.next]
    cases hfound : p.shared.store.getSessionByCode code with
    | none =>
      refine hsound.frame rfl rfl ?_ ?_ ?_ ?_ ?_ ?_ ?_ <;>
        simp [hg, Stage.found, Stage.holds, Stage.minting]
    | some session =>
      simp only [Stage.ofSession]
      split_ifs with hconsumed
      · -- the code was consumed: the request goes on to revoke
        refine hsound.frame rfl rfl ?_ ?_ ?_ ?_ ?_ ?_ ?_ <;>
          simp [hg, Stage.found, Stage.holds, Stage.minting]
        exact ⟨session, hfound, hconsumed⟩
      · cases session.codeIssuedAt <;> refine hsound.frame rfl rfl ?_ ?_ ?_ ?_ ?_ ?_ ?_ <;>
          simp [hg, hfound, Stage.found, Stage.holds, Stage.minting]
  | check request ctx clientId session issuedAt =>
    simp only [Stage.effect, Stage.next]
    have hsome := hsound.found t (by rw [hg]; rfl)
    cases hcheck : checkRedemption X request ctx clientId session issuedAt p.shared.clock with
    | error e =>
      have hne := checkRedemption_ne hcheck
      refine hsound.frame rfl rfl ?_ ?_ ?_ ?_ ?_ ?_ ?_ <;>
        simp [hg, hne, Stage.ofCheck, Stage.found, Stage.holds, Stage.minting]
    | ok jkt =>
      refine hsound.frame rfl rfl ?_ ?_ ?_ ?_ ?_ ?_ ?_ <;>
        simp [hg, hsome, Stage.ofCheck, Stage.found, Stage.holds, Stage.minting]
  | consume session jkt =>
    refine hsound.consume hg ?_
    -- the order forbids to consume a code that is consumed
    rintro ⟨s, hs, hconsumed⟩
    have hprog' : p.prog t = consumeCode X code session jkt := by rw [hprog t, hg]; rfl
    have := horderly.1 t session jkt rfl hprog' s hs
    rw [hconsumed] at this
    cases this
  | mint session jkt =>
    simp only [Stage.effect, Stage.next]
    refine hsound.frame rfl rfl ?_ ?_ ?_ ?_ ?_ ?_ ?_ <;>
      simp [hg, Stage.found, Stage.holds, Stage.minting]
  | store ids viaDetails jkt uuids =>
    have hholds : (stage t).holds = true := by rw [hg]; rfl
    refine hsound.frame rfl rfl (fun u r hu => ?_) ?_ ?_ ?_ ?_ ?_ ?_
    · -- only one request is minting, so nobody else holds this token
      obtain rfl := hsound.single u t (by rw [hu]; rfl) hholds
      rw [hg] at hu
      cases hu
    all_goals simp [hg, Stage.next, Stage.found, Stage.holds, Stage.minting]
  | record response => exact hsound.record hg
  | replayed =>
    refine hsound.revoke hg fun u => ?_
    -- the order forbids to revoke while a token is on its way
    by_contra hu
    have hprog' : p.prog t = replayedCode code := by rw [hprog t, hg]; rfl
    refine horderly.2 t rfl hprog' u ?_
    rw [hprog u]
    exact minting_prog (by simpa using hu)
  | done a =>
    simp only [Stage.effect, Stage.next]
    rw [show Function.update stage t (.done a) = stage by rw [← hg, Function.update_eq_self]]
    exact hsound

def Tracked (X : Crates) (code : String) (p : Pool θ IssuerWorld Answer) : Prop :=
  ∃ stage, Tracks X code p stage

lemma step_tracked (p : Pool θ IssuerWorld Answer) (e : Event θ ℤ) (h : Tracked X code p)
    (horderly : Orderly X code p e) : Tracked X code ((requests θ).step p e).1 := by
  obtain ⟨stage, htracks⟩ := h
  cases e with
  | outside now => exact ⟨stage, htracks⟩
  | thread t =>
    obtain ⟨hself, hstore⟩ := advance_stage (htracks.1 t)
    refine ⟨Function.update stage t ((stage t).next X code p.shared), fun u => ?_, ?_⟩
    · rw [step_thread]
      rcases update_cases stage t ((stage t).next X code p.shared) u with ⟨rfl, hu⟩ | ⟨hne, hu⟩
      · rw [hu, hself]
      · rw [hu, advance_prog_of_ne p hne, htracks.1 u]
    · rw [step_thread, hstore]
      exact sound_next htracks horderly

omit [DecidableEq θ] in
lemma start_tracked (request : θ → CodeRequest code) {w : IssuerWorld}
    (hfresh : FreshCode code w.store) : Tracked X code (start X request w) := by
  choose stage hprog hstage using fun t => start_stage (X := X) (request t)
  refine ⟨stage, hprog, ?_⟩
  have hnot : ¬ CodeConsumed code w.store := by
    rintro ⟨s, hs, hconsumed⟩
    rw [hfresh.1 s hs] at hconsumed
    cases hconsumed
  have hquiet : ∀ t, (stage t).found = false ∧ (stage t).holds = false ∧
      (stage t).minting = false ∧ stage t ≠ .replayed ∧
      ∀ a, stage t = .done a → ∃ msg, a = .error (.invalidClient msg) := by
    intro t
    rcases hstage t with ⟨clientId, hg⟩ | ⟨msg, hg⟩ <;> rw [hg] <;>
      simp [Stage.found, Stage.holds, Stage.minting]
  refine ⟨fun t h => ?_, fun _ => hfresh.2, ⟨fun h => absurd h hnot, fun ⟨t, h⟩ => ?_⟩,
    fun t _ h => ?_, fun t h => ?_, fun t r h => ?_, fun t h => ?_, fun t h => ?_⟩
  · rw [(hquiet t).1] at h
    cases h
  · rw [(hquiet t).2.1] at h
    cases h
  · rw [(hquiet t).2.1] at h
    cases h
  · exact hfresh.2
  · obtain ⟨msg, hmsg⟩ := (hquiet t).2.2.2.2 _ h
    cases hmsg
  · exact absurd h (hquiet t).2.2.2.1
  · obtain ⟨msg, hmsg⟩ := (hquiet t).2.2.2.2 _ h
    cases hmsg

/-- **One token a code, revoked by a replay.** In every run in which no request consumes a
code that was already consumed, and no replay revokes while a token is on its way, at most
one request gets a token, and a replay leaves none valid. -/
theorem redeemedOnce_of_orderly (X : Crates) {code : String} (request : θ → CodeRequest code)
    (w : IssuerWorld) (hfresh : FreshCode code w.store) (events : List (Event θ ℤ))
    (h : Every (requests θ) (Orderly X code) (start X request w) events) :
    AtMostOneToken (run (requests θ) (start X request w) events) ∧
      ReplayRevokes (run (requests θ) (start X request w) events) := by
  obtain ⟨stage, hprog, hsound⟩ := run_inv step_tracked (start_tracked request hfresh) h
  generalize run (requests θ) (start X request w) events = p at hprog hsound
  have hanswer : ∀ t a, (p.prog t).answer = some a → stage t = .done a := by
    intro t a ha
    rw [hprog t] at ha
    exact answer_prog.mp ha
  constructor
  · intro t u r r' ht hu
    exact hsound.single t u (by rw [hanswer t _ ht]; rfl) (by rw [hanswer u _ hu]; rfl)
  · rintro - ⟨t, ht⟩ u r hu now
    obtain ⟨-, hnone, -⟩ := hsound.refused t (hanswer t _ ht)
    rcases hsound.minted u r (hanswer u _ hu) with hrec | ⟨-, hgone⟩
    · rw [hnone] at hrec
      cases hrec
    · simp [InMemoryIssuerState.getAccessGrant, hgone]

/-! ### Two requests with one code -/

section TwoRequests

variable {p : Pool θ IssuerWorld Answer} {u : θ} {request : TokenRequest} {ctx : TokenContext}
  {clientId jkt : String} {session : AuthorizationSession} {issuedAt : ℤ}

lemma keeps (p : Pool θ IssuerWorld Answer) {u v : θ} (h : v ≠ u) (n : ℕ) :
    (run (requests θ) p (List.replicate n (.thread u))).prog v = p.prog v :=
  run_prog_of_ne _ p h n

lemma reaches_consume (hu : p.prog u = lookUpCode X request ctx clientId code)
    (hfound : p.shared.store.getSessionByCode code = some session)
    (hunused : session.consumed = false) (hissued : session.codeIssuedAt = some issuedAt)
    (hcheck : checkRedemption X request ctx clientId session issuedAt p.shared.clock = .ok jkt) :
    (run (requests θ) p (List.replicate 2 (.thread u))).prog u = consumeCode X code session jkt ∧
      (run (requests θ) p (List.replicate 2 (.thread u))).shared = p.shared := by
  have h1 : (p.advance u).prog u = redeemCode X request ctx clientId code session issuedAt := by
    rw [advance_prog_self hu]
    simp [Calls.getSessionByCode, hfound, useSession, hunused, hissued]
  have hs1 : (p.advance u).shared = p.shared := advance_shared hu
  have h2 : ((p.advance u).advance u).prog u = consumeCode X code session jkt := by
    rw [advance_prog_self h1, hs1]
    simp [Calls.readClock, hcheck]
  exact ⟨h2, (advance_shared h1).trans hs1⟩

lemma consumes (hu : p.prog u = consumeCode X code session jkt) :
    (p.advance u).prog u = mintToken X code session jkt ∧
      (p.advance u).shared.clock = p.shared.clock ∧
      (p.advance u).shared.store = p.shared.store.consumeAuthorizationCode code :=
  ⟨advance_prog_self hu, by rw [advance_shared hu]; rfl, by rw [advance_shared hu]; rfl⟩

/-- A request that has consumed the code gets a token, which is valid. -/
lemma mints (hu : p.prog u = mintToken X code session jkt) :
    ∃ r entry, (run (requests θ) p (List.replicate 3 (.thread u))).prog u = .ret (.ok r) ∧
      (run (requests θ) p (List.replicate 3 (.thread u))).shared.store.accessTokens.get
        r.accessToken = some entry ∧ p.shared.clock < entry.expiresAt := by
  set uuids := (Calls.newUuids X (1 + if session.viaAuthorizationDetails then
    session.credentialConfigurationIds.length else 0) p.shared).1 with huuids
  set ids := session.credentialConfigurationIds
  set via := session.viaAuthorizationDetails
  have hclock : (p.advance u).shared.clock = p.shared.clock := by rw [advance_shared hu]; rfl
  have h1 : (p.advance u).prog u = (Stage.store ids via (some jkt) uuids).prog X code :=
    advance_prog_self hu
  have h2 := (advance_stage h1).1
  have hs2 := (advance_stage h1).2
  have h3 := (advance_stage h2).1
  have hs3 := (advance_stage h2).2
  refine ⟨tokenResponse ids via (some jkt) uuids,
    ⟨tokenGrant ids via (some jkt) uuids, (p.advance u).shared.clock +
      Instant.seconds accessTokenTtlSecs⟩, h3, ?_, ?_⟩
  · change ((((p.advance u).advance u).advance u).shared).store.accessTokens.get _ = some _
    rw [hs3]
    change ((p.advance u).advance u).shared.store.accessTokens.get _ = some _
    rw [hs2]
    exact get_insert_self _ _ _
  · simp only [hclock, accessTokenTtlSecs, Instant.seconds]
    omega

lemma looks_up_replayed (hu : p.prog u = lookUpCode X request ctx clientId code)
    (hfound : p.shared.store.getSessionByCode code = some session)
    (hused : session.consumed = true) :
    (p.advance u).prog u = replayedCode code ∧ (p.advance u).shared = p.shared := by
  refine ⟨?_, advance_shared hu⟩
  rw [advance_prog_self hu]
  simp [Calls.getSessionByCode, hfound, useSession, hused]

lemma replays (hu : p.prog u = lookUpCode X request ctx clientId code)
    (hfound : p.shared.store.getSessionByCode code = some session)
    (hused : session.consumed = true) :
    (run (requests θ) p (List.replicate 2 (.thread u))).prog u =
      .ret (.error .codeConsumed) :=
  advance_prog_self (looks_up_replayed hu hfound hused).1

variable {r : CodeRequest code} {w : IssuerWorld}

/-- Both requests read the session before either consumes it: both get a token. -/
lemma both_mint (hstart : processTokenRequest X r.request r.ctx =
      lookUpCode X r.request r.ctx clientId code)
    (hfound : w.store.getSessionByCode code = some session)
    (hunused : session.consumed = false) (hissued : session.codeIssuedAt = some issuedAt)
    (hcheck : checkRedemption X r.request r.ctx clientId session issuedAt w.clock = .ok jkt) :
    ¬ AtMostOneToken (run (requests Bool) (start X (fun _ => r) w)
      (List.replicate 2 (.thread false) ++ List.replicate 2 (.thread true) ++
        List.replicate 4 (.thread false) ++ List.replicate 4 (.thread true))) := by
  rw [run_append, run_append, run_append]
  set p0 := start X (fun _ : Bool => r) w with hp0
  obtain ⟨hf1, hs1⟩ := reaches_consume (p := p0) (u := false) hstart hfound hunused hissued hcheck
  have ht1 := keeps p0 (show true ≠ false by decide) 2
  generalize run (requests Bool) p0 (List.replicate 2 (.thread false)) = p1 at *
  obtain ⟨ht2, -⟩ := reaches_consume (p := p1) (u := true) (ht1.trans hstart)
    (by rw [hs1]; exact hfound) hunused hissued (by rw [hs1]; exact hcheck)
  have hf2 := (keeps p1 (show false ≠ true by decide) 2).trans hf1
  generalize run (requests Bool) p1 (List.replicate 2 (.thread true)) = p2 at *
  obtain ⟨rf, -, hf3, -⟩ := mints (consumes hf2).1
  have ht3 := (keeps p2 (show true ≠ false by decide) 4).trans ht2
  change (run (requests Bool) p2 (List.replicate 4 (.thread false))).prog false = _ at hf3
  generalize run (requests Bool) p2 (List.replicate 4 (.thread false)) = p3 at *
  obtain ⟨rt, -, ht4, -⟩ := mints (consumes ht3).1
  have hf4 := (keeps p3 (show false ≠ true by decide) 4).trans hf3
  change (run (requests Bool) p3 (List.replicate 4 (.thread true))).prog true = _ at ht4
  intro h
  have hft := h false true rf rt (by rw [hf4, Prog.answer_ret]) (by rw [ht4, Prog.answer_ret])
  cases hft

/-- A replay that comes between consuming the code and recording the token finds nothing to
revoke. -/
lemma replay_too_early (hstart : processTokenRequest X r.request r.ctx =
      lookUpCode X r.request r.ctx clientId code)
    (hfound : w.store.getSessionByCode code = some session)
    (hunused : session.consumed = false) (hissued : session.codeIssuedAt = some issuedAt)
    (hcheck : checkRedemption X r.request r.ctx clientId session issuedAt w.clock = .ok jkt) :
    ¬ ReplayRevokes (run (requests Bool) (start X (fun _ => r) w)
      (List.replicate 3 (.thread false) ++ List.replicate 2 (.thread true) ++
        List.replicate 3 (.thread false))) := by
  rw [run_append, run_append]
  set p0 := start X (fun _ : Bool => r) w with hp0
  obtain ⟨hf1, hs1⟩ := reaches_consume (p := p0) (u := false) hstart hfound hunused hissued hcheck
  obtain ⟨hf2, -, hs2⟩ := consumes hf1
  have ht2 := (keeps p0 (show true ≠ false by decide) 3).trans hstart
  have hfound2 : (run (requests Bool) p0 (List.replicate 3 (.thread false))).shared.store =
      p0.shared.store.consumeAuthorizationCode code := hs2.trans (by rw [hs1])
  change (run (requests Bool) p0 (List.replicate 3 (.thread false))).prog false = _ at hf2
  generalize run (requests Bool) p0 (List.replicate 3 (.thread false)) = p1 at *
  have hsession : p1.shared.store.getSessionByCode code =
      some { session with consumed := true } := by
    rw [hfound2, InMemoryIssuerState.getSessionByCode_consume]
    change (w.store.getSessionByCode code).map _ = _
    rw [hfound]
    rfl
  -- the replay revokes before the token is recorded, so it finds none
  have ht3 := replays ht2 hsession rfl
  have hf3 := (keeps p1 (show false ≠ true by decide) 2).trans hf2
  generalize run (requests Bool) p1 (List.replicate 2 (.thread true)) = p2 at *
  obtain ⟨rf, entry, hf4, hget, hlater⟩ := mints hf3
  have ht4 := (keeps p2 (show true ≠ false by decide) 3).trans ht3
  generalize run (requests Bool) p2 (List.replicate 3 (.thread false)) = p3 at *
  intro h
  -- the token that is recorded after it stays valid
  have hgone := h (fun b => by cases b <;> simp [hf4, ht4]) ⟨true, by simp [ht4]⟩ false rf
    (by simp [hf4]) p2.shared.clock
  simp [InMemoryIssuerState.getAccessGrant, hget, hlater] at hgone

/-! ### A token, then a replay -/

lemma minting_exec {q : Prog IssuerWorld Answer} (h : Minting X code q) (w : IssuerWorld) :
    (∃ r, (q.exec w).1 = .ok r) ∧
      (q.exec w).2.store.getSessionByCode code = w.store.getSessionByCode code := by
  cases h with
  | mint session jkt => exact ⟨⟨_, rfl⟩, rfl⟩
  | store ids viaDetails jkt uuids => exact ⟨⟨_, rfl⟩, rfl⟩
  | record response => exact ⟨⟨_, rfl⟩, rfl⟩

lemma not_minting_of_error {q : Prog IssuerWorld Answer} {e : TokenError}
    (h : (q.exec w).1 = .error e) : ¬ Minting X code q := by
  intro hq
  obtain ⟨⟨r, hr⟩, -⟩ := minting_exec hq w
  rw [h] at hr
  cases hr

lemma not_minting_ret (a : Answer) : ¬ Minting X code (.ret a) := by
  intro h
  generalize hq : (Prog.ret a : Prog IssuerWorld Answer) = q at h
  cases h <;> cases hq

lemma not_minting_lookUp : ¬ Minting X code (lookUpCode X request ctx clientId code) :=
  not_minting_of_error (w := ⟨0, 0, InMemoryIssuerState.new⟩) rfl

lemma not_minting_replayed : ¬ Minting X code (replayedCode code) :=
  not_minting_of_error (w := ⟨0, 0, InMemoryIssuerState.new⟩) rfl

lemma revokesSettled_of_others (hothers : ∀ v, v ≠ u → ¬ Minting X code (p.prog v)) :
    RevokesSettled X code p (.thread u) := by
  rintro t ⟨⟩ hp v
  by_cases hv : v = u
  · rw [hv, hp]
    exact not_minting_replayed
  · exact hothers v hv

lemma orderly_of_unused (hfound : p.shared.store.getSessionByCode code = some session)
    (hunused : session.consumed = false) (hothers : ∀ v, v ≠ u → ¬ Minting X code (p.prog v)) :
    Orderly X code p (.thread u) := by
  refine ⟨fun t session' jkt' _ _ s hs => ?_, revokesSettled_of_others hothers⟩
  rw [← Option.some.inj (hfound.symm.trans hs)]
  exact hunused

/-- A request that is minting does not consume the code again. -/
lemma orderly_of_minting (hp : Minting X code (p.prog u))
    (hfound : w.store.getSessionByCode code = some session) (hunused : session.consumed = false)
    (hothers : ∀ v, v ≠ u → ¬ Minting X code (p.prog v)) : Orderly X code p (.thread u) := by
  refine ⟨?_, revokesSettled_of_others hothers⟩
  rintro t session' jkt' ⟨⟩ hq
  -- run alone on `w`, the program would leave the session unused if it is minting, and
  -- consumed if it consumes the code
  have hkeeps := (minting_exec hp w).2
  have hconsumed : ((consumeCode X code session' jkt').exec w).2.store.getSessionByCode code =
      some { session with consumed := true } := by
    change (w.store.consumeAuthorizationCode code).getSessionByCode code = _
    rw [InMemoryIssuerState.getSessionByCode_consume, hfound]
    rfl
  rw [hq, hconsumed, hfound, Option.some.injEq] at hkeeps
  rw [← hkeeps] at hunused
  cases hunused

omit [DecidableEq θ] in
/-- Looking the code up is in order, whatever the other requests do. -/
lemma orderly_of_lookUp (hu : p.prog u = lookUpCode X request ctx clientId code) :
    Orderly X code p (.thread u) := by
  -- on an empty store, looking up answers that the code is invalid, which neither a request
  -- that consumes the code nor a replay answers
  have hanswer : ((p.prog u).exec ⟨0, 0, InMemoryIssuerState.new⟩).1 = .error .invalidCode := by
    rw [hu]
    rfl
  constructor
  · rintro t session' jkt' ⟨⟩ hq
    rw [hq] at hanswer
    cases hanswer
  · rintro t ⟨⟩ hq
    rw [hq] at hanswer
    cases hanswer

lemma orderly_of_replayed (hu : p.prog u = replayedCode code)
    (hothers : ∀ v, v ≠ u → ¬ Minting X code (p.prog v)) : Orderly X code p (.thread u) := by
  refine ⟨?_, revokesSettled_of_others hothers⟩
  rintro t session' jkt' ⟨⟩ hq
  have hanswer : ((p.prog u).exec ⟨0, 0, InMemoryIssuerState.new⟩).1 =
      .error .codeConsumed := by rw [hu]; rfl
  rw [hq] at hanswer
  cases hanswer

lemma others_advance (hothers : ∀ v, v ≠ u → ¬ Minting X code (p.prog v)) :
    ∀ v, v ≠ u → ¬ Minting X code ((p.advance u).prog v) := by
  intro v hv
  rw [advance_prog_of_ne p hv]
  exact hothers v hv

/-- A request that may redeem the code takes it in order when no token is on its way. -/
lemma takes_code (hu : p.prog u = lookUpCode X request ctx clientId code)
    (hfound : p.shared.store.getSessionByCode code = some session)
    (hunused : session.consumed = false) (hissued : session.codeIssuedAt = some issuedAt)
    (hcheck : checkRedemption X request ctx clientId session issuedAt p.shared.clock = .ok jkt)
    (hothers : ∀ v, v ≠ u → ¬ Minting X code (p.prog v)) :
    Every (requests θ) (Orderly X code) p (List.replicate 3 (.thread u)) ∧
      (run (requests θ) p (List.replicate 3 (.thread u))).prog u = mintToken X code session jkt ∧
      (run (requests θ) p (List.replicate 3 (.thread u))).shared.store.getSessionByCode code =
        some { session with consumed := true } := by
  have hs1 : (p.advance u).shared = p.shared := advance_shared hu
  obtain ⟨hp2, hs2⟩ := reaches_consume hu hfound hunused hissued hcheck
  change ((p.advance u).advance u).prog u = _ at hp2
  change ((p.advance u).advance u).shared = _ at hs2
  obtain ⟨hp3, -, hs3⟩ := consumes hp2
  have hothers1 := others_advance hothers
  have hothers2 := others_advance hothers1
  have hlookUp : Orderly X code p (.thread u) := orderly_of_lookUp hu
  have hcheck1 : Orderly X code (p.advance u) (.thread u) :=
    orderly_of_unused (by rw [hs1]; exact hfound) hunused hothers1
  have hconsume : Orderly X code ((p.advance u).advance u) (.thread u) :=
    orderly_of_unused (by rw [hs2]; exact hfound) hunused hothers2
  refine ⟨⟨hlookUp, hcheck1, hconsume, trivial⟩, hp3, ?_⟩
  change (((p.advance u).advance u).advance u).shared.store.getSessionByCode code = _
  rw [hs3, InMemoryIssuerState.getSessionByCode_consume, hs2, hfound]
  rfl

/-- A request that has consumed the code mints in order when no other token is on its way. -/
lemma mints_orderly (hu : p.prog u = mintToken X code session jkt)
    (hfound : w.store.getSessionByCode code = some session) (hunused : session.consumed = false)
    (hothers : ∀ v, v ≠ u → ¬ Minting X code (p.prog v)) :
    Every (requests θ) (Orderly X code) p (List.replicate 3 (.thread u)) ∧
      (∃ r, (run (requests θ) p (List.replicate 3 (.thread u))).prog u = .ret (.ok r)) ∧
      (run (requests θ) p (List.replicate 3 (.thread u))).shared.store.getSessionByCode code =
        p.shared.store.getSessionByCode code := by
  obtain ⟨hp1, hs1⟩ := advance_stage (g := .mint session jkt) hu
  obtain ⟨hp2, hs2⟩ := advance_stage hp1
  obtain ⟨hp3, hs3⟩ := advance_stage hp2
  have hothers1 := others_advance hothers
  have hothers2 := others_advance hothers1
  have hmint : Orderly X code p (.thread u) :=
    orderly_of_minting (by rw [hu]; exact .mint _ _) hfound hunused hothers
  have hstore : Orderly X code (p.advance u) (.thread u) :=
    orderly_of_minting (by rw [hp1]; exact .store _ _ _ _) hfound hunused hothers1
  have hrecord : Orderly X code ((p.advance u).advance u) (.thread u) :=
    orderly_of_minting (by rw [hp2]; exact .record _) hfound hunused hothers2
  refine ⟨⟨hmint, hstore, hrecord, trivial⟩, ⟨_, hp3⟩, ?_⟩
  change (((p.advance u).advance u).advance u).shared.store.getSessionByCode code = _
  rw [hs3]
  change ((p.advance u).advance u).shared.store.getSessionByCode code = _
  rw [hs2]
  change (p.advance u).shared.store.getSessionByCode code = _
  rw [hs1]
  rfl

lemma others_of_not {p : Pool Bool IssuerWorld Answer} {u : Bool}
    (h : ¬ Minting X code (p.prog (!u))) : ∀ v, v ≠ u → ¬ Minting X code (p.prog v) := by
  intro v hv
  rwa [Bool.eq_not.mpr hv]

/-- One request gets its token, then the other replays the code. -/
lemma replay_after_token (hstart : processTokenRequest X r.request r.ctx =
      lookUpCode X r.request r.ctx clientId code)
    (hfound : w.store.getSessionByCode code = some session)
    (hunused : session.consumed = false) (hissued : session.codeIssuedAt = some issuedAt)
    (hcheck : checkRedemption X r.request r.ctx clientId session issuedAt w.clock = .ok jkt) :
    let events := List.replicate 3 (.thread false) ++ (List.replicate 3 (.thread false) ++
      List.replicate 2 (.thread true))
    Every (requests Bool) (Orderly X code) (start X (fun _ => r) w) events ∧
      (∃ response, ((run (requests Bool) (start X (fun _ => r) w) events).prog false) =
        .ret (.ok response)) ∧
      (run (requests Bool) (start X (fun _ => r) w) events).prog true =
        .ret (.error .codeConsumed) := by
  simp only [every_append, run_append]
  set p0 := start X (fun _ : Bool => r) w with hp0
  have ht0 : p0.prog true = lookUpCode X r.request r.ctx clientId code := hstart
  obtain ⟨htaken, hf1, hs1⟩ := takes_code (p := p0) (u := false) hstart hfound hunused hissued
    hcheck (others_of_not (by rw [Bool.not_false, ht0]; exact not_minting_lookUp))
  have ht1 := (keeps p0 (show true ≠ false by decide) 3).trans ht0
  generalize run (requests Bool) p0 (List.replicate 3 (.thread false)) = p1 at *
  obtain ⟨hminted, ⟨response, hf2⟩, hs2⟩ := mints_orderly hf1 hfound hunused
    (others_of_not (by rw [Bool.not_false, ht1]; exact not_minting_lookUp))
  have ht2 := (keeps p1 (show true ≠ false by decide) 3).trans ht1
  generalize run (requests Bool) p1 (List.replicate 3 (.thread false)) = p2 at *
  obtain ⟨ht3, hs3⟩ := looks_up_replayed ht2 (hs2.trans hs1) rfl
  have hf4 := (keeps p2 (show false ≠ true by decide) 2).trans hf2
  have hrevoke : Orderly X code (p2.advance true) (.thread true) :=
    orderly_of_replayed ht3 (others_advance
      (others_of_not (by rw [Bool.not_true, hf2]; exact not_minting_ret _)))
  exact ⟨⟨htaken, hminted, orderly_of_lookUp ht2, hrevoke, trivial⟩, ⟨response, hf4⟩,
    replays ht2 (hs2.trans hs1) rfl⟩

/-- The other request replays the code while the token is on its way, and revokes once it
is recorded. -/
lemma replay_meanwhile (hstart : processTokenRequest X r.request r.ctx =
      lookUpCode X r.request r.ctx clientId code)
    (hfound : w.store.getSessionByCode code = some session)
    (hunused : session.consumed = false) (hissued : session.codeIssuedAt = some issuedAt)
    (hcheck : checkRedemption X r.request r.ctx clientId session issuedAt w.clock = .ok jkt) :
    let events := List.replicate 3 (.thread false) ++ (List.replicate 1 (.thread true) ++
      (List.replicate 3 (.thread false) ++ List.replicate 1 (.thread true)))
    Every (requests Bool) (Orderly X code) (start X (fun _ => r) w) events ∧
      (∃ response, ((run (requests Bool) (start X (fun _ => r) w) events).prog false) =
        .ret (.ok response)) ∧
      (run (requests Bool) (start X (fun _ => r) w) events).prog true =
        .ret (.error .codeConsumed) := by
  simp only [every_append, run_append]
  set p0 := start X (fun _ : Bool => r) w with hp0
  have ht0 : p0.prog true = lookUpCode X r.request r.ctx clientId code := hstart
  obtain ⟨htaken, hf1, hs1⟩ := takes_code (p := p0) (u := false) hstart hfound hunused hissued
    hcheck (others_of_not (by rw [Bool.not_false, ht0]; exact not_minting_lookUp))
  have ht1 := (keeps p0 (show true ≠ false by decide) 3).trans ht0
  generalize run (requests Bool) p0 (List.replicate 3 (.thread false)) = p1 at *
  -- the replay looks the code up while the token is on its way
  obtain ⟨ht2, hs2⟩ := looks_up_replayed ht1 hs1 rfl
  have hf2 := (keeps p1 (show false ≠ true by decide) 1).trans hf1
  have hlookUp : Orderly X code p1 (.thread true) := orderly_of_lookUp ht1
  change (run (requests Bool) p1 (List.replicate 1 (.thread true))).prog true = _ at ht2
  generalize run (requests Bool) p1 (List.replicate 1 (.thread true)) = p2 at *
  obtain ⟨hminted, ⟨response, hf3⟩, -⟩ := mints_orderly hf2 hfound hunused
    (others_of_not (by rw [Bool.not_false, ht2]; exact not_minting_replayed))
  have ht3 := (keeps p2 (show true ≠ false by decide) 3).trans ht2
  generalize run (requests Bool) p2 (List.replicate 3 (.thread false)) = p3 at *
  -- and revokes when the token is recorded
  have hf4 := (keeps p3 (show false ≠ true by decide) 1).trans hf3
  have hrevoke : Orderly X code p3 (.thread true) := orderly_of_replayed ht3
    (others_of_not (by rw [Bool.not_true, hf3]; exact not_minting_ret _))
  exact ⟨⟨htaken, ⟨hlookUp, trivial⟩, hminted, hrevoke, trivial⟩, ⟨response, hf4⟩,
    advance_prog_self ht3⟩

end TwoRequests

section Code

def codeVerifier : String := "dBjftJeZ4CVP-mB92K27uhbUJU1p1r_wW1gFWFOEjXk"

/-- The SHA-256 digest of the verifier. -/
def codeDigest : List JsonValue.Byte :=
  [0x13, 0xd3, 0x1e, 0x96, 0x1a, 0x1a, 0xd8, 0xec, 0x2f, 0x16, 0xb1, 0x0c, 0x4c, 0x98, 0x2e, 0x08,
   0x76, 0xa8, 0x78, 0xad, 0x6d, 0xf1, 0x44, 0x56, 0x6e, 0xe1, 0x89, 0x4a, 0xcb, 0x70, 0xf9, 0xc3]

def codeChallenge : String := "E9Melhoa2OwvFrEMTJguCHaoeK1t8URWbuGJSstw-cM"

def codeCrates : Crates :=
  { Crates.inert with
    sha256 := fun bytes => if bytes = Text.utf8 codeVerifier then codeDigest else []
    base64UrlEncode := fun bytes => if bytes = codeDigest then codeChallenge else ""
    uuid := fun n => "6fa459ea-ee8a-4ca4-894e-" ++ n.repr }

def issuedCode : String := "16fd2706-8baf-433b-82eb-8c7fada847da"

def codeSession : AuthorizationSession where
  requestUri := "urn:ietf:params:oauth:request_uri:1b4e28ba-2fa1-4d28-883f-0016d3cca427"
  authorizationCode := some issuedCode
  codeChallenge := codeChallenge
  clientId := "wallet.example.com"
  redirectUri := "https://wallet.example.com/cb"
  credentialConfigurationIds := ["IdentityCredential_SD_JWT_VC"]
  viaAuthorizationDetails := false
  issuerState := none
  clientState := none
  createdAt := Instant.seconds 1767225590
  codeIssuedAt := some (Instant.seconds 1767225600)
  dpopJkt := none
  consumed := false

/-- Just after consent: the session has its code. -/
def codeWorld : IssuerWorld where
  clock := Instant.seconds 1767225610
  drawn := 2
  store := { InMemoryIssuerState.new with
    sessions := empty.insert codeSession.requestUri codeSession
    codeToUri := empty.insert issuedCode codeSession.requestUri }

def codeRequest : CodeRequest issuedCode where
  request := {
    grantType := "authorization_code"
    code := some issuedCode
    redirectUri := some "https://wallet.example.com/cb"
    codeVerifier := some codeVerifier
    clientId := none
    preAuthorizedCode := none
    txCode := none }
  ctx := {
    authenticatedClient := some "wallet.example.com"
    dpopJkt := some "0ZcOCORZNYy-DWpqq30jZyJGHTN0d2HglBV3uiguA4I" }
  grant := rfl
  carries := rfl

lemma code_starts : processTokenRequest codeCrates codeRequest.request codeRequest.ctx =
    lookUpCode codeCrates codeRequest.request codeRequest.ctx "wallet.example.com" issuedCode := by
  simp [processTokenRequest, namesOtherClient, processAuthorizationCodeGrant, codeRequest]

lemma code_found : codeWorld.store.getSessionByCode issuedCode = some codeSession := by
  simp [InMemoryIssuerState.getSessionByCode, codeWorld]

lemma code_checks : checkRedemption codeCrates codeRequest.request codeRequest.ctx
    "wallet.example.com" codeSession (Instant.seconds 1767225600) codeWorld.clock =
      .ok "0ZcOCORZNYy-DWpqq30jZyJGHTN0d2HglBV3uiguA4I" := by
  have hpkce : verifyPkce codeCrates codeVerifier codeChallenge = true := by
    simp [verifyPkce, codeCrates]
  simp only [checkRedemption, bind_eq_ok, ensure_eq_ok, okOr_eq_ok, exists_unit, pure_eq_ok]
  exact ⟨by decide, rfl, rfl, codeVerifier, rfl, hpkce, _, rfl, by simp [codeSession], rfl⟩

/-- Two requests that both read the session before either consumes it both get a token; and a
replay that comes before the token is recorded leaves it valid. -/
theorem twoTokens_minted :
    ¬ AtMostOneToken (run (requests Bool) (start codeCrates (fun _ => codeRequest) codeWorld)
        (List.replicate 2 (.thread false) ++ List.replicate 2 (.thread true) ++
          List.replicate 4 (.thread false) ++ List.replicate 4 (.thread true))) ∧
      ¬ ReplayRevokes (run (requests Bool) (start codeCrates (fun _ => codeRequest) codeWorld)
        (List.replicate 3 (.thread false) ++ List.replicate 2 (.thread true) ++
          List.replicate 3 (.thread false))) :=
  ⟨both_mint code_starts code_found rfl rfl code_checks,
    replay_too_early code_starts code_found rfl rfl code_checks⟩

/-- Two requests with one code, the second after the first, and in between: one gets a
token, the other is told that the code was consumed, and leaves no token valid. -/
theorem token_then_revoked :
    let after := run (requests Bool) (start codeCrates (fun _ => codeRequest) codeWorld)
      (List.replicate 3 (.thread false) ++ (List.replicate 3 (.thread false) ++
        List.replicate 2 (.thread true)))
    let meanwhile := run (requests Bool) (start codeCrates (fun _ => codeRequest) codeWorld)
      (List.replicate 3 (.thread false) ++ (List.replicate 1 (.thread true) ++
        (List.replicate 3 (.thread false) ++ List.replicate 1 (.thread true))))
    ∀ p ∈ [after, meanwhile], (AtMostOneToken p ∧ ReplayRevokes p) ∧
      (p.prog true).answer = some (.error .codeConsumed) ∧
      ∃ r, (p.prog false).answer = some (.ok r) ∧
        ∀ now, (p.shared.store.getAccessGrant now r.accessToken).1 = none := by
  have hfresh : FreshCode issuedCode codeWorld.store := by
    refine ⟨fun session hs => ?_, rfl⟩
    rw [code_found, Option.some.injEq] at hs
    rw [← hs]
    rfl
  have hrevoked : ∀ events, Every (requests Bool) (Orderly codeCrates issuedCode)
        (start codeCrates (fun _ => codeRequest) codeWorld) events →
      ∀ response, (run (requests Bool) (start codeCrates (fun _ => codeRequest) codeWorld)
          events).prog false = .ret (.ok response) →
      (run (requests Bool) (start codeCrates (fun _ => codeRequest) codeWorld) events).prog true =
        .ret (.error .codeConsumed) →
      ∀ p, p = run (requests Bool) (start codeCrates (fun _ => codeRequest) codeWorld) events →
        (AtMostOneToken p ∧ ReplayRevokes p) ∧
          (p.prog true).answer = some (.error .codeConsumed) ∧
          ∃ r, (p.prog false).answer = some (.ok r) ∧
            ∀ now, (p.shared.store.getAccessGrant now r.accessToken).1 = none := by
    rintro events horderly response hf ht p rfl
    have hsafe := redeemedOnce_of_orderly codeCrates (fun _ => codeRequest) codeWorld hfresh events
      horderly
    refine ⟨hsafe, by rw [ht]; rfl, response, by rw [hf]; rfl, ?_⟩
    exact hsafe.2 (fun b => by cases b <;> simp [hf, ht]) ⟨true, by simp [ht]⟩ false response
      (by simp [hf])
  intro after meanwhile p hp
  obtain ⟨horder, ⟨r, hf⟩, ht⟩ := replay_after_token code_starts code_found rfl rfl code_checks
  obtain ⟨horder', ⟨r', hf'⟩, ht'⟩ := replay_meanwhile code_starts code_found rfl rfl code_checks
  rcases List.mem_pair.mp hp with rfl | rfl
  · exact hrevoked _ horder r hf ht _ rfl
  · exact hrevoked _ horder' r' hf' ht' _ rfl

end Code

end Oid4vc.Redemption
