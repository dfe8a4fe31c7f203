import Oid4vc.Server.Guarantees
import Oid4vc.Verifier.KeyBound

/-!
What the answers of the server promise, in any run of requests that are served concurrently.

An authorization request that is answered has identifiers of its own; a request object is of an
authorization request; and what is verified is a presentation for one.
-/

namespace Oid4vc.Promises

open Oid4vc.JsonValue Oid4vc.Run Oid4vc.Atomic Oid4vc.Spending Oid4vc.Rely Oid4vc.PartialMap
open Oid4vc.External Oid4vc.Oid4vp Oid4vc.VerifierState Oid4vc.Request Oid4vc.Response
open Oid4vc.KeyBound Oid4vc.Server Oid4vc.StatusRoutes Oid4vc.Routes Oid4vc.Guarantees

variable {X : Crates} {θ : Type} {app : ServerState X} {window : ℤ → Prop}
  {states codes : String → Prop} {r : ServerRequest}

/-- The authorization request whose first identifier is the `k`-th. -/
def requestOf (app : ServerState X) (k : ℕ) : SentRequest :=
  sentRequest (authorizationRequest (requestParams app) (X.uuid (k + 1)) (X.uuid (k + 2)))

/- Nothing here depends on when a session expires, and it must not be evaluated. -/
attribute [local irreducible] addSeconds

def Promise (app : ServerState X) (r : ServerRequest) : ServerReply → Prop
  | .authorization id requestUri link request => r = .authorization ∧ ∃ k, id = X.uuid k ∧
      requestUri = app.urlFor ("/verifier/request/" ++ id) ∧ link = walletUri app requestUri ∧
      request = requestOf app k
  | .requestObject jwt => ∃ k, r = .requestObject (X.uuid k) ∧
      encodeRequestAsJwt (X := X) (requestOf app k) app.primaryKey = .ok jwt
  | .verified id claims => ∃ k session response token now, r = .response response ∧
      Made app k session ∧ id = session.id ∧ response.state = some session.state ∧
      response.vpToken = some (.str token) ∧
      Verified (X := X) app.primaryKey session token now claims ∧
      checkQuery session.request.dcqlQuery claims = .ok ()
  | _ => True

/-! ### Outlines -/

lemma keeps_onStores {β : Type} {op : Stores → β × Stores} (h : Quiets X (RedeemsCode r) β op)
    (w : ServerWorld) : Keeps app r w
      (Prog.through ServerWorld.stores (fun w b => { w with stores := b }) op w).2 := by
  obtain ⟨hclock, hdrawn, hoffers⟩ := h w.stores
  refine ⟨hclock, hdrawn, fun hs => ⟨fun id session hget => ?_, fun state id hget => ?_⟩,
    fun session hstored _ => ?_, hoffers⟩
  · obtain ⟨k, hk, hof⟩ := hs.made id session hget
    exact ⟨k, Nat.le_trans hk hdrawn, hof⟩
  · obtain ⟨k, hk, hof⟩ := hs.named state id hget
    exact ⟨k, Nat.le_trans hk hdrawn, hof⟩
  · obtain ⟨k, hk, hof⟩ := hstored
    exact ⟨k, Nat.le_trans hk hdrawn, hof⟩

lemma outline_onStores {α : Type} {p : Prog Stores α} (h : Within (Quiets X (RedeemsCode r)) p) :
    Outline (Relied app window states codes) (Keeps app r) (fun _ => Sound app) (Sound app)
      (onStores p) := by
  have hkeeps : Within (fun _ op => ∀ w, Keeps app r w (op w).2) (onStores p) :=
    h.zoom fun _ _ hop => keeps_onStores hop
  exact outline_of_within hkeeps stable_sound (fun _ _ hop w _ => hop w)
    fun _ _ hop w hs => (hop w).2.sound hs

lemma outline_reads {α β : Type} {P : ServerWorld → Prop} {Q : α → ServerWorld → Prop}
    {op : ServerWorld → β × ServerWorld} {k : β → Prog ServerWorld α} (hsame : ∀ w, (op w).2 = w)
    (hP : Stable (Relied app window states codes) P)
    (hk : ∀ w, P w → Outline (Relied app window states codes) (Keeps app r) Q P (k (op w).1)) :
    Outline (Relied app window states codes) (Keeps app r) Q P (.call op k) :=
  outline_read hsame (keeps_refl r) hP hk

variable (app) in
lemma newAuthorization_cases (createdAt now : ℤ) (w : ServerWorld) :
    (newAuthorization app createdAt now w).1 = none ∨
      ∃ session, Request.newSession X (requestParams app) createdAt now w.stores.issuer.drawn =
          some session ∧
        (newAuthorization app createdAt now w).1 = some (session.request, session.id) ∧
        Stored app session (newAuthorization app createdAt now w).2 := by
  unfold newAuthorization createAuthorizationRequest
  cases hnew : Request.newSession X (requestParams app) createdAt now w.stores.issuer.drawn with
  | none => exact Or.inl (by simp only [storeNew])
  | some session =>
    refine Or.inr ⟨session, rfl, ?_⟩
    simp only [storeNew, InMemoryVerifierState.storeSession]
    exact ⟨trivial, w.stores.issuer.drawn, Nat.le_refl _, ⟨createdAt, now, hnew⟩,
      get_insert_self _ _ _, get_insert_self _ _ _⟩

lemma authorizationReply_made {k : ℕ} {session : VerifierSession} (h : Made app k session) :
    authorizationReply app (some (session.request, session.id)) =
      .authorization session.id (app.urlFor ("/verifier/request/" ++ session.id))
        (walletUri app (app.urlFor ("/verifier/request/" ++ session.id))) (requestOf app k) := by
  have hrequest : sentRequest session.request = requestOf app k := congrArg sentRequest h.fields.2.2.2
  unfold authorizationReply
  dsimp only
  rw [hrequest]

lemma promise_newAuthorization (createdAt now : ℤ) (w : ServerWorld) :
    Promise app .authorization (authorizationReply app (newAuthorization app createdAt now w).1) := by
  rcases newAuthorization_cases app createdAt now w with hnone | ⟨session, hnew, hsome, -⟩
  · rw [hnone]
    exact trivial
  · have hmade : Made app w.stores.issuer.drawn session := ⟨_, _, hnew⟩
    rw [hsome, authorizationReply_made hmade]
    exact ⟨rfl, _, hmade.fields.1, rfl, rfl, rfl⟩

lemma outline_createAuthorization (huuid : Function.Injective X.uuid) :
    Outline (Relied app window states codes) (Keeps app r)
      (fun reply _ => Promise app .authorization reply) (Sound app) (createAuthorization app) :=
  outline_reads (fun _ => rfl) stable_sound fun _ _ =>
    outline_reads (fun _ => rfl) stable_sound fun _ _ =>
      .call (Sound app)
        (fun answer _ => Promise app .authorization (authorizationReply app answer)) (fun _ h => h)
        stable_sound (fun w _ => keeps_newAuthorization huuid r _ _ w)
        (fun w _ => promise_newAuthorization _ _ w) fun _ _ => .ret (fun _ h => h) (stable_const _)

lemma outline_getRequest (id : String) :
    Outline (Relied app window states codes) (Keeps app r)
      (fun reply _ => Promise app (.requestObject id) reply) (Sound app) (getRequest app id) := by
  refine outline_reads (fun _ => rfl) stable_sound fun w hw => outline_ret fun _ => ?_
  simp only [InMemoryVerifierState.getSession]
  cases hget : w.sessions.sessions.get id with
  | none => simp only [requestReply, Promise]
  | some session =>
    obtain ⟨k, -, hmade, rfl⟩ := hw.made id session hget
    have hrequest : sentRequest session.request = requestOf app k := by
      rw [hmade.fields.2.2.2, requestOf]
    simp only [requestReply, hrequest]
    cases hjwt : encodeRequestAsJwt (X := X) (requestOf app k) app.primaryKey with
    | error e => simp only [Promise]
    | ok jwt => exact ⟨k, rfl, hjwt⟩

/-! ### Responses -/

/-- A part of the handler of a response. -/
def answering (p : Prog VerifierWorld Answer) : Prog ServerWorld ServerReply :=
  (p.zoom verifierView withVerifier).bind fun answer => .ret (responseReply answer)

lemma receiveResponse_eq (response : AuthorizationResponse) :
    receiveResponse app response = answering (processResponse X response app.primaryKey) := rfl

lemma outline_deleteSession (huuid : Function.Injective X.uuid) {session : VerifierSession} {k : ℕ}
    (hmade : Made app k session) (hnames : NamesState r session.state) {answer : Answer}
    {Q : ServerReply → ServerWorld → Prop} (hQ : ∀ w, Q (responseReply answer) w) :
    Outline (Relied app window states codes) (Keeps app r) Q (Sound app)
      (answering (.call (VerifierWorld.deleteSession session.id) fun _ => .ret answer)) :=
  .call (Sound app) (fun _ _ => True) (fun _ h => h) stable_sound
    (fun _ hw => keeps_deleteSession huuid hmade hnames hw) (fun _ _ => trivial)
    fun _ _ => outline_ret hQ

/-- With the presentation verified or not, the answer is as promised. -/
lemma outline_conclude (huuid : Function.Injective X.uuid) {session : VerifierSession} {k : ℕ}
    {response : AuthorizationResponse} (hmade : Made app k session)
    (hstate : response.state = some session.state) {token : String} (now : ℤ)
    (htoken : response.vpToken = some (.str token)) {verified : Except ResponseError (PMap String Json)}
    (hverified : ∀ claims, verified = .ok claims →
      Verified (X := X) app.primaryKey session token now claims) :
    Outline (Relied app window states codes) (Keeps app (.response response))
      (fun reply _ => Promise app (.response response) reply) (Sound app)
      (answering (conclude session verified)) := by
  rcases conclude_eq_accept session verified with ⟨e, he⟩ | ⟨claims, hclaims, hquery, haccept⟩
  · rw [he]
    exact outline_ret fun _ => trivial
  · rw [haccept]
    exact outline_deleteSession huuid hmade ⟨response, rfl, hstate⟩ fun _ =>
      ⟨k, session, response, token, now, rfl, hmade, rfl, hstate, htoken, hverified claims hclaims,
        hquery⟩

lemma outline_verifyToken (huuid : Function.Injective X.uuid) {session : VerifierSession} {k : ℕ}
    {response : AuthorizationResponse} (hmade : Made app k session)
    (hstate : response.state = some session.state) :
    Outline (Relied app window states codes) (Keeps app (.response response))
      (fun reply _ => Promise app (.response response) reply) (Sound app)
      (answering (verifyToken X session response.vpToken app.primaryKey)) := by
  cases htoken : response.vpToken with
  | none => exact outline_ret fun _ => trivial
  | some v =>
    cases v with
    | str token =>
      rw [verifyToken]
      split_ifs with hsep
      · refine outline_reads (fun _ => rfl) stable_sound fun w _ => ?_
        exact outline_conclude huuid hmade hstate _ htoken fun claims hclaims =>
          Or.inr ⟨by simpa [Text.containsChar] using hsep, hclaims⟩
      · exact outline_conclude huuid hmade hstate 0 htoken fun claims hclaims =>
          Or.inl ⟨by simpa [Text.containsChar] using hsep, hclaims⟩
    | null | bool | num | arr | obj => exact outline_ret fun _ => trivial

lemma outline_receiveResponse (huuid : Function.Injective X.uuid) (response : AuthorizationResponse) :
    Outline (Relied app window states codes) (Keeps app (.response response))
      (fun reply _ => Promise app (.response response) reply) (Sound app)
      (receiveResponse app response) := by
  rw [receiveResponse_eq, processResponse]
  cases hstate : response.state with
  | none => exact outline_ret fun _ => trivial
  | some state =>
    refine outline_reads (fun _ => rfl) stable_sound fun w hw => ?_
    simp only [Prog.through, VerifierWorld.getSessionByState, verifierView]
    cases hfound : w.sessions.getSessionByState state with
    | none => exact outline_ret fun _ => trivial
    | some session =>
      obtain ⟨⟨k, hmade⟩, rfl⟩ := hw.found huuid hfound
      refine outline_reads (fun _ => rfl) stable_sound fun w _ => ?_
      dsimp only
      split_ifs
      · exact outline_deleteSession huuid hmade ⟨response, rfl, hstate⟩ fun _ => trivial
      · exact outline_verifyToken huuid hmade hstate

/-! ### The whole server -/

lemma promise_signMdocStatusList (bits : ℕ) (lst : Bytes) (now : ℤ) :
    Promise app .mdocStatusList (signMdocStatusList app bits lst now) := by
  unfold signMdocStatusList
  by_cases h : Instant.Representable now ∧ Instant.Representable (now + dayNanos)
  · rw [dif_pos h]
    split <;> exact trivial
  · rw [dif_neg h]
    exact trivial

/-- **Every handler keeps its promise**, whatever the others do. -/
theorem outline_serve (huuid : Function.Injective X.uuid) (r : ServerRequest) :
    Outline (Relied app window states codes) (Keeps app r) (fun reply _ => Promise app r reply)
      (Sound app) (serve app r) := by
  cases r with
  | issuer r =>
    exact (outline_onStores (within_handle_quiets huuid app.toAppState r)).bind fun reply =>
      outline_ret fun _ => trivial
  | statusList id =>
    refine outline_reads (fun _ => rfl) stable_sound fun w _ => ?_
    simp only [Prog.through]
    cases w.stores.status.buildStatusListCredential X id app.externalUrl w.stores.issuer.clock with
    | ok credential => exact outline_ret fun _ => trivial
    | error e => exact outline_ret fun _ => trivial
  | mdocStatusList =>
    refine outline_reads (fun _ => rfl) stable_sound fun w _ => ?_
    simp only [Prog.through, onStatus]
    cases w.stores.status.mdocStatusList X with
    | error e => exact outline_ret fun _ => trivial
    | ok list =>
      exact outline_reads (fun _ => rfl) stable_sound fun w _ => outline_ret fun _ =>
        promise_signMdocStatusList _ _ _
  | crl => exact outline_ret fun _ => trivial
  | authorization => exact outline_createAuthorization huuid
  | requestObject id => exact outline_getRequest id
  | response response => exact outline_receiveResponse huuid response

/-! ### Runs -/

variable [DecidableEq θ] {requests : θ → ServerRequest} {clock : ℤ}

/-- The clock is right from here on. -/
def ClockIn (window : ℤ → Prop) (pool : Pool θ ServerWorld ServerReply) (events : List (Event θ ℤ)) :
    Prop :=
  window pool.shared.stores.issuer.clock ∧ Every (service θ)
    (fun pool event => ∀ n, event = .outside n → window (pool.shared.stores.issuer.clock + n)) pool events

/-- All handlers stand where their outlines say. -/
abbrev Served (app : ServerState X) (requests : θ → ServerRequest)
    (pool : Pool θ ServerWorld ServerReply) : Prop :=
  AllStand (fun _ => Anything app) (fun t => Keeps app (requests t))
    (fun t reply _ => Promise app (requests t) reply) pool

lemma clockIn_any (pool : Pool θ ServerWorld ServerReply) (events : List (Event θ ℤ)) :
    ClockIn (fun _ => True) pool events :=
  ⟨trivial, (every_true pool events).mono fun _ _ _ _ _ => trivial⟩

lemma clockIn_still {pool : Pool θ ServerWorld ServerReply}
    (hwindow : window pool.shared.stores.issuer.clock) {events : List (Event θ ℤ)}
    (hevents : ∀ n, .outside n ∉ events) : ClockIn window pool events := by
  refine ⟨hwindow, ?_⟩
  clear hwindow
  induction events generalizing pool with
  | nil => trivial
  | cons event events ih =>
    refine ⟨fun n heq => absurd (by rw [heq]; exact List.mem_cons_self) (hevents n), ih fun n hn => ?_⟩
    exact hevents n (List.mem_cons_of_mem _ hn)

lemma sound_fresh : Sound app (freshWorld app clock) :=
  ⟨fun id session h => by simp [freshWorld, InMemoryVerifierState.new] at h,
    fun state id h => by simp [freshWorld, InMemoryVerifierState.new] at h⟩

variable (app) in
lemma every_anything (pool : Pool θ ServerWorld ServerReply) (events : List (Event θ ℤ)) :
    Every (service θ) (fun pool event => ∀ _ : θ, ActsAsRelied (Anything app) wait pool event) pool
      events :=
  (every_true pool events).mono fun pool _ _ _ n _ => ⟨fun _ => trivial, moves_wait n pool.shared⟩

/-- **The server keeps its sessions sound, and every handler its promise**, in every run. -/
theorem run_served (huuid : Function.Injective X.uuid) (requests : θ → ServerRequest) (clock : ℤ)
    (events : List (Event θ ℤ)) :
    Served app requests (run (service θ) (arrived app requests clock) events) ∧
      Sound app (run (service θ) (arrived app requests clock) events).shared := by
  have hstart : Served app requests (arrived app requests clock) := fun t =>
    ⟨Sound app, sound_fresh, outline_serve huuid (requests t)⟩
  have hacts := every_anything app (arrived app requests clock) events
  exact ⟨run_allStand (compatible requests) hstart hacts,
    run_invariant (compatible requests) hstart hacts (fun _ _ _ _ h => h.2.sound)
      (fun _ _ h => ⟨h.made, h.named⟩) sound_fresh⟩

lemma run_promise (huuid : Function.Injective X.uuid) {events : List (Event θ ℤ)} {t : θ}
    {reply : ServerReply} (h : ((run (service θ) (arrived app requests clock) events).prog t).answer =
      some reply) : Promise app (requests t) reply :=
  (((run_served huuid requests clock events).1) t).answered h

/-- **A handler in focus** stands where an outline of its own says, as long as the clock is right
and those whose turn comes name no state, and redeem no code, that they must not. -/
theorem run_focus {pool : Pool θ ServerWorld ServerReply} (hserved : Served app requests pool) {t : θ}
    {Q : ServerReply → ServerWorld → Prop} {events : List (Event θ ℤ)}
    (hself : Stands (Relied app window states codes) (Keeps app (requests t)) Q pool.shared
      (pool.prog t))
    (hothers : ∀ u, u ≠ t → .thread u ∈ events → (∀ s, NamesState (requests u) s → states s) ∧
      ∀ c, RedeemsCode (requests u) c → codes c)
    (hclock : ClockIn window pool events) :
    Stands (Relied app window states codes) (Keeps app (requests t)) Q
      (run (service θ) pool events).shared ((run (service θ) pool events).prog t) := by
  refine run_focused (compatible requests) hserved (every_anything app pool events) hself
    (fun u hu hmem w w' h => h.relied (hothers u hu hmem).1 (hothers u hu hmem).2) ?_
  refine hclock.2.mono fun pool _ hwindow n hn => ⟨fun _ => hwindow n hn, moves_wait n pool.shared⟩

end Oid4vc.Promises
