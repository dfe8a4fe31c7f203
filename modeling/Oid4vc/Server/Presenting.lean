import Oid4vc.Server.Honest
import Oid4vc.Server.Promises
import Oid4vc.Verifier.Holding

/-!
A presentation, from the request of the verifier to the claims that it learns, while everyone else
is served as well.

The link of an authorization request leads to its request object, and the object is read as the
request; a holder who answers it is accepted, with the claims that were chosen; and the token of an
accepted presentation is worth nothing in another session.
-/

namespace Oid4vc.Presenting

open Oid4vc.JsonValue Oid4vc.Text Oid4vc.Percent Oid4vc.Fallible Oid4vc.Instant Oid4vc.Run
open Oid4vc.Atomic Oid4vc.Rely Oid4vc.PartialMap Oid4vc.External Oid4vc.Codecs Oid4vc.Jwks
open Oid4vc.Keys Oid4vc.Jws Oid4vc.Disclosures Oid4vc.Selective Oid4vc.Oid4vp Oid4vc.Serialized
open Oid4vc.VerifierState Oid4vc.Request Oid4vc.Response Oid4vc.Dcql Oid4vc.KeyBound Oid4vc.Holding
open Oid4vc.Server Oid4vc.Routes Oid4vc.Guarantees Oid4vc.Promises

variable {X : Crates} {θ : Type} {app : ServerState X} {window : ℤ → Prop}
  {states codes : String → Prop} {r : ServerRequest}

/-! ### Request objects -/

/-- What a wallet reads in a request object that it gets from the holder of this key. -/
def readRequestObject (X : Crates) (jwt : String) (key : KeyPair) : Option SentRequest :=
  match verifyCompact X jwt key with
  | .ok decoded =>
    if decoded.header.typ = some "oauth-authz-req+jwt" then
      (X.jsonFromSlice decoded.payload).toOption.bind readRequest
    else none
  | .error _ => none

lemma readRequestObject_encode (hb64 : Base64Url X) (hserde : SerdeJson X) (horder : SerdeOrder X)
    {key : SigningKey} (hkey : key.Correct X) {request : SentRequest} (hfits : RequestFits request)
    {jwt : String} (h : encodeRequestAsJwt (X := X) request (key.toKeyPair X) = .ok jwt) :
    readRequestObject X jwt (key.toKeyPair X) = some request := by
  rw [encodeRequestAsJwt, mapError_eq_ok] at h
  obtain ⟨signature, signingInput, hdecoded, hsign, -, -⟩ := decodeCompact_signCompact hb64 hserde h
  have hverified := verifyCompact_eq_ok.mpr ⟨hdecoded, SigningKey.verify_of_sign hkey hsign⟩
  obtain ⟨v, hv, halike⟩ := horder.readBack _ (readable_request hfits)
  unfold readRequestObject
  rw [hverified]
  simp only [buildHeader, if_true, hv]
  exact readsBack_request hfits v halike

lemma requestFits (app : ServerState X) (k : ℕ) : RequestFits (requestOf app k) := by
  refine ⟨fun query hquery credential hcredential claims hclaims claim hclaim values hvalues => ?_, rfl⟩
  obtain rfl := Option.some.inj hquery
  obtain rfl := List.mem_singleton.mp hcredential
  obtain rfl := Option.some.inj hclaims
  obtain ⟨path, -, rfl⟩ := List.mem_map.mp hclaim
  cases hvalues

/-- The link of a request names the verifier, and where the request is. -/
lemma readQuery_walletUri (hurl : UrlEncoding X) (requestUri : String) :
    readQuery (queryOf (walletUri app requestUri)) =
      [(utf8 "client_id", utf8 app.issuerId), (utf8 "request_uri", utf8 requestUri)] := by
  have hid : Percent.encode (utf8 "client_id") = "client_id" := by decide +kernel
  have huri : Percent.encode (utf8 "request_uri") = "request_uri" := by decide +kernel
  have hfront : '?' ∉ "openid4vp://".toList ∧ '#' ∉ "openid4vp://".toList := by decide +kernel
  have hlink : walletUri app requestUri = "openid4vp://" ++ "?" ++
      query [(utf8 "client_id", utf8 app.issuerId), (utf8 "request_uri", utf8 requestUri)] := by
    have hopen : "openid4vp://?client_id=" = "openid4vp://" ++ "?" ++ ("client_id" ++ "=") := by
      decide +kernel
    have hnext : "&request_uri=" = "&" ++ ("request_uri" ++ "=") := by decide +kernel
    rw [query_pair, hid, huri]
    calc walletUri app requestUri
      _ = "openid4vp://?client_id=" ++ Percent.encode (utf8 app.issuerId) ++ "&request_uri=" ++
          Percent.encode (utf8 requestUri) :=
        congrArg₂ (fun s t => "openid4vp://?client_id=" ++ s ++ "&request_uri=" ++ t)
          (hurl.encode _) (hurl.encode _)
      _ = "openid4vp://" ++ "?" ++ ("client_id" ++ "=") ++ Percent.encode (utf8 app.issuerId) ++
          ("&" ++ ("request_uri" ++ "=")) ++ Percent.encode (utf8 requestUri) :=
        congrArg₂ (fun s t => s ++ Percent.encode (utf8 app.issuerId) ++ t ++
          Percent.encode (utf8 requestUri)) hopen hnext
      _ = _ := by simp only [String.append_assoc]
  rw [hlink]
  exact (congrArg readQuery (queryOf_link hfront _)).trans (readQuery_query (List.cons_ne_nil _ _))

/-! ### Authorization requests -/

lemma expiresAt_newSession {createdAt now : ℤ} {k : ℕ} {session : VerifierSession}
    (h : Request.newSession X (requestParams app) createdAt now k = some session) :
    session.expiresAt = now + seconds 600 := by
  unfold Request.newSession addSeconds at h
  have hsecs : (requestParams app).sessionExpirySecs = 600 := rfl
  have hduration : wrapI64 ((600 : ℕ) : ℤ) = 600 := by decide
  rw [hsecs, hduration] at h
  simp only at h
  split_ifs at h
  · rw [Option.map_some, Option.some.injEq] at h
    rw [← h]
  · cases h

lemma exists_newSession (app : ServerState X) (createdAt : ℤ) {now : ℤ} (h : Representable (now + seconds 600)) (k : ℕ) :
    ∃ session, Request.newSession X (requestParams app) createdAt now k = some session := by
  unfold Request.newSession addSeconds
  have hsecs : (requestParams app).sessionExpirySecs = 600 := rfl
  have hduration : wrapI64 ((600 : ℕ) : ℤ) = 600 := by decide
  rw [hsecs, hduration]
  simp only
  rw [if_pos ⟨by decide, h⟩]
  exact ⟨_, rfl⟩

/- Nothing else depends on when a session expires, and it must not be evaluated. -/
attribute [local irreducible] addSeconds

/-- What an answer with an authorization request leaves: its session, which is good for ten minutes
from an instant that was right, and stored unless its state is one of these. -/
def Asked (app : ServerState X) (window : ℤ → Prop) (states : String → Prop) (reply : ServerReply)
    (w : ServerWorld) : Prop :=
  Sound app w ∧ ∀ id requestUri link request, reply = .authorization id requestUri link request →
    ∃ k session now, Made app k session ∧ session.id = id ∧ request = requestOf app k ∧
      window now ∧ session.expiresAt = now + seconds 600 ∧
      (¬ states session.state → Stored app session w)

lemma stable_asked (reply : ServerReply) :
    Stable (Relied app window states codes) (Asked app window states reply) := by
  rintro w w' hrelied ⟨hsound, hasked⟩
  refine ⟨hrelied.2.sound hsound, fun id requestUri link request hreply => ?_⟩
  obtain ⟨k, session, now, hmade, hid, hrequest, hnow, hexpires, hstored⟩ := hasked _ _ _ _ hreply
  exact ⟨k, session, now, hmade, hid, hrequest, hnow, hexpires, fun hstate =>
    hrelied.2.sessions session (hstored hstate) hstate⟩

lemma asked_newAuthorization (huuid : Function.Injective X.uuid) {createdAt now : ℤ}
    {w : ServerWorld} (hsound : Sound app w) (hnow : window now) :
    Asked app window states (authorizationReply app (newAuthorization app createdAt now w).1)
      (newAuthorization app createdAt now w).2 := by
  refine ⟨(keeps_newAuthorization huuid .authorization createdAt now w).2.sound hsound,
    fun id requestUri link request hreply => ?_⟩
  rcases newAuthorization_cases app createdAt now w with hnone | ⟨session, hnew, hsome, hstored⟩
  · rw [hnone] at hreply
    cases hreply
  · have hmade : Made app w.stores.issuer.drawn session := ⟨_, _, hnew⟩
    rw [hsome, authorizationReply_made hmade, ServerReply.authorization.injEq] at hreply
    obtain ⟨hid, -, -, hrequest⟩ := hreply
    exact ⟨_, session, now, hmade, hid, hrequest.symm, hnow, expiresAt_newSession hnew,
      fun _ => hstored⟩

lemma outline_asked (huuid : Function.Injective X.uuid) :
    Outline (Relied app window states codes) (Keeps app r) (Asked app window states)
      (fun w => Sound app w ∧ window w.stores.issuer.clock) (createAuthorization app) := by
  have hstable : Stable (Relied app window states codes)
      fun w => Sound app w ∧ window w.stores.issuer.clock :=
    fun w w' h hw => ⟨h.2.sound hw.1, h.1 hw.2⟩
  exact outline_reads (fun _ => rfl) hstable fun _ _ =>
    outline_reads (fun _ => rfl) hstable fun _ hw =>
      .call (fun w => Sound app w ∧ window w.stores.issuer.clock)
        (fun answer => Asked app window states (authorizationReply app answer)) (fun _ h => h) hstable
        (fun w _ => keeps_newAuthorization huuid r _ _ w)
        (fun w hw' => asked_newAuthorization huuid hw'.1 hw.2) fun _ _ =>
          .ret (fun _ h => h) (stable_asked _)

variable [DecidableEq θ] {requests : θ → ServerRequest} {clock : ℤ}

/-- **A request that was answered is stored**, unless its state was named. -/
lemma asked_of_run (huuid : Function.Injective X.uuid) (states : String → Prop)
    (early : List (Event θ ℤ)) {asking : List (Event θ ℤ)} {t : θ} {id requestUri link : String} {request : SentRequest}
    (hasked : ((run (service θ) (arrived app requests clock) (early ++ asking)).prog t).answer =
      some (.authorization id requestUri link request)) (hearly : .thread t ∉ early)
    (hstates : ∀ u, u ≠ t → .thread u ∈ asking → ∀ s, NamesState (requests u) s → states s)
    (hclock : ClockIn window (run (service θ) (arrived app requests clock) early) asking) :
    Asked app window states (.authorization id requestUri link request)
      (run (service θ) (arrived app requests clock) (early ++ asking)).shared := by
  have hrequest := (run_promise huuid hasked).1
  obtain ⟨hserved, hsound⟩ : Served app requests (run (service θ) (arrived app requests clock) early) ∧
      Sound app (run (service θ) (arrived app requests clock) early).shared :=
    run_served huuid requests clock early
  rw [run_append] at hasked ⊢
  have hstart : Stands (Relied app window states fun _ => True) (Keeps app (requests t))
      (Asked app window states) (run (service θ) (arrived app requests clock) early).shared
      ((run (service θ) (arrived app requests clock) early).prog t) := by
    have hprog : (run (service θ) (arrived app requests clock) early).prog t =
        serve app (requests t) := run_prog_of_not_mem hearly
    rw [hprog, hrequest]
    exact ⟨_, ⟨hsound, hclock.1⟩, outline_asked huuid⟩
  exact (run_focus hserved hstart (fun u hu hmem => ⟨hstates u hu hmem, fun _ _ => trivial⟩)
    hclock).answered hasked

/-- **A request object is of the request that was answered**: whoever fetches it reads that request,
and no other. -/
theorem requestObject_reads (hb64 : Base64Url X) (hserde : SerdeJson X) (horder : SerdeOrder X)
    (huuid : Function.Injective X.uuid) {server : SigningKey} (hserver : server.Correct X)
    (hkey : app.primaryKey = server.toKeyPair X) {events : List (Event θ ℤ)} {t u : θ}
    {id requestUri link jwt : String} {request : SentRequest}
    (hasked : ((run (service θ) (arrived app requests clock) events).prog t).answer =
      some (.authorization id requestUri link request))
    (hfetch : requests u = .requestObject id)
    (hjwt : ((run (service θ) (arrived app requests clock) events).prog u).answer =
      some (.requestObject jwt)) :
    readRequestObject X jwt app.primaryKey = some request := by
  obtain ⟨-, k, rfl, -, -, rfl⟩ := run_promise huuid hasked
  obtain ⟨k', hof, hencoded⟩ := run_promise huuid hjwt
  rw [hfetch, ServerRequest.requestObject.injEq] at hof
  obtain rfl := huuid hof
  rw [hkey] at hencoded ⊢
  exact readRequestObject_encode hb64 hserde horder hserver (requestFits app k) hencoded

lemma outline_fetch {session : VerifierSession} (hstate : ¬ states session.state) :
    Outline (Relied app window states codes) (Keeps app r)
      (fun reply _ => reply = requestReply app (some session)) (Stored app session)
      (getRequest app session.id) := by
  refine outline_reads (fun _ => rfl) (fun w w' h hw => h.2.sessions session hw hstate) fun w hw => ?_
  obtain ⟨k, -, -, hget, -⟩ := hw
  simp only [InMemoryVerifierState.getSession, hget]
  exact outline_ret fun _ => rfl

/-- Who fetches a request that was answered gets its request object, unless somebody has named its
state. -/
lemma request_fetched (huuid : Function.Injective X.uuid) {server : SigningKey} (hsigns : server.Signs)
    (hkey : app.primaryKey = server.toKeyPair X) {before after : List (Event θ ℤ)} {t u : θ}
    {id requestUri link state : String} {request : SentRequest}
    (hasked : ((run (service θ) (arrived app requests clock) before).prog t).answer =
      some (.authorization id requestUri link request))
    (hstate : request.request.state = some state)
    (hsecret : ∀ v, .thread v ∈ before ++ after → ¬ NamesState (requests v) state)
    (hfetch : requests u = .requestObject id) (hlate : .thread u ∉ before)
    (hturn : .thread u ∈ after) :
    ∃ jwt, encodeRequestAsJwt (X := X) request app.primaryKey = .ok jwt ∧
      ((run (service θ) (arrived app requests clock) (before ++ after)).prog u).answer =
        some (.requestObject jwt) := by
  have hothers : ∀ v, .thread v ∈ before ++ after → ∀ s, NamesState (requests v) s → s ≠ state := by
    rintro v hv s hs rfl
    exact hsecret v hv hs
  -- the session is stored when the request is answered
  obtain ⟨-, hasked⟩ := asked_of_run huuid (· ≠ state) [] hasked List.not_mem_nil
    (fun v _ hv => hothers v (List.mem_append_left _ hv)) (clockIn_any _ _)
  obtain ⟨k, session, -, hmade, rfl, hsame, -, -, hstored⟩ := hasked _ _ _ _ rfl
  have hsession : session.state = state := by
    rw [hsame] at hstate
    exact hmade.fields.2.1.trans (Option.some.inj hstate)
  -- and still when it is fetched
  have hprog : (run (service θ) (arrived app requests clock) before).prog u =
      getRequest app session.id := by
    rw [run_prog_of_not_mem hlate]
    exact congrArg (serve app) hfetch
  have hstands : Stands (Relied app (fun _ => True) (· ≠ state) fun _ => True)
      (Keeps app (requests u)) (fun reply _ => reply = requestReply app (some session))
      (run (service θ) (arrived app requests clock) before).shared
      ((run (service θ) (arrived app requests clock) before).prog u) := by
    rw [hprog]
    exact ⟨_, hstored fun hne => hne hsession, outline_fetch fun hne => hne hsession⟩
  have hbounded : Bounded 1 ((run (service θ) (arrived app requests clock) before).prog u) := by
    rw [hprog]
    exact .call fun _ => .ret 0 _
  obtain ⟨reply, hreply⟩ : ∃ reply, ((run (service θ)
      (run (service θ) (arrived app requests clock) before) after).prog u).answer = some reply :=
    answered_of_turns hbounded (turns_pos hturn)
  have hanswer := (run_focus (run_served huuid requests clock before).1 hstands
    (fun v _ hv => ⟨hothers v (List.mem_append_right _ hv), fun _ _ => trivial⟩)
    (clockIn_any _ after)).answered hreply
  obtain ⟨jwt, hjwt⟩ : ∃ jwt, encodeRequestAsJwt (X := X) request app.primaryKey = .ok jwt := by
    rw [hkey]
    obtain ⟨jwt, hjwt⟩ := signCompact_total (X := X) (SigningKey.sign_total hsigns)
      (buildHeader (server.toKeyPair X) (some "oauth-authz-req+jwt")) (requestToValue request)
    exact ⟨jwt, mapError_eq_ok.mpr hjwt⟩
  have hsent : sentRequest session.request = request := by
    rw [hsame]
    exact congrArg sentRequest hmade.fields.2.2.2
  have hobject : reply = .requestObject jwt := by
    rw [hanswer]
    unfold requestReply
    simp only [hsent, hjwt]
  exact ⟨jwt, hjwt, by rw [run_append, hreply, hobject]⟩

/-- **An authorization request is served.** Its link names the verifier and where the request is, and
who fetches it there gets a request object that is read as the request, unless somebody has named
its state. -/
theorem request_served (hb64 : Base64Url X) (hurl : UrlEncoding X) (hserde : SerdeJson X)
    (horder : SerdeOrder X)
    (huuid : Function.Injective X.uuid) {server : SigningKey} (hserver : server.Correct X)
    (hsigns : server.Signs) (hkey : app.primaryKey = server.toKeyPair X)
    {before after : List (Event θ ℤ)} {t u : θ} {id requestUri link state : String}
    {request : SentRequest}
    (hasked : ((run (service θ) (arrived app requests clock) before).prog t).answer =
      some (.authorization id requestUri link request))
    (hstate : request.request.state = some state)
    (hsecret : ∀ v, .thread v ∈ before ++ after → ¬ NamesState (requests v) state)
    (hfetch : requests u = .requestObject id) (hlate : .thread u ∉ before)
    (hturn : .thread u ∈ after) :
    requestUri = app.urlFor ("/verifier/request/" ++ id) ∧
    readQuery (queryOf link) =
      [(utf8 "client_id", utf8 app.issuerId), (utf8 "request_uri", utf8 requestUri)] ∧
    ∃ jwt, ((run (service θ) (arrived app requests clock) (before ++ after)).prog u).answer =
        some (.requestObject jwt) ∧ readRequestObject X jwt app.primaryKey = some request := by
  obtain ⟨-, k, -, huri, hlink, hrequest⟩ := run_promise huuid hasked
  obtain ⟨jwt, hjwt, hanswer⟩ := request_fetched huuid hsigns hkey hasked hstate hsecret hfetch hlate
    hturn
  refine ⟨huri, by rw [hlink, readQuery_walletUri hurl], jwt, hanswer, ?_⟩
  rw [hkey] at hjwt ⊢
  rw [hrequest] at hjwt ⊢
  exact readRequestObject_encode hb64 hserde horder hserver (requestFits app k) hjwt

/-! ### Presentations -/

lemma bounded_conclude (session : VerifierSession)
    (verified : Except ResponseError (PMap String Json)) :
    Bounded 1 (answering (conclude session verified)) := by
  rcases conclude_eq_accept session verified with ⟨e, he⟩ | ⟨claims, -, -, haccept⟩
  · rw [he]
    exact .ret 1 _
  · rw [haccept]
    exact .call fun _ => .ret 0 _

/-- A response takes four calls at most. -/
lemma bounded_receiveResponse (response : AuthorizationResponse) :
    Bounded 4 (receiveResponse app response) := by
  rw [receiveResponse_eq, processResponse]
  cases response.state with
  | none => exact .ret 4 _
  | some state =>
    refine .call fun found => ?_
    cases found with
    | none => exact .ret 3 _
    | some session =>
      refine .call fun now => ?_
      dsimp only
      split_ifs
      · exact .call fun _ => .ret 1 _
      · cases response.vpToken with
        | none => exact .ret 2 _
        | some v =>
          cases v with
          | str token =>
            rw [verifyToken]
            split_ifs
            · exact .call fun _ => bounded_conclude session _
            · exact (bounded_conclude session _).mono (by omega)
          | null | bool | num | arr | obj => exact .ret 2 _

/-- A response for a stored session, with a token that verifies at every right instant, is accepted. -/
lemma outline_presented (huuid : Function.Injective X.uuid) {session : VerifierSession} {k : ℕ}
    (hmade : Made app k session) {token : String} (hsep : '~' ∈ token.toList)
    (hunnamed : ¬ states session.state) {Chosen : PMap String Json → Prop}
    (hwindow : ∀ now, window now → now ≤ session.expiresAt ∧ ∃ claims,
      verifySdJwtVp X token app.primaryKey session.nonce session.request.clientId now = .ok claims ∧
        Chosen claims)
    (hquery : ∀ claims, Chosen claims → checkQuery session.request.dcqlQuery claims = .ok ()) :
    Outline (Relied app window states codes) (Keeps app (.response ⟨some (.str token), some session.state⟩))
      (fun reply _ => ∃ claims, reply = .verified session.id claims ∧ Chosen claims)
      (fun w => Sound app w ∧ Stored app session w ∧ window w.stores.issuer.clock)
      (receiveResponse app ⟨some (.str token), some session.state⟩) := by
  have hstable : Stable (Relied app window states codes)
      fun w => Sound app w ∧ Stored app session w ∧ window w.stores.issuer.clock :=
    fun w w' h hw => ⟨h.2.sound hw.1, h.2.sessions session hw.2.1 hunnamed, h.1 hw.2.2⟩
  rw [receiveResponse_eq, processResponse]
  -- the session is looked up, then the clock is read twice, then the session is deleted
  refine outline_reads (fun _ => rfl) hstable fun w hw => ?_
  obtain ⟨-, ⟨-, -, -, hget, hname⟩, -⟩ := hw
  have hfound : w.sessions.getSessionByState session.state = some session := by
    rw [InMemoryVerifierState.getSessionByState, hname, Option.bind_some, hget]
  simp only [Prog.through, VerifierWorld.getSessionByState, verifierView, hfound]
  refine outline_reads (fun _ => rfl) hstable fun w hw => ?_
  have hexpires : ¬ session.expiresAt < w.stores.issuer.clock :=
    Int.not_lt.mpr (hwindow _ hw.2.2).1
  have hcontains : containsChar '~' token = true := by simpa [containsChar] using hsep
  simp only [Prog.through, VerifierWorld.readClock, verifierView, if_neg hexpires, verifyToken,
    hcontains, if_true]
  refine outline_reads (fun _ => rfl) hstable fun w hw => ?_
  obtain ⟨claims, hverified, hchosen⟩ := (hwindow _ hw.2.2).2
  have hconclude : conclude session (.ok claims) = accept session claims := by
    simp only [conclude, hquery claims hchosen]
  simp only [Prog.through, VerifierWorld.readClock, verifierView, hverified, hconclude]
  exact (outline_deleteSession huuid hmade ⟨_, rfl, rfl⟩ fun _ => ⟨claims, rfl, hchosen⟩).strengthen
    fun _ hw => hw.1

/-- **A presentation is served.** A holder who answers an authorization request within ten minutes,
with a token for its nonce that discloses what it asks for, is accepted, and the verifier learns just
the claims that were chosen: whatever else is served meanwhile, as long as nobody else names the
state of the request. -/
theorem presentation_served (hb64 : Base64Url X) (hserde : SerdeJson X)
    (huuid : Function.Injective X.uuid) {issuer holder : SigningKey} (hissuer : issuer.Correct X)
    (hholder : holder.Correct X) (hkey : app.primaryKey = issuer.toKeyPair X)
    {early asking after : List (Event θ ℤ)} {t v : θ} {id requestUri link state token : String}
    {request : SentRequest} {since : ℤ}
    (hasked : ((run (service θ) (arrived app requests clock) (early ++ asking)).prog t).answer =
      some (.authorization id requestUri link request))
    (hearly : .thread t ∉ early)
    (hsince : ClockIn (since ≤ ·) (run (service θ) (arrived app requests clock) early) asking)
    (hstate : request.request.state = some state)
    (hsecret : ∀ u, u ≠ v → .thread u ∈ asking ++ after → ¬ NamesState (requests u) state)
    (h : Held app.toAppState holder) (hshows : h.Shows ["given_name", "family_name"])
    (htoken : h.Token request.request.nonce request.request.clientId token)
    (hresponse : requests v = .response ⟨some (.str token), some state⟩)
    (hlate : .thread v ∉ early ++ asking)
    (hclock : ClockIn (fun now => now ≤ since + seconds 600 ∧ h.Good now)
      (run (service θ) (arrived app requests clock) (early ++ asking)) after)
    (hturns : 4 ≤ turns v after) :
    ∃ claims, ((run (service θ) (arrived app requests clock) (early ++ asking ++ after)).prog v).answer =
        some (.verified id claims) ∧
      ∀ name value, claims.get name = some value ↔ (name, value) ∈ h.chosen.map entryOf := by
  have hothers : ∀ u, u ≠ v → .thread u ∈ asking ++ after → ∀ s, NamesState (requests u) s →
      s ≠ state := by
    rintro u hu hmem s hs rfl
    exact hsecret u hu hmem hs
  -- the session is stored when the request is answered
  obtain ⟨hsound, hasked⟩ := asked_of_run huuid (· ≠ state) early hasked hearly (fun u _ hmem =>
    hothers u (fun heq => hlate (heq ▸ List.mem_append_right _ hmem)) (List.mem_append_left _ hmem))
    hsince
  obtain ⟨k, session, now, hmade, rfl, rfl, hnow, hexpires, hstored⟩ := hasked _ _ _ _ rfl
  obtain ⟨-, hsession, hnonce, hrequest⟩ := hmade.fields
  obtain rfl : session.state = state := hsession.trans (Option.some.inj hstate)
  have hclient : session.request.clientId = (requestOf app k).request.clientId := by
    rw [hrequest]
    rfl
  have hasks : session.request.dcqlQuery = some (identityQuery app) := by
    rw [hrequest]
    rfl
  -- and at every instant that is left, the token verifies
  obtain ⟨hsep, -⟩ := h.verifies hb64 hserde hissuer hholder hkey htoken hclock.1.2
  have hwindow : ∀ now, now ≤ since + seconds 600 ∧ h.Good now → now ≤ session.expiresAt ∧
      ∃ claims, verifySdJwtVp X token app.primaryKey session.nonce session.request.clientId now =
          .ok claims ∧
        ∀ name value, claims.get name = some value ↔ (name, value) ∈ h.chosen.map entryOf := by
    rintro now' ⟨hlast, hgood⟩
    rw [hnonce, hclient]
    exact ⟨by rw [hexpires]; omega, (h.verifies hb64 hserde hissuer hholder hkey htoken hgood).2⟩
  have hprog : (run (service θ) (arrived app requests clock) (early ++ asking)).prog v =
      receiveResponse app ⟨some (.str token), some session.state⟩ := by
    rw [run_prog_of_not_mem hlate]
    exact congrArg (serve app) hresponse
  obtain ⟨reply, hreply⟩ : ∃ reply, ((run (service θ)
      (run (service θ) (arrived app requests clock) (early ++ asking)) after).prog v).answer =
        some reply :=
    answered_of_turns (by rw [hprog]; exact bounded_receiveResponse _) hturns
  have hstands : Stands (Relied app (fun now => now ≤ since + seconds 600 ∧ h.Good now)
      (· ≠ session.state) fun _ => True) (Keeps app (requests v))
      (fun reply _ => ∃ claims, reply = .verified session.id claims ∧
        ∀ name value, claims.get name = some value ↔ (name, value) ∈ h.chosen.map entryOf)
      (run (service θ) (arrived app requests clock) (early ++ asking)).shared
      ((run (service θ) (arrived app requests clock) (early ++ asking)).prog v) := by
    rw [hprog, hresponse]
    refine ⟨_, ⟨hsound, hstored fun hne => hne rfl, hclock.1⟩, outline_presented huuid hmade hsep
      (fun hne => hne rfl) hwindow fun claims hclaims => ?_⟩
    rw [hasks]
    exact h.satisfies hshows hclaims rfl
  obtain ⟨claims, rfl, hclaims⟩ := (run_focus (run_served huuid requests clock _).1 hstands
    (fun u hu hmem => ⟨hothers u hu (List.mem_append_right _ hmem), fun _ _ => trivial⟩)
    hclock).answered hreply
  exact ⟨claims, by rw [run_append, hreply], hclaims⟩

/-! ### Tokens -/

/-- The nonce of a key-bound presentation can be read off its text. -/
lemma nonce_unique {key key' : KeyPair} {nonce nonce' audience audience' token : String}
    (p : KeyBoundPresentation X key nonce audience token)
    (p' : KeyBoundPresentation X key' nonce' audience' token) : nonce = nonce' := by
  have hlast := (List.append_inj' (p.parts.symm.trans p'.parts) rfl).2
  have hkb : p.kbJwt = p'.kbJwt := by simpa using hlast
  obtain ⟨d, hdecoded, -, hbinding, -⟩ := signedAs_iff.mp p.possession
  obtain ⟨d', hdecoded', -, hbinding', -⟩ := signedAs_iff.mp p'.possession
  rw [← hkb, hdecoded, Except.ok.injEq] at hdecoded'
  rw [← hdecoded', hbinding, Except.ok.injEq] at hbinding'
  have hnonce := p'.bound_nonce
  rw [← hbinding', p.bound_nonce, Option.some.injEq, Json.str.injEq] at hnonce
  exact hnonce

/-- **A token is worth one session.** Whoever presents it again, however the requests interleave: an
SD-JWT that is accepted for one session is accepted for no other. -/
theorem token_one_session (huuid : Function.Injective X.uuid) {events : List (Event θ ℤ)} {t u : θ}
    {id id' token : String} {claims claims' : PMap String Json} {state state' : Option String}
    (hsep : '~' ∈ token.toList) (ht : requests t = .response ⟨some (.str token), state⟩)
    (hu : requests u = .response ⟨some (.str token), state'⟩)
    (haccepted : ((run (service θ) (arrived app requests clock) events).prog t).answer =
      some (.verified id claims))
    (haccepted' : ((run (service θ) (arrived app requests clock) events).prog u).answer =
      some (.verified id' claims')) : id = id' := by
  have hbound : ∀ {v : θ} {id : String} {claims : PMap String Json} {state : Option String},
      requests v = .response ⟨some (.str token), state⟩ →
      ((run (service θ) (arrived app requests clock) events).prog v).answer = some (.verified id claims) →
      ∃ k audience, id = X.uuid k ∧
        Nonempty (KeyBoundPresentation X app.primaryKey (X.uuid (k + 1)) audience token) := by
    intro v id claims state hv hanswer
    obtain ⟨k, session, response, token', now, hof, hmade, hid, -, htoken, hverified, -⟩ :=
      run_promise huuid hanswer
    rw [hv, ServerRequest.response.injEq] at hof
    obtain rfl := hof
    obtain rfl : token = token' := by simpa using htoken
    obtain ⟨hsid, -, hnonce, -⟩ := hmade.fields
    rcases hverified with ⟨hno, -⟩ | ⟨-, hverified⟩
    · exact absurd hsep hno
    · obtain ⟨p, -⟩ := verifySdJwtVp_ok hverified
      rw [hnonce] at p
      exact ⟨k, _, hid.trans hsid, ⟨p⟩⟩
  obtain ⟨k, audience, rfl, ⟨p⟩⟩ := hbound ht haccepted
  obtain ⟨k', audience', rfl, ⟨p'⟩⟩ := hbound hu haccepted'
  have := huuid (nonce_unique p p')
  congr 1
  omega

/-! ### A holder who presents -/

section Sample

open Oid4vc.Tables Oid4vc.Wallet Oid4vc.Batch Oid4vc.KeyIdentity Oid4vc.Honest

/-- An authorization request that is served first, and alone. -/
lemma asked_alone {t : θ} (ht : requests t = .authorization)
    (hclock : Representable (clock + seconds 600)) : ∃ n requestUri link,
      ((run (service θ) (arrived app requests clock) (List.replicate n (.thread t))).prog t).answer =
        some (.authorization (X.uuid 0) requestUri link (requestOf app 0)) ∧
      (run (service θ) (arrived app requests clock)
        (List.replicate n (.thread t))).shared.stores.issuer.clock = clock := by
  obtain ⟨n, hn⟩ := exec_alone wait (arrived app requests clock) t
  have hprog : (arrived app requests clock).prog t = createAuthorization app := congrArg (serve app) ht
  have hexec : (createAuthorization app).exec (freshWorld app clock) =
      (authorizationReply app (newAuthorization app clock clock (freshWorld app clock)).1,
        (newAuthorization app clock clock (freshWorld app clock)).2) := rfl
  obtain ⟨session, hnew⟩ := exists_newSession app clock hclock 0
  have hmade : Made app 0 session := ⟨_, _, hnew⟩
  have hsome : (newAuthorization app clock clock (freshWorld app clock)).1 =
      some (session.request, session.id) := by
    rcases newAuthorization_cases app clock clock (freshWorld app clock) with
      hnone | ⟨session', hnew', hsome, -⟩
    · have hstored : (newAuthorization app clock clock (freshWorld app clock)).1 =
          (storeNew InMemoryVerifierState.new 3 (some session)).1 := congrArg (fun s =>
        (storeNew InMemoryVerifierState.new 3 s).1) hnew
      rw [hnone] at hstored
      cases hstored
    · obtain rfl : session = session' := Option.some.inj (hnew.symm.trans hnew')
      exact hsome
  have hreply := authorizationReply_made hmade
  rw [← hsome, hmade.fields.1] at hreply
  refine ⟨n, app.urlFor ("/verifier/request/" ++ X.uuid 0),
    walletUri app (app.urlFor ("/verifier/request/" ++ X.uuid 0)), ?_, ?_⟩
  · rw [hn, hprog]
    simp only [Function.update_self, Prog.answer_ret]
    exact congrArg some ((congrArg Prod.fst hexec).trans hreply)
  · rw [hn, hprog]
    exact congrArg (fun w => w.2.stores.issuer.clock) hexec

def visitServer : ServerState visitCrates :=
  { visitApp with
    secondaryKey := visitApp.primaryKey
    mdocStatusSigner := visitSigner
    crl := [] }

def issuerKey : SigningKey := visitTable.key signerX signerY
def holderKey : SigningKey := visitTable.key holderX holderY

lemma serdeOrder_visit : SerdeOrder visitCrates := by
  have hvec : visitCrates.jsonToVec = codecs.jsonToVec := rfl
  have hslice : visitCrates.jsonFromSlice = codecs.jsonFromSlice := rfl
  constructor
  rw [hvec, hslice]
  exact serdeOrder_codecs.readBack

/-- An authorization request, and what comes after it. -/
def visitRequests (r : ServerRequest) : ℕ → ServerRequest
  | 0 => .authorization
  | _ + 1 => r

def visitArrived (r : ServerRequest) : Pool ℕ ServerWorld ServerReply :=
  arrived visitServer (visitRequests r) (seconds 1767225600)

lemma visit_asked (r : ServerRequest) : ∃ n requestUri link,
    ((run (service ℕ) (visitArrived r) (List.replicate n (.thread 0))).prog 0).answer =
      some (.authorization (visitCrates.uuid 0) requestUri link (requestOf visitServer 0)) ∧
    (run (service ℕ) (visitArrived r)
      (List.replicate n (.thread 0))).shared.stores.issuer.clock = seconds 1767225600 := by
  have hfirst : visitRequests r 0 = .authorization := rfl
  exact asked_alone hfirst (by decide)

lemma not_mem_asking (k n : ℕ) : (.thread (k + 1) : Event ℕ ℤ) ∉ List.replicate n (.thread 0) := by
  simp [List.mem_replicate]

lemma asking_of_mem {u n m : ℕ} (hu : u ≠ 1) (hmem : (.thread u : Event ℕ ℤ) ∈
    List.replicate n (.thread 0) ++ List.replicate m (.thread 1)) : u = 0 := by
  rcases List.mem_append.mp hmem with hmem | hmem
  · simpa using List.eq_of_mem_replicate hmem
  · exact absurd (by simpa using List.eq_of_mem_replicate hmem) hu

lemma unnamed_visit (v : ℕ) (state : String) :
    ¬ NamesState (visitRequests (.requestObject (visitCrates.uuid 0)) v) state := by
  rintro ⟨response, hof, -⟩
  cases v <;> cases hof

/-- A request object that was fetched is of the request. -/
theorem visit_requestObject : ∃ (n : ℕ) (jwt : String),
    ((run (service ℕ) (visitArrived (.requestObject (visitCrates.uuid 0)))
      (List.replicate n (.thread 0) ++ [.thread 1])).prog 1).answer = some (.requestObject jwt) ∧
    readRequestObject visitCrates jwt visitServer.primaryKey = some (requestOf visitServer 0) := by
  obtain ⟨n, requestUri, link, hasked, -⟩ := visit_asked (.requestObject (visitCrates.uuid 0))
  have hkey : visitServer.primaryKey = (visitTable.key signerX signerY).toKeyPair visitCrates := rfl
  have hturn : (.thread 1 : Event ℕ ℤ) ∈ [.thread 1] := List.mem_cons_self
  obtain ⟨jwt, -, hanswer⟩ := request_fetched injective_uuid_visit
    (Table.key_signs (t := visitTable) signerX signerY) hkey (u := 1) hasked rfl
    (fun v _ => unnamed_visit v _) rfl (not_mem_asking 0 n) hturn
  have hstill : ((run (service ℕ) (visitArrived (.requestObject (visitCrates.uuid 0)))
      (List.replicate n (.thread 0) ++ [.thread 1])).prog 0).answer =
        some (.authorization (visitCrates.uuid 0) requestUri link (requestOf visitServer 0)) := by
    rw [run_append]
    exact answer_run hasked _
  exact ⟨n, jwt, hanswer, requestObject_reads canonicalBase64Url_visit.toBase64Url
    serdeJson_visit serdeOrder_visit injective_uuid_visit
    (correct_visit signerX signerY) hkey hstill rfl hanswer⟩

/-- A request object is fetched, and it is of the request. -/
theorem visit_request_served : ∃ (n : ℕ) (requestUri link jwt : String),
    ((run (service ℕ) (visitArrived (.requestObject (visitCrates.uuid 0)))
      (List.replicate n (.thread 0))).prog 0).answer =
        some (.authorization (visitCrates.uuid 0) requestUri link (requestOf visitServer 0)) ∧
    ((run (service ℕ) (visitArrived (.requestObject (visitCrates.uuid 0)))
      (List.replicate n (.thread 0) ++ [.thread 1])).prog 1).answer = some (.requestObject jwt) ∧
    readRequestObject visitCrates jwt visitServer.primaryKey = some (requestOf visitServer 0) := by
  obtain ⟨n, requestUri, link, hasked, -⟩ := visit_asked (.requestObject (visitCrates.uuid 0))
  have hturn : (.thread 1 : Event ℕ ℤ) ∈ [.thread 1] := List.mem_cons_self
  obtain ⟨-, -, jwt, hanswer, hread⟩ := request_served canonicalBase64Url_visit.toBase64Url
    urlEncoding_visit serdeJson_visit serdeOrder_visit injective_uuid_visit
    (correct_visit signerX signerY) (Table.key_signs (t := visitTable) signerX signerY) rfl
    (u := 1) hasked rfl (fun v _ => unnamed_visit v _) rfl (not_mem_asking 0 n) hturn
  exact ⟨n, requestUri, link, jwt, hasked, hanswer, hread⟩

/-- A response with this token, for the first request. -/
def visitResponse (token : String) : ServerRequest :=
  .response ⟨some (.str token), some (visitCrates.uuid 2)⟩

/-- A holder of a credential of the server, and its token for the first request. -/
lemma visit_held : ∃ (h : Held visitServer.toAppState (visitTable.key holderX holderY))
    (token : String), Nonempty (h.Token (requestOf visitServer 0).request.nonce
      (requestOf visitServer 0).request.clientId token) ∧
      h.chosen.map entryOf = Credential.demoClaims ∧ h.Good (seconds 1767225600) := by
  have hkey : visitServer.toAppState.primaryKey =
      (visitTable.key signerX signerY).toKeyPair visitCrates := rfl
  have hissuedAt : Representable (seconds 1767225600) := by decide
  obtain ⟨h, hchosen, hdraws, hissued⟩ := exists_held
    (Table.key_signs (t := visitTable) signerX signerY) hkey injective_sha256_visit
    (visitTable.key holderX holderY) "urn:eudi:pid:1" (visitDraws.credential 0) hissuedAt
  obtain ⟨token, htoken⟩ := h.exists_token (Table.key_signs (t := visitTable) holderX holderY)
    (requestOf visitServer 0).request.nonce (requestOf visitServer 0).request.clientId
  refine ⟨h, token, htoken, by rw [hchosen]; exact entryOf_disclosuresFor _ _, ?_⟩
  rw [Held.Good, hissued]
  exact ⟨le_rfl, by decide⟩

/-- **The holder is accepted**, and the verifier learns the name of the holder. -/
theorem visit_presented : ∃ (token : String) (n : ℕ) (claims : PMap String Json),
    ((run (service ℕ) (visitArrived (visitResponse token))
      (List.replicate n (.thread 0) ++ List.replicate 4 (.thread 1))).prog 1).answer =
        some (.verified (visitCrates.uuid 0) claims) ∧
    claims.get "family_name" = some (.str "Doe") := by
  obtain ⟨h, token, ⟨htoken⟩, hchosen, hgood⟩ := visit_held
  obtain ⟨n, requestUri, link, hasked, hclock⟩ := visit_asked (visitResponse token)
  have hno : ∀ (k m : ℕ) (i : ℤ), (.outside i : Event ℕ ℤ) ∉ List.replicate m (.thread k) := by
    simp [List.mem_replicate]
  have hsince : ClockIn (seconds 1767225600 ≤ ·) (run (service ℕ) (visitArrived (visitResponse token)) [])
      (List.replicate n (.thread 0)) := clockIn_still le_rfl (hno 0 n)
  have hafter : ClockIn (fun now => now ≤ seconds 1767225600 + seconds 600 ∧ h.Good now)
      (run (service ℕ) (visitArrived (visitResponse token)) ([] ++ List.replicate n (.thread 0)))
      (List.replicate 4 (.thread 1)) := by
    refine clockIn_still ?_ (hno 1 4)
    rw [List.nil_append, hclock]
    exact ⟨by decide, hgood⟩
  obtain ⟨claims, hanswer, hclaims⟩ := presentation_served canonicalBase64Url_visit.toBase64Url
    serdeJson_visit injective_uuid_visit (correct_visit signerX signerY)
    (correct_visit holderX holderY) rfl (v := 1) hasked List.not_mem_nil hsince rfl
    (fun u hu hmem => by
      rw [asking_of_mem hu hmem]
      rintro ⟨response, hof, -⟩
      cases hof)
    h (Held.shows_of_chosen hchosen (by decide)) htoken rfl (not_mem_asking 0 n)
    hafter (turns_replicate 1 4).ge
  refine ⟨token, n, claims, hanswer, (hclaims _ _).mpr ?_⟩
  rw [hchosen]
  simp [Credential.demoClaims]

/-- Three calls lead a response with a token that verifies to where its session is deleted. -/
lemma run_verified {pool : Pool θ ServerWorld ServerReply} {v : θ} {session : VerifierSession}
    {token : String} {claims : PMap String Json}
    (hprog : pool.prog v = receiveResponse app ⟨some (.str token), some session.state⟩)
    (hstored : Stored app session pool.shared) (hsep : '~' ∈ token.toList)
    (hverified : verifySdJwtVp X token app.primaryKey session.nonce session.request.clientId
      pool.shared.stores.issuer.clock = .ok claims)
    (halive : pool.shared.stores.issuer.clock ≤ session.expiresAt)
    (hquery : checkQuery session.request.dcqlQuery claims = .ok ()) :
    run (service θ) pool (List.replicate 3 (.thread v)) =
      ⟨pool.shared, Function.update pool.prog v (answering (accept session claims))⟩ := by
  obtain ⟨-, -, -, hget, hname⟩ := hstored
  have hfound : pool.shared.sessions.getSessionByState session.state = some session := by
    rw [InMemoryVerifierState.getSessionByState, hname, Option.bind_some, hget]
  have hexpires : ¬ session.expiresAt < pool.shared.stores.issuer.clock := Int.not_lt.mpr halive
  have hcontains : containsChar '~' token = true := by simpa [containsChar] using hsep
  have hconclude : conclude session (.ok claims) = accept session claims := by
    simp only [conclude, hquery]
  rw [receiveResponse_eq, processResponse] at hprog
  rw [List.replicate_succ, run_cons, step_thread, advance_of_read hprog rfl]
  simp only [Prog.through, VerifierWorld.getSessionByState, verifierView, hfound]
  rw [List.replicate_succ, run_cons, step_thread, advance_of_read (Function.update_self v _ _) rfl]
  simp only [Prog.through, VerifierWorld.readClock, verifierView, if_neg hexpires, verifyToken,
    hcontains, if_true, Function.update_idem]
  rw [List.replicate_succ, run_cons, step_thread, advance_of_read (Function.update_self v _ _) rfl]
  simp only [Prog.through, VerifierWorld.readClock, verifierView, hverified, hconclude,
    Function.update_idem]
  rfl

/-- Whoever has found the session is accepted, even if somebody else was before. -/
lemma run_twice {pool : Pool ℕ ServerWorld ServerReply} {session : VerifierSession}
    {token : String} {claims : PMap String Json}
    (hprog : ∀ v, v = 1 ∨ v = 2 →
      pool.prog v = receiveResponse app ⟨some (.str token), some session.state⟩)
    (hstored : Stored app session pool.shared) (hsep : '~' ∈ token.toList)
    (hverified : verifySdJwtVp X token app.primaryKey session.nonce session.request.clientId
      pool.shared.stores.issuer.clock = .ok claims)
    (halive : pool.shared.stores.issuer.clock ≤ session.expiresAt)
    (hquery : checkQuery session.request.dcqlQuery claims = .ok ()) :
    ∀ v, v = 1 ∨ v = 2 → ((run (service ℕ) pool
      (List.replicate 3 (.thread 1) ++ List.replicate 3 (.thread 2) ++ [.thread 1, .thread 2])).prog
        v).answer = some (.verified session.id claims) := by
  have hother : (2 : ℕ) ≠ 1 := by decide
  have hfirst := run_verified (hprog 1 (.inl rfl)) hstored hsep hverified halive hquery
  -- thread 2 has not begun: it finds the session as thread 1 did
  have hwaits : Function.update pool.prog 1 (answering (accept session claims)) 2 =
      receiveResponse app ⟨some (.str token), some session.state⟩ := by
    rw [Function.update_of_ne hother]
    exact hprog 2 (.inr rfl)
  have hsecond : run (service ℕ)
      ⟨pool.shared, Function.update pool.prog 1 (answering (accept session claims))⟩
      (List.replicate 3 (.thread 2)) =
        ⟨pool.shared, Function.update (Function.update pool.prog 1 (answering (accept session claims)))
          2 (answering (accept session claims))⟩ :=
    run_verified hwaits hstored hsep hverified halive hquery
  rw [run_append, run_append, hfirst, hsecond, run_cons, run_cons, run_nil, step_thread, step_thread]
  generalize hq : (⟨pool.shared, _⟩ : Pool ℕ ServerWorld ServerReply) = q
  -- the deletion is all that is left of both, and its result is not looked at
  have hdeletes : q.prog 1 = answering (accept session claims) := by
    rw [← hq]
    dsimp only
    rw [Function.update_of_ne hother.symm, Function.update_self]
  have hdeletes' : (q.advance 1).prog 2 = answering (accept session claims) := by
    rw [advance_prog_of_ne q hother, ← hq]
    dsimp only
    rw [Function.update_self]
  rintro v (rfl | rfl)
  · refine answer_advance 2 ?_
    rw [advance_prog_self hdeletes]
    rfl
  · rw [advance_prog_self hdeletes']
    rfl

/-- A token is accepted twice, for the same session: both responses find it before either has
deleted it. -/
theorem visit_twice : ∃ (token id id' : String) (events : List (Event ℕ ℤ)) (claims : PMap String Json),
    ((run (service ℕ) (visitArrived (visitResponse token)) events).prog 1).answer =
      some (.verified id claims) ∧
    ((run (service ℕ) (visitArrived (visitResponse token)) events).prog 2).answer =
      some (.verified id' claims) ∧ id = id' := by
  obtain ⟨h, token, ⟨htoken⟩, hchosen, hgood⟩ := visit_held
  obtain ⟨n, requestUri, link, hasked, hclock⟩ := visit_asked (visitResponse token)
  have hsince : ClockIn (seconds 1767225600 ≤ ·) (run (service ℕ) (visitArrived (visitResponse token)) [])
      (List.replicate n (.thread 0)) := clockIn_still le_rfl (by simp [List.mem_replicate])
  -- the request that was answered is the first that was made
  obtain ⟨-, hasked⟩ := asked_of_run injective_uuid_visit (fun _ => False) [] hasked List.not_mem_nil
    (fun u hu hmem => absurd (by simpa using List.eq_of_mem_replicate hmem) hu) hsince
  obtain ⟨k, session, now, hmade, -, hrequest, hnow, hexpires, hstored⟩ := hasked _ _ _ _ rfl
  obtain ⟨-, hstate, hnonce, hsession⟩ := hmade.fields
  have hsent : session.request = (requestOf visitServer 0).request := by
    rw [hrequest, hsession]
    rfl
  have hbound : session.nonce = (requestOf visitServer 0).request.nonce := by
    rw [hrequest, hnonce]
    rfl
  have hnamed : visitCrates.uuid 2 = session.state := by
    have hsame : some (visitCrates.uuid 2) = some (visitCrates.uuid (k + 2)) :=
      congrArg (fun r => r.request.state) hrequest
    rw [hstate, Option.some.inj hsame]
  obtain ⟨hsep, claims, hverified, hclaims⟩ := h.verifies canonicalBase64Url_visit.toBase64Url
    serdeJson_visit (correct_visit signerX signerY)
    (correct_visit holderX holderY) rfl htoken hgood
  have hprog : ∀ v, v = 1 ∨ v = 2 → (run (service ℕ) (visitArrived (visitResponse token))
      (List.replicate n (.thread 0))).prog v =
        receiveResponse visitServer ⟨some (.str token), some session.state⟩ := by
    rw [← hnamed]
    rintro v (rfl | rfl)
    · exact run_prog_of_not_mem (not_mem_asking 0 n)
    · exact run_prog_of_not_mem (not_mem_asking 1 n)
  have halive : seconds 1767225600 ≤ session.expiresAt := by
    have hpos : 0 ≤ seconds 600 := by decide
    omega
  -- both responses read the session before either deletes it
  have hanswers := run_twice hprog (hstored id) hsep (by rw [hclock, hbound, hsent]; exact hverified)
    (by rw [hclock]; exact halive)
    (by rw [hsent]; exact h.satisfies (Held.shows_of_chosen hchosen (by decide)) hclaims rfl)
  rw [← run_append] at hanswers
  have hfirst : visitRequests (visitResponse token) 1 =
      .response ⟨some (.str token), some (visitCrates.uuid 2)⟩ := rfl
  have hsecond : visitRequests (visitResponse token) 2 =
      .response ⟨some (.str token), some (visitCrates.uuid 2)⟩ := rfl
  exact ⟨token, _, _, _, claims, hanswers 1 (.inl rfl), hanswers 2 (.inr rfl),
    token_one_session injective_uuid_visit hsep hfirst hsecond (hanswers 1 (.inl rfl))
      (hanswers 2 (.inr rfl))⟩

end Sample

end Oid4vc.Presenting
