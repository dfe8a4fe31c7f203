import Oid4vc.Issuer.Attested
import Oid4vc.Server.Headers
import Oid4vc.Server.StoredSessions

/-!
The decisions on a `request_uri`.

An approval stores a code, and a code is never taken back: a `request_uri` that was approved is
spent. A denial stores nothing, so that the user is asked again, until the `request_uri` expires.
-/

namespace Oid4vc.Consent

open Oid4vc.Fallible Oid4vc.Run Oid4vc.PartialMap Oid4vc.Atomic Oid4vc.Instant Oid4vc.External
open Oid4vc.IssuerStore Oid4vc.Authorization Oid4vc.Authorize Oid4vc.Server Oid4vc.IssuerRoutes
open Oid4vc.Requests Oid4vc.Effects Oid4vc.StoredSessions

/-- A request, with the stores before it and its answer. -/
abbrev Event := Entry Stores Input (Option Reply)

/-- The reply answers a decision on this `request_uri`. -/
def Answers (e : Event) (uri : String) (reply : Reply) : Prop :=
  ∃ decision, e.input = .request (.decision decision) ∧ decision.requestUri = uri ∧
    e.answer = some reply

/-- A decision on this `request_uri` was answered with an authorization code. -/
def Yields (e : Event) (uri code : String) : Prop :=
  ∃ reply, Answers e uri reply ∧ Approved reply code

/-- A decision on this `request_uri` was answered with `access_denied`. -/
def Denies (e : Event) (uri : String) : Prop := ∃ reply, Answers e uri reply ∧ Denied reply

/-- A decision on this `request_uri` was accepted. -/
def Decides (e : Event) (uri : String) : Prop := (∃ code, Yields e uri code) ∨ Denies e uri

/-- A `request_uri` is spent once a decision on it is accepted. -/
structure SpentOnce (history : List Event) : Prop where
  once : history.Pairwise fun e e' => ∀ uri, Decides e uri → ¬ Decides e' uri
  denied : history.Pairwise fun e e' => ∀ uri, Denies e uri → ∀ code, ¬ Yields e' uri code
  oneCode : history.Pairwise fun e e' => ∀ uri code, Yields e uri code → ∀ code', ¬ Yields e' uri code'

/-- The decision comes from the client that pushed the request less than a minute ago, for which
there is no code, and whose `redirect_uri` is a URL. -/
def Undecided (X : Crates) (b : Stores) (decision : Decision) : Prop :=
  ∃ session, b.issuer.store.sessions.get decision.requestUri = some session ∧
    session.clientId = decision.clientId ∧
    numMilliseconds (b.issuer.clock - session.createdAt) < requestUriTtlSecs * 1000 ∧
    session.authorizationCode = none ∧ (X.urlParse session.redirectUri).isSome = true

/-- A denial, and a later decision on the same `request_uri`, which is still undecided. -/
def AskedAgain (X : Crates) (e e' : Event) : Prop :=
  ∃ decision decision' : Decision, e.input = .request (.decision decision) ∧
    decision.decision ≠ "approve" ∧ Undecided X e.before decision ∧
    e'.input = .request (.decision decision') ∧ decision'.requestUri = decision.requestUri ∧
    Undecided X e'.before decision'

variable {X : Crates} {app : AppState X} {b : Stores} {uri : String}

/-! ### One decision -/

lemma undecided_iff {decision : Decision} :
    Undecided X b decision ↔ ∃ session target, Resolves X decision b.issuer session target := by
  simp only [Undecided, Resolves, resolveRequestUri, InMemoryIssuerState.getAuthorizationSession,
    bind_eq_ok, okOr_eq_ok, ensure_eq_ok, exists_unit, pure_eq_ok, Option.some.injEq]
  constructor
  · rintro ⟨session, hget, hclient, hage, hcode, hurl⟩
    obtain ⟨target, htarget⟩ := Option.isSome_iff_exists.mp hurl
    refine ⟨session, target, ⟨_, rfl, session, hget, hclient.symm, ?_, ?_, rfl⟩, htarget⟩
    · exact Int.not_le.mpr hage
    · rw [hcode]
      exact Bool.false_ne_true
  · rintro ⟨session, target, ⟨_, rfl, found, hget, hclient, hage, hcode, rfl⟩, htarget⟩
    refine ⟨found, hget, hclient.symm, Int.not_le.mp hage, ?_, ?_⟩
    · exact Option.not_isSome_iff_eq_none.mp hcode
    · rw [htarget]
      rfl

/-- The session that is decided is the one under the `request_uri`, and its client decides. -/
lemma session_of_resolves {decision : Decision} {session : AuthorizationSession} {target : String}
    (h : Resolves X decision b.issuer session target) :
    b.issuer.store.sessions.get decision.requestUri = some session ∧
      session.clientId = decision.clientId := by
  simp only [Resolves, resolveRequestUri, InMemoryIssuerState.getAuthorizationSession,
    bind_eq_ok, okOr_eq_ok, ensure_eq_ok, exists_unit, pure_eq_ok, Option.some.injEq] at h
  obtain ⟨⟨_, rfl, found, hget, hclient, -, -, rfl⟩, -⟩ := h
  exact ⟨hget, hclient.symm⟩

lemma answers_entry {decision : Decision} {reply : Reply} :
    Answers (entry (server app) b (.request (.decision decision))) uri reply ↔
      decision.requestUri = uri ∧ ((authorizeDecision app decision).exec b).1 = reply := by
  constructor
  · rintro ⟨decision', hinput, huri, hanswer⟩
    obtain rfl : decision = decision' := by simpa [entry] using hinput
    exact ⟨huri, by simpa [entry, handle] using hanswer⟩
  · rintro ⟨huri, hreply⟩
    refine ⟨decision, rfl, huri, ?_⟩
    rw [← hreply]
    rfl

/-- Who may decide is answered with a decision. -/
lemma answered_of_undecided (hkeyed : Keyed X b) {decision : Decision}
    (h : Undecided X b decision) :
    (∃ code, Approved ((authorizeDecision app decision).exec b).1 code) ∨
      Denied ((authorizeDecision app decision).exec b).1 := by
  obtain ⟨session, target, hresolves⟩ := undecided_iff.mp h
  obtain ⟨hstored, -⟩ := session_of_resolves hresolves
  obtain ⟨hnamed, -⟩ := hkeyed _ _ hstored
  rw [authorizeDecision, Prog.exec_call]
  simp only [onIssuer, Prog.through, hresolves.1, recordChoice, hresolves.2]
  split_ifs with hdecision
  · left
    rw [← hnamed] at hstored
    rcases generateAuthorizationCode_cases (X := X) session.requestUri b.issuer with
      ⟨hnone, -⟩ | ⟨stored, -, heq⟩
    · rw [hnone] at hstored
      cases hstored
    · have hcode : (generateAuthorizationCode X session.requestUri b.issuer).1 =
          .ok (X.uuid b.issuer.drawn) := by rw [heq]
      simp only [Prog.exec_call, Prog.through, hcode, Prog.exec_ret]
      exact ⟨_, target, _, rfl⟩
  · right
    exact ⟨target, _, rfl⟩

/-- **A decision is accepted** just if it can be made. -/
lemma decides_iff (hkeyed : Keyed X b) {i : Input} : Decides (entry (server app) b i) uri ↔
    ∃ decision, i = .request (.decision decision) ∧ decision.requestUri = uri ∧
      Undecided X b decision := by
  constructor
  · intro h
    obtain ⟨decision, hinput, reply, hanswers, hreply⟩ : ∃ decision,
        i = .request (.decision decision) ∧ ∃ reply, Answers (entry (server app) b i) uri reply ∧
          ((∃ code, Approved reply code) ∨ Denied reply) := by
      rcases h with ⟨code, reply, hanswers, happroved⟩ | ⟨reply, hanswers, hdenied⟩
      · obtain ⟨decision, hinput, -⟩ := id hanswers
        exact ⟨decision, hinput, reply, hanswers, Or.inl ⟨code, happroved⟩⟩
      · obtain ⟨decision, hinput, -⟩ := id hanswers
        exact ⟨decision, hinput, reply, hanswers, Or.inr hdenied⟩
    subst hinput
    obtain ⟨huri, rfl⟩ := answers_entry.mp hanswers
    refine ⟨decision, rfl, huri, undecided_iff.mpr ?_⟩
    have hout := @authorizeDecision_exec X app b decision
    generalize (authorizeDecision app decision).exec b = after at hout hreply
    obtain ⟨reply, b'⟩ := after
    cases hout with
    | refused happroved hdenied _ =>
      rcases hreply with ⟨code, hcode⟩ | hdenied'
      · exact absurd hcode (happroved code)
      · exact absurd hdenied' hdenied
    | denied session target hresolves _ _ _ => exact ⟨session, target, hresolves⟩
    | approved session stored target hresolves _ _ _ _ => exact ⟨session, target, hresolves⟩
  · rintro ⟨decision, rfl, huri, hundecided⟩
    have hanswers := (@answers_entry X app b uri decision _).mpr ⟨huri, rfl⟩
    rcases @answered_of_undecided X app b hkeyed decision hundecided with ⟨code, hcode⟩ | hdenied
    · exact Or.inl ⟨code, _, hanswers, hcode⟩
    · exact Or.inr ⟨_, hanswers, hdenied⟩

/-- An approval that is accepted leaves a code. -/
lemma decided_of_approve (hkeyed : Keyed X b) {decision : Decision} (h : Undecided X b decision)
    (hdecision : decision.decision = "approve") :
    Decided ((server app).step b (.request (.decision decision))).1 decision.requestUri := by
  obtain ⟨session, target, hresolves⟩ := undecided_iff.mp h
  obtain ⟨hstored, -⟩ := session_of_resolves hresolves
  obtain ⟨hnamed, -⟩ := hkeyed _ _ hstored
  rw [step_request]
  simp only [handle, authorizeDecision, Prog.exec_call, onIssuer, Prog.through, hresolves.1,
    recordChoice, hresolves.2, if_pos hdecision]
  rw [← hnamed] at hstored ⊢
  rcases generateAuthorizationCode_cases (X := X) session.requestUri b.issuer with
    ⟨hnone, -⟩ | ⟨stored, -, heq⟩
  · rw [hnone] at hstored
    cases hstored
  · rw [heq]
    exact ⟨_, get_insert_self _ _ _, rfl⟩

lemma step_of_denied {decision : Decision} (h : Undecided X b decision)
    (hdecision : decision.decision ≠ "approve") :
    ((server app).step b (.request (.decision decision))).1 = b := by
  obtain ⟨session, target, hresolves⟩ := undecided_iff.mp h
  rw [step_request]
  simp only [handle, authorizeDecision, Prog.exec_call, onIssuer, Prog.through, hresolves.1,
    recordChoice, hresolves.2, if_neg hdecision, Prog.exec_ret]

lemma not_undecided {decision : Decision} (h : Decided b decision.requestUri) :
    ¬ Undecided X b decision := by
  rintro ⟨session, hget, -, -, hnone, -⟩
  obtain ⟨session', hget', hsome⟩ := h
  rw [hget, Option.some.injEq] at hget'
  rw [← hget', hnone] at hsome
  cases hsome

/-! ### Runs -/

lemma Decides.of_yields {e : Event} {code : String} (h : Yields e uri code) : Decides e uri :=
  Or.inl ⟨code, h⟩

lemma spentOnce_of_once {history : List Event}
    (h : history.Pairwise fun e e' => ∀ uri, Decides e uri → ¬ Decides e' uri) :
    SpentOnce history where
  once := h
  denied := h.imp fun hpair uri hdenied _ hyields =>
    hpair uri (Or.inr hdenied) (.of_yields hyields)
  oneCode := h.imp fun hpair uri _ hyields _ hyields' =>
    hpair uri (.of_yields hyields) (.of_yields hyields')

/-- After an approval, no decision on the `request_uri` is accepted. -/
lemma not_decides_of_approve (huuid : Function.Injective X.uuid) (hkeyed : Keyed X b)
    {decision : Decision} (h : Undecided X b decision) (hdecision : decision.decision = "approve")
    (is : List Input) (i : Input) :
    ¬ Decides (entry (server app) (run (server app) b (.request (.decision decision) :: is)) i)
      decision.requestUri := by
  rw [run_cons]
  have hmoves := @step_moves X app b huuid hkeyed (.request (.decision decision))
  have hdecided := @run_decided X app _ _ huuid (hmoves.keyed hkeyed)
    (decided_of_approve hkeyed h hdecision) is
  have hkeyed' : Keyed X (run (server app) ((server app).step b (.request (.decision decision))).1
      is) := by
    exact @run_inv Stores Input (Option Reply) (server app) (fun _ _ => True) (Keyed X)
      (fun _ i h _ => (step_moves huuid h i).keyed h) _ is (hmoves.keyed hkeyed) (every_true _ _)
  rw [decides_iff hkeyed']
  rintro ⟨decision', -, hsame, hundecided⟩
  exact not_undecided (by rwa [hsame]) hundecided

/-- **One code for a `request_uri`.** In no run does a `request_uri` yield two codes, and after it
has yielded one it is not denied. -/
theorem yields_final (X : Crates) (huuid : Function.Injective X.uuid) (app : AppState X) (clock : ℤ)
    (is : List Input) : (log (server app) (freshStores app clock) is).Pairwise fun e e' =>
      ∀ uri code, Yields e uri code → ¬ Decides e' uri := by
  rw [pairwise_log_iff]
  rintro as i bs j cs - uri code ⟨reply, hanswers, happroved⟩
  have hkeyed := @run_keyed X app huuid clock as
  obtain ⟨decision, rfl, rfl, hundecided⟩ :=
    (decides_iff hkeyed).mp (.of_yields ⟨reply, hanswers, happroved⟩)
  refine not_decides_of_approve huuid hkeyed hundecided ?_ bs j
  -- what was answered with a code is an approval
  obtain ⟨-, rfl⟩ := answers_entry.mp hanswers
  have hout := @authorizeDecision_exec X app (run (server app) (freshStores app clock) as) decision
  generalize (authorizeDecision app decision).exec _ = after at hout happroved
  obtain ⟨reply, b'⟩ := after
  cases hout with
  | refused hnot _ _ => exact absurd happroved (hnot code)
  | denied session target _ _ _ hnot => exact absurd happroved (hnot code)
  | approved session stored target _ hdecision _ _ _ => exact hdecision

/-- **Decisions.** A `request_uri` is spent by the first decision that is accepted, unless a denial
is followed by another decision on it while it is undecided.

Each request is one step here: two approvals that both look the session up before either stores its
code are both answered with one. -/
theorem spentOnce_iff (X : Crates) (huuid : Function.Injective X.uuid) (app : AppState X) (clock : ℤ)
    (is : List Input) : SpentOnce (log (server app) (freshStores app clock) is) ↔
      (log (server app) (freshStores app clock) is).Pairwise fun e e' => ¬ AskedAgain X e e' := by
  constructor
  · intro h
    refine pairwise_log_iff.mpr fun as i bs j cs his => ?_
    rintro ⟨decision, decision', hi, hdecision, hundecided, hj, hsame, hundecided'⟩
    have hkeyed := @run_keyed X app huuid clock as
    have hkeyed' := @run_keyed X app huuid clock (as ++ i :: bs)
    rw [run_append, run_cons] at hkeyed'
    exact pairwise_log_iff.mp h.once as i bs j cs his decision.requestUri
      ((decides_iff hkeyed).mpr ⟨decision, hi, rfl, hundecided⟩)
      ((decides_iff hkeyed').mpr ⟨decision', hj, hsame, hundecided'⟩)
  · intro h
    refine spentOnce_of_once (pairwise_log_iff.mpr fun as i bs j cs his uri hfirst hsecond => ?_)
    have hkeyed := @run_keyed X app huuid clock as
    have hkeyed' := @run_keyed X app huuid clock (as ++ i :: bs)
    rw [run_append, run_cons] at hkeyed'
    obtain ⟨decision, rfl, rfl, hundecided⟩ := (decides_iff hkeyed).mp hfirst
    by_cases hdecision : decision.decision = "approve"
    · exact not_decides_of_approve huuid hkeyed hundecided hdecision bs j hsecond
    · obtain ⟨decision', rfl, hsame, hundecided'⟩ := (decides_iff hkeyed').mp hsecond
      exact pairwise_log_iff.mp h as _ bs _ cs his
        ⟨decision, decision', rfl, hdecision, hundecided, rfl, hsame, hundecided'⟩

/-! ### A user with second thoughts -/

/-- What the user says. -/
def choice (uri clientId decision : String) : Input := .request (.decision ⟨uri, clientId, decision⟩)

lemma not_spentOnce {i : Input} {clientId : String} (hkeyed : Keyed X ((server app).step b i).1)
    (h : ∀ decision, Undecided X ((server app).step b i).1 ⟨uri, clientId, decision⟩) :
    ¬ SpentOnce (log (server app) b [i, choice uri clientId "deny", choice uri clientId "approve"]) := by
  intro hspent
  have hpair := pairwise_log_iff.mp hspent.once [i] (choice uri clientId "deny") []
    (choice uri clientId "approve") [] rfl uri
  rw [run_cons, run_nil, run_nil] at hpair
  have hno : "deny" ≠ "approve" := by decide
  have hstays : ((server app).step ((server app).step b i).1 (choice uri clientId "deny")).1 =
      ((server app).step b i).1 := step_of_denied (h "deny") hno
  rw [hstays] at hpair
  exact hpair ((decides_iff hkeyed).mpr ⟨_, rfl, rfl, h "deny"⟩)
    ((decides_iff hkeyed).mpr ⟨_, rfl, rfl, h "approve"⟩)

lemma undecided_of_get {session : AuthorizationSession} {clientId decision : String}
    (hget : b.issuer.store.sessions.get uri = some session) (hclient : session.clientId = clientId)
    (hclock : b.issuer.clock = session.createdAt) (hcode : session.authorizationCode = none)
    (hurl : (X.urlParse session.redirectUri).isSome = true) :
    Undecided X b ⟨uri, clientId, decision⟩ := by
  refine ⟨session, hget, hclient, ?_, hcode, hurl⟩
  rw [hclock, Int.sub_self]
  decide

lemma exists_decides {i : Input} {clientId decision : String} {is : List Input}
    (hkeyed : Keyed X ((server app).step b i).1)
    (h : ∀ decision, Undecided X ((server app).step b i).1 ⟨uri, clientId, decision⟩) :
    ∃ e ∈ log (server app) b (i :: choice uri clientId decision :: is), Decides e uri := by
  refine ⟨_, List.mem_cons_of_mem _ List.mem_cons_self, ?_⟩
  exact (decides_iff hkeyed).mpr ⟨_, rfl, rfl, h decision⟩

section Sample

open Oid4vc.Text Oid4vc.Codecs Oid4vc.Jwks Oid4vc.Keys Oid4vc.Jws Oid4vc.X509 Oid4vc.Oid4vci
open Oid4vc.ClientAttestation Oid4vc.Tables Oid4vc.Wallet Oid4vc.Redemption Oid4vc.Tokens Oid4vc.Attested

def consentCrates : Crates :=
  { walletCrates with
    certificateFromDer := (pki [] [] [] []).crates.certificateFromDer
    urlParse := some
    uuid := codeCrates.uuid }

lemma parses_consentCrates :
    consentCrates.certificateFromDer signerDer = .ok signerCertificate := by
  have hfrom : consentCrates.certificateFromDer = (pki [] [] [] []).crates.certificateFromDer := rfl
  rw [hfrom]
  exact certificateFromDer_signer rfl

def consentSigner : IssuerCertificate consentCrates :=
  ⟨signerDer, signerCertificate, parses_consentCrates⟩

def consentApp : AppState consentCrates where
  metadata := oneConfiguration
  primaryKey := attester.toKeyPair consentCrates
  leaf := consentSigner
  mdocSigner := consentSigner
  externalUrl := "https://issuer.example.com"
  issuerId := "https://issuer.example.com"
  adminToken := "5c6ffbdd40d9556b73a21e63c3e0e904"
  clientAttesters := [attesterJwk]

/-- The headers of a client that is attested. -/
def consentHeaders : Headers :=
  [("oauth-client-attestation", utf8 (attestationOf (holderJwk walletX walletY none))),
    ("oauth-client-attestation-pop", utf8 (popOf p256Wallet))]

def consentRequest : PushedAuthorizationRequest := { parRequest with clientId := "wallet-client" }

def push : Input := .request (.par consentHeaders consentRequest)

def consentUri : String := "urn:ietf:params:oauth:request_uri:" ++ codeCrates.uuid 0

def consentStores : Stores := freshStores consentApp (seconds 1767225600)

lemma verifyClientAttestation_consent : @verifyClientAttestation consentCrates =
    verifyClientAttestation walletCrates := by
  have hdecode : decodeCompact consentCrates = decodeCompact walletCrates := rfl
  have hverify : verifyWithJwk consentCrates = verifyWithJwk walletCrates := rfl
  have hslice : consentCrates.jsonFromSlice = walletCrates.jsonFromSlice := rfl
  have hpublic : verifyWithPublicJwk consentCrates = verifyWithPublicJwk walletCrates := by
    funext jws jwk
    rw [verifyWithPublicJwk, verifyWithPublicJwk, hdecode, hverify]
  have htrusted : signedByTrusted consentCrates = signedByTrusted walletCrates := by
    funext attestation kid attesters
    rw [signedByTrusted, signedByTrusted, hpublic]
  have hattestation : checkAttestation consentCrates = checkAttestation walletCrates := by
    funext now attestation attesters
    rw [checkAttestation, checkAttestation, hdecode, htrusted, hslice]
  have hpop : checkPop consentCrates = checkPop walletCrates := by
    funext now pop client audience
    rw [checkPop, checkPop, hpublic, hslice]
  funext now recordedAt attestation pop attesters audience s
  rw [verifyClientAttestation, verifyClientAttestation, checkClientAttestation,
    checkClientAttestation, hattestation, hpop]

lemma attested_consent : ∃ s', verifyClientAttestation consentCrates (seconds 1767225600)
    (seconds 1767225600) (attestationOf (holderJwk walletX walletY none)) (popOf p256Wallet)
    [attesterJwk] "https://issuer.example.com" InMemoryIssuerState.new =
      (.ok ⟨"wallet-client", holderJwk walletX walletY none⟩, s') := by
  rw [verifyClientAttestation_consent]
  exact verifyClientAttestation_sample (key_correct_wallet walletX walletY)
    (Table.key_signs (t := attestationTable) walletX walletY) rfl
    (holderJwk_publicMembers (X := walletCrates) (t := attestationTable) rfl walletX walletY none)

lemma headerValues_consent : HeaderValues consentCrates := ⟨headerValues_codecs.toStr⟩

lemma headers_consent :
    headerText consentCrates consentHeaders "oauth-client-attestation" =
      some (attestationOf (holderJwk walletX walletY none)) ∧
    headerText consentCrates consentHeaders "oauth-client-attestation-pop" = some (popOf p256Wallet) ∧
    getAll consentHeaders "dpop" = [] := by
  have hencode : walletCrates.base64UrlEncode = Base64.encode '-' '_' := rfl
  refine ⟨?_, ?_, ?_⟩
  · exact headerText_signJwt headerValues_consent hencode attester attestationHeader _
      (by simp [getAll, consentHeaders, attestationOf])
  · exact headerText_signJwt headerValues_consent hencode p256Wallet _ popClaims
      (by simp [getAll, consentHeaders, popOf])
  · simp [getAll, consentHeaders]

/-- The request was pushed: there is a session for it, which nobody has decided. -/
lemma session_pushed : ∃ session,
    ((server consentApp).step consentStores push).1.issuer.clock = seconds 1767225600 ∧
      ((server consentApp).step consentStores push).1.issuer.store.sessions.get consentUri =
        some session ∧
      session.clientId = "wallet-client" ∧ session.createdAt = seconds 1767225600 ∧
      session.authorizationCode = none := by
  obtain ⟨s', hattested⟩ := attested_consent
  obtain ⟨hattestation, hpop, hproof⟩ := headers_consent
  have hclient := @exec_attestedClient consentCrates consentApp consentHeaders consentStores _ _ _ _
    hattestation hpop hattested
  have hcheck : checkPar consentRequest ⟨"wallet-client", none⟩ consentApp.metadata =
      .ok (none, ["IdentityCredential_SD_JWT_VC"], true) := rfl
  rw [push, step_request, handle, exec_parEndpoint hclient (exec_dpopJkt_none hproof) hcheck]
  exact ⟨_, rfl, get_insert_self _ _ _, rfl, rfl, rfl⟩

lemma urlParse_consent (url : String) : (consentCrates.urlParse url).isSome = true := rfl

lemma undecided_pushed (decision : String) :
    Undecided consentCrates ((server consentApp).step consentStores push).1
      ⟨consentUri, "wallet-client", decision⟩ := by
  obtain ⟨session, hclock, hget, hclient, hcreated, hcode⟩ := session_pushed
  exact undecided_of_get hget hclient (by rw [hclock, hcreated]) hcode (urlParse_consent _)

lemma injective_consent : Function.Injective consentCrates.uuid := codeCrates_uuid_injective

lemma keyed_pushed : Keyed consentCrates ((server consentApp).step consentStores push).1 := by
  have hfresh : Keyed consentCrates consentStores :=
    @keyed_fresh consentCrates consentApp (seconds 1767225600)
  exact (@step_moves consentCrates consentApp consentStores injective_consent hfresh push).keyed hfresh

/-- A user who says no, and yes a moment later, sends the client away with `access_denied` and then
with a code. -/
theorem denied_then_approved : ¬ SpentOnce (log (server consentApp) consentStores
    [push, choice consentUri "wallet-client" "deny",
      choice consentUri "wallet-client" "approve"]) :=
  not_spentOnce keyed_pushed undecided_pushed

/-- A user who says yes may say no after it: the first decision stands. -/
theorem approved_stands :
    (∃ e ∈ log (server consentApp) (freshStores consentApp (seconds 1767225600))
      [push, choice consentUri "wallet-client" "approve", choice consentUri "wallet-client" "deny"],
        Decides e consentUri) ∧
    SpentOnce (log (server consentApp) (freshStores consentApp (seconds 1767225600))
      [push, choice consentUri "wallet-client" "approve",
        choice consentUri "wallet-client" "deny"]) := by
  constructor
  · exact exists_decides keyed_pushed undecided_pushed
  · refine (spentOnce_iff consentCrates injective_consent consentApp (seconds 1767225600) _).mpr ?_
    -- nobody says no before the last request
    refine List.pairwise_cons.mpr ⟨?_, List.pairwise_cons.mpr ⟨?_, List.pairwise_singleton _ _⟩⟩
    · rintro e' - ⟨decision, decision', hinput, -⟩
      cases hinput
    · rintro e' - ⟨decision, decision', hinput, hdecision, -⟩
      cases hinput
      exact hdecision rfl

end Sample

end Oid4vc.Consent
