import Oid4vc.Server.Honest
import Oid4vc.Verifier.Holding
import Oid4vc.Verifier.KeyBound
import Oid4vc.Verifier.Paths

/-!
Whether the presented credential is the one that was asked for.

A credential query names a format and may name a type. The verifier takes the format from
the shape of the token and compares neither with the query: what it asks of a credential is
that its claims have the right names and values. So a query that can be answered is answered
by credentials of either format, and by SD-JWT VCs of any type.
-/

namespace Oid4vc.AskedFor

open Oid4vc.JsonValue Oid4vc.Text Oid4vc.Instant Oid4vc.Fallible Oid4vc.PartialMap Oid4vc.External
open Oid4vc.Codecs Oid4vc.Keys Oid4vc.Jws Oid4vc.Credentials Oid4vc.SdJwt Oid4vc.Disclosures
open Oid4vc.Selective Oid4vc.KeyBinding Oid4vc.Oid4vp Oid4vc.VerifierState Oid4vc.Dcql
open Oid4vc.Paths Oid4vc.Response Oid4vc.KeyBound Oid4vc.Holding Oid4vc.Atomic

/-- The format of a presented token: a separator makes it an SD-JWT VC. -/
def presentedFormat (token : String) : CredentialFormat :=
  if '~' ∈ token.toList then .sdJwtVc else .jwtVc

variable (X : Crates)

/-- The type that the issuer signed. -/
def signedVct (token : String) : Option String :=
  (credentialPayload X token).bind fun payload => (payload.get "vct").bind Json.asStr

/-- The token is of the format and of the type that the query names. -/
structure Fits (query : CredentialQuery) (token : String) : Prop where
  format : query.format = (presentedFormat token).asStr
  vct : ∀ vct, query.vct = some vct → signedVct X token = some vct

/-- Whenever the response is accepted, its token fits every credential query of the session
it is accepted for. -/
def AcceptsWhatWasAsked (response : AuthorizationResponse) (issuerKey : KeyPair)
    (w : VerifierWorld) : Prop :=
  ∀ result, ((processResponse X response issuerKey).exec w).1 = .ok result →
    ∃ session token, LiveSession response w session ∧ result.sessionId = session.id ∧
      response.vpToken = some (.str token) ∧
      ∀ query, session.request.dcqlQuery = some query →
        ∀ q ∈ query.credentials, Fits X q token

/-- The live session that a response with this state is for. -/
def sessionFor (state : Option String) (w : VerifierWorld) : Option VerifierSession :=
  (state.bind w.store.getSessionByState).filter fun session => w.clock ≤ session.expiresAt

/-- The query can be answered: for every name that some of its paths begin with, there is a
value that all the claim queries on that name want. -/
def Answerable (query : DcqlQuery) : Prop :=
  ∀ name, ∃ value, ∀ q ∈ query.credentials, ∀ c ∈ q.claims.getD [], c.path.head? = some name →
    Wanted c.values value

/-- The query asks nothing of an SD-JWT VC but its claims. -/
def OnlyAsksForClaims (query : DcqlQuery) : Prop :=
  ∀ q ∈ query.credentials, q.format = CredentialFormat.sdJwtVc.asStr ∧ q.vct = none

/-- The values asked for are JSON values as they are kept. -/
def ProperValues (query : DcqlQuery) : Prop :=
  ∀ q ∈ query.credentials, ∀ c ∈ q.claims.getD [], ∀ expected, c.values = some expected →
    ∀ v ∈ expected, v.Proper

variable {X} {issuer : SigningKey} {state : Option String} {w : VerifierWorld} {query : DcqlQuery}

lemma liveSession_iff {response : AuthorizationResponse} {session : VerifierSession} :
    LiveSession response w session ↔ session ∈ sessionFor response.state w := by
  simp only [sessionFor, Option.mem_def, Option.filter_eq_some_iff, Option.bind_eq_some_iff,
    decide_eq_true_eq]
  exact ⟨fun h => ⟨h.found, h.alive⟩, fun h => ⟨h.1, h.2⟩⟩

lemma LiveSession.unique {response : AuthorizationResponse} {w : VerifierWorld}
    {session session' : VerifierSession} (h : LiveSession response w session)
    (h' : LiveSession response w session') : session = session' := by
  obtain ⟨⟨state, hstate, hfound⟩, -⟩ := h
  obtain ⟨⟨state', hstate', hfound'⟩, -⟩ := h'
  rw [hstate, Option.some.injEq] at hstate'
  rw [← hstate', hfound, Option.some.injEq] at hfound'
  exact hfound'

lemma checkQuery_eq_ok {query : Option DcqlQuery} {claims : PMap String Json} :
    checkQuery query claims = .ok () ↔
      ∀ dcql, query = some dcql →
        ∀ q ∈ dcql.credentials, evaluateCredentialQuery q claims = true := by
  cases query with
  | none => simp [checkQuery]
  | some dcql => simp [checkQuery, checkQueries_eq_ok]

/-- Claims that satisfy the query have the token accepted, and so it is what was asked for. -/
lemma fits_of_satisfied {token : String} {issuerKey : KeyPair} {session : VerifierSession}
    {claims : PMap String Json}
    (h : AcceptsWhatWasAsked X ⟨some (.str token), state⟩ issuerKey w)
    (hsession : session ∈ sessionFor state w) (hquery : query ∈ session.request.dcqlQuery)
    (hver : Verified (X := X) issuerKey session token w.clock claims)
    (hsatisfied : ∀ q ∈ query.credentials, evaluateCredentialQuery q claims = true) :
    ∀ q ∈ query.credentials, Fits X q token := by
  have hcheck : checkQuery session.request.dcqlQuery claims = .ok () := by
    refine checkQuery_eq_ok.mpr fun dcql hdcql => ?_
    obtain rfl := Option.some.inj (hquery.symm.trans hdcql)
    exact hsatisfied
  obtain ⟨session', token', hlive', -, htoken', hall⟩ := h ⟨session.id, claims⟩
    (processResponse_ok_iff.mpr
      ⟨session, token, claims, liveSession_iff.mpr hsession, rfl, hver, hcheck, rfl⟩)
  obtain rfl := LiveSession.unique (liveSession_iff.mpr hsession) hlive'
  obtain rfl : token = token' := by simpa using htoken'
  exact hall query hquery

/-- **What the evaluator reads of a query**: the first elements of the paths, and the values
asked for. -/
lemma evaluateCredentialQuery_iff {q : CredentialQuery} {claims : PMap String Json} :
    evaluateCredentialQuery q claims = true ↔
      ∀ c ∈ q.claims.getD [], ∀ name, c.path.head? = some name →
        ∃ value, claims.get name = some value ∧ Wanted c.values value := by
  unfold evaluateCredentialQuery
  cases q.claims with
  | none => simp
  | some cs =>
    rw [List.all_eq_true, Option.getD_some]
    refine forall₂_congr fun c _ => ?_
    cases hpath : c.path with
    | nil => simp [evaluateClaimQuery, hpath]
    | cons first rest => simp [evaluateClaimQuery_cons hpath]

lemma answerable_of_claims {claims : PMap String Json}
    (h : ∀ q ∈ query.credentials, evaluateCredentialQuery q claims = true) : Answerable query := by
  intro name
  refine ⟨(claims.get name).getD .null, fun q hq c hc hname => ?_⟩
  obtain ⟨value, hvalue, hwanted⟩ := evaluateCredentialQuery_iff.mp (h q hq) c hc name hname
  rwa [hvalue]

lemma exists_properAnswer (h : Answerable query) (hvalues : ProperValues query) (name : String) :
    ∃ value : Json, value.Proper ∧ ∀ q ∈ query.credentials, ∀ c ∈ q.claims.getD [],
      c.path.head? = some name → Wanted c.values value := by
  obtain ⟨answer, hanswer⟩ := h name
  by_cases hasked : ∃ q ∈ query.credentials, ∃ c ∈ q.claims.getD [], c.path.head? = some name ∧
      ∃ expected, c.values = some expected
  · obtain ⟨q, hq, c, hc, hname, expected, hexpected⟩ := hasked
    obtain ⟨v, hv, hbeq⟩ := hanswer q hq c hc hname expected hexpected
    refine ⟨v, hvalues q hq c hc expected hexpected v hv, fun q' hq' c' hc' hname' es hes => ?_⟩
    obtain ⟨v', hv', hbeq'⟩ := hanswer q' hq' c' hc' hname' es hes
    exact ⟨v', hv', Json.beq_trans hbeq' (by rw [Json.beq_comm]; exact hbeq)⟩
  · refine ⟨.null, trivial, fun q hq c hc hname expected hexpected => ?_⟩
    exact absurd ⟨q, hq, c, hc, hname, expected, hexpected⟩ hasked

/-- Only a query that can be answered has a token accepted. -/
lemma acceptsWhatWasAsked_of {vpToken : Option Json} {issuerKey : KeyPair}
    (h : ∀ session ∈ sessionFor state w, ∀ query ∈ session.request.dcqlQuery, Answerable query →
      ∀ token, vpToken = some (.str token) → ∀ q ∈ query.credentials, Fits X q token) :
    AcceptsWhatWasAsked X ⟨vpToken, state⟩ issuerKey w := by
  intro result hok
  obtain ⟨session, token, claims, hlive, htoken, -, hcheck, rfl⟩ := processResponse_ok_iff.mp hok
  refine ⟨session, token, hlive, rfl, htoken, fun query hquery => ?_⟩
  have hanswerable := answerable_of_claims (checkQuery_eq_ok.mp hcheck query hquery)
  exact h session (liveSession_iff.mp hlive) query hquery hanswerable token htoken

/-- The names that the paths of a query begin with. -/
def askedNames (query : DcqlQuery) : List String :=
  (query.credentials.flatMap fun q => (q.claims.getD []).filterMap fun c => c.path.head?).dedup

/-- A query that can be answered is satisfied by finitely many claims of distinct names. -/
lemma exists_answer (h : Answerable query) (hvalues : ProperValues query) :
    ∃ entries : List (String × Json), (entries.map Prod.fst).Nodup ∧ Json.ProperMembers entries ∧
      ∀ claims : PMap String Json, (∀ e ∈ entries, claims.get e.1 = some e.2) →
        ∀ q ∈ query.credentials, evaluateCredentialQuery q claims = true := by
  choose value hproper hwanted using exists_properAnswer h hvalues
  refine ⟨(askedNames query).map fun name => (name, value name), ?_, ?_, fun claims hget q hq => ?_⟩
  · rw [List.map_map]
    exact (List.map_id _).symm ▸ List.nodup_dedup _
  · rw [Json.properMembers_iff]
    intro e he
    obtain ⟨name, -, rfl⟩ := List.mem_map.mp he
    exact hproper name
  · rw [evaluateCredentialQuery_iff]
    intro c hc name hname
    refine ⟨value name, hget (name, value name) (List.mem_map_of_mem ?_),
      hwanted name q hq c hc hname⟩
    rw [askedNames, List.mem_dedup, List.mem_flatMap]
    exact ⟨q, hq, List.mem_filterMap.mpr ⟨c, hc, hname⟩⟩

/-- Whoever signs as the issuer has a plain token with these claims. -/
lemma exists_plainToken (hb64 : Base64Url X) (hserde : SerdeJson X) (hissuer : issuer.Correct X)
    (hsigns : issuer.Signs) {entries : List (String × Json)} (hnodup : (entries.map Prod.fst).Nodup)
    (hproper : Json.ProperMembers entries) : ∃ token claims, '~' ∉ token.toList ∧
      verifyJwtVp X token (issuer.toKeyPair X) = .ok claims ∧
      ∀ e ∈ entries, claims.get e.1 = some e.2 := by
  obtain ⟨token, hsign⟩ := signCompact_total (X := X) (SigningKey.sign_total hsigns)
    (buildHeader (issuer.toKeyPair X) none) (.obj entries)
  obtain ⟨signature, signingInput, hdec, hsig, hsep, -⟩ :=
    decodeCompact_signCompact hb64 hserde hsign
  obtain ⟨sorted, hperm, hread⟩ := hserde.object entries hnodup hproper
  have hver := verifyCompact_eq_ok.mpr ⟨hdec, SigningKey.verify_of_sign hissuer hsig⟩
  refine ⟨token, empty.insertAll sorted, hsep, ?_, fun e he => ?_⟩
  · simp only [verifyJwtVp, bind_eq_ok, mapError_eq_ok]
    exact ⟨_, hver, _, hread, rfl⟩
  · exact get_insertAll_of_mem ((hperm.map Prod.fst).nodup_iff.mpr hnodup) (hperm.mem_iff.mpr he)

/-- The type that is signed is the one in the payload that the checks are about. -/
lemma signedVct_of_checked {token vct : String} {issuerKey : KeyPair} {now : ℤ} {payload : Json}
    {ds : List Disclosure} (h : Checked X token issuerKey now payload ds)
    (hvct : payload.get "vct" = some (.str vct)) : signedVct X token = some vct := by
  obtain ⟨v, decoded, hparse, hverified, hpayload, -⟩ := h.signed
  have hdec := (verifyCompact_eq_ok.mp hverified).1
  have hcredential : credentialPayload X token = some payload := by
    simp [credentialPayload, (parse_issuerJwt hparse).1, hdec, hpayload, Except.toOption]
  simp [signedVct, hcredential, hvct]

/-- Whoever signs as the issuer has an SD-JWT VC of any type that discloses these claims, bound to
any nonce and audience. -/
lemma exists_sdJwt (hb64 : Base64Url X) (hserde : SerdeJson X) (hsha : Function.Injective X.sha256)
    (hissuer : issuer.Correct X) (hsigns : issuer.Signs) {entries : List (String × Json)}
    (hnodup : (entries.map Prod.fst).Nodup) (hproper : Json.ProperMembers entries)
    (vct nonce audience : String) {now : ℤ} (hnow : Representable now) :
    ∃ token claims, '~' ∈ token.toList ∧ signedVct X token = some vct ∧
      verifySdJwtVp X token (issuer.toKeyPair X) nonce audience now = .ok claims ∧
      ∀ e ∈ entries, claims.get e.1 = some e.2 := by
  obtain ⟨compact, hissue⟩ : ∃ compact, issueSdJwtVcWithX5c X (issuer.toKeyPair X) "" vct [] entries
      (some (.obj [("jwk", (issuer.toKeyPair X).publicJwk.toValue)])) none none now (fun _ => []) =
        .ok (compact, disclosuresFor X entries fun _ => []) :=
    issue_succeeds (SigningKey.sign_total hsigns) entries none _
  obtain ⟨kbJwt, hcreated⟩ := create_succeeds (SigningKey.sign_total hsigns) nonce audience
    (computeSdHash X (presentWith compact (disclosuresFor X entries fun _ => []))) now
  obtain ⟨hsep, hver, payload, hvct, hchecked⟩ := verifySdJwtVp_bound hb64 hserde hissuer hissuer
    hissue hnodup hproper (by simp) hnow (fun d _ d' _ h => utf8_inj (hsha h))
    (List.Subperm.refl _) hnow hcreated le_rfl (by simp only [expiry, daySecs]; omega)
  refine ⟨_, _, hsep, signedVct_of_checked hchecked hvct, hver, fun e he => ?_⟩
  rw [entryOf_disclosuresFor]
  exact get_insertAll_of_mem hnodup he

/-- An SD-JWT VC of any type answers a query that can be answered. -/
lemma exists_sdJwtAnswer (hb64 : Base64Url X) (hserde : SerdeJson X)
    (hsha : Function.Injective X.sha256) (hissuer : issuer.Correct X) (hsigns : issuer.Signs)
    (hclock : Representable w.clock) (h : Answerable query) (hvalues : ProperValues query)
    (session : VerifierSession) (vct : String) : ∃ token claims, '~' ∈ token.toList ∧
      signedVct X token = some vct ∧
      Verified (X := X) (issuer.toKeyPair X) session token w.clock claims ∧
      ∀ q ∈ query.credentials, evaluateCredentialQuery q claims = true := by
  obtain ⟨entries, hnodup, hproper, hanswer⟩ := exists_answer h hvalues
  obtain ⟨token, claims, hsep, hvct, hver, hclaims⟩ := exists_sdJwt hb64 hserde hsha hissuer hsigns
    hnodup hproper vct session.nonce session.request.clientId hclock
  exact ⟨token, claims, hsep, hvct, Or.inr ⟨hsep, hver⟩, hanswer claims hclaims⟩

lemma exists_plainAnswer (hb64 : Base64Url X) (hserde : SerdeJson X) (hissuer : issuer.Correct X)
    (hsigns : issuer.Signs) (h : Answerable query) (hvalues : ProperValues query)
    (session : VerifierSession) (clock : ℤ) : ∃ token claims, '~' ∉ token.toList ∧
      Verified (X := X) (issuer.toKeyPair X) session token clock claims ∧
      ∀ q ∈ query.credentials, evaluateCredentialQuery q claims = true := by
  obtain ⟨entries, hnodup, hproper, hanswer⟩ := exists_answer h hvalues
  obtain ⟨token, claims, hno, hver, hclaims⟩ :=
    exists_plainToken hb64 hserde hissuer hsigns hnodup hproper
  exact ⟨token, claims, hno, Or.inl ⟨hno, hver⟩, hanswer claims hclaims⟩

/-- **Accepted credentials.** For a state, a store and a clock, whatever token is presented is
accepted only if it is what was asked for, exactly when the live session of that state, if there
is one, asks for nothing or cannot be answered: the issuer's signature on the right claims is
enough for any other query. Of the SD-JWT VCs alone it also holds when every credential query asks
for that format and names no type, and in no other case. -/
theorem acceptsWhatWasAsked_iff (hb64 : Base64Url X) (hserde : SerdeJson X)
    (hsha : Function.Injective X.sha256) (hissuer : issuer.Correct X) (hsigns : issuer.Signs)
    (hclock : Representable w.clock)
    (hvalues : ∀ session ∈ sessionFor state w, ∀ query ∈ session.request.dcqlQuery,
      ProperValues query) :
    ((∀ vpToken, AcceptsWhatWasAsked X ⟨vpToken, state⟩ (issuer.toKeyPair X) w) ↔
      ∀ session ∈ sessionFor state w, ∀ query ∈ session.request.dcqlQuery,
        query.credentials = [] ∨ ¬ Answerable query) ∧
    ((∀ token : String, '~' ∈ token.toList →
        AcceptsWhatWasAsked X ⟨some (.str token), state⟩ (issuer.toKeyPair X) w) ↔
      ∀ session ∈ sessionFor state w, ∀ query ∈ session.request.dcqlQuery,
        OnlyAsksForClaims query ∨ ¬ Answerable query) := by
  refine ⟨⟨fun h session hsession query hquery => ?_, fun h vpToken => ?_⟩,
    fun h session hsession query hquery => ?_, fun h token hsep => ?_⟩
  · by_contra hno
    rw [not_or, not_not] at hno
    obtain ⟨q, hq⟩ := List.exists_mem_of_ne_nil _ hno.1
    -- a token of either shape is accepted, and they are of two formats
    obtain ⟨plain, claims, hplain, hver, hsatisfied⟩ := exists_plainAnswer hb64 hserde hissuer
      hsigns hno.2 (hvalues session hsession query hquery) session w.clock
    obtain ⟨sdJwt, claims', hsep, -, hver', hsatisfied'⟩ := exists_sdJwtAnswer hb64 hserde hsha
      hissuer hsigns hclock hno.2 (hvalues session hsession query hquery) session ""
    have hjwt := (fits_of_satisfied (h _) hsession hquery hver hsatisfied q hq).format
    have hsd := (fits_of_satisfied (h _) hsession hquery hver' hsatisfied' q hq).format
    rw [presentedFormat, if_neg hplain] at hjwt
    rw [presentedFormat, if_pos hsep, hjwt] at hsd
    revert hsd
    decide
  · refine acceptsWhatWasAsked_of fun session hsession query hquery hanswerable token _ q hq => ?_
    rcases h session hsession query hquery with hnone | hno
    · rw [hnone] at hq
      cases hq
    · exact absurd hanswerable hno
  · by_contra hno
    rw [not_or, not_not] at hno
    -- an SD-JWT VC of another type than the one that is named is accepted too
    have hfits : ∀ q ∈ query.credentials, ∀ vct, ∃ token, '~' ∈ token.toList ∧
        signedVct X token = some vct ∧ Fits X q token := by
      intro q hq vct
      obtain ⟨token, claims, hsep, hvct, hver, hsatisfied⟩ := exists_sdJwtAnswer hb64 hserde hsha
        hissuer hsigns hclock hno.2 (hvalues session hsession query hquery) session vct
      exact ⟨token, hsep, hvct, fits_of_satisfied (h token hsep) hsession hquery hver hsatisfied q hq⟩
    refine hno.1 fun q hq => ⟨?_, ?_⟩
    · obtain ⟨token, hsep, -, hfit⟩ := hfits q hq ""
      rw [hfit.format, presentedFormat, if_pos hsep]
    · by_contra hnamed
      obtain ⟨vct, hvct⟩ := Option.ne_none_iff_exists'.mp hnamed
      obtain ⟨token, -, hsigned, hfit⟩ := hfits q hq (vct ++ "~")
      rw [hfit.vct vct hvct, Option.some.injEq] at hsigned
      simpa using congrArg String.length hsigned
  · refine acceptsWhatWasAsked_of fun session hsession query hquery hanswerable _ htoken q hq => ?_
    obtain rfl := Json.str.inj (Option.some.inj htoken)
    rcases h session hsession query hquery with honly | hno
    · obtain ⟨hformat, hvct⟩ := honly q hq
      refine ⟨by rw [hformat, presentedFormat, if_pos hsep], fun vct hnamed => ?_⟩
      rw [hvct] at hnamed
      cases hnamed
    · exact absurd hanswerable hno

/-! ### Three queries -/

/-- A query for an identity credential, by the name of one claim. -/
def identityQuery : CredentialQuery where
  id := "identity"
  format := "dc+sd-jwt"
  vct := some "https://issuer.example.com/credentials/identity"
  doctype := none
  claims := some [⟨["iss"], none, some "iss", none⟩]

/-- A query for any SD-JWT VC with this claim. -/
def anyTypeQuery : CredentialQuery := { identityQuery with vct := none }

/-- A query for a claim that has one of no values. -/
def unanswerableQuery : CredentialQuery :=
  { identityQuery with claims := some [⟨["iss"], none, some "iss", some []⟩] }

def sessionAsking (q : CredentialQuery) : VerifierSession :=
  { plainSession with request := { plainSession.request with dcqlQuery := some ⟨[q]⟩ } }

def worldAsking (q : CredentialQuery) : VerifierWorld where
  clock := plainWorld.clock
  store := InMemoryVerifierState.new.storeSession (sessionAsking q)

lemma sessionFor_asking (q : CredentialQuery) :
    sessionFor (some (sessionAsking q).state) (worldAsking q) = some (sessionAsking q) := by
  have hfound : (worldAsking q).store.getSessionByState (sessionAsking q).state =
      some (sessionAsking q) := InMemoryVerifierState.getSessionByState_storeSession _
  have halive : (worldAsking q).clock ≤ (sessionAsking q).expiresAt := plain_alive
  simp [sessionFor, hfound, halive]

lemma properValues_asking {q : CredentialQuery}
    (h : ∀ c ∈ q.claims.getD [], c.values.getD [] = []) : ProperValues ⟨[q]⟩ := by
  intro q' hq c hc expected hexpected v hv
  obtain rfl := List.mem_singleton.mp hq
  have hempty := h c hc
  rw [hexpected, Option.getD_some] at hempty
  rw [hempty] at hv
  cases hv

lemma answerable_asking {q : CredentialQuery} (h : ∀ c ∈ q.claims.getD [], c.values = none) :
    Answerable ⟨[q]⟩ := by
  refine fun name => ⟨.null, fun q' hq c hc _ expected hexpected => ?_⟩
  obtain rfl := List.mem_singleton.mp hq
  rw [h c hc] at hexpected
  cases hexpected

lemma unanswerable : ¬ Answerable ⟨[unanswerableQuery]⟩ := by
  intro h
  obtain ⟨value, hvalue⟩ := h "iss"
  obtain ⟨v, hv, -⟩ := hvalue unanswerableQuery List.mem_cons_self
    ⟨["iss"], none, some "iss", some []⟩ List.mem_cons_self rfl [] rfl
  cases hv

section Sample

open Oid4vc.Tables Oid4vc.Batch Oid4vc.KeyIdentity Oid4vc.Honest

/-- The key whose signatures the server has in its table. -/
def askingKey : KeyPair := (visitTable.key signerX signerY).toKeyPair visitCrates

/-- Nobody presents a wrong credential to a query that nobody can answer. Every SD-JWT VC that is
accepted for a query for any SD-JWT VC is one, and some are accepted; for an identity credential,
some are accepted that are none. -/
theorem anyType_keeps :
    (∀ vpToken, AcceptsWhatWasAsked visitCrates
      ⟨vpToken, some (sessionAsking unanswerableQuery).state⟩ askingKey
      (worldAsking unanswerableQuery)) ∧
    (∀ token : String, '~' ∈ token.toList → AcceptsWhatWasAsked visitCrates
      ⟨some (.str token), some (sessionAsking anyTypeQuery).state⟩ askingKey
      (worldAsking anyTypeQuery)) ∧
    (∃ (token : String) (result : VerificationResult), '~' ∈ token.toList ∧
      ((processResponse visitCrates ⟨some (.str token), some (sessionAsking anyTypeQuery).state⟩
        askingKey).exec (worldAsking anyTypeQuery)).1 = .ok result) ∧
    ¬ ∀ token : String, '~' ∈ token.toList → AcceptsWhatWasAsked visitCrates
      ⟨some (.str token), some (sessionAsking identityQuery).state⟩ askingKey
      (worldAsking identityQuery) := by
  have hb64 := canonicalBase64Url_visit.toBase64Url
  have hsigns := Table.key_signs (t := visitTable) signerX signerY
  have hclock : Representable plainWorld.clock := by decide
  have hiff : ∀ q : CredentialQuery, (∀ c ∈ q.claims.getD [], c.values.getD [] = []) → _ :=
    fun q hq => @acceptsWhatWasAsked_iff visitCrates (visitTable.key signerX signerY)
      (some (sessionAsking q).state) (worldAsking q) hb64 serdeJson_visit injective_sha256_visit
      (correct_visit signerX signerY) hsigns hclock (by
        rw [sessionFor_asking]
        rintro session ⟨⟩ query ⟨⟩
        exact properValues_asking hq)
  refine ⟨?_, ?_, ?_, ?_⟩
  · refine (hiff unanswerableQuery (by decide)).1.mpr ?_
    rw [sessionFor_asking]
    rintro session ⟨⟩ query ⟨⟩
    exact Or.inr unanswerable
  · refine (hiff anyTypeQuery (by decide)).2.mpr ?_
    rw [sessionFor_asking]
    rintro session ⟨⟩ query ⟨⟩
    refine Or.inl fun q hq => ?_
    obtain rfl := List.mem_singleton.mp hq
    exact ⟨rfl, rfl⟩
  · obtain ⟨token, claims, hsep, -, hver, hsatisfied⟩ := exists_sdJwtAnswer hb64 serdeJson_visit
      injective_sha256_visit (correct_visit signerX signerY) hsigns hclock
      (answerable_asking (q := anyTypeQuery) (by decide)) (properValues_asking (by decide))
      (sessionAsking anyTypeQuery) ""
    have hlive : sessionAsking anyTypeQuery ∈
        sessionFor (some (sessionAsking anyTypeQuery).state) (worldAsking anyTypeQuery) :=
      sessionFor_asking anyTypeQuery
    refine ⟨token, _, hsep, processResponse_ok_iff.mpr ⟨_, token, claims, liveSession_iff.mpr hlive,
      rfl, hver, checkQuery_eq_ok.mpr fun dcql hdcql => ?_, rfl⟩⟩
    obtain rfl := Option.some.inj hdcql
    exact hsatisfied
  · intro h
    have hcondition := (hiff identityQuery (by decide)).2.mp h (sessionAsking identityQuery)
      (sessionFor_asking identityQuery) ⟨[identityQuery]⟩ rfl
    rcases hcondition with honly | hno
    · cases (honly identityQuery List.mem_cons_self).2
    · exact hno (answerable_asking (by decide))

end Sample

/-- The plain token has a claim of the name asked for, and is accepted for an SD-JWT VC of
another type. -/
theorem misfit_accepted :
    ¬ AcceptsWhatWasAsked plainCrates plainResponse plainIssuer (worldAsking identityQuery) := by
  intro h
  have hlive : LiveSession plainResponse (worldAsking identityQuery)
      (sessionAsking identityQuery) :=
    ⟨⟨_, rfl, InMemoryVerifierState.getSessionByState_storeSession (sessionAsking identityQuery)⟩,
      plain_alive⟩
  have hcheck : checkQuery (sessionAsking identityQuery).request.dcqlQuery plainDisclosed =
      .ok () := by
    refine checkQuery_eq_ok.mpr fun dcql hdcql q hq => ?_
    obtain rfl : (⟨[identityQuery]⟩ : DcqlQuery) = dcql := Option.some.inj hdcql
    obtain rfl := List.mem_singleton.mp hq
    simp [evaluateCredentialQuery, identityQuery, evaluateClaimQuery, plainDisclosed]
  obtain ⟨session, token, hlive', -, htoken, hfits⟩ :=
    h ⟨(sessionAsking identityQuery).id, plainDisclosed⟩ (processResponse_ok_iff.mpr
      ⟨sessionAsking identityQuery, plainToken, plainDisclosed, hlive, rfl,
        Or.inl ⟨plain_noSeparator, plain_verifies⟩, hcheck, rfl⟩)
  obtain rfl := LiveSession.unique hlive hlive'
  obtain rfl : plainToken = token := by simpa [plainResponse] using htoken
  have hformat := (hfits _ rfl identityQuery (List.mem_singleton_self _)).format
  rw [presentedFormat, if_neg plain_noSeparator] at hformat
  revert hformat
  decide

end Oid4vc.AskedFor
