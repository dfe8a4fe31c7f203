import Oid4vc.Crypto.KeyIdentity
import Oid4vc.Server.CodeFlow

/-!
Where an access token comes from.

What is stored was put there by a request that is in the history: a session by a pushed request, a
code by an approval, a pre-authorized code by an offer, a token by the request that redeemed one of
these. A credential comes out for a token, so for the whole chain behind it.
-/

namespace Oid4vc.Provenance

open Oid4vc.Text Oid4vc.Fallible Oid4vc.Run Oid4vc.PartialMap Oid4vc.External Oid4vc.Jwks
open Oid4vc.Keys Oid4vc.Jws Oid4vc.Oid4vci Oid4vc.PublicKeys Oid4vc.KeyIdentity Oid4vc.IssuerStore
open Oid4vc.Dpop Oid4vc.ClientAttestation Oid4vc.Authorization Oid4vc.Token Oid4vc.Endpoints
open Oid4vc.Credential Oid4vc.Processing Oid4vc.Server Oid4vc.IssuerRoutes Oid4vc.Requests
open Oid4vc.Effects Oid4vc.StoredSessions Oid4vc.Consent

variable {X : Crates} (app : AppState X)

/-! ### Proofs of possession -/

/-- The headers carry one DPoP proof, for a request to this path and with this access token, which
this key has signed. -/
def ProofBy (headers : Headers) (path : String) (accessToken : Option String) (key : PublicKey) :
    Prop :=
  ∃ value proof jwk decoded claims, getAll headers "dpop" = [value] ∧ X.headerToStr value = .ok proof ∧
    verifyWithPublicJwk X proof jwk = .ok decoded ∧ decoded.header.jwk = some jwk ∧
    PublicKey.ofJwk X jwk = some key ∧ X.jsonFromSlice decoded.payload = .ok claims ∧
    strClaim claims "htm" = some "POST" ∧
    (∃ htu, strClaim claims "htu" = some htu ∧
      normalizeHtu X htu = normalizeHtu X (app.urlFor path)) ∧
    ∀ token ∈ accessToken, strClaim claims "ath" = some (accessTokenHash X token)

def keyThumbprint (X : Crates) (key : PublicKey) : String :=
  X.base64UrlEncode (X.sha256 (utf8 (thumbprintText X key)))

variable {app}

lemma computeThumbprint_of_ofJwk (hb64 : CanonicalBase64Url X) {jwk : Jwk} {key : PublicKey}
    (h : PublicKey.ofJwk X jwk = some key) : computeThumbprint X jwk = keyThumbprint X key := by
  rw [computeThumbprint, canonicalMembers_of_ofJwk hb64 h, keyThumbprint]

lemma keyThumbprint_inj (hb64 : CanonicalBase64Url X) (hsha : Function.Injective X.sha256)
    {key key' : PublicKey} (h : keyThumbprint X key = keyThumbprint X key') : key = key' :=
  thumbprintText_inj hb64 (utf8_inj (hsha (hb64.inj h)))

variable {headers : Headers} {path : String} {accessToken : Option String} {now : ℤ}

lemma exists_proofBy (hb64 : CanonicalBase64Url X) {jkt : String}
    (h : Proven app headers path accessToken now jkt) :
    ∃ key, ProofBy app headers path accessToken key ∧ jkt = keyThumbprint X key := by
  obtain ⟨value, proof, jti, hvalue, hproof, hcheck⟩ := h
  obtain ⟨decoded, jwk, claims, hverified, -, -, hjwk, -, hclaims, hchecked, rfl⟩ :=
    checkDpopProof_eq_ok.mp hcheck
  obtain ⟨hhtm, hhtu, -, hath, -⟩ := checkClaims_eq_ok.mp hchecked
  obtain ⟨key, hkey, -, -⟩ :=
    PublicKey.exists_of_verifyWithJwk (verifyWithPublicJwk_eq_ok.mp hverified).2.2
  exact ⟨key, ⟨value, proof, jwk, decoded, claims, hvalue, hproof, hverified, hjwk, hkey, hclaims,
    hhtm, hhtu, hath⟩, computeThumbprint_of_ofJwk hb64 hkey⟩

/-- A request carries the proof of one key. -/
lemma thumbprint_of_proofBy (hb64 : CanonicalBase64Url X) {path' : String}
    {accessToken' : Option String} {jkt : String} {key : PublicKey}
    (h : Proven app headers path accessToken now jkt)
    (hkey : ProofBy app headers path' accessToken' key) : jkt = keyThumbprint X key := by
  obtain ⟨value, proof, jti, hvalue, hproof, hcheck⟩ := h
  obtain ⟨value', proof', jwk', decoded', claims', hvalue', hproof', hverified', hjwk', hkey, -⟩ := hkey
  obtain ⟨decoded, jwk, claims, hverified, -, -, hjwk, -, -, -, rfl⟩ := checkDpopProof_eq_ok.mp hcheck
  -- one header, so one proof, so one key
  have hsame : value = value' := by
    rw [hvalue] at hvalue'
    exact List.head_eq_of_cons_eq hvalue'
  rw [hsame, hproof', Except.ok.injEq] at hproof
  rw [← hproof] at hverified
  have hdecoded := (verifyWithPublicJwk_eq_ok.mp hverified').1
  rw [(verifyWithPublicJwk_eq_ok.mp hverified).1, Except.ok.injEq] at hdecoded
  rw [hdecoded, hjwk', Option.some.injEq] at hjwk
  rw [← hjwk]
  exact computeThumbprint_of_ofJwk hb64 hkey

/-! ### Requests of the history -/

/-- A pushed request, the client that sends it, and what is asked for. -/
structure Push where
  headers : Headers
  request : PushedAuthorizationRequest
  client : AttestedClient
  jkt : Option String
  bound : Option String
  ids : List String
  viaDetails : Bool
  uri : String

variable (app)

/-- The pushed request was accepted. -/
structure Pushes (e : Event) (p : Push) : Prop where
  input : e.input = .request (.par p.headers p.request)
  answer : ∃ reply, e.answer = some reply ∧ bodyOf reply = some (.par ⟨p.uri, requestUriTtlSecs⟩)
  client : Attested app p.headers e.before.issuer.clock p.client
  proof : Presents app p.headers "/authorize/par" none e.before.issuer.clock p.jkt
  check : checkPar p.request ⟨p.client.clientId, p.jkt⟩ app.metadata =
    .ok (p.bound, p.ids, p.viaDetails)

/-- The user approved this `request_uri` under this client, which yielded the code. -/
def Approves (e : Event) (uri clientId code : String) : Prop :=
  e.input = .request (.decision ⟨uri, clientId, "approve"⟩) ∧
    ∃ reply, e.answer = some reply ∧ Approved reply code

/-- A token request was answered with this token. -/
structure Mints (e : Event) (headers : Headers) (request : TokenRequest) (token : String) : Prop where
  input : e.input = .request (.token headers request)
  answer : ∃ reply response, e.answer = some reply ∧ bodyOf reply = some (.token response) ∧
    response.accessToken = token

/-- An offer was made, with this pre-authorized code. -/
def Offers (e : Event) (offer : CredentialOffer) (code : String) : Prop :=
  (∃ configurationId, e.input = .request (.credentialOffer configurationId)) ∧
    (∃ reply, e.answer = some reply ∧ bodyOf reply = some (.offer offer)) ∧
    ∃ grants grant, offer.grants = some grants ∧ grants.preAuthorizedCode = some grant ∧
      grant.preAuthorizedCode = code

/-- The session is the one of the pushed request, with what became of it. -/
def Push.Stored (p : Push) (uri : String) (session : AuthorizationSession) : Prop :=
  p.uri = uri ∧ ∃ createdAt,
    Advances (newSession p.request p.uri createdAt p.bound p.ids p.viaDetails) session

/-! ### Grants -/

/-- The token request may have the token: it comes from the client, for the redirect URI and with the
verifier of the challenge that it pushed, and with a proof of the key that it bound. -/
structure Redeems (e : Event) (p : Push) (code token jkt : String) (headers : Headers)
    (request : TokenRequest) (client : AttestedClient) : Prop where
  mints : Mints e headers request token
  code : Endpoints.Redeems request code
  attested : Attested app headers e.before.issuer.clock client
  sameClient : client.clientId = p.client.clientId
  redirectUri : request.redirectUri = some p.request.redirectUri
  pkce : ∃ verifier, request.codeVerifier = some verifier ∧
    verifyPkce X verifier p.request.codeChallenge = true
  proof : Proven app headers "/token" none e.before.issuer.clock jkt
  bound : ∀ t ∈ p.bound, t = jkt

/-- The grant comes from a pushed request that was approved and redeemed. -/
def FromCode (history : List Event) (token : String) (grant : AccessGrant) : Prop :=
  ∃ e₁ e₂ e₃ p code jkt headers request client, [e₁, e₂, e₃].Sublist history ∧ Pushes app e₁ p ∧
    Approves e₂ p.uri p.client.clientId code ∧
    Redeems app e₃ p code token jkt headers request client ∧
    grant.credentialConfigurationIds = p.ids ∧ grant.dpopJkt = some jkt

/-- The grant comes from an offer that was redeemed. -/
def FromOffer (history : List Event) (token : String) (grant : AccessGrant) : Prop :=
  ∃ e₁ e₂ offer code headers request, [e₁, e₂].Sublist history ∧ Offers e₁ offer code ∧
    Mints e₂ headers request token ∧ RedeemsOffer request code ∧
    Presents app headers "/token" none e₂.before.issuer.clock grant.dpopJkt ∧
    grant.credentialConfigurationIds = offer.credentialConfigurationIds

/-- **All that is stored has its origin in the history.** -/
structure Traced (history : List Event) (b : Stores) : Prop where
  sessions : ∀ uri session, b.issuer.store.sessions.get uri = some session →
    ∃ e ∈ history, ∃ p, Pushes app e p ∧ p.Stored uri session
  codes : ∀ code uri, b.issuer.store.codeToUri.get code = some uri →
    ∃ session, b.issuer.store.sessions.get uri = some session ∧ ∃ e₁ e₂ p,
      [e₁, e₂].Sublist history ∧ Pushes app e₁ p ∧ p.Stored uri session ∧
        Approves e₂ uri p.client.clientId code
  offers : ∀ code entry, b.issuer.store.preAuthCodes.get code = some entry →
    ∃ e ∈ history, ∃ offer, Offers e offer code ∧
      entry.credentialConfigurationIds = offer.credentialConfigurationIds
  tokens : ∀ token entry, b.issuer.store.accessTokens.get token = some entry →
    FromCode app history token entry.grant ∨ FromOffer app history token entry.grant

variable {app} {b b' : Stores} {e : Event} {history : List Event}

lemma Pushes.clientId {p : Push} (h : Pushes app e p) : p.request.clientId = p.client.clientId := by
  have hcheck := h.check
  simp only [checkPar, bind_eq_ok, ensure_eq_ok, exists_unit] at hcheck
  exact hcheck.2.1

lemma Push.Stored.advance {p : Push} {uri : String} {s s' : AuthorizationSession}
    (h : p.Stored uri s) (hadv : Advances s s') : p.Stored uri s' := by
  obtain ⟨huri, createdAt, hfirst⟩ := h
  refine ⟨huri, createdAt, ?_, fun hd => hadv.decided (hfirst.decided hd)⟩
  rw [hadv.same, hfirst.same]

lemma Push.Stored.clientId {p : Push} {uri : String} {s : AuthorizationSession}
    (h : p.Stored uri s) : s.clientId = p.request.clientId := by
  obtain ⟨-, createdAt, hadv⟩ := h
  rw [hadv.same]
  rfl

lemma Push.Stored.ids {p : Push} {uri : String} {s : AuthorizationSession} (h : p.Stored uri s) :
    s.credentialConfigurationIds = p.ids := by
  obtain ⟨-, createdAt, hadv⟩ := h
  rw [hadv.same]
  rfl

/-! ### What a step adds -/

/-- What a request may leave in the stores that was not there: a session if it is a pushed request, a
code if it is an approval, and so on. -/
structure Adds (app : AppState X) (e : Event) (b b' : Stores) : Prop where
  sessions : ∀ uri session, b.issuer.store.sessions.get uri = none →
    b'.issuer.store.sessions.get uri = some session → ∃ p, Pushes app e p ∧ p.Stored uri session
  codes : ∀ code uri, b'.issuer.store.codeToUri.get code = some uri →
    b.issuer.store.codeToUri.get code = some uri ∨
      ∃ session, b.issuer.store.sessions.get uri = some session ∧
        Approves e uri session.clientId code
  offers : ∀ code entry, b'.issuer.store.preAuthCodes.get code = some entry →
    (∃ entry', b.issuer.store.preAuthCodes.get code = some entry' ∧
      entry'.credentialConfigurationIds = entry.credentialConfigurationIds) ∨
      ∃ offer, Offers e offer code ∧
        entry.credentialConfigurationIds = offer.credentialConfigurationIds
  tokens : ∀ token entry, b'.issuer.store.accessTokens.get token = some entry →
    b.issuer.store.accessTokens.get token = some entry ∨
      (∃ code session headers request client jkt,
        b.issuer.store.getSessionByCode code = some session ∧
          (∀ p : Push, p.client.clientId = session.clientId → ∀ uri, p.Stored uri session →
            Redeems app e p code token jkt headers request client) ∧
          entry.grant.credentialConfigurationIds = session.credentialConfigurationIds ∧
          entry.grant.dpopJkt = some jkt) ∨
      ∃ code pre headers request, b.issuer.store.preAuthCodes.get code = some pre ∧
        Mints e headers request token ∧ RedeemsOffer request code ∧
        Presents app headers "/token" none e.before.issuer.clock entry.grant.dpopJkt ∧
        entry.grant.credentialConfigurationIds = pre.credentialConfigurationIds

lemma adds_of_same (hsessions : b'.issuer.store.sessions = b.issuer.store.sessions)
    (hcodes : b'.issuer.store.codeToUri = b.issuer.store.codeToUri)
    (hoffers : b'.issuer.store.preAuthCodes = b.issuer.store.preAuthCodes)
    (htokens : ∀ token entry, b'.issuer.store.accessTokens.get token = some entry →
      b.issuer.store.accessTokens.get token = some entry) : Adds app e b b' where
  sessions uri session hnone hsome := by
    rw [hsessions, hnone] at hsome
    cases hsome
  codes code uri h := by
    rw [hcodes] at h
    exact Or.inl h
  offers code entry h := by
    rw [hoffers] at h
    exact Or.inl ⟨entry, h, rfl⟩
  tokens token entry h := Or.inl (htokens token entry h)

lemma adds_of_idle (h : Idle b b') : Adds app e b b' :=
  adds_of_same h.sessions h.codeToUri h.preAuthCodes h.accessTokens

lemma sublist_append_of_left {l : List Event} (h : l.Sublist history) : l.Sublist (history ++ [e]) :=
  h.trans (List.sublist_append_left history [e])

lemma sublist_snoc {l : List Event} (h : l.Sublist history) : (l ++ [e]).Sublist (history ++ [e]) :=
  h.append (List.Sublist.refl [e])

lemma FromCode.snoc {token : String} {grant : AccessGrant} (h : FromCode app history token grant) :
    FromCode app (history ++ [e]) token grant := by
  obtain ⟨e₁, e₂, e₃, p, code, jkt, headers, request, client, hsub, h⟩ := h
  exact ⟨e₁, e₂, e₃, p, code, jkt, headers, request, client, sublist_append_of_left hsub, h⟩

lemma FromOffer.snoc {token : String} {grant : AccessGrant} (h : FromOffer app history token grant) :
    FromOffer app (history ++ [e]) token grant := by
  obtain ⟨e₁, e₂, offer, code, headers, request, hsub, h⟩ := h
  exact ⟨e₁, e₂, offer, code, headers, request, sublist_append_of_left hsub, h⟩

/-- **The origins stay**, and what a step adds has one. -/
lemma Traced.step (h : Traced app history b) (hmoves : Moves X b b') (hadds : Adds app e b b') :
    Traced app (history ++ [e]) b' where
  sessions uri session' hget' := by
    cases hget : b.issuer.store.sessions.get uri with
    | none =>
      -- a session that is new was pushed by this step
      obtain ⟨p, hp⟩ := hadds.sessions uri session' hget hget'
      exact ⟨e, List.mem_append_right _ List.mem_cons_self, p, hp⟩
    | some session =>
      obtain ⟨session'', hget'', hadv⟩ := hmoves.kept hget
      rw [hget', Option.some.injEq] at hget''
      rw [← hget''] at hadv
      obtain ⟨e₁, he₁, p, hp, hstored⟩ := h.sessions uri session hget
      exact ⟨e₁, List.mem_append_left _ he₁, p, hp, hstored.advance hadv⟩
  codes code uri hcode' := by
    rcases hadds.codes code uri hcode' with hcode | ⟨session, hget, happroves⟩
    · obtain ⟨session, hget, e₁, e₂, p, hsub, hp, hstored, happroves⟩ := h.codes code uri hcode
      obtain ⟨session', hget', hadv⟩ := hmoves.kept hget
      exact ⟨session', hget', e₁, e₂, p, sublist_append_of_left hsub, hp, hstored.advance hadv,
        happroves⟩
    · obtain ⟨e₁, he₁, p, hp, hstored⟩ := h.sessions uri session hget
      obtain ⟨session', hget', hadv⟩ := hmoves.kept hget
      refine ⟨session', hget', e₁, e, p, sublist_snoc (List.singleton_sublist.mpr he₁), hp,
        hstored.advance hadv, ?_⟩
      rw [← hp.clientId, ← hstored.clientId]
      exact happroves
  offers code entry hget' := by
    rcases hadds.offers code entry hget' with ⟨entry', hget, hsame⟩ | ⟨offer, hoffers, hids⟩
    · obtain ⟨e₁, he₁, offer, hoffers, hids⟩ := h.offers code entry' hget
      exact ⟨e₁, List.mem_append_left _ he₁, offer, hoffers, hsame.symm.trans hids⟩
    · exact ⟨e, List.mem_append_right _ List.mem_cons_self, offer, hoffers, hids⟩
  tokens token entry hget' := by
    rcases hadds.tokens token entry hget' with hget |
      ⟨code, session, headers, request, client, jkt, hsession, hredeems, hids, hjkt⟩ |
      ⟨code, pre, headers, request, hpre, hmints, hcode, hproof, hids⟩
    · rcases h.tokens token entry hget with hcode | hoffer
      · exact Or.inl hcode.snoc
      · exact Or.inr hoffer.snoc
    · left
      -- the token is minted from a code, whose session leads back to the pushed request
      obtain ⟨uri, huri, hget⟩ := Option.bind_eq_some_iff.mp hsession
      obtain ⟨session', hsame, e₁, e₂, p, hsub, hp, hstored, happroves⟩ := h.codes code uri huri
      rw [hget, Option.some.injEq] at hsame
      rw [← hsame] at hstored
      have hclient : p.client.clientId = session.clientId := by
        rw [hstored.clientId, hp.clientId]
      refine ⟨e₁, e₂, e, p, code, jkt, headers, request, client, sublist_snoc hsub, hp, ?_,
        hredeems p hclient uri hstored, ?_, hjkt⟩
      · rw [hstored.1]
        exact happroves
      · rw [hids, hstored.ids]
    · right
      obtain ⟨e₁, he₁, offer, hoffers, hsame⟩ := h.offers code pre hpre
      exact ⟨e₁, e, offer, code, headers, request, sublist_snoc (List.singleton_sublist.mpr he₁),
        hoffers, hmints, hcode, hproof, hids.trans hsame⟩

/-! ### The requests that are not idle -/

lemma adds_of_parOutcome {headers : Headers} {request : PushedAuthorizationRequest} {reply : Reply}
    (hbefore : e.before = b) (hinput : e.input = .request (.par headers request))
    (hanswer : e.answer = some reply) (h : ParOutcome app headers request b reply b') :
    Adds app e b b' := by
  cases h with
  | refused _ hidle => exact adds_of_idle hidle
  | @pushed b₁ client jkt bound ids viaDetails hclient hproof hcheck hidle =>
    refine ⟨fun uri session hnone hsome => ?_, fun code uri hcode => ?_, fun code entry hentry => ?_,
      fun token entry hentry => ?_⟩
    · rcases get_of_get_insert hsome with ⟨rfl, rfl⟩ | ⟨-, hsome⟩
      · rw [← hbefore] at hclient hproof
        exact ⟨⟨headers, request, client, jkt, bound, ids, viaDetails, newRequestUri X b₁.issuer⟩,
          ⟨hinput, ⟨_, hanswer, rfl⟩, hclient, hproof, hcheck⟩, rfl, _, Advances.refl _⟩
      · rw [hidle.sessions, hnone] at hsome
        cases hsome
    · left
      rw [← hidle.codeToUri]
      exact hcode
    · refine Or.inl ⟨entry, ?_, rfl⟩
      rw [← hidle.preAuthCodes]
      exact hentry
    · exact Or.inl (hidle.accessTokens token entry hentry)

/-- The code of an approval belongs to the session of its client. -/
lemma adds_of_decisionOutcome (hkeyed : Keyed X b) {decision : Decision} {reply : Reply}
    (hinput : e.input = .request (.decision decision)) (hanswer : e.answer = some reply)
    (h : DecisionOutcome app decision b reply b') : Adds app e b b' := by
  cases h with
  | refused _ _ hidle => exact adds_of_idle hidle
  | denied session target _ _ _ _ => exact adds_of_idle (.refl b)
  | approved session stored target hresolves hdecision hstored hreply _ =>
    obtain ⟨hget, hclient⟩ := session_of_resolves hresolves
    obtain ⟨hnamed, -⟩ := hkeyed _ _ hget
    rcases generateAuthorizationCode_cases (X := X) session.requestUri b.issuer with
      ⟨hnone, -⟩ | ⟨stored', hstored', heq⟩
    · rw [hnone] at hstored
      cases hstored
    · rw [heq]
      refine ⟨fun uri found hnone hsome => ?_, fun code uri hcode => ?_,
        fun code entry hentry => Or.inl ⟨entry, hentry, rfl⟩, fun token entry hentry => Or.inl hentry⟩
      · rcases get_of_get_insert hsome with ⟨rfl, -⟩ | ⟨-, hsome⟩
        · rw [hnone] at hstored'
          cases hstored'
        · rw [hnone] at hsome
          cases hsome
      · rcases get_of_get_insert hcode with ⟨rfl, rfl⟩ | ⟨-, hcode⟩
        · right
          refine ⟨session, hnamed ▸ hget, ?_, reply, hanswer, hreply⟩
          rw [hinput, hnamed, hclient, ← hdecision]
        · exact Or.inl hcode

lemma accessTokens_minted {w : IssuerWorld} {ids : List String} {viaDetails : Bool}
    {jkt : Option String} {token : String} {entry : TokenEntry}
    (h : (minted X w ids viaDetails jkt).store.accessTokens.get token = some entry) :
    w.store.accessTokens.get token = some entry ∨ token = X.uuid w.drawn ∧
      entry.grant.credentialConfigurationIds = ids ∧ entry.grant.dpopJkt = jkt := by
  rcases get_of_get_insert h with ⟨rfl, rfl⟩ | ⟨-, h⟩
  · exact Or.inr ⟨rfl, rfl, rfl⟩
  · exact Or.inl h

lemma consumeAuthorizationCode_frame (s : InMemoryIssuerState) (code : String) :
    (s.consumeAuthorizationCode code).codeToUri = s.codeToUri ∧
      (s.consumeAuthorizationCode code).preAuthCodes = s.preAuthCodes ∧
      (s.consumeAuthorizationCode code).accessTokens = s.accessTokens := by
  unfold InMemoryIssuerState.consumeAuthorizationCode
  split <;> exact ⟨rfl, rfl, rfl⟩

/-- What a code is redeemed for was bound when its request was pushed. -/
lemma redeems_of_checkRedemption {request : TokenRequest} {ctx : TokenContext} {p : Push}
    {session : AuthorizationSession} {uri clientId jkt : String} {issuedAt now : ℤ}
    (hstored : p.Stored uri session)
    (h : checkRedemption X request ctx clientId session issuedAt now = .ok jkt) :
    ctx.dpopJkt = some jkt ∧ session.clientId = clientId ∧
      request.redirectUri = some p.request.redirectUri ∧
      (∃ verifier, request.codeVerifier = some verifier ∧
        verifyPkce X verifier p.request.codeChallenge = true) ∧ ∀ t ∈ p.bound, t = jkt := by
  simp only [checkRedemption, bind_eq_ok, okOr_eq_ok, ensure_eq_ok, exists_unit, pure_eq_ok] at h
  obtain ⟨-, hclient, hredirect, verifier, hverifier, hpkce, jkt', hjkt, hbound, rfl⟩ := h
  obtain ⟨-, createdAt, hadv⟩ := hstored
  rw [hadv.same] at hredirect hpkce hbound
  exact ⟨hjkt, hclient, hredirect, ⟨verifier, hverifier, hpkce⟩, hbound⟩

lemma idle_revokeTokensForCode (b : Stores) (code : String) :
    Idle b (withIssuer b { b.issuer with store := b.issuer.store.revokeTokensForCode code }) := by
  unfold InMemoryIssuerState.revokeTokensForCode
  cases b.issuer.store.tokensByCode.get code with
  | none => exact .refl b
  | some token => exact ⟨rfl, Nat.le_refl _, rfl, rfl, rfl, fun _ _ h => (get_of_get_remove h).2⟩

lemma adds_of_tokenReply {headers : Headers} {request : TokenRequest} {reply : Reply}
    (hbefore : e.before = b) (hinput : e.input = .request (.token headers request))
    (hanswer : e.answer = some reply) (h : TokenReply app headers request b reply b') :
    Adds app e b b' := by
  cases h with
  | refused _ hidle => exact adds_of_idle hidle
  | @processed b₁ r w client jkt hclient hproof hidle houtcome =>
    rw [← hbefore] at hclient hproof
    have hnew : ∀ uri session, b.issuer.store.sessions.get uri = none →
        (withIssuer b₁ w).issuer.store.sessions.get uri = some session →
          ∃ p, Pushes app e p ∧ p.Stored uri session := by
      intro uri session hnone hsome
      obtain ⟨consumed, hconsumed⟩ := sessions_of_tokenOutcome houtcome uri
      rw [withIssuer, hconsumed, hidle.sessions, hnone, Option.map_none] at hsome
      cases hsome
    cases houtcome with
    | refused _ _ => exact adds_of_idle hidle
    | replayed code session _ _ _ =>
      exact adds_of_idle (hidle.trans (idle_revokeTokensForCode b₁ code))
    | redeemed code clientId jkt' session issuedAt hcode hctx hsession _ _ hcheck =>
      obtain ⟨hcodes, hoffers, htokens⟩ := consumeAuthorizationCode_frame b₁.issuer.store code
      have hmints : Mints e headers request (X.uuid b₁.issuer.drawn) :=
        ⟨hinput, _, _, hanswer, rfl, headD_drawnUuids b₁.issuer _ _⟩
      refine ⟨hnew, fun code' uri hcode' => ?_, fun code' entry hentry => ?_,
        fun token entry hentry => ?_⟩
      · left
        rw [← hidle.codeToUri, ← hcodes]
        exact hcode'
      · refine Or.inl ⟨entry, ?_, rfl⟩
        rw [← hidle.preAuthCodes, ← hoffers]
        exact hentry
      · rcases accessTokens_minted hentry with hold | ⟨rfl, hids, hjkt⟩
        · rw [htokens] at hold
          exact Or.inl (hidle.accessTokens token entry hold)
        · -- the client that redeems is the one that is attested
          obtain ⟨attested, hattested, hsame⟩ := Option.map_eq_some_iff.mp hctx
          right
          left
          refine ⟨code, session, headers, request, attested, jkt', ?_, fun p hp uri hstored => ?_, hids,
            hjkt⟩
          · rw [InMemoryIssuerState.getSessionByCode, ← hidle.codeToUri, ← hidle.sessions]
            exact hsession
          · obtain ⟨hctxJkt, hclientId, hredirect, hpkce, hbound⟩ :=
              redeems_of_checkRedemption hstored hcheck
            have hctxJkt' : jkt = some jkt' := hctxJkt
            rw [hctxJkt'] at hproof
            exact ⟨hmints, hcode, hclient attested hattested,
              hsame.trans (hclientId.symm.trans hp.symm), hredirect, hpkce, hproof, hbound⟩
    | preAuthorized code pre hcode hpre hunused =>
      have hdrawn := @headD_drawnUuids X b₁.issuer pre.credentialConfigurationIds false
      have hmints : Mints e headers request (X.uuid b₁.issuer.drawn) :=
        ⟨hinput, _, _, hanswer, rfl, hdrawn⟩
      rw [hidle.preAuthCodes] at hpre
      refine ⟨hnew, fun code' uri hcode' => ?_, fun code' entry hentry => ?_,
        fun token entry hentry => ?_⟩
      · left
        rw [← hidle.codeToUri]
        exact hcode'
      · left
        rcases get_of_get_insert hentry with ⟨rfl, rfl⟩ | ⟨-, hentry⟩
        · exact ⟨pre, hpre, rfl⟩
        · rw [hidle.preAuthCodes] at hentry
          exact ⟨entry, hentry, rfl⟩
      · rcases accessTokens_minted hentry with hold | ⟨rfl, hids, hjkt⟩
        · exact Or.inl (hidle.accessTokens token entry hold)
        · right
          right
          refine ⟨code, pre, headers, request, hpre, hmints, hcode, ?_, hids⟩
          rw [hjkt]
          exact hproof

lemma adds_of_offerReply {configurationId : Option String} {reply : Reply}
    (hinput : e.input = .request (.credentialOffer configurationId)) (hanswer : e.answer = some reply)
    (h : OfferReply app configurationId b reply b') : Adds app e b b' := by
  cases h with
  | refused _ => exact adds_of_idle (.refl b)
  | offered configId =>
    refine ⟨fun uri session hnone hsome => ?_, fun code uri hcode => Or.inl hcode,
      fun code entry hentry => ?_, fun token entry hentry => Or.inl hentry⟩
    · have hsome' : b.issuer.store.sessions.get uri = some session := hsome
      rw [hnone] at hsome'
      cases hsome'
    · rcases get_of_get_insert hentry with ⟨rfl, rfl⟩ | ⟨-, hentry⟩
      · exact Or.inr ⟨_, ⟨⟨_, hinput⟩, ⟨_, hanswer, rfl⟩, _, _, rfl, rfl, rfl⟩, rfl⟩
      · exact Or.inl ⟨entry, hentry, rfl⟩

/-! ### Steps and runs -/

lemma adds_of_step (hkeyed : Keyed X b) (i : Input) :
    Adds app (entry (server app) b i) b ((server app).step b i).1 := by
  cases i with
  | wait nanoseconds => exact adds_of_same rfl rfl rfl fun _ _ h => h
  | request r =>
    rw [step_request]
    by_cases hminor : Minor r
    · exact adds_of_idle (idle_exec (within_handle hminor) b)
    · cases r with
      | par headers request => exact adds_of_parOutcome rfl rfl rfl (parEndpoint_exec request)
      | decision decision =>
        exact adds_of_decisionOutcome hkeyed rfl rfl (authorizeDecision_exec decision)
      | token headers request => exact adds_of_tokenReply rfl rfl rfl (tokenEndpoint_exec request)
      | credentialOffer configurationId =>
        exact adds_of_offerReply rfl rfl (credentialOfferEndpoint_exec configurationId)
      | _ => exact absurd trivial hminor

lemma traced_fresh (clock : ℤ) : Traced app [] (freshStores app clock) := by
  refine ⟨fun uri session h => ?_, fun code uri h => ?_, fun code entry h => ?_,
    fun token entry h => ?_⟩ <;> simp [freshStores, InMemoryIssuerState.new] at h

/-- **Every run is traced.** -/
theorem run_traced (huuid : Function.Injective X.uuid) (clock : ℤ) (is : List Input) :
    Traced app (log (server app) (freshStores app clock) is)
      (run (server app) (freshStores app clock) is) := by
  have hinv := @log_inv Stores Input (Option Reply) (server app) (fun _ _ => True)
    (fun history b => Keyed X b ∧ Traced app history b) ?_ (freshStores app clock) is
    ⟨keyed_fresh clock, traced_fresh clock⟩ (every_true _ _)
  · exact hinv.2
  · rintro history b i ⟨hkeyed, htraced⟩ -
    have hmoves := @step_moves X app b huuid hkeyed i
    exact ⟨hmoves.keyed hkeyed, htraced.step hmoves (adds_of_step hkeyed i)⟩

/-! ### Credentials -/

variable (app)

/-- A credential request with this token was answered with credentials of this configuration. -/
def Issues (e : Event) (headers : Headers) (token configId : String) : Prop :=
  ∃ request draws grant config response, e.input = .request (.credential headers request draws) ∧
    (∃ reply, e.answer = some reply ∧ bodyOf reply = some (.credential response)) ∧
    (∃ isDpop, presentedToken X headers = .ok (token, isDpop)) ∧
    (e.before.issuer.store.getAccessGrant e.before.issuer.clock token).1 = some grant ∧
    resolveConfiguration request grant app.metadata = .ok (configId, config) ∧
    ∀ credential ∈ credentialsOf response,
      IssuedUnder (issuanceContext app) configId config credential

/-- An attested client pushed a request for the configuration, the user approved it, and the client
redeemed the code for the token: with the redirect URI and the verifier of the challenge that it
pushed, and a proof of the key that it bound if it bound one. The headers prove the same key, for the
token. -/
def AuthorizedByCode (history : List Event) (headers : Headers) (token configId : String) : Prop :=
  ∃ par decision redemption p ids viaDetails code headers' request client key,
    [par, decision, redemption].Sublist history ∧ Pushes app par p ∧
    requestedConfigurations p.request app.metadata = .ok (ids, viaDetails) ∧ configId ∈ ids ∧
    Approves decision p.uri p.client.clientId code ∧
    Mints redemption headers' request token ∧ Endpoints.Redeems request code ∧
    Attested app headers' redemption.before.issuer.clock client ∧
    client.clientId = p.client.clientId ∧ request.redirectUri = some p.request.redirectUri ∧
    (∃ verifier, request.codeVerifier = some verifier ∧
      X.base64UrlEncode (X.sha256 (utf8 verifier)) = p.request.codeChallenge) ∧
    ProofBy app headers' "/token" none key ∧
    (∀ key', ProofBy app p.headers "/authorize/par" none key' → key' = key) ∧
    (∀ jkt ∈ p.request.dpopJkt, jkt = keyThumbprint X key) ∧
    ProofBy app headers "/credential" (some token) key

/-- An offer of the configuration was made, and its pre-authorized code redeemed for the token. The
headers prove every key that the token request proved, for the token. -/
def AuthorizedByOffer (history : List Event) (headers : Headers) (token configId : String) : Prop :=
  ∃ offering redemption offer code headers' request, [offering, redemption].Sublist history ∧
    Offers offering offer code ∧ configId ∈ offer.credentialConfigurationIds ∧
    Mints redemption headers' request token ∧ RedeemsOffer request code ∧
    ∀ key, ProofBy app headers' "/token" none key → ProofBy app headers "/credential" (some token) key

variable {app}

/-- What is bound is the key of the proof, and the key that the request names. -/
lemma bound_of_checkPar {request : PushedAuthorizationRequest} {ctx : ParContext}
    {metadata : CredentialIssuerMetadata} {bound : Option String} {ids : List String}
    {viaDetails : Bool} (h : checkPar request ctx metadata = .ok (bound, ids, viaDetails)) :
    requestedConfigurations request metadata = .ok (ids, viaDetails) ∧
      (∀ jkt ∈ ctx.dpopJkt, bound = some jkt) ∧ ∀ jkt ∈ request.dpopJkt, bound = some jkt := by
  simp only [checkPar, bind_eq_ok, ensure_eq_ok, exists_unit, pure_eq_ok, Prod.mk.injEq] at h
  obtain ⟨-, -, bound', hbound, -, -, -, ⟨ids', viaDetails'⟩, hids, rfl, rfl, rfl⟩ := h
  refine ⟨hids, ?_⟩
  generalize request.dpopJkt = param at hbound ⊢
  generalize ctx.dpopJkt = proof at hbound ⊢
  cases param with
  | none =>
    cases proof with
    | none => exact ⟨by simp, by simp⟩
    | some proof =>
      rw [boundKey, Except.ok.injEq] at hbound
      exact ⟨by simp [← hbound], by simp⟩
  | some param =>
    cases proof with
    | none =>
      rw [boundKey, Except.ok.injEq] at hbound
      exact ⟨by simp, by simp [← hbound]⟩
    | some proof =>
      simp only [boundKey] at hbound
      split_ifs at hbound with hsame
      rw [Except.ok.injEq] at hbound
      rw [not_not] at hsame
      exact ⟨by simp [← hbound], by simp [← hbound, hsame]⟩

lemma presents_of_proofBy (hb64 : CanonicalBase64Url X) {path' : String}
    {accessToken' : Option String} {jkt : Option String} {key : PublicKey}
    (h : Presents app headers path accessToken now jkt)
    (hkey : ProofBy app headers path' accessToken' key) : jkt = some (keyThumbprint X key) := by
  cases jkt with
  | none =>
    obtain ⟨value, proof, jwk, decoded, claims, hvalue, -⟩ := hkey
    have hnone : getAll headers "dpop" = [] := h
    rw [hnone] at hvalue
    cases hvalue
  | some jkt => rw [thumbprint_of_proofBy hb64 h hkey]

lemma proofBy_of_thumbprint (hb64 : CanonicalBase64Url X) (hsha : Function.Injective X.sha256)
    {key : PublicKey} (h : Proven app headers path accessToken now (keyThumbprint X key)) :
    ProofBy app headers path accessToken key := by
  obtain ⟨key', hproof, hsame⟩ := exists_proofBy hb64 h
  rw [keyThumbprint_inj hb64 hsha hsame]
  exact hproof

lemma authorizedByCode_of_fromCode (hb64 : CanonicalBase64Url X)
    (hsha : Function.Injective X.sha256) {token configId : String} {grant : AccessGrant}
    (h : FromCode app history token grant) (hid : configId ∈ grant.credentialConfigurationIds)
    (hproven : ∀ jkt ∈ grant.dpopJkt, Proven app headers "/credential" (some token) now jkt) :
    AuthorizedByCode app history headers token configId := by
  obtain ⟨e₁, e₂, e₃, p, code, jkt, headers', request, client, hsub, hp, happroves, hredeems, hids,
    hjkt⟩ := h
  obtain ⟨key, hkey, rfl⟩ := exists_proofBy hb64 hredeems.proof
  obtain ⟨hrequested, hproof, hparam⟩ := bound_of_checkPar hp.check
  obtain ⟨verifier, hverifier, hpkce⟩ := hredeems.pkce
  refine ⟨e₁, e₂, e₃, p, p.ids, p.viaDetails, code, headers', request, client, key, hsub, hp,
    hrequested, hids ▸ hid, happroves, hredeems.mints, hredeems.code, hredeems.attested,
    hredeems.sameClient, hredeems.redirectUri, ⟨verifier, hverifier, beq_iff_eq.mp hpkce⟩, hkey,
    fun key' hkey' => ?_, fun t ht => hredeems.bound t (hparam t ht), ?_⟩
  · have hbound := hproof _ (presents_of_proofBy hb64 hp.proof hkey')
    exact keyThumbprint_inj hb64 hsha (hredeems.bound _ hbound)
  · exact proofBy_of_thumbprint hb64 hsha (hproven _ hjkt)

lemma authorizedByOffer_of_fromOffer (hb64 : CanonicalBase64Url X)
    (hsha : Function.Injective X.sha256) {token configId : String} {grant : AccessGrant}
    (h : FromOffer app history token grant) (hid : configId ∈ grant.credentialConfigurationIds)
    (hproven : ∀ jkt ∈ grant.dpopJkt, Proven app headers "/credential" (some token) now jkt) :
    AuthorizedByOffer app history headers token configId := by
  obtain ⟨e₁, e₂, offer, code, headers', request, hsub, hoffers, hmints, hcode, hproof, hids⟩ := h
  refine ⟨e₁, e₂, offer, code, headers', request, hsub, hoffers, hids ▸ hid, hmints, hcode,
    fun key hkey => ?_⟩
  exact proofBy_of_thumbprint hb64 hsha (hproven _ (presents_of_proofBy hb64 hproof hkey))

/-- **Credentials are authorized.** Whenever the credential endpoint answers with credentials, they
are of a configuration for which its token was authorized: by a code or by an offer. -/
theorem credentials_authorized (X : Crates) (huuid : Function.Injective X.uuid)
    (hsha : Function.Injective X.sha256) (hb64 : CanonicalBase64Url X) (app : AppState X) (clock : ℤ)
    (is : List Input) (history later : List Event) (e : Event)
    (hlog : log (server app) (freshStores app clock) is = history ++ e :: later)
    (headers : Headers) (request : CredentialRequest) (draws : RequestDraws)
    (hinput : e.input = .request (.credential headers request draws)) (response : CredentialResponse)
    (hanswer : e.answer.bind bodyOf = some (.credential response)) :
    ∃ token configId, Issues app e headers token configId ∧
      (AuthorizedByCode app history headers token configId ∨
        AuthorizedByOffer app history headers token configId) := by
  obtain ⟨before, i, after, -, rfl, rfl⟩ := exists_split_of_log hlog
  have htraced := @run_traced X app huuid clock before
  generalize run (server app) (freshStores app clock) before = b at hinput hanswer htraced ⊢
  have hi : i = .request (.credential headers request draws) := hinput
  subst hi
  simp only [entry, step_request, handle, Option.bind_some] at hanswer
  obtain ⟨token, grant, configId, config, hauthorized, hresolve, hissued⟩ :=
    credentialEndpoint_ok hanswer
  obtain ⟨entry, hentry, -, hgrant⟩ := getAccessGrant_eq_some.mp hauthorized.granted
  have hid : configId ∈ entry.grant.credentialConfigurationIds := by
    rw [hgrant]
    exact (resolveConfiguration_ok hresolve).granted
  have hproven := hauthorized.proven
  rw [← hgrant] at hproven
  refine ⟨token, configId, ⟨request, draws, grant, config, response, rfl, ⟨_, rfl, hanswer⟩,
    hauthorized.presented, hauthorized.granted, hresolve, hissued⟩, ?_⟩
  -- a token that is stored was minted, from a code or for an offer
  rcases htraced.tokens token entry hentry with hcode | hoffer
  · exact Or.inl (authorizedByCode_of_fromCode hb64 hsha hcode hid hproven)
  · exact Or.inr (authorizedByOffer_of_fromOffer hb64 hsha hoffer hid hproven)

section Sample

open Oid4vc.Instant Oid4vc.Redemption Oid4vc.Honest Oid4vc.CodeFlow

lemma authorizedByCode_of_noOffer {clock : ℤ} {is : List Input} {token configId : String}
    (hnone : ∀ configurationId, .request (.credentialOffer configurationId) ∉ is)
    (h : AuthorizedByCode app (log (server app) (freshStores app clock) is) headers token configId ∨
      AuthorizedByOffer app (log (server app) (freshStores app clock) is) headers token configId) :
    AuthorizedByCode app (log (server app) (freshStores app clock) is) headers token configId := by
  rcases h with hcode | ⟨offering, redemption, offer, code, headers', request, hsub, hoffers, -⟩
  · exact hcode
  · obtain ⟨⟨configurationId, hinput⟩, -⟩ := hoffers
    have hmem := input_mem_of_mem_log (hsub.subset List.mem_cons_self)
    rw [hinput] at hmem
    exact absurd hmem (hnone configurationId)

lemma authorizedByOffer_of_noPush {clock : ℤ} {is : List Input} {token configId : String}
    (hnone : ∀ headers request, .request (.par headers request) ∉ is)
    (h : AuthorizedByCode app (log (server app) (freshStores app clock) is) headers token configId ∨
      AuthorizedByOffer app (log (server app) (freshStores app clock) is) headers token configId) :
    AuthorizedByOffer app (log (server app) (freshStores app clock) is) headers token configId := by
  rcases h with ⟨par, decision, redemption, p, ids, viaDetails, code, headers', request, client, key,
    hsub, hpushes, -⟩ | hoffer
  · have hmem := input_mem_of_mem_log (hsub.subset List.mem_cons_self)
    rw [hpushes.input] at hmem
    exact absurd hmem (hnone p.headers p.request)
  · exact hoffer

/-- The wallet that took up an offer is issued a credential, and was authorized for it by the offer;
the one that pushed a request, and by the code. -/
theorem visit_authorized :
    (∃ history e response token configId,
      log (server visitApp) (freshStores visitApp (seconds 1767225600))
        (preparation visitCrates 0 "pid" ++ [visitAsking]) = history ++ [e] ∧
      e.answer.bind bodyOf = some (.credential response) ∧
      Issues visitApp e (bearer (codeCrates.uuid 2)) token configId ∧
      AuthorizedByOffer visitApp history (bearer (codeCrates.uuid 2)) token configId) ∧
    ∃ history e response token configId,
      log (server flowApp) (freshStores flowApp (seconds 1767225600)) (flow.inputs ++ [flowAsking]) =
        history ++ [e] ∧
      e.answer.bind bodyOf = some (.credential response) ∧
      Issues flowApp e resourceHeaders token configId ∧
      AuthorizedByCode flowApp history resourceHeaders token configId := by
  constructor
  · obtain ⟨credential, m, -, -, hstep⟩ := visit_served
    set e := entry (server visitApp) (run (server visitApp) visitStores
      (preparation visitCrates 0 "pid")) visitAsking with he
    have hlog : log (server visitApp) visitStores (preparation visitCrates 0 "pid" ++ [visitAsking]) =
        log (server visitApp) visitStores (preparation visitCrates 0 "pid") ++ [e] := log_append _ _ _ _
    have hanswer : e.answer.bind bodyOf = some (.credential (credentialResponse [credential])) := by
      have hsame : e.answer =
          some (.response ⟨200, [], .credential (credentialResponse [credential])⟩) :=
        congrArg Prod.snd hstep
      rw [hsame]
      rfl
    have hinput : e.input = visitAsking := rfl
    obtain ⟨token, configId, hissues, hauthorized⟩ := credentials_authorized visitCrates
      injective_uuid_visit injective_sha256_visit canonicalBase64Url_visit visitApp (seconds 1767225600)
      (preparation visitCrates 0 "pid" ++ [visitAsking]) _ [] e hlog (bearer (codeCrates.uuid 2))
      (asking "pid" visitProof) visitDraws hinput _ hanswer
    refine ⟨_, e, _, token, configId, hlog, hanswer, hissues,
      authorizedByOffer_of_noPush (fun headers request hmem => ?_) hauthorized⟩
    simp [preparation] at hmem
  · obtain ⟨credential, b', hstep⟩ := flow_served
    set e := entry (server flowApp) (run (server flowApp) flowStores flow.inputs) flowAsking with he
    have hlog : log (server flowApp) flowStores (flow.inputs ++ [flowAsking]) =
        log (server flowApp) flowStores flow.inputs ++ [e] := log_append _ _ _ _
    have hanswer : e.answer.bind bodyOf = some (.credential (credentialResponse [credential])) := by
      have hsame : e.answer =
          some (.response ⟨200, [], .credential (credentialResponse [credential])⟩) :=
        congrArg Prod.snd hstep
      rw [hsame]
      rfl
    have hinput : e.input = flowAsking := rfl
    obtain ⟨token, configId, hissues, hauthorized⟩ := credentials_authorized flowCrates
      injective_uuid_flow injective_sha256_flow canonicalBase64Url_flow flowApp (seconds 1767225600)
      (flow.inputs ++ [flowAsking]) _ [] e hlog resourceHeaders (asking "pid" flowPossession) visitDraws
      hinput _ hanswer
    refine ⟨_, e, _, token, configId, hlog, hanswer, hissues,
      authorizedByCode_of_noOffer (fun configurationId hmem => ?_) hauthorized⟩
    simp [Flow.inputs, choice] at hmem

end Sample

end Oid4vc.Provenance
