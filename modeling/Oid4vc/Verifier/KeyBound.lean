import Oid4vc.Base.Base64
import Oid4vc.Base.NumericDate
import Oid4vc.Crypto.KeyBinding
import Oid4vc.Verifier.Response

/-!
What an accepted presentation proves.

A key-bound presentation is a credential of the issuer, inside its validity window, whose
holder signed this session's nonce and audience and the bytes presented. The SD-JWT branch
of the verifier accepts nothing else, as far as it can read the window; the branch for a
token without a separator asks only for the issuer's signature.
-/

namespace Oid4vc.KeyBound

open Oid4vc.JsonValue Oid4vc.Text Oid4vc.Instant Oid4vc.Fallible Oid4vc.PartialMap
open Oid4vc.NumericDate Oid4vc.Jwks Oid4vc.External Oid4vc.Keys Oid4vc.Jws Oid4vc.Credentials
open Oid4vc.SdJwt Oid4vc.KeyBinding Oid4vc.Oid4vp Oid4vc.VerifierState Oid4vc.Response Oid4vc.Atomic

/-- Each bound that the payload gives is a number, and holds at this instant. -/
structure InsideWindow (payload : Json) (clock : ℤ) : Prop where
  exp : ∀ v, payload.get "exp" = some v → Before clock v
  nbf : ∀ v, payload.get "nbf" = some v → NotBefore clock v

variable (X : Crates)

/-- A presentation of a credential of `issuerKey`, which ends with a key binding JWT of its
holder for this nonce and this audience. -/
structure KeyBoundPresentation (issuerKey : KeyPair) (nonce audience token : String) where
  issuerJwt : String
  disclosures : List String
  kbJwt : String
  parts : split '~' token = issuerJwt :: disclosures ++ [kbJwt]
  /-- The presented bytes: everything up to the last separator. -/
  presented : String
  token_eq : token = presented ++ kbJwt
  presented_last : ∃ t, presented.toList = t ++ ['~']
  issuerHeader : JwsHeader
  credential : Json
  signed : SignedAs X (fun m s => issuerKey.verify m s = .ok ()) issuerJwt issuerHeader credential
  holderJwk : Jwk
  cnf : cnfJwk credential = some holderJwk
  kbHeader : JwsHeader
  binding : Json
  possession : SignedAs X (fun m s => verifyWithJwk X holderJwk m s = .ok ()) kbJwt kbHeader binding
  bound_nonce : binding.get "nonce" = some (.str nonce)
  bound_aud : binding.get "aud" = some (.str audience)
  bound_hash : binding.get "sd_hash" =
    some (.str (X.base64UrlEncode (X.sha256 (utf8 presented))))

/-- The session the response is for, still alive. -/
structure LiveSession (response : AuthorizationResponse) (w : VerifierWorld)
    (session : VerifierSession) : Prop where
  found : ∃ state, response.state = some state ∧ w.store.getSessionByState state = some session
  alive : w.clock ≤ session.expiresAt

/-- Whenever the response is accepted, it is a key-bound presentation for the session it is
accepted for, inside its validity window. -/
def AcceptsOnlyKeyBound (response : AuthorizationResponse) (issuerKey : KeyPair)
    (w : VerifierWorld) : Prop :=
  ∀ result, ((processResponse X response issuerKey).exec w).1 = .ok result →
    ∃ session token, LiveSession response w session ∧ result.sessionId = session.id ∧
      response.vpToken = some (.str token) ∧
      ∃ p : KeyBoundPresentation X issuerKey session.nonce session.request.clientId token,
        InsideWindow p.credential w.clock

/-- The response is a token without a separator, signed by the issuer, whose payload
answers the query of a live session. -/
def PlainAccepted (response : AuthorizationResponse) (issuerKey : KeyPair) (w : VerifierWorld) :
    Prop :=
  ∃ session token claims, LiveSession response w session ∧
    response.vpToken = some (.str token) ∧ '~' ∉ token.toList ∧
    verifyJwtVp X token issuerKey = .ok claims ∧
    checkQuery session.request.dcqlQuery claims = .ok ()

/-- The payload of the issuer JWT of a presentation. -/
def credentialPayload (token : String) : Option Json := do
  let issuerJwt ← (split '~' token).head?
  let decoded ← (decodeCompact X issuerJwt).toOption
  (X.jsonFromSlice decoded.payload).toOption

/-- A bound that does not read as a signed 64-bit integer, and does not hold. -/
def UnreadBound (payload : Json) (clock : ℤ) : Prop :=
  (∃ v, payload.get "exp" = some v ∧ v.asI64 = none ∧ ¬ Before clock v) ∨
  (∃ v, payload.get "nbf" = some v ∧ v.asI64 = none ∧ ¬ NotBefore clock v)

/-- The response is a presentation that passes every other check, of a credential outside a
bound that the verifier cannot read. -/
def UnreadAccepted (response : AuthorizationResponse) (issuerKey : KeyPair) (w : VerifierWorld) :
    Prop :=
  ∃ session token claims payload, LiveSession response w session ∧
    response.vpToken = some (.str token) ∧ '~' ∈ token.toList ∧
    verifySdJwtVp X token issuerKey session.nonce session.request.clientId w.clock = .ok claims ∧
    checkQuery session.request.dcqlQuery claims = .ok () ∧
    credentialPayload X token = some payload ∧ UnreadBound payload w.clock

variable {X}

/-- The window as the code reads it, and the window. -/
lemma insideWindow_iff {payload : Json} {clock : ℤ}
    (h : checkWindow payload (timestamp clock) = .ok ()) :
    InsideWindow payload clock ↔ ¬ UnreadBound payload clock := by
  simp only [checkWindow, bind_eq_ok, ensure_eq_ok, exists_unit] at h
  simp only [i64Claim, Option.mem_def, Option.bind_eq_some_iff] at h
  obtain ⟨hexp, hnbf⟩ := h
  constructor
  · rintro ⟨h1, h2⟩ (⟨v, hv, -, hb⟩ | ⟨v, hv, -, hb⟩)
    · exact hb (h1 v hv)
    · exact hb (h2 v hv)
  · intro hun
    constructor
    · intro v hv
      cases hi : v.asI64 with
      | none => exact not_not.mp fun hb => hun (Or.inl ⟨v, hv, hi, hb⟩)
      | some n => exact (before_iff_of_asI64 hi).mpr (hexp n ⟨v, hv, hi⟩)
    · intro v hv
      cases hi : v.asI64 with
      | none => exact not_not.mp fun hb => hun (Or.inr ⟨v, hv, hi, hb⟩)
      | some n => exact (notBefore_iff_of_asI64 hi).mpr (hnbf n ⟨v, hv, hi⟩)

/-- **The SD-JWT branch.** What it accepts is a key-bound presentation, whose window it has
checked as far as it can read it. -/
theorem verifySdJwtVp_ok {token nonce audience : String} {issuerKey : KeyPair} {clock : ℤ}
    {claims : PMap String Json}
    (h : verifySdJwtVp X token issuerKey nonce audience clock = .ok claims) :
    ∃ p : KeyBoundPresentation X issuerKey nonce audience token,
      checkWindow p.credential (timestamp clock) = .ok () := by
  simp only [verifySdJwtVp, verifySdJwtVc, bind_eq_ok, mapError_eq_ok, okOr_eq_ok, pure_eq_ok,
    exists_unit] at h
  obtain ⟨verified, ⟨v, hv, decoded, hdec, payload, hpay, hwin, disclosed, -, rfl⟩, holderJwk,
    hjwk, hkb, -⟩ := h
  obtain ⟨v', kbJwt, presented, kbHeader, binding, hv', hkbJwt, hstrip, hposs, hn, ha, hhash⟩ :=
    verifyKeyBinding_ok hkb
  -- both checks parse the one token, so they see the same parts
  obtain rfl : v = v' := by
    rw [hv] at hv'
    exact Except.ok.inj hv'
  obtain ⟨middle, hparts⟩ := parse_parts hv hkbJwt
  obtain ⟨presented', hstrip', heq, hlast⟩ := exists_presented hparts (by simp)
  obtain rfl : presented = presented' := Option.some.inj (hstrip.symm.trans hstrip')
  obtain ⟨hdec, hsig⟩ := verifyCompact_eq_ok.mp hdec
  rw [computeSdHash_of_last hlast] at hhash
  exact ⟨{
    issuerJwt := v.issuerJwt
    disclosures := middle
    kbJwt := kbJwt
    parts := hparts
    presented := presented
    token_eq := heq
    presented_last := hlast
    issuerHeader := decoded.header
    credential := payload
    signed := signedAs_iff.mpr ⟨decoded, hdec, rfl, hpay, hsig⟩
    holderJwk := holderJwk
    cnf := hjwk
    kbHeader := kbHeader
    binding := binding
    possession := hposs
    bound_nonce := hn
    bound_aud := ha
    bound_hash := hhash }, hwin⟩

lemma KeyBoundPresentation.mem_separator {issuerKey : KeyPair} {nonce audience token : String}
    (p : KeyBoundPresentation X issuerKey nonce audience token) : '~' ∈ token.toList := by
  obtain ⟨t, ht⟩ := p.presented_last
  rw [p.token_eq, String.toList_append, ht]
  simp

lemma KeyBoundPresentation.credentialPayload_eq {issuerKey : KeyPair}
    {nonce audience token : String}
    (p : KeyBoundPresentation X issuerKey nonce audience token) :
    credentialPayload X token = some p.credential := by
  obtain ⟨d, hdec, -, hpay, -⟩ := signedAs_iff.mp p.signed
  simp [credentialPayload, p.parts, hdec, hpay, Except.toOption]

/-- One of the two branches verified the token. -/
def Verified (issuerKey : KeyPair) (session : VerifierSession) (token : String) (clock : ℤ)
    (claims : PMap String Json) : Prop :=
  ('~' ∉ token.toList ∧ verifyJwtVp X token issuerKey = .ok claims) ∨
  ('~' ∈ token.toList ∧
    verifySdJwtVp X token issuerKey session.nonce session.request.clientId clock = .ok claims)

lemma conclude_exec_ok {session : VerifierSession} {w : VerifierWorld}
    {verified : Except ResponseError (PMap String Json)} {result : VerificationResult} :
    ((conclude session verified).exec w).1 = .ok result ↔
      ∃ claims, verified = .ok claims ∧ checkQuery session.request.dcqlQuery claims = .ok () ∧
        result = ⟨session.id, claims⟩ := by
  rcases conclude_eq_accept session verified with
    ⟨e, he⟩ | ⟨claims, rfl, hq, hc⟩
  · simp only [he, Prog.exec_ret, reduceCtorEq, false_iff]
    rintro ⟨claims, rfl, hq, -⟩
    simp [conclude, hq, accept] at he
  · simp only [hc, accept, Prog.exec_call, Prog.exec_ret, Except.ok.injEq]
    constructor
    · rintro rfl
      exact ⟨claims, rfl, hq, rfl⟩
    · rintro ⟨claims', hcl, -, rfl⟩
      rw [hcl]

lemma verifyToken_exec_ok {session : VerifierSession} {vpToken : Option Json}
    {issuerKey : KeyPair} {w : VerifierWorld} {result : VerificationResult} :
    ((verifyToken X session vpToken issuerKey).exec w).1 = .ok result ↔
      ∃ token claims, vpToken = some (.str token) ∧
        Verified (X := X) issuerKey session token w.clock claims ∧
        checkQuery session.request.dcqlQuery claims = .ok () ∧
        result = ⟨session.id, claims⟩ := by
  unfold verifyToken
  split
  · simp
  · next token =>
    simp only [Option.some.injEq, Json.str.injEq, Verified]
    split_ifs with hsep
    · have hmem : '~' ∈ token.toList := by simpa [containsChar] using hsep
      simp only [Prog.exec_call, VerifierWorld.readClock, conclude_exec_ok]
      constructor
      · rintro ⟨claims, hver, hq, rfl⟩
        exact ⟨token, claims, rfl, Or.inr ⟨hmem, hver⟩, hq, rfl⟩
      · rintro ⟨t, claims, rfl, ⟨hno, -⟩ | ⟨-, hver⟩, hq, rfl⟩
        · exact absurd hmem hno
        · exact ⟨claims, hver, hq, rfl⟩
    · have hmem : '~' ∉ token.toList := by simpa [containsChar] using hsep
      rw [conclude_exec_ok]
      constructor
      · rintro ⟨claims, hver, hq, rfl⟩
        exact ⟨token, claims, rfl, Or.inl ⟨hmem, hver⟩, hq, rfl⟩
      · rintro ⟨t, claims, rfl, ⟨-, hver⟩ | ⟨hsep, -⟩, hq, rfl⟩
        · exact ⟨claims, hver, hq, rfl⟩
        · exact absurd hsep hmem
  · next v hno =>
    simp only [Prog.exec_ret, reduceCtorEq, false_iff]
    rintro ⟨token, claims, hv, -⟩
    exact hno token (Option.some.inj hv)

lemma verifyToken_plain {session : VerifierSession} {token : String} {issuerKey : KeyPair}
    {claims : PMap String Json} (hsep : '~' ∉ token.toList)
    (hver : verifyJwtVp X token issuerKey = .ok claims)
    (hq : checkQuery session.request.dcqlQuery claims = .ok ()) :
    verifyToken X session (some (.str token)) issuerKey = accept session claims := by
  have hno : containsChar '~' token = false := containsChar_eq_false.mpr hsep
  simp only [verifyToken, hno, Bool.false_eq_true, if_false, conclude, hver, hq]

/-- **When a response is accepted.** -/
lemma processResponse_ok_iff {response : AuthorizationResponse} {issuerKey : KeyPair}
    {w : VerifierWorld} {result : VerificationResult} :
    ((processResponse X response issuerKey).exec w).1 = .ok result ↔
      ∃ session token claims, LiveSession response w session ∧
        response.vpToken = some (.str token) ∧
        Verified (X := X) issuerKey session token w.clock claims ∧
        checkQuery session.request.dcqlQuery claims = .ok () ∧
        result = ⟨session.id, claims⟩ := by
  obtain ⟨vpToken, state⟩ := response
  cases state with
  | none =>
    simp only [processResponse, Prog.exec_ret, reduceCtorEq, false_iff]
    rintro ⟨session, token, claims, ⟨⟨state, hstate, -⟩, -⟩, -⟩
    cases hstate
  | some state =>
    simp only [processResponse, Prog.exec_call, VerifierWorld.getSessionByState]
    cases hs : w.store.getSessionByState state with
    | none =>
      simp only [Prog.exec_ret, reduceCtorEq, false_iff]
      rintro ⟨session, token, claims, ⟨⟨state', hstate, hfound⟩, -⟩, -⟩
      simp only [Option.some.injEq] at hstate
      rw [← hstate, hs] at hfound
      cases hfound
    | some session =>
      -- the session is the one of the `state`, as long as it has not expired
      have hlive : ∀ session', LiveSession ⟨vpToken, some state⟩ w session' ↔
          session' = session ∧ w.clock ≤ session.expiresAt := by
        intro session'
        constructor
        · rintro ⟨⟨state', hstate, hfound⟩, halive⟩
          simp only [Option.some.injEq] at hstate
          rw [← hstate, hs, Option.some.injEq] at hfound
          exact ⟨hfound.symm, hfound ▸ halive⟩
        · rintro ⟨rfl, halive⟩
          exact ⟨⟨state, rfl, hs⟩, halive⟩
      simp only [checkExpiry, Prog.exec_call, VerifierWorld.readClock, hlive]
      by_cases hexp : session.expiresAt < w.clock
      · simp only [hexp, if_true, expire, Prog.exec_call, Prog.exec_ret, reduceCtorEq, false_iff]
        rintro ⟨session', token, claims, ⟨-, halive⟩, -⟩
        omega
      · simp only [hexp, if_false, verifyToken_exec_ok]
        constructor
        · rintro ⟨token, claims, h⟩
          exact ⟨session, token, claims, ⟨rfl, by omega⟩, h⟩
        · rintro ⟨session', token, claims, ⟨rfl, -⟩, h⟩
          exact ⟨token, claims, h⟩

lemma PlainAccepted.not_acceptsOnlyKeyBound {response : AuthorizationResponse}
    {issuerKey : KeyPair} {w : VerifierWorld} (h : PlainAccepted X response issuerKey w) :
    ¬ AcceptsOnlyKeyBound X response issuerKey w := by
  obtain ⟨session, token, claims, hlive, htoken, hsep, hver, hq⟩ := h
  intro hall
  obtain ⟨session', token', -, -, htoken', p, -⟩ := hall ⟨session.id, claims⟩
    (processResponse_ok_iff.mpr
      ⟨session, token, claims, hlive, htoken, Or.inl ⟨hsep, hver⟩, hq, rfl⟩)
  obtain rfl : token = token' := by simpa [htoken] using htoken'
  exact hsep p.mem_separator

/-- A presentation outside a bound that was not read is not inside its window. -/
lemma UnreadAccepted.not_acceptsOnlyKeyBound {response : AuthorizationResponse}
    {issuerKey : KeyPair} {w : VerifierWorld} (h : UnreadAccepted X response issuerKey w) :
    ¬ AcceptsOnlyKeyBound X response issuerKey w := by
  obtain ⟨session, token, claims, payload, hlive, htoken, hsep, hver, hq, hpay, hun⟩ := h
  intro hall
  obtain ⟨session', token', -, -, htoken', p, hwin⟩ := hall ⟨session.id, claims⟩
    (processResponse_ok_iff.mpr
      ⟨session, token, claims, hlive, htoken, Or.inr ⟨hsep, hver⟩, hq, rfl⟩)
  obtain rfl : token = token' := by simpa [htoken] using htoken'
  obtain rfl : p.credential = payload := by
    simpa [p.credentialPayload_eq] using hpay
  rcases hun with ⟨v, hv, -, hb⟩ | ⟨v, hv, -, hb⟩
  · exact hb (hwin.exp v hv)
  · exact hb (hwin.nbf v hv)

/-- **Accepted presentations.** Every accepted response is a key-bound presentation inside
its window exactly when no plain token, and no presentation outside a bound that does not
read as an integer, is accepted. -/
theorem acceptsOnlyKeyBound_iff (response : AuthorizationResponse) (issuerKey : KeyPair)
    (w : VerifierWorld) :
    AcceptsOnlyKeyBound X response issuerKey w ↔
      ¬ PlainAccepted X response issuerKey w ∧ ¬ UnreadAccepted X response issuerKey w := by
  constructor
  · intro h
    exact ⟨fun hp => hp.not_acceptsOnlyKeyBound h, fun hu => hu.not_acceptsOnlyKeyBound h⟩
  · rintro ⟨hplain, hunread⟩ result hok
    obtain ⟨session, token, claims, hlive, htoken, hver, hq, rfl⟩ :=
      processResponse_ok_iff.mp hok
    rcases hver with ⟨hsep, hver⟩ | ⟨hsep, hver⟩
    · exact absurd ⟨session, token, claims, hlive, htoken, hsep, hver, hq⟩ hplain
    · obtain ⟨p, hwin⟩ := verifySdJwtVp_ok hver
      refine ⟨session, token, hlive, rfl, htoken, p, (insideWindow_iff hwin).mpr ?_⟩
      intro hun
      exact hunread ⟨session, token, claims, p.credential, hlive, htoken, hsep, hver, hq,
        p.credentialPayload_eq, hun⟩

/-! ### A plain token -/

section PlainToken

/-- The header, payload and signature of a JWS signed with ES256. -/
def plainHeader : String := "eyJhbGciOiJFUzI1NiJ9"

def plainPayload : String :=
  "eyJpc3MiOiJqb2UiLA0KICJleHAiOjEzMDA4MTkzODAsDQogImh0dHA6Ly9leGFt" ++
  "cGxlLmNvbS9pc19yb290Ijp0cnVlfQ"

def plainSignature : String :=
  "DtEhU3ljbEg8L38VWAfUAqOyKAM6-Xx-F4GawxaepmXFCgfTjDxw5djxLa8ISlSA" ++
  "pmWQxfKTUJqPP3-Kg6NU1Q"

def plainToken : String := plainHeader ++ "." ++ plainPayload ++ "." ++ plainSignature

/-- The claims of the token: it expired in 2011 and has no `cnf`. -/
def plainClaims : Json :=
  .obj [("exp", .num (.posInt 1300819380)), ("http://example.com/is_root", .bool true),
    ("iss", .str "joe")]

def plainHeaderText : String := "\x7b\"alg\":\"ES256\"\x7d"

def plainPayloadText : String :=
  "\x7b\"iss\":\"joe\",\r\n \"exp\":1300819380,\r\n " ++
  "\"http://example.com/is_root\":true\x7d"

def plainVerify (message signature : Bytes) : Except String Unit :=
  only (utf8 (plainHeader ++ "." ++ plainPayload), bytesOf plainSignature) () "signature error"
    (message, signature)

def plainCrates : Crates :=
  { Crates.inert with
    base64UrlEncode := Base64.encode '-' '_'
    base64UrlDecode := decodeBase64Url
    headerFromSlice := only (utf8 plainHeaderText) ⟨"ES256", none, none, none, none⟩
      "expected value"
    jsonFromSlice := only (utf8 plainPayloadText) plainClaims "expected value"
    p256Signature := only (bytesOf plainSignature) () "signature error"
    p256Verify := fun _ => plainVerify }

def plainIssuer : KeyPair :=
  EcdsaP256KeyPair.toKeyPair plainCrates {
    x := bytesOf "f83OJ3D2xF1Bg8vub9tLe1gHMzV76e8Tus9uPHvRVEU"
    y := bytesOf "x_FEzRu9m36HLN_tue659LNpXW6pCyStikYjKIWI5a0"
    trySign := fun _ => .error "signature error" }

def plainSession : VerifierSession where
  id := "1b4e28ba-2fa1-11d2-883f-0016d3cca427"
  nonce := "6fa459ea-ee8a-3ca4-894e-db77e160355e"
  state := "16fd2706-8baf-433b-82eb-8c7fada847da"
  request := {
    responseType := "vp_token"
    clientId := "https://verifier.example.com"
    clientIdScheme := some "redirect_uri"
    responseUri := "https://verifier.example.com/response"
    responseMode := some "direct_post"
    nonce := "6fa459ea-ee8a-3ca4-894e-db77e160355e"
    state := some "16fd2706-8baf-433b-82eb-8c7fada847da"
    dcqlQuery := none }
  createdAt := seconds 1767225600
  expiresAt := seconds 1767226200

def plainWorld : VerifierWorld where
  clock := seconds 1767225660
  store := InMemoryVerifierState.new.storeSession plainSession

def plainResponse : AuthorizationResponse where
  vpToken := some (.str plainToken)
  state := some plainSession.state

lemma plain_base64 {text : String} (h : (Base64.decode '-' '_' text).isSome = true) :
    plainCrates.base64UrlDecode text = .ok (bytesOf text) := decodeBase64Url_eq h

lemma plain_header : plainCrates.headerFromSlice (bytesOf plainHeader) =
    .ok ⟨"ES256", none, none, none, none⟩ := by
  have : bytesOf plainHeader = utf8 plainHeaderText := by decide +kernel
  rw [this]
  exact only_self (utf8 plainHeaderText) _ "expected value"

lemma plain_payload : plainCrates.jsonFromSlice (bytesOf plainPayload) = .ok plainClaims := by
  have : bytesOf plainPayload = utf8 plainPayloadText := by decide +kernel
  rw [this]
  exact only_self (utf8 plainPayloadText) _ "expected value"

lemma plain_decodes :
    decodeCompact plainCrates plainToken = .ok {
      header := ⟨"ES256", none, none, none, none⟩
      payload := bytesOf plainPayload
      signature := bytesOf plainSignature
      signingInput := plainHeader ++ "." ++ plainPayload } :=
  decodeCompact_eq_ok.mpr ⟨plainHeader, plainPayload, plainSignature, bytesOf plainHeader,
    splitn_dots.mpr ⟨rfl, by decide +kernel, by decide +kernel⟩, plain_base64 (by decide +kernel),
    plain_header, plain_base64 (by decide +kernel), plain_base64 (by decide +kernel), rfl⟩

lemma plain_signature : plainIssuer.verify (utf8 (plainHeader ++ "." ++ plainPayload))
    (bytesOf plainSignature) = .ok () := by
  have h1 : plainCrates.p256Signature (bytesOf plainSignature) = .ok () :=
    only_self (bytesOf plainSignature) () "signature error"
  have h2 : ∀ key, plainCrates.p256Verify key = plainVerify := fun _ => rfl
  have h3 : plainVerify (utf8 (plainHeader ++ "." ++ plainPayload)) (bytesOf plainSignature) =
      .ok () := only_self _ _ _
  simp only [plainIssuer, EcdsaP256KeyPair.toKeyPair, h1, h2, h3, bind_eq_ok, mapError_eq_ok,
    exists_unit, and_self]

/-- What the token discloses: all its claims. -/
def plainDisclosed : PMap String Json :=
  ((empty.insert "exp" (.num (.posInt 1300819380))).insert "http://example.com/is_root"
    (.bool true)).insert "iss" (.str "joe")

lemma plain_verifies : verifyJwtVp plainCrates plainToken plainIssuer = .ok plainDisclosed := by
  have hcompact := verifyCompact_eq_ok.mpr ⟨plain_decodes, plain_signature⟩
  simp only [verifyJwtVp, bind_eq_ok, mapError_eq_ok]
  exact ⟨_, hcompact, _, plain_payload, rfl⟩

lemma plain_noSeparator : '~' ∉ plainToken.toList := by
  have hheader : '~' ∉ plainHeader.toList := by decide
  have hpayload : '~' ∉ plainPayload.toList := not_mem_append (by decide +kernel) (by decide +kernel)
  have hsignature : '~' ∉ plainSignature.toList :=
    not_mem_append (by decide +kernel) (by decide +kernel)
  exact not_mem_append (not_mem_append (not_mem_append (not_mem_append hheader (by decide)) hpayload)
    (by decide)) hsignature

lemma plain_found : plainWorld.store.getSessionByState plainSession.state = some plainSession :=
  InMemoryVerifierState.getSessionByState_storeSession plainSession

lemma plain_alive : plainWorld.clock ≤ plainSession.expiresAt := by decide

/-- A token signed by the issuer, expired and bound to nobody, is accepted. -/
theorem plainToken_accepted :
    ¬ AcceptsOnlyKeyBound plainCrates plainResponse plainIssuer plainWorld := by
  exact PlainAccepted.not_acceptsOnlyKeyBound ⟨plainSession, plainToken, plainDisclosed,
    ⟨⟨_, rfl, plain_found⟩, plain_alive⟩, rfl, plain_noSeparator, plain_verifies, rfl⟩

end PlainToken

end Oid4vc.KeyBound
