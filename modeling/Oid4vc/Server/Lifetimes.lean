import Oid4vc.Issuer.Endpoints
import Oid4vc.Issuer.Redemption
import Oid4vc.Server.Authorize
import Oid4vc.Verifier.KeyBound

/-!
How long the artifacts of the two protocols are accepted.

Each operation compares the age of its artifact with its lifetime in a unit of its own. Where that
is the whole second, the artifact outlives its lifetime by the fraction of a second that is not
counted.
-/

namespace Oid4vc.Lifetimes

open Oid4vc.Fallible Oid4vc.PartialMap Oid4vc.Instant Oid4vc.External Oid4vc.Keys Oid4vc.Oid4vci
open Oid4vc.Oid4vp Oid4vc.IssuerStore Oid4vc.VerifierState Oid4vc.Authorization Oid4vc.Token
open Oid4vc.Endpoints Oid4vc.Authorize Oid4vc.Response Oid4vc.KeyBound

/-- A `request_uri` that is stored, and somebody who uses it. -/
structure RequestUriUse where
  world : IssuerWorld
  requestUri : String
  clientId : Option String
  session : AuthorizationSession
  stored : world.store.getAuthorizationSession requestUri = some session

/-- An authorization code that was issued, and a token request that carries it. -/
structure CodeUse where
  world : IssuerWorld
  code : String
  request : TokenRequest
  ctx : TokenContext
  session : AuthorizationSession
  issuedAt : ℤ
  carries : Redeems request code
  stored : world.store.getSessionByCode code = some session
  issued : session.codeIssuedAt = some issuedAt

/-- A nonce that was stored at an instant of the calendar. -/
structure NonceUse where
  store : InMemoryIssuerState
  nonce : String
  entry : NonceEntry
  stored : store.cNonces.get nonce = some entry
  created : Representable entry.createdAt

/-- An access token that was stored at this instant, to expire after so many seconds. -/
structure TokenUse where
  store : InMemoryIssuerState
  token : String
  grant : AccessGrant
  storedAt : ℤ
  expiresIn : ℕ
  stored : store.accessTokens.get token = some ⟨grant, storedAt + seconds expiresIn⟩

/-- A verifier session that is stored, and a response to it. -/
structure SessionUse where
  world : VerifierWorld
  response : AuthorizationResponse
  issuerKey : KeyPair
  state : String
  session : VerifierSession
  answers : response.state = some state
  stored : world.store.getSessionByState state = some session

/-- An artifact with a lifetime, and its use. -/
inductive Use
  | requestUri (u : RequestUriUse)
  | code (u : CodeUse)
  | nonce (u : NonceUse)
  | token (u : TokenUse)
  | session (u : SessionUse)

namespace Use

/-- The instant at which the artifact was created, and its lifetime later. -/
def ends : Use → ℤ
  | requestUri u => u.session.createdAt + seconds requestUriTtlSecs
  | code u => u.issuedAt + seconds authorizationCodeTtlSecs
  | nonce u => u.entry.createdAt + seconds u.entry.expiresIn
  | token u => u.storedAt + seconds u.expiresIn
  | session u => u.session.expiresAt

/-- The artifact is accepted at this instant. -/
def AcceptedAt (X : Crates) (t : ℤ) : Use → Prop
  | requestUri u =>
    ∃ session, resolveRequestUri (some u.requestUri) u.clientId { u.world with clock := t } = .ok session
  | code u =>
    ∃ r, ((processTokenRequest X u.request u.ctx).exec { u.world with clock := t }).1 = .ok r
  | nonce u => (u.store.consumeCNonce t u.nonce).1 = true
  | token u => ((u.store.getAccessGrant t u.token).1).isSome = true
  | session u =>
    ∃ r, ((processResponse X u.response u.issuerKey).exec { u.world with clock := t }).1 = .ok r

end Use

variable (X : Crates)

/-- The artifact is not accepted at this instant if its lifetime is over. -/
def LifetimeKept (u : Use) (t : ℤ) : Prop := u.ends < t → ¬ u.AcceptedAt X t

/-- A code that is unused, presented by the one it is bound to. -/
def Redeemable (u : CodeUse) : Prop :=
  u.session.consumed = false ∧ ∃ clientId, u.ctx.authenticatedClient = some clientId ∧
    (∀ param ∈ u.request.clientId, param = clientId) ∧ Entitled X u.request u.ctx clientId u.session

/-- A nonce, or a redeemable code, within the second after its lifetime. -/
def WithinLastSecond (t : ℤ) : Use → Prop
  | .code u => Redeemable X u ∧ Use.ends (.code u) < t ∧ t < Use.ends (.code u) + seconds 1
  | .nonce u => Use.ends (.nonce u) < t ∧ t < Use.ends (.nonce u) + seconds 1
  | _ => False

variable {X} {t : ℤ}

/-- Milliseconds are exact: the lifetime ends with one. -/
lemma requestUri_lt {u : RequestUriUse} (h : (Use.requestUri u).AcceptedAt X t) :
    t < (Use.requestUri u).ends := by
  obtain ⟨session, hok⟩ := h
  simp only [resolveRequestUri, bind_eq_ok, okOr_eq_ok, ensure_eq_ok, exists_unit, pure_eq_ok] at hok
  obtain ⟨uri, huri, found, hfound, -, hage, -⟩ := hok
  rw [Option.some.injEq] at huri
  rw [← huri, u.stored, Option.some.injEq] at hfound
  rw [← hfound] at hage
  have hms := mt (le_numMilliseconds_iff (d := t - u.session.createdAt) (n := requestUriTtlSecs * 1000)
    (by decide)).mpr (by simpa using hage)
  have hends : (Use.requestUri u).ends = u.session.createdAt + seconds requestUriTtlSecs := rfl
  rw [hends, seconds]
  push_cast at hms
  omega

/-- An authorization code is accepted for a second more. -/
lemma code_acceptedAt_iff {u : CodeUse} : (Use.code u).AcceptedAt X t ↔
    Redeemable X u ∧ t < (Use.code u).ends + seconds 1 := by
  have hends : (Use.code u).ends + seconds 1 = u.issuedAt + seconds (authorizationCodeTtlSecs + 1) := by
    have hcode : (Use.code u).ends = u.issuedAt + seconds authorizationCodeTtlSecs := rfl
    rw [hcode]
    unfold seconds
    omega
  rw [hends]
  refine (redeems_ok_iff u.carries _).trans ?_
  constructor
  · rintro ⟨clientId, session, issuedAt, hclient, hparam, hsession, hunused, hissued, hlt, hentitled⟩
    have hsame : u.session = session := by
      have := u.stored.symm.trans hsession
      rwa [Option.some.injEq] at this
    rw [← hsame] at hunused hissued hentitled
    rw [u.issued, Option.some.injEq] at hissued
    rw [hissued]
    exact ⟨⟨hunused, clientId, hclient, hparam, hentitled⟩, hlt⟩
  · rintro ⟨⟨hunused, clientId, hclient, hparam, hentitled⟩, hlt⟩
    exact ⟨clientId, u.session, u.issuedAt, hclient, hparam, u.stored, hunused, u.issued, hlt, hentitled⟩

/-- The age of what was created earlier is its seconds, which do not wrap around. -/
lemma elapsedSeconds_le_iff {created : ℤ} {n : ℕ} (hcreated : Representable created)
    (ht : Representable t) (hle : created ≤ t) :
    InMemoryIssuerState.elapsedSeconds (t - created) ≤ n ↔ t < created + seconds (n + 1) := by
  have hnonneg : numSeconds (t - created) = (t - created) / 1000000000 :=
    Int.tdiv_eq_ediv_of_nonneg (by omega)
  have hsmall : numSeconds (t - created) % 2 ^ 64 = numSeconds (t - created) := by
    apply Int.emod_eq_of_lt
    · rw [hnonneg]
      omega
    · obtain ⟨hlow, -⟩ := hcreated
      obtain ⟨-, hhigh⟩ := ht
      rw [hnonneg]
      unfold timestamp at hlow hhigh
      omega
  have hseconds := numSeconds_le_iff (d := t - created) (n := n)
  unfold InMemoryIssuerState.elapsedSeconds
  rw [hsmall, Int.toNat_le, hseconds]
  omega

lemma nonce_acceptedAt_iff {u : NonceUse} (ht : Representable t) (h : (Use.nonce u).ends < t) :
    (Use.nonce u).AcceptedAt X t ↔ t < (Use.nonce u).ends + seconds 1 := by
  have hends : (Use.nonce u).ends = u.entry.createdAt + seconds u.entry.expiresIn := rfl
  rw [hends] at h ⊢
  have hle : u.entry.createdAt ≤ t := by
    unfold seconds at h
    omega
  unfold Use.AcceptedAt InMemoryIssuerState.consumeCNonce
  simp only [u.stored, decide_eq_true_eq]
  rw [elapsedSeconds_le_iff u.created ht hle]
  unfold seconds
  omega

lemma token_lt {u : TokenUse} (h : (Use.token u).AcceptedAt X t) : t < (Use.token u).ends := by
  unfold Use.AcceptedAt InMemoryIssuerState.getAccessGrant at h
  simp only [u.stored] at h
  split_ifs at h with hlt
  · exact hlt
  · simp at h

lemma session_le {u : SessionUse} (h : (Use.session u).AcceptedAt X t) : t ≤ (Use.session u).ends := by
  obtain ⟨r, hr⟩ := h
  obtain ⟨session, -, -, ⟨⟨state, hstate, hfound⟩, halive⟩, -⟩ := processResponse_ok_iff.mp hr
  rw [u.answers, Option.some.injEq] at hstate
  rw [← hstate] at hfound
  have hsame : u.session = session := by
    have := u.stored.symm.trans hfound
    rwa [Option.some.injEq] at this
  have hends : (Use.session u).ends = session.expiresAt := by rw [← hsame]; rfl
  rw [hends]
  exact halive

/-- **Lifetimes.** An artifact is not accepted after its lifetime, unless it is a nonce or a
redeemable code and less than a second has passed since. -/
theorem lifetimeKept_iff (X : Crates) (u : Use) (t : ℤ) (ht : Representable t) :
    LifetimeKept X u t ↔ ¬ WithinLastSecond X t u := by
  unfold LifetimeKept
  cases u with
  | requestUri u =>
    refine iff_of_true (fun hends h => ?_) id
    have := requestUri_lt h
    omega
  | code u =>
    rw [code_acceptedAt_iff]
    simp only [WithinLastSecond]
    grind
  | nonce u =>
    simp only [WithinLastSecond, not_and]
    exact forall_congr' fun hends => by rw [nonce_acceptedAt_iff ht hends]
  | token u =>
    refine iff_of_true (fun hends h => ?_) id
    have := token_lt h
    omega
  | session u =>
    refine iff_of_true (fun hends h => ?_) id
    have := session_le h
    omega

section HalfSecond

open Oid4vc.Redemption

/-- A nonce of five minutes. -/
def storedNonce : NonceUse where
  store := InMemoryIssuerState.new.storeCNonce (seconds 1767225600)
    "a3bb189e-8bf9-4888-9912-ace4e6543002" 300
  nonce := "a3bb189e-8bf9-4888-9912-ace4e6543002"
  entry := ⟨seconds 1767225600, 300⟩
  stored := get_insert_self _ _ _
  created := by decide

def presentedCode : CodeUse where
  world := codeWorld
  code := issuedCode
  request := codeRequest.request
  ctx := codeRequest.ctx
  session := codeSession
  issuedAt := seconds 1767225600
  carries := ⟨rfl, rfl⟩
  stored := code_found
  issued := rfl

/-- Half a second after the end of its lifetime the nonce is accepted, and so is the code. -/
theorem halfSecond_late :
    ¬ LifetimeKept codeCrates (.nonce storedNonce) (seconds 1767225900 + 500000000) ∧
      ¬ LifetimeKept codeCrates (.code presentedCode) (seconds 1767225660 + 500000000) := by
  constructor
  · exact fun h => h (by decide) ((nonce_acceptedAt_iff (by decide) (by decide)).mpr (by decide))
  · have hpkce : verifyPkce codeCrates codeVerifier codeChallenge = true := by
      simp [verifyPkce, codeCrates]
    have hredeemable : Redeemable codeCrates presentedCode :=
      ⟨rfl, _, rfl, by simp [presentedCode, codeRequest], rfl, rfl, ⟨_, rfl, hpkce⟩, _, rfl,
        by simp [presentedCode, codeSession]⟩
    exact fun h => h (by decide) (code_acceptedAt_iff.mpr ⟨hredeemable, by decide⟩)

/-- A second after the end of its lifetime the nonce is refused. -/
theorem second_late :
    LifetimeKept codeCrates (.nonce storedNonce) (seconds 1767225901) :=
  (lifetimeKept_iff codeCrates (.nonce storedNonce) (seconds 1767225901) (by decide)).mpr
    fun h => absurd h.2 (by decide)

end HalfSecond

end Oid4vc.Lifetimes
