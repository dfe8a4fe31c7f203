import Oid4vc.Base.Locks
import Oid4vc.Issuer.State
import Oid4vc.Verifier.Session

/-!
How the two in-memory stores take their mutexes.

Each operation of a store is the routine of mutexes it goes through. Run alone it is the
operation; interleaved, two of them can take the same two mutexes in opposite orders.
-/

namespace Oid4vc.StoreLocks

open Oid4vc.PartialMap Oid4vc.Run Oid4vc.Locks Oid4vc.Locks.Routine Oid4vc.Oid4vp
open Oid4vc.IssuerStore Oid4vc.VerifierState

/-! ### The issuer's store -/

namespace Issuer

inductive Mutex
  | sessions
  | codeToUri
  | preAuthCodes
  | accessTokens
  | tokensByCode
  | seenJtis
  | cNonces
  deriving DecidableEq

abbrev Task (α : Type) := Routine Mutex InMemoryIssuerState α

def storeAuthorizationSession (requestUri : String) (session : AuthorizationSession) : Task Unit :=
  guarded .sessions fun s => ((), s.storeAuthorizationSession requestUri session)

def getAuthorizationSession (requestUri : String) : Task (Option AuthorizationSession) :=
  guarded .sessions fun s => (s.getAuthorizationSession requestUri, s)

/-- Holds the sessions while it takes the code map. -/
def setAuthorizationCode (now : ℤ) (requestUri code : String) : Task (Except StateError Unit) :=
  .acquire .sessions
    (fun s => { s with sessions := s.sessions.modify requestUri fun session =>
      { session with authorizationCode := some code, codeIssuedAt := some now } })
    fun s =>
      match s.sessions.get requestUri with
      | some _ =>
        .acquire .codeToUri (fun s => { s with codeToUri := s.codeToUri.insert code requestUri })
          fun _ => .release .codeToUri (.release .sessions (.ret (.ok ())))
      | none => .release .sessions (.ret (.error (.notFound requestUri)))

/-- Holds the code map while it takes the sessions. -/
def getSessionByCode (code : String) : Task (Option AuthorizationSession) :=
  .acquire .codeToUri id fun s =>
    match s.codeToUri.get code with
    | some uri =>
      .acquire .sessions id fun s =>
        .release .sessions (.release .codeToUri (.ret (s.sessions.get uri)))
    | none => .release .codeToUri (.ret none)

/-- Holds the code map while it takes the sessions. -/
def consumeAuthorizationCode (code : String) : Task Unit :=
  .acquire .codeToUri id fun s =>
    match s.codeToUri.get code with
    | some uri =>
      .acquire .sessions
        (fun s => { s with sessions := s.sessions.modify uri fun session =>
          { session with consumed := true } })
        fun _ => .release .sessions (.release .codeToUri (.ret ()))
    | none => .release .codeToUri (.ret ())

def recordTokenForCode (code accessToken : String) : Task Unit :=
  guarded .tokensByCode fun s => ((), s.recordTokenForCode code accessToken)

/-- Lets the token map of the code go before it takes the tokens. -/
def revokeTokensForCode (code : String) : Task Unit :=
  .acquire .tokensByCode (fun s => { s with tokensByCode := s.tokensByCode.remove code }) fun s =>
    .release .tokensByCode <|
      match s.tokensByCode.get code with
      | some token =>
        .acquire .accessTokens (fun s => { s with accessTokens := s.accessTokens.remove token })
          fun _ => .release .accessTokens (.ret ())
      | none => .ret ()

def recordJti (now : ℤ) (key : String) (ttl : ℕ) : Task Bool :=
  guarded .seenJtis fun s => s.recordJti now key ttl

def storePreAuthorizedCode (code : String) (txCode : Option String) (ids : List String) :
    Task Unit :=
  guarded .preAuthCodes fun s => ((), s.storePreAuthorizedCode code txCode ids)

def redeemPreAuthorizedCode (code : String) (txCode : Option String) :
    Task (Option (List String)) :=
  guarded .preAuthCodes fun s => s.redeemPreAuthorizedCode code txCode

def storeAccessToken (now : ℤ) (token : String) (grant : AccessGrant) (expiresIn : ℕ) :
    Task Unit :=
  guarded .accessTokens fun s => ((), s.storeAccessToken now token grant expiresIn)

def getAccessGrant (now : ℤ) (token : String) : Task (Option AccessGrant) :=
  guarded .accessTokens fun s => s.getAccessGrant now token

def storeCNonce (now : ℤ) (nonce : String) (expiresIn : ℕ) : Task Unit :=
  guarded .cNonces fun s => ((), s.storeCNonce now nonce expiresIn)

def consumeCNonce (now : ℤ) (nonce : String) : Task Bool :=
  guarded .cNonces fun s => s.consumeCNonce now nonce

/-- An operation with its arguments. -/
inductive Op
  | storeAuthorizationSession (requestUri : String) (session : AuthorizationSession)
  | getAuthorizationSession (requestUri : String)
  | setAuthorizationCode (now : ℤ) (requestUri code : String)
  | getSessionByCode (code : String)
  | consumeAuthorizationCode (code : String)
  | recordTokenForCode (code accessToken : String)
  | revokeTokensForCode (code : String)
  | recordJti (now : ℤ) (key : String) (ttl : ℕ)
  | storePreAuthorizedCode (code : String) (txCode : Option String) (ids : List String)
  | redeemPreAuthorizedCode (code : String) (txCode : Option String)
  | storeAccessToken (now : ℤ) (token : String) (grant : AccessGrant) (expiresIn : ℕ)
  | getAccessGrant (now : ℤ) (token : String)
  | storeCNonce (now : ℤ) (nonce : String) (expiresIn : ℕ)
  | consumeCNonce (now : ℤ) (nonce : String)

def Op.routine : Op → Task Unit
  | .storeAuthorizationSession uri session => Issuer.storeAuthorizationSession uri session
  | .getAuthorizationSession uri => (Issuer.getAuthorizationSession uri).forget
  | .setAuthorizationCode now uri code => (Issuer.setAuthorizationCode now uri code).forget
  | .getSessionByCode code => (Issuer.getSessionByCode code).forget
  | .consumeAuthorizationCode code => Issuer.consumeAuthorizationCode code
  | .recordTokenForCode code token => Issuer.recordTokenForCode code token
  | .revokeTokensForCode code => Issuer.revokeTokensForCode code
  | .recordJti now key ttl => (Issuer.recordJti now key ttl).forget
  | .storePreAuthorizedCode code txCode ids => Issuer.storePreAuthorizedCode code txCode ids
  | .redeemPreAuthorizedCode code txCode => (Issuer.redeemPreAuthorizedCode code txCode).forget
  | .storeAccessToken now token grant ttl => Issuer.storeAccessToken now token grant ttl
  | .getAccessGrant now token => (Issuer.getAccessGrant now token).forget
  | .storeCNonce now nonce ttl => Issuer.storeCNonce now nonce ttl
  | .consumeCNonce now nonce => (Issuer.consumeCNonce now nonce).forget

/-- The mutexes one of which is taken while the other is held. -/
def Nested (a b : Mutex) : Prop :=
  (a = .sessions ∧ b = .codeToUri) ∨ (a = .codeToUri ∧ b = .sessions)

lemma nested_back {a b d : Mutex} (h : Nested a b) (h' : Nested b d) : d = a := by
  rcases h with ⟨rfl, rfl⟩ | ⟨rfl, rfl⟩ <;> rcases h' with ⟨h₁, rfl⟩ | ⟨h₁, rfl⟩ <;>
    first | rfl | cases h₁

/-- Every operation holds at most the sessions and the code map at once. -/
lemma nests_routine (op : Op) : Nests Nested [] op.routine := by
  cases op with
  | setAuthorizationCode now uri code =>
    refine nests_forget.mpr ⟨by simp, by simp, fun s => ?_⟩
    dsimp only
    split <;> simp [Nests, Nested, Releases]
  | getSessionByCode code =>
    refine nests_forget.mpr ⟨by simp, by simp, fun s => ?_⟩
    dsimp only
    split <;> simp [Nests, Nested, Releases]
  | consumeAuthorizationCode code =>
    refine ⟨by simp, by simp, fun s => ?_⟩
    dsimp only
    split <;> simp [Nests, Nested, Releases]
  | revokeTokensForCode code =>
    refine ⟨by simp, by simp, fun s => ⟨by simp, by simp, ?_⟩⟩
    split <;> simp [Nests]
  | storeAuthorizationSession | recordTokenForCode | storePreAuthorizedCode | storeAccessToken
  | storeCNonce => exact nests_guarded _ _ _
  | getAuthorizationSession | recordJti | redeemPreAuthorizedCode | getAccessGrant
  | consumeCNonce => exact nests_forget.mpr (nests_guarded _ _ _)

/-- **Alone, a routine is the operation.** -/
theorem exec_setAuthorizationCode (now : ℤ) (uri code : String) (s : InMemoryIssuerState) :
    (setAuthorizationCode now uri code).exec s = s.setAuthorizationCode now uri code := by
  unfold setAuthorizationCode InMemoryIssuerState.setAuthorizationCode
  rw [exec_acquire]
  cases h : s.sessions.get uri with
  | none =>
    have hsame : (s.sessions.modify uri fun session =>
        { session with authorizationCode := some code, codeIssuedAt := some now }) =
          s.sessions := by
      ext k : 1
      rw [get_modify]
      split_ifs with hk
      · rw [hk, h, Option.map_none]
      · rfl
    simp [hsame]
  | some session =>
    have hsame : (s.sessions.modify uri fun session =>
        { session with authorizationCode := some code, codeIssuedAt := some now }) =
          s.sessions.insert uri
            { session with authorizationCode := some code, codeIssuedAt := some now } := by
      ext k : 1
      rw [get_modify, get_insert, h, Option.map_some]
    simp [hsame]

theorem exec_getSessionByCode (code : String) (s : InMemoryIssuerState) :
    (getSessionByCode code).exec s = (s.getSessionByCode code, s) := by
  unfold getSessionByCode InMemoryIssuerState.getSessionByCode
  rw [exec_acquire]
  cases h : s.codeToUri.get code with
  | none => simp
  | some uri => simp

theorem exec_consumeAuthorizationCode (code : String) (s : InMemoryIssuerState) :
    (consumeAuthorizationCode code).exec s = ((), s.consumeAuthorizationCode code) := by
  unfold consumeAuthorizationCode InMemoryIssuerState.consumeAuthorizationCode
  rw [exec_acquire]
  cases h : s.codeToUri.get code with
  | none => simp
  | some uri => simp

theorem exec_revokeTokensForCode (code : String) (s : InMemoryIssuerState) :
    (revokeTokensForCode code).exec s = ((), s.revokeTokensForCode code) := by
  unfold revokeTokensForCode InMemoryIssuerState.revokeTokensForCode
  rw [exec_acquire, exec_release]
  cases h : s.tokensByCode.get code with
  | none =>
    have hsame : s.tokensByCode.remove code = s.tokensByCode := by
      ext k : 1
      rw [get_remove]
      split_ifs with hk
      · rw [hk, h]
      · rfl
    simp [hsame]
  | some token => simp

end Issuer

/-! ### The verifier's store -/

namespace Verifier

inductive Mutex
  | sessions
  | stateToId
  deriving DecidableEq

abbrev Task (α : Type) := Routine Mutex InMemoryVerifierState α

/-- Holds the sessions while it takes the state map. -/
def storeSession (session : VerifierSession) : Task Unit :=
  .acquire .sessions id fun _ =>
    .acquire .stateToId (fun s => s.storeSession session) fun _ =>
      .release .stateToId (.release .sessions (.ret ()))

def getSession (id : String) : Task (Option VerifierSession) :=
  guarded .sessions fun s => (s.getSession id, s)

/-- Holds the state map while it takes the sessions. -/
def getSessionByState (state : String) : Task (Option VerifierSession) :=
  .acquire .stateToId id fun s =>
    match s.stateToId.get state with
    | some i =>
      .acquire .sessions id fun s =>
        .release .sessions (.release .stateToId (.ret (s.sessions.get i)))
    | none => .release .stateToId (.ret none)

/-- Holds the sessions while it takes the state map. -/
def deleteSession (id : String) : Task Unit :=
  .acquire .sessions (fun s => { s with sessions := s.sessions.remove id }) fun s =>
    match s.sessions.get id with
    | some session =>
      .acquire .stateToId
        (fun s => { s with stateToId := s.stateToId.remove session.state })
        fun _ => .release .stateToId (.release .sessions (.ret ()))
    | none => .release .sessions (.ret ())

/-- An operation with its arguments. -/
inductive Op
  | storeSession (session : VerifierSession)
  | getSession (id : String)
  | getSessionByState (state : String)
  | deleteSession (id : String)

def Op.routine : Op → Task Unit
  | .storeSession session => Verifier.storeSession session
  | .getSession id => (Verifier.getSession id).forget
  | .getSessionByState state => (Verifier.getSessionByState state).forget
  | .deleteSession id => Verifier.deleteSession id

/-- Each mutex is taken while the other is held. -/
def Nested (a b : Mutex) : Prop := a ≠ b

lemma nested_back {a b d : Mutex} (h : Nested a b) (h' : Nested b d) : d = a := by
  cases a <;> cases b <;> cases d <;> first | rfl | exact absurd rfl h | exact absurd rfl h'

lemma nests_routine (op : Op) : Nests Nested [] op.routine := by
  cases op with
  | storeSession session => simp [Op.routine, storeSession, Nests, Nested, Releases]
  | getSession id => exact nests_forget.mpr (nests_guarded _ _ _)
  | getSessionByState state =>
    refine nests_forget.mpr ⟨by simp, by simp, fun s => ?_⟩
    dsimp only
    split <;> simp [Nests, Nested, Releases]
  | deleteSession id =>
    refine ⟨by simp, by simp, fun s => ?_⟩
    dsimp only
    split <;> simp [Nests, Nested, Releases]

theorem exec_storeSession (session : VerifierSession) (s : InMemoryVerifierState) :
    (storeSession session).exec s = ((), s.storeSession session) := rfl

theorem exec_getSessionByState (state : String) (s : InMemoryVerifierState) :
    (getSessionByState state).exec s = (s.getSessionByState state, s) := by
  unfold getSessionByState InMemoryVerifierState.getSessionByState
  rw [exec_acquire]
  cases h : s.stateToId.get state with
  | none => simp
  | some i => simp

theorem exec_deleteSession (id : String) (s : InMemoryVerifierState) :
    (deleteSession id).exec s = ((), s.deleteSession id) := by
  unfold deleteSession
  rw [exec_acquire]
  have hsessions := InMemoryVerifierState.sessions_deleteSession (s := s) id
  unfold InMemoryVerifierState.deleteSession at hsessions ⊢
  cases h : s.sessions.get id with
  | none =>
    rw [h] at hsessions
    simp [← hsessions]
  | some session => simp

end Verifier

/-! ### Deadlocks -/

/-- No state of the run has threads that wait for each other in a circle. -/
def NeverDeadlocks {μ σ ω : Type} [DecidableEq μ] (ops : ω → Routine μ σ Unit) (s : σ)
    (es : List (Event ω)) : Prop :=
  ∀ before after, es = before ++ after → ¬ (run (machine ops) (Config.idle s) before).Deadlocked

/-- No step of the run takes a mutex that another thread waits for while it holds the one
that the first will need. -/
def NeverCrosses {μ σ ω : Type} [DecidableEq μ] (ops : ω → Routine μ σ Unit) (s : σ)
    (es : List (Event ω)) : Prop :=
  Every (machine ops) (fun c e => ¬ Crosses c e) (Config.idle s) es

/-- **Which runs of the stores deadlock.** From any contents, with any number of threads, a
run of either store never deadlocks just if none of its steps crosses. -/
theorem neverDeadlocks_iff (issuer : InMemoryIssuerState) (calls : List (Event Issuer.Op))
    (verifier : InMemoryVerifierState) (calls' : List (Event Verifier.Op)) :
    (NeverDeadlocks Issuer.Op.routine issuer calls ↔
      NeverCrosses Issuer.Op.routine issuer calls) ∧
    (NeverDeadlocks Verifier.Op.routine verifier calls' ↔
      NeverCrosses Verifier.Op.routine verifier calls') :=
  ⟨never_deadlocked_iff Issuer.nested_back Issuer.nests_routine issuer calls,
    never_deadlocked_iff Verifier.nested_back Verifier.nests_routine verifier calls'⟩

/-- An authorization session, as a pushed request leaves it. -/
def pushedSession : AuthorizationSession where
  requestUri := "urn:ietf:params:oauth:request_uri:1"
  authorizationCode := none
  codeChallenge := "E9Melhoa2OwvFrEMTJguCHaoeK1t8URWbuGJSstw-cM"
  clientId := "wallet"
  redirectUri := "https://wallet.example.org/cb"
  credentialConfigurationIds := []
  viaAuthorizationDetails := false
  issuerState := none
  clientState := none
  createdAt := 0
  codeIssuedAt := none
  dpopJkt := none
  consumed := false

/-- One thread gives the session a code, and gives it another while a second thread redeems
the first. -/
def codeRace : List (Event Issuer.Op) :=
  let uri := pushedSession.requestUri
  [.start 0 (.storeAuthorizationSession uri pushedSession), .advance 0, .advance 0,
    .start 0 (.setAuthorizationCode 0 uri "code-1"), .advance 0, .advance 0, .advance 0, .advance 0,
    .start 0 (.setAuthorizationCode 1 uri "code-2"), .start 1 (.getSessionByCode "code-1"),
    .advance 0, .advance 1]

def presentationSession : VerifierSession where
  id := "session-1"
  nonce := "nonce-1"
  state := "state-1"
  request := ⟨"vp_token", "https://verifier.example.org", none, "https://verifier.example.org/cb",
    some "direct_post", "nonce-1", some "state-1", none⟩
  createdAt := 0
  expiresAt := 300000000000

/-- One thread stores a session, and stores another while a second thread looks the first up. -/
def responseRace : List (Event Verifier.Op) :=
  [.start 0 (.storeSession presentationSession), .advance 0, .advance 0, .advance 0, .advance 0,
    .start 0 (.storeSession { presentationSession with id := "session-2", state := "state-2" }),
    .start 1 (.getSessionByState "state-1"), .advance 0, .advance 1]

/-- **The stores deadlock.** Each of them, from its empty state. -/
theorem races_deadlock :
    (run (machine Issuer.Op.routine) (Config.idle InMemoryIssuerState.new) codeRace).Deadlocked ∧
      (run (machine Verifier.Op.routine) (Config.idle InMemoryVerifierState.new)
        responseRace).Deadlocked :=
  ⟨Config.Crossing.deadlocked (t := 0) (u := 1)
      ⟨by decide, ⟨.codeToUri, _, _, rfl, rfl⟩, .sessions, _, _, rfl, rfl⟩,
    Config.Crossing.deadlocked (t := 0) (u := 1)
      ⟨by decide, ⟨.stateToId, _, _, rfl, rfl⟩, .sessions, _, _, rfl, rfl⟩⟩

end Oid4vc.StoreLocks
