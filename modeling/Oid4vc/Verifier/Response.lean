import Oid4vc.Base.Atomic
import Oid4vc.Crypto.SdJwt
import Oid4vc.Verifier.Dcql
import Oid4vc.Verifier.Session

/-!
VP token response validation.

The response is a program over the session store and the clock: it looks its session up,
reads the clock, verifies the presentation, and deletes the session.
-/

namespace Oid4vc.Response

open Oid4vc.JsonValue Oid4vc.Text Oid4vc.Fallible Oid4vc.PartialMap Oid4vc.Atomic
open Oid4vc.External Oid4vc.Keys Oid4vc.Jws Oid4vc.SdJwt Oid4vc.Oid4vp Oid4vc.VerifierState
open Oid4vc.Dcql

inductive ResponseError
  | missingVpToken
  | invalidState
  | sessionExpired
  | nonceMismatch
  | keyBindingFailed (msg : String)
  | verificationFailed (msg : String)
  | queryNotSatisfied (msg : String)
  | stateError (msg : String)
  deriving DecidableEq

def ResponseError.toString : ResponseError → String
  | .missingVpToken => "missing vp_token"
  | .invalidState => "invalid state: session not found"
  | .sessionExpired => "session expired"
  | .nonceMismatch => "nonce mismatch"
  | .keyBindingFailed msg => "key binding verification failed: " ++ msg
  | .verificationFailed msg => "credential verification failed: " ++ msg
  | .queryNotSatisfied msg => "presentation does not satisfy the request: " ++ msg
  | .stateError msg => "state error: " ++ msg

/-- Result of VP token verification. -/
structure VerificationResult where
  sessionId : String
  disclosedClaims : PMap String Json

/-- What the verifier's handlers share: the clock and the session store. -/
structure VerifierWorld where
  clock : ℤ
  store : InMemoryVerifierState

namespace VerifierWorld

def readClock (w : VerifierWorld) : ℤ × VerifierWorld := (w.clock, w)

def getSessionByState (state : String) (w : VerifierWorld) :
    Option VerifierSession × VerifierWorld :=
  (w.store.getSessionByState state, w)

def deleteSession (id : String) (w : VerifierWorld) : Unit × VerifierWorld :=
  ((), { w with store := w.store.deleteSession id })

end VerifierWorld

variable (X : Crates)

/-- The verifier's reading of a key binding failure: one that speaks of the nonce is a
nonce mismatch. -/
def keyBindingError : SdJwtError → ResponseError
  | .keyBinding msg =>
    if containsStr msg "nonce" then .nonceMismatch
    else .keyBindingFailed (SdJwtError.keyBinding msg).toString
  | other => .keyBindingFailed other.toString

/-- Verify an SD-JWT VC presentation, including holder key binding. -/
def verifySdJwtVp (sdJwt : String) (issuerKey : KeyPair)
    (expectedNonce expectedAudience : String) (clock : ℤ) :
    Except ResponseError (PMap String Json) := do
  let verified ← (verifySdJwtVc X sdJwt issuerKey clock).mapError
    fun e => .verificationFailed e.toString
  let holderJwk ← okOr
    (.keyBindingFailed
      "credential has no 'cnf' claim, so holder possession cannot be proven")
    verified.holderJwk
  (verifyKeyBinding X sdJwt holderJwk expectedNonce expectedAudience).mapError keyBindingError
  pure verified.claims

def verifyJwtVp (jwt : String) (issuerKey : KeyPair) :
    Except ResponseError (PMap String Json) := do
  let decoded ← (verifyCompact X jwt issuerKey).mapError
    fun e => .verificationFailed e.toString
  let payload ← (X.jsonFromSlice decoded.payload).mapError .verificationFailed
  match payload with
  | .obj members => pure (members.foldl (fun claims m => claims.insert m.1 m.2) empty)
  | _ => pure empty

/-- The presentation must answer every credential query that was asked. -/
def checkQueries (claims : PMap String Json) : List CredentialQuery → Except ResponseError Unit
  | [] => .ok ()
  | query :: queries => do
    ensure (evaluateCredentialQuery query claims)
      (.queryNotSatisfied ("credential query '" ++ query.id ++ "' is unsatisfied"))
    checkQueries claims queries

def checkQuery (query : Option DcqlQuery) (claims : PMap String Json) :
    Except ResponseError Unit :=
  match query with
  | none => .ok ()
  | some query => checkQueries claims query.credentials

abbrev Answer := Except ResponseError VerificationResult

/-- The last step of an accepted response: clean up the session and answer. -/
def accept (session : VerifierSession) (claims : PMap String Json) : Prog VerifierWorld Answer :=
  .call (VerifierWorld.deleteSession session.id) fun _ =>
    .ret (.ok ⟨session.id, claims⟩)

/-- The session is spent by time: clean it up and refuse. -/
def expire (session : VerifierSession) : Prog VerifierWorld Answer :=
  .call (VerifierWorld.deleteSession session.id) fun _ => .ret (.error .sessionExpired)

/-- With the presentation verified or not, does it answer the query? -/
def conclude (session : VerifierSession) (verified : Except ResponseError (PMap String Json)) :
    Prog VerifierWorld Answer :=
  match verified with
  | .error e => .ret (.error e)
  | .ok claims =>
    match checkQuery session.request.dcqlQuery claims with
    | .error e => .ret (.error e)
    | .ok () => accept session claims

/-- Determine the credential format and verify. -/
def verifyToken (session : VerifierSession) (vpToken : Option Json) (issuerKey : KeyPair) :
    Prog VerifierWorld Answer :=
  match vpToken with
  | none => .ret (.error .missingVpToken)
  | some (.str token) =>
    if containsChar '~' token then
      .call VerifierWorld.readClock fun clock =>
        conclude session
          (verifySdJwtVp X token issuerKey session.nonce session.request.clientId clock)
    else conclude session (verifyJwtVp X token issuerKey)
  | some _ => .ret (.error (.verificationFailed "unsupported vp_token format"))

def checkExpiry (session : VerifierSession) (vpToken : Option Json) (issuerKey : KeyPair) :
    Prog VerifierWorld Answer :=
  .call VerifierWorld.readClock fun now =>
    if session.expiresAt < now then expire session else verifyToken X session vpToken issuerKey

/-- Process an OID4VP authorization response. -/
def processResponse (response : AuthorizationResponse) (issuerKey : KeyPair) :
    Prog VerifierWorld Answer :=
  match response.state with
  | none => .ret (.error .invalidState)
  | some state =>
    .call (VerifierWorld.getSessionByState state) fun
      | none => .ret (.error .invalidState)
      | some session => checkExpiry X session response.vpToken issuerKey

lemma checkQueries_eq_ok {claims : PMap String Json} {queries : List CredentialQuery} :
    checkQueries claims queries = .ok () ↔
      ∀ q ∈ queries, evaluateCredentialQuery q claims = true := by
  induction queries with
  | nil => simp [checkQueries]
  | cons q qs ih => simp [checkQueries, ih]

/-- **Only accepted presentations are concluded.** A program that concludes accepts exactly
a verified presentation that satisfies the query. -/
theorem conclude_eq_accept (session : VerifierSession)
    (verified : Except ResponseError (PMap String Json)) :
    (∃ e, conclude session verified = .ret (.error e)) ∨
      ∃ claims, verified = .ok claims ∧ checkQuery session.request.dcqlQuery claims = .ok () ∧
        conclude session verified = accept session claims := by
  unfold conclude
  cases verified with
  | error e => exact Or.inl ⟨e, rfl⟩
  | ok claims =>
    cases hq : checkQuery session.request.dcqlQuery claims with
    | error e => exact Or.inl ⟨e, by simp only [hq]⟩
    | ok u => exact Or.inr ⟨claims, rfl, hq, by simp only [hq]⟩

end Oid4vc.Response
