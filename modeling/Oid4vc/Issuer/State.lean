import Oid4vc.Base.Instant
import Oid4vc.Base.PartialMap

/-!
The issuer's store: authorization sessions and their codes, pre-authorized codes, access
tokens, one-time identifiers and nonces.

Every operation takes the instant at which it reads the clock, if it reads it.
-/

namespace Oid4vc.IssuerStore

open Oid4vc.PartialMap Oid4vc.Instant

/-- What an access token is allowed to obtain at the credential endpoint. The credential
identifiers are in the order of their insertion, newest first. -/
structure AccessGrant where
  credentialConfigurationIds : List String
  credentialIdentifiers : List (String × String)
  dpopJkt : Option String
  deriving DecidableEq

inductive StateError
  | notFound (key : String)
  | storage (msg : String)
  | lockPoisoned
  deriving DecidableEq

def StateError.toString : StateError → String
  | .notFound key => "not found: " ++ key
  | .storage msg => "storage error: " ++ msg
  | .lockPoisoned => "lock poisoned"

/-- A stored authorization session. -/
structure AuthorizationSession where
  requestUri : String
  authorizationCode : Option String
  codeChallenge : String
  clientId : String
  redirectUri : String
  credentialConfigurationIds : List String
  viaAuthorizationDetails : Bool
  issuerState : Option String
  clientState : Option String
  createdAt : ℤ
  codeIssuedAt : Option ℤ
  dpopJkt : Option String
  consumed : Bool
  deriving DecidableEq

structure PreAuthEntry where
  txCode : Option String
  credentialConfigurationIds : List String
  consumed : Bool
  deriving DecidableEq

structure NonceEntry where
  createdAt : ℤ
  expiresIn : ℕ

structure TokenEntry where
  grant : AccessGrant
  expiresAt : ℤ

structure InMemoryIssuerState where
  sessions : PMap String AuthorizationSession
  codeToUri : PMap String String
  preAuthCodes : PMap String PreAuthEntry
  accessTokens : PMap String TokenEntry
  tokensByCode : PMap String String
  seenJtis : PMap String ℤ
  cNonces : PMap String NonceEntry

namespace InMemoryIssuerState

def new : InMemoryIssuerState := ⟨empty, empty, empty, empty, empty, empty, empty⟩

variable (s : InMemoryIssuerState)

/-! ### Authorization sessions -/

def storeAuthorizationSession (requestUri : String) (session : AuthorizationSession) :
    InMemoryIssuerState :=
  { s with sessions := s.sessions.insert requestUri session }

def getAuthorizationSession (requestUri : String) : Option AuthorizationSession :=
  s.sessions.get requestUri

def setAuthorizationCode (now : ℤ) (requestUri code : String) :
    Except StateError Unit × InMemoryIssuerState :=
  match s.sessions.get requestUri with
  | some session =>
    (.ok (), { s with
      sessions := s.sessions.insert requestUri
        { session with authorizationCode := some code, codeIssuedAt := some now }
      codeToUri := s.codeToUri.insert code requestUri })
  | none => (.error (.notFound requestUri), s)

def getSessionByCode (code : String) : Option AuthorizationSession :=
  (s.codeToUri.get code).bind s.sessions.get

def consumeAuthorizationCode (code : String) : InMemoryIssuerState :=
  match s.codeToUri.get code with
  | some uri => { s with sessions := s.sessions.modify uri fun session =>
      { session with consumed := true } }
  | none => s

/-- Record the access token minted from a code, so it can be revoked if the code is
replayed. -/
def recordTokenForCode (code accessToken : String) : InMemoryIssuerState :=
  { s with tokensByCode := s.tokensByCode.insert code accessToken }

/-- Revoke whatever access token was minted from the code. -/
def revokeTokensForCode (code : String) : InMemoryIssuerState :=
  match s.tokensByCode.get code with
  | some token => { s with
      tokensByCode := s.tokensByCode.remove code
      accessTokens := s.accessTokens.remove token }
  | none => s

variable {s}

lemma getSessionByCode_consume (code : String) :
    (s.consumeAuthorizationCode code).getSessionByCode code =
      (s.getSessionByCode code).map fun session => { session with consumed := true } := by
  unfold consumeAuthorizationCode getSessionByCode
  cases huri : s.codeToUri.get code with
  | none => simp [huri]
  | some uri => simp [huri]

lemma tokensByCode_consume (code : String) :
    (s.consumeAuthorizationCode code).tokensByCode = s.tokensByCode := by
  unfold consumeAuthorizationCode
  split <;> rfl

/-- What a revocation leaves: no token recorded for the code, and the one that was recorded
is gone. -/
lemma revokeTokensForCode_spec (code : String) :
    (s.revokeTokensForCode code).getSessionByCode code = s.getSessionByCode code ∧
      (s.revokeTokensForCode code).tokensByCode.get code = none ∧
      (∀ token, s.tokensByCode.get code = some token →
        (s.revokeTokensForCode code).accessTokens.get token = none) ∧
      ∀ token, s.accessTokens.get token = none →
        (s.revokeTokensForCode code).accessTokens.get token = none := by
  unfold revokeTokensForCode
  cases hcode : s.tokensByCode.get code with
  | none => exact ⟨rfl, hcode, fun _ h => by simp at h, fun _ h => h⟩
  | some token =>
    refine ⟨rfl, get_remove_self _ _, fun token' h => ?_, fun token' h => ?_⟩
    · rw [Option.some.inj h]
      exact get_remove_self _ _
    · by_cases ht : token' = token
      · rw [ht]
        exact get_remove_self _ _
      · exact (get_remove_of_ne _ ht).trans h

variable (s)

/-! ### Pre-authorized codes -/

def storePreAuthorizedCode (code : String) (txCode : Option String) (ids : List String) :
    InMemoryIssuerState :=
  { s with preAuthCodes := s.preAuthCodes.insert code ⟨txCode, ids, false⟩ }

def redeemPreAuthorizedCode (code : String) (txCode : Option String) :
    Option (List String) × InMemoryIssuerState :=
  match s.preAuthCodes.get code with
  | none => (none, s)
  | some entry =>
    if entry.consumed = true ∨ entry.txCode ≠ txCode then (none, s)
    else (some entry.credentialConfigurationIds,
      { s with preAuthCodes := s.preAuthCodes.insert code { entry with consumed := true } })

/-! ### Access tokens -/

/-- Store an access token that expires after `expiresIn` seconds. -/
def storeAccessToken (now : ℤ) (token : String) (grant : AccessGrant) (expiresIn : ℕ) :
    InMemoryIssuerState :=
  { s with accessTokens := s.accessTokens.insert token ⟨grant, now + seconds expiresIn⟩ }

/-- The grant behind a token; an expired token is dropped. -/
def getAccessGrant (now : ℤ) (token : String) : Option AccessGrant × InMemoryIssuerState :=
  match s.accessTokens.get token with
  | some entry =>
    if now < entry.expiresAt then (some entry.grant, s)
    else (none, { s with accessTokens := s.accessTokens.remove token })
  | none => (none, s)

/-! ### Replay protection -/

/-- The identifiers still to remember. -/
def remembered (now : ℤ) : PMap String ℤ :=
  s.seenJtis.retain fun _ expires => decide (now < expires)

/-- Remember a one-time identifier for `ttl` seconds; `false` if it was already recorded
and has not expired. -/
def recordJti (now : ℤ) (key : String) (ttl : ℕ) : Bool × InMemoryIssuerState :=
  if (s.remembered now).containsKey key = true then
    (false, { s with seenJtis := s.remembered now })
  else (true, { s with seenJtis := (s.remembered now).insert key (now + seconds ttl) })

variable {s}

/-- An identifier that is recorded was not remembered, and is from then on. -/
lemma recordJti_eq_true {now : ℤ} {key : String} {ttl : ℕ}
    (h : (s.recordJti now key ttl).1 = true) :
    (∀ expires, s.seenJtis.get key = some expires → expires ≤ now) ∧
      (s.recordJti now key ttl).2.seenJtis =
        (s.remembered now).insert key (now + seconds ttl) := by
  unfold recordJti at h ⊢
  split_ifs at h with hseen
  rw [if_neg hseen]
  refine ⟨fun expires hget => ?_, rfl⟩
  by_contra hle
  have hlt : now < expires := by omega
  simp [remembered, hget, hlt] at hseen

/-- An identifier is remembered until it expires, or recorded anew. -/
lemma get_recordJti {now : ℤ} {key' : String} {expires : ℤ} (key : String) (ttl : ℕ)
    (hget : s.seenJtis.get key' = some expires) (hlt : now < expires) :
    ∃ expires', (s.recordJti now key ttl).2.seenJtis.get key' = some expires' ∧
      (expires' = expires ∨ now + seconds ttl = expires') := by
  have hkeep : (s.remembered now).get key' = some expires := by
    simp [remembered, hget, hlt]
  unfold recordJti
  split_ifs with hseen
  · exact ⟨expires, hkeep, Or.inl rfl⟩
  · by_cases hk : key' = key
    · subst hk
      exact ⟨_, get_insert_self _ _ _, Or.inr rfl⟩
    · exact ⟨expires, by rw [get_insert_of_ne _ _ hk, hkeep], Or.inl rfl⟩

variable (s)

/-! ### Nonces -/

def storeCNonce (now : ℤ) (nonce : String) (expiresIn : ℕ) : InMemoryIssuerState :=
  { s with cNonces := s.cNonces.insert nonce ⟨now, expiresIn⟩ }

/-- The whole seconds of a duration as an unsigned number: a negative count wraps around. -/
def elapsedSeconds (d : ℤ) : ℕ := (numSeconds d % 2 ^ 64).toNat

def consumeCNonce (now : ℤ) (nonce : String) : Bool × InMemoryIssuerState :=
  match s.cNonces.get nonce with
  | some entry =>
    (decide (elapsedSeconds (now - entry.createdAt) ≤ entry.expiresIn),
      { s with cNonces := s.cNonces.remove nonce })
  | none => (false, s)

end InMemoryIssuerState

/-- What the issuer's handlers share: the clock, how many identifiers were drawn, and the
store. -/
structure IssuerWorld where
  clock : ℤ
  drawn : ℕ
  store : InMemoryIssuerState

end Oid4vc.IssuerStore
