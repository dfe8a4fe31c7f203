import Oid4vc.Base.Scripts
import Oid4vc.Server.StoreLocks

/-!
The two in-memory stores refine stores of atomic operations.

An operation reads and changes only the maps whose mutexes it holds, and it holds all that it has
taken until it has taken all that it needs. So it is atomic; but for the revocation of a code's
token, which lets the token map of the code go first, and is two atomic operations.
-/

namespace Oid4vc.StoreSections

open Oid4vc.Run Oid4vc.PartialMap Oid4vc.Locks Oid4vc.Locks.Routine Oid4vc.Atomic Oid4vc.Sections
open Oid4vc.Scripts Oid4vc.Oid4vp Oid4vc.IssuerStore Oid4vc.VerifierState

/-! ### The issuer's store -/

namespace Issuer

open Oid4vc.StoreLocks.Issuer

/-- What each mutex of the store guards. -/
def guard : Guard Mutex InMemoryIssuerState where
  Agree m s s' := match m with
    | .sessions => s.sessions = s'.sessions
    | .codeToUri => s.codeToUri = s'.codeToUri
    | .preAuthCodes => s.preAuthCodes = s'.preAuthCodes
    | .accessTokens => s.accessTokens = s'.accessTokens
    | .tokensByCode => s.tokensByCode = s'.tokensByCode
    | .seenJtis => s.seenJtis = s'.seenJtis
    | .cNonces => s.cNonces = s'.cNonces
  equivalence m := by
    cases m <;> exact ⟨fun _ => rfl, fun h => h.symm, fun h h' => h.trans h'⟩
  ext {s s'} h := by
    obtain ⟨a, b, c, d, e, f, g⟩ := s
    obtain ⟨a', b', c', d', e', f', g'⟩ := s'
    have ha : a = a' := h .sessions
    have hb : b = b' := h .codeToUri
    have hc : c = c' := h .preAuthCodes
    have hd : d = d' := h .accessTokens
    have he : e = e' := h .tokensByCode
    have hf : f = f' := h .seenJtis
    have hg : g = g' := h .cNonces
    rw [ha, hb, hc, hd, he, hf, hg]

/-- A call of the store, with its type of answers. -/
inductive Call : Type → Type
  | storeAuthorizationSession (requestUri : String) (session : AuthorizationSession) : Call Unit
  | getAuthorizationSession (requestUri : String) : Call (Option AuthorizationSession)
  | setAuthorizationCode (now : ℤ) (requestUri code : String) : Call (Except StateError Unit)
  | getSessionByCode (code : String) : Call (Option AuthorizationSession)
  | consumeAuthorizationCode (code : String) : Call Unit
  | recordTokenForCode (code accessToken : String) : Call Unit
  | revokeTokensForCode (code : String) : Call Unit
  | recordJti (now : ℤ) (key : String) (ttl : ℕ) : Call Bool
  | storePreAuthorizedCode (code : String) (txCode : Option String) (ids : List String) : Call Unit
  | redeemPreAuthorizedCode (code : String) (txCode : Option String) : Call (Option (List String))
  | storeAccessToken (now : ℤ) (token : String) (grant : AccessGrant) (expiresIn : ℕ) : Call Unit
  | getAccessGrant (now : ℤ) (token : String) : Call (Option AccessGrant)
  | storeCNonce (now : ℤ) (nonce : String) (expiresIn : ℕ) : Call Unit
  | consumeCNonce (now : ℤ) (nonce : String) : Call Bool

def Call.routine {γ : Type} : Call γ → StoreLocks.Issuer.Task γ
  | .storeAuthorizationSession uri session => StoreLocks.Issuer.storeAuthorizationSession uri session
  | .getAuthorizationSession uri => StoreLocks.Issuer.getAuthorizationSession uri
  | .setAuthorizationCode now uri code => StoreLocks.Issuer.setAuthorizationCode now uri code
  | .getSessionByCode code => StoreLocks.Issuer.getSessionByCode code
  | .consumeAuthorizationCode code => StoreLocks.Issuer.consumeAuthorizationCode code
  | .recordTokenForCode code token => StoreLocks.Issuer.recordTokenForCode code token
  | .revokeTokensForCode code => StoreLocks.Issuer.revokeTokensForCode code
  | .recordJti now key ttl => StoreLocks.Issuer.recordJti now key ttl
  | .storePreAuthorizedCode code txCode ids => StoreLocks.Issuer.storePreAuthorizedCode code txCode ids
  | .redeemPreAuthorizedCode code txCode => StoreLocks.Issuer.redeemPreAuthorizedCode code txCode
  | .storeAccessToken now token grant ttl => StoreLocks.Issuer.storeAccessToken now token grant ttl
  | .getAccessGrant now token => StoreLocks.Issuer.getAccessGrant now token
  | .storeCNonce now nonce ttl => StoreLocks.Issuer.storeCNonce now nonce ttl
  | .consumeCNonce now nonce => StoreLocks.Issuer.consumeCNonce now nonce

/-- Forget which token was minted from the code. -/
def forgetToken (code : String) (s : InMemoryIssuerState) : Option String × InMemoryIssuerState :=
  (s.tokensByCode.get code, { s with tokensByCode := s.tokensByCode.remove code })

def dropToken (token : String) (s : InMemoryIssuerState) : Unit × InMemoryIssuerState :=
  ((), { s with accessTokens := s.accessTokens.remove token })

/-- A revocation in two steps: other calls may come between them. -/
def revocation (code : String) : Prog InMemoryIssuerState Unit :=
  .call (forgetToken code) fun
    | some token => .lift (dropToken token)
    | none => .ret ()

/-- The atomic operation of a call; a revocation has two. -/
def Call.program {γ : Type} : Call γ → Prog InMemoryIssuerState γ
  | .storeAuthorizationSession uri session => .lift fun s => ((), s.storeAuthorizationSession uri session)
  | .getAuthorizationSession uri => .lift fun s => (s.getAuthorizationSession uri, s)
  | .setAuthorizationCode now uri code => .lift fun s => s.setAuthorizationCode now uri code
  | .getSessionByCode code => .lift fun s => (s.getSessionByCode code, s)
  | .consumeAuthorizationCode code => .lift fun s => ((), s.consumeAuthorizationCode code)
  | .recordTokenForCode code token => .lift fun s => ((), s.recordTokenForCode code token)
  | .revokeTokensForCode code => revocation code
  | .recordJti now key ttl => .lift fun s => s.recordJti now key ttl
  | .storePreAuthorizedCode code txCode ids =>
    .lift fun s => ((), s.storePreAuthorizedCode code txCode ids)
  | .redeemPreAuthorizedCode code txCode => .lift fun s => s.redeemPreAuthorizedCode code txCode
  | .storeAccessToken now token grant ttl => .lift fun s => ((), s.storeAccessToken now token grant ttl)
  | .getAccessGrant now token => .lift fun s => s.getAccessGrant now token
  | .storeCNonce now nonce ttl => .lift fun s => ((), s.storeCNonce now nonce ttl)
  | .consumeCNonce now nonce => .lift fun s => s.consumeCNonce now nonce

def service : Service Call Mutex InMemoryIssuerState := ⟨Call.routine, Call.program⟩

lemma nests_call {γ : Type} (c : Call γ) : Nests Nested [] c.routine := by
  cases c with
  | setAuthorizationCode now uri code =>
    exact nests_forget.mp (nests_routine (.setAuthorizationCode now uri code))
  | getSessionByCode code => exact nests_forget.mp (nests_routine (.getSessionByCode code))
  | consumeAuthorizationCode code => exact nests_routine (.consumeAuthorizationCode code)
  | revokeTokensForCode code => exact nests_routine (.revokeTokensForCode code)
  | storeAuthorizationSession | recordTokenForCode | storePreAuthorizedCode | storeAccessToken
  | storeCNonce | getAuthorizationSession | recordJti | redeemPreAuthorizedCode | getAccessGrant
  | consumeCNonce => exact nests_guarded _ _ _

lemma keeps_getAccessGrant (now : ℤ) (token : String) :
    Keeps guard [] (StoreLocks.Issuer.getAccessGrant now token) := by
  refine keeps_guarded (fun s k hk => ?_) fun s s' hs => ?_
  · unfold InMemoryIssuerState.getAccessGrant
    cases s.accessTokens.get token with
    | none => exact guard.refl k s
    | some entry =>
      dsimp only
      split_ifs
      · exact guard.refl k s
      · cases k <;> first | rfl | exact absurd rfl hk
  · have hs : s.accessTokens = s'.accessTokens := hs
    unfold InMemoryIssuerState.getAccessGrant
    rw [hs]
    cases s'.accessTokens.get token with
    | none => exact ⟨rfl, hs⟩
    | some entry =>
      dsimp only
      split_ifs
      · exact ⟨rfl, hs⟩
      · exact ⟨rfl, rfl⟩

lemma keeps_redeemPreAuthorizedCode (code : String) (txCode : Option String) :
    Keeps guard [] (StoreLocks.Issuer.redeemPreAuthorizedCode code txCode) := by
  refine keeps_guarded (fun s k hk => ?_) fun s s' hs => ?_
  · unfold InMemoryIssuerState.redeemPreAuthorizedCode
    cases s.preAuthCodes.get code with
    | none => exact guard.refl k s
    | some entry =>
      dsimp only
      split_ifs
      · exact guard.refl k s
      · cases k <;> first | rfl | exact absurd rfl hk
  · have hs : s.preAuthCodes = s'.preAuthCodes := hs
    unfold InMemoryIssuerState.redeemPreAuthorizedCode
    rw [hs]
    cases s'.preAuthCodes.get code with
    | none => exact ⟨rfl, hs⟩
    | some entry =>
      dsimp only
      split_ifs
      · exact ⟨rfl, hs⟩
      · exact ⟨rfl, rfl⟩

lemma keeps_consumeCNonce (now : ℤ) (nonce : String) :
    Keeps guard [] (StoreLocks.Issuer.consumeCNonce now nonce) := by
  refine keeps_guarded (fun s k hk => ?_) fun s s' hs => ?_
  · unfold InMemoryIssuerState.consumeCNonce
    cases s.cNonces.get nonce with
    | none => exact guard.refl k s
    | some entry => cases k <;> first | rfl | exact absurd rfl hk
  · have hs : s.cNonces = s'.cNonces := hs
    unfold InMemoryIssuerState.consumeCNonce
    rw [hs]
    cases s'.cNonces.get nonce with
    | none => exact ⟨rfl, hs⟩
    | some entry => exact ⟨rfl, rfl⟩

lemma keeps_recordJti (now : ℤ) (key : String) (ttl : ℕ) :
    Keeps guard [] (StoreLocks.Issuer.recordJti now key ttl) := by
  refine keeps_guarded (fun s k hk => ?_) fun s s' hs => ?_
  · unfold InMemoryIssuerState.recordJti
    split_ifs <;> cases k <;> first | rfl | exact absurd rfl hk
  · have hs : s.seenJtis = s'.seenJtis := hs
    unfold InMemoryIssuerState.recordJti InMemoryIssuerState.remembered
    rw [hs]
    split_ifs <;> exact ⟨rfl, rfl⟩

lemma keeps_setAuthorizationCode (now : ℤ) (uri code : String) :
    Keeps guard [] (StoreLocks.Issuer.setAuthorizationCode now uri code) := by
  refine ⟨confined_singleton (fun s k hk => ?_) fun s s' hs => ?_, fun s s' hs => ?_, fun s => ?_⟩
  · cases k <;> first | rfl | exact absurd rfl hk
  · have hs : s.sessions = s'.sessions := hs
    simp only [guard, hs]
  · have hs : s.sessions = s'.sessions := hs .sessions List.mem_cons_self
    simp only [hs]
  · dsimp only
    cases s.sessions.get uri with
    | none => exact trivial
    | some session =>
      refine ⟨⟨fun s k hk => ?_, fun s s' hs k hk => ?_⟩, fun _ _ _ => rfl, fun _ => trivial⟩
      · cases k <;> first | rfl | exact absurd List.mem_cons_self hk
      · have hcode : s.codeToUri = s'.codeToUri := hs .codeToUri List.mem_cons_self
        rcases List.mem_pair.mp hk with rfl | rfl
        · exact congrArg (fun codes => codes.insert code uri) hcode
        · exact hs .sessions hk

lemma keeps_getSessionByCode (code : String) :
    Keeps guard [] (StoreLocks.Issuer.getSessionByCode code) := by
  refine ⟨confined_singleton (fun s k _ => guard.refl k s) fun s s' hs => hs, fun s s' hs => ?_,
    fun s => ?_⟩
  · have hs : s.codeToUri = s'.codeToUri := hs .codeToUri List.mem_cons_self
    simp only [hs]
  · dsimp only
    cases s.codeToUri.get code with
    | none => exact trivial
    | some uri =>
      refine ⟨⟨fun s k _ => guard.refl k s, fun s s' hs => hs⟩, fun s s' hs => ?_, fun _ => trivial⟩
      have hs : s.sessions = s'.sessions := hs .sessions List.mem_cons_self
      simp only [hs]

lemma keeps_consumeAuthorizationCode (code : String) :
    Keeps guard [] (StoreLocks.Issuer.consumeAuthorizationCode code) := by
  refine ⟨confined_singleton (fun s k _ => guard.refl k s) fun s s' hs => hs, fun s s' hs => ?_,
    fun s => ?_⟩
  · have hs : s.codeToUri = s'.codeToUri := hs .codeToUri List.mem_cons_self
    simp only [hs]
  · dsimp only
    cases s.codeToUri.get code with
    | none => exact trivial
    | some uri =>
      refine ⟨⟨fun s k hk => ?_, fun s s' hs k hk => ?_⟩, fun _ _ _ => rfl, fun _ => trivial⟩
      · cases k <;> first | rfl | exact absurd List.mem_cons_self hk
      · have hsessions : s.sessions = s'.sessions := hs .sessions List.mem_cons_self
        rcases List.mem_pair.mp hk with rfl | rfl
        · simp only [guard, hsessions]
        · exact hs .codeToUri hk

lemma keeps_revokeTokensForCode (code : String) :
    Keeps guard [] (StoreLocks.Issuer.revokeTokensForCode code) := by
  refine ⟨confined_singleton (fun s k hk => ?_) fun s s' hs => ?_, fun s s' hs => ?_, fun s => ?_⟩
  · cases k <;> first | rfl | exact absurd rfl hk
  · have hs : s.tokensByCode = s'.tokensByCode := hs
    exact congrArg (fun tokens => tokens.remove code) hs
  · have hs : s.tokensByCode = s'.tokensByCode := hs .tokensByCode List.mem_cons_self
    simp only [hs]
  · dsimp only [Keeps]
    rw [List.erase_cons_head]
    cases s.tokensByCode.get code with
    | none => exact trivial
    | some token =>
      refine ⟨confined_singleton (fun s k hk => ?_) fun s s' hs => ?_, fun _ _ _ => rfl,
        fun _ => trivial⟩
      · cases k <;> first | rfl | exact absurd rfl hk
      · have hs : s.accessTokens = s'.accessTokens := hs
        exact congrArg (fun tokens => tokens.remove token) hs

/-- Every operation keeps to the maps whose mutexes it holds. -/
lemma keeps_call {γ : Type} (c : Call γ) : Keeps guard [] c.routine := by
  cases c with
  | setAuthorizationCode now uri code => exact keeps_setAuthorizationCode now uri code
  | getSessionByCode code => exact keeps_getSessionByCode code
  | consumeAuthorizationCode code => exact keeps_consumeAuthorizationCode code
  | revokeTokensForCode code => exact keeps_revokeTokensForCode code
  | recordJti now key ttl => exact keeps_recordJti now key ttl
  | redeemPreAuthorizedCode code txCode => exact keeps_redeemPreAuthorizedCode code txCode
  | getAccessGrant now token => exact keeps_getAccessGrant now token
  | consumeCNonce now nonce => exact keeps_consumeCNonce now nonce
  | getAuthorizationSession uri =>
    refine keeps_guarded (fun s k _ => guard.refl k s) fun s s' hs => ⟨?_, hs⟩
    exact congrArg (fun sessions => sessions.get uri) hs
  | storeAuthorizationSession uri session =>
    refine keeps_guarded (fun s k hk => ?_) fun s s' hs => ⟨rfl, ?_⟩
    · cases k <;> first | rfl | exact absurd rfl hk
    · exact congrArg (fun sessions => sessions.insert uri session) hs
  | recordTokenForCode code token =>
    refine keeps_guarded (fun s k hk => ?_) fun s s' hs => ⟨rfl, ?_⟩
    · cases k <;> first | rfl | exact absurd rfl hk
    · exact congrArg (fun tokens => tokens.insert code token) hs
  | storePreAuthorizedCode code txCode ids =>
    refine keeps_guarded (fun s k hk => ?_) fun s s' hs => ⟨rfl, ?_⟩
    · cases k <;> first | rfl | exact absurd rfl hk
    · exact congrArg (fun codes => codes.insert code ⟨txCode, ids, false⟩) hs
  | storeAccessToken now token grant ttl =>
    refine keeps_guarded (fun s k hk => ?_) fun s s' hs => ⟨rfl, ?_⟩
    · cases k <;> first | rfl | exact absurd rfl hk
    · have hs : s.accessTokens = s'.accessTokens := hs
      simp only [guard, InMemoryIssuerState.storeAccessToken, hs]
  | storeCNonce now nonce ttl =>
    refine keeps_guarded (fun s k hk => ?_) fun s s' hs => ⟨rfl, ?_⟩
    · cases k <;> first | rfl | exact absurd rfl hk
    · exact congrArg (fun nonces => nonces.insert nonce ⟨now, ttl⟩) hs

/-- A revocation lets the token map go between its two steps. -/
lemma implements_revokeTokensForCode (code : String) :
    Implements (revocation code) (StoreLocks.Issuer.revokeTokensForCode code) := by
  refine ⟨⟨.tokensByCode, _, _, rfl⟩, fun s => ?_⟩
  have hend : toEnd 0 (StoreLocks.Issuer.revokeTokensForCode code) s =
      (match s.tokensByCode.get code with
        | some token => guarded Mutex.accessTokens (dropToken token)
        | none => .ret (), (forgetToken code s).2) := by
    unfold StoreLocks.Issuer.revokeTokensForCode
    rw [toEnd_acquire, toEnd_release_last]
    rfl
  rw [hend]
  refine ⟨rfl, ?_⟩
  simp only [forgetToken]
  cases s.tokensByCode.get code with
  | none => exact rfl
  | some token => exact implements_guarded Mutex.accessTokens (dropToken token)

/-- Every operation is its atomic operation, or two. -/
lemma implements_call {γ : Type} (c : Call γ) : Implements c.program c.routine := by
  cases c with
  | setAuthorizationCode now uri code =>
    refine implements_of_single (fun s => ?_) (exec_setAuthorizationCode now uri code)
    cases s.sessions.get uri with
    | none => exact ⟨_, rfl⟩
    | some session => exact fun _ => ⟨_, rfl⟩
  | getSessionByCode code =>
    refine implements_of_single (fun s => ?_) (exec_getSessionByCode code)
    cases s.codeToUri.get code with
    | none => exact ⟨_, rfl⟩
    | some uri => exact fun s => ⟨_, rfl⟩
  | consumeAuthorizationCode code =>
    refine implements_of_single (fun s => ?_) (exec_consumeAuthorizationCode code)
    cases s.codeToUri.get code with
    | none => exact ⟨_, rfl⟩
    | some uri => exact fun _ => ⟨_, rfl⟩
  | revokeTokensForCode code => exact implements_revokeTokensForCode code
  | storeAuthorizationSession | recordTokenForCode | storePreAuthorizedCode | storeAccessToken
  | storeCNonce | getAuthorizationSession | recordJti | redeemPreAuthorizedCode | getAccessGrant
  | consumeCNonce => exact implements_guarded _ _

lemma sound : service.Sound guard Nested := ⟨nests_call, keeps_call, implements_call⟩

end Issuer

/-! ### The verifier's store -/

namespace Verifier

open Oid4vc.StoreLocks.Verifier

/-- What each mutex of the store guards. -/
def guard : Guard Mutex InMemoryVerifierState where
  Agree m s s' := match m with
    | .sessions => s.sessions = s'.sessions
    | .stateToId => s.stateToId = s'.stateToId
  equivalence m := by
    cases m <;> exact ⟨fun _ => rfl, fun h => h.symm, fun h h' => h.trans h'⟩
  ext {s s'} h := by
    obtain ⟨a, b⟩ := s
    obtain ⟨a', b'⟩ := s'
    have ha : a = a' := h .sessions
    have hb : b = b' := h .stateToId
    rw [ha, hb]

/-- A call of the store, with its type of answers. -/
inductive Call : Type → Type
  | storeSession (session : VerifierSession) : Call Unit
  | getSession (id : String) : Call (Option VerifierSession)
  | getSessionByState (state : String) : Call (Option VerifierSession)
  | deleteSession (id : String) : Call Unit

def Call.routine {γ : Type} : Call γ → StoreLocks.Verifier.Task γ
  | .storeSession session => StoreLocks.Verifier.storeSession session
  | .getSession id => StoreLocks.Verifier.getSession id
  | .getSessionByState state => StoreLocks.Verifier.getSessionByState state
  | .deleteSession id => StoreLocks.Verifier.deleteSession id

/-- The atomic operation of a call. -/
def Call.program {γ : Type} : Call γ → Prog InMemoryVerifierState γ
  | .storeSession session => .lift fun s => ((), s.storeSession session)
  | .getSession id => .lift fun s => (s.getSession id, s)
  | .getSessionByState state => .lift fun s => (s.getSessionByState state, s)
  | .deleteSession id => .lift fun s => ((), s.deleteSession id)

def service : Service Call Mutex InMemoryVerifierState := ⟨Call.routine, Call.program⟩

lemma nests_call {γ : Type} (c : Call γ) : Nests Nested [] c.routine := by
  cases c with
  | storeSession session => exact nests_routine (.storeSession session)
  | getSession id => exact nests_forget.mp (nests_routine (.getSession id))
  | getSessionByState state => exact nests_forget.mp (nests_routine (.getSessionByState state))
  | deleteSession id => exact nests_routine (.deleteSession id)

/-- Every operation keeps to the maps whose mutexes it holds. -/
lemma keeps_call {γ : Type} (c : Call γ) : Keeps guard [] c.routine := by
  cases c with
  | storeSession session =>
    refine ⟨confined_singleton (fun s k _ => guard.refl k s) fun s s' hs => hs, fun _ _ _ => rfl,
      fun _ => ⟨⟨fun s k hk => ?_, fun s s' hs k hk => ?_⟩, fun _ _ _ => rfl, fun _ => trivial⟩⟩
    · cases k <;> simp at hk
    · have hsessions : s.sessions = s'.sessions := hs .sessions (by simp)
      have hstates : s.stateToId = s'.stateToId := hs .stateToId (by simp)
      cases k <;> simp only [guard, InMemoryVerifierState.storeSession, hsessions, hstates]
  | getSession id =>
    refine keeps_guarded (fun s k _ => guard.refl k s) fun s s' hs => ⟨?_, hs⟩
    exact congrArg (fun sessions => sessions.get id) hs
  | getSessionByState state =>
    refine ⟨confined_singleton (fun s k _ => guard.refl k s) fun s s' hs => hs, fun s s' hs => ?_,
      fun s => ?_⟩
    · have hs : s.stateToId = s'.stateToId := hs .stateToId List.mem_cons_self
      simp only [hs]
    · dsimp only
      cases s.stateToId.get state with
      | none => exact trivial
      | some id =>
        refine ⟨⟨fun s k _ => guard.refl k s, fun s s' hs => hs⟩, fun s s' hs => ?_, fun _ => trivial⟩
        have hs : s.sessions = s'.sessions := hs .sessions List.mem_cons_self
        simp only [hs]
  | deleteSession id =>
    refine ⟨confined_singleton (fun s k hk => ?_) fun s s' hs => ?_, fun s s' hs => ?_, fun s => ?_⟩
    · cases k <;> first | rfl | exact absurd rfl hk
    · have hs : s.sessions = s'.sessions := hs
      simp only [guard, hs]
    · have hs : s.sessions = s'.sessions := hs .sessions List.mem_cons_self
      simp only [hs]
    · dsimp only
      cases s.sessions.get id with
      | none => exact trivial
      | some session =>
        refine ⟨⟨fun s k hk => ?_, fun s s' hs k hk => ?_⟩, fun _ _ _ => rfl, fun _ => trivial⟩
        · cases k <;> first | rfl | exact absurd List.mem_cons_self hk
        · have hstates : s.stateToId = s'.stateToId := hs .stateToId List.mem_cons_self
          rcases List.mem_pair.mp hk with rfl | rfl
          · simp only [guard, hstates]
          · exact hs .sessions hk

lemma implements_call {γ : Type} (c : Call γ) : Implements c.program c.routine := by
  cases c with
  | storeSession session =>
    exact implements_of_single (fun _ _ => ⟨_, rfl⟩) (exec_storeSession session)
  | getSession id => exact implements_guarded _ _
  | getSessionByState state =>
    refine implements_of_single (fun s => ?_) (exec_getSessionByState state)
    cases s.stateToId.get state with
    | none => exact ⟨_, rfl⟩
    | some id => exact fun s => ⟨_, rfl⟩
  | deleteSession id =>
    refine implements_of_single (fun s => ?_) (exec_deleteSession id)
    cases s.sessions.get id with
    | none => exact ⟨_, rfl⟩
    | some session => exact fun _ => ⟨_, rfl⟩

lemma sound : service.Sound guard Nested := ⟨nests_call, keeps_call, implements_call⟩

end Verifier

/-! ### Refinement -/

/-- **The issuer's store is a store of atomic operations.** However many threads use it, each going
on as its answers so far say, and however their steps interleave: there is an order of atomic
operations, each made during a step of its thread, that gives every thread that has answered the
same answer, and leaves the same store while nobody holds a mutex. A revocation is two operations. -/
theorem issuer_store_atomic {θ α : Type} [DecidableEq θ] (scripts : θ → Script Issuer.Call α)
    (s : InMemoryIssuerState) (schedule : List θ) : ∃ calls : List θ, calls.Sublist schedule ∧
      let c := run (locked θ _ _ α) (Locked.start s fun t => (scripts t).routine Issuer.service) schedule
      let p := run (Atomic.machine θ _ α fun _ : Empty => id)
        ⟨s, fun t => (scripts t).program Issuer.service⟩ (calls.map .thread)
      (∀ t a, c.routine t = .ret a → p.prog t = .ret a) ∧
        ((∀ m, c.holder m = none) → c.store = p.shared) :=
  Issuer.sound.scripts_atomic _ scripts s schedule

/-- **The verifier's store is a store of atomic operations**, in the same sense: every one of its
operations is one. -/
theorem verifier_store_atomic {θ α : Type} [DecidableEq θ] (scripts : θ → Script Verifier.Call α)
    (s : InMemoryVerifierState) (schedule : List θ) : ∃ calls : List θ, calls.Sublist schedule ∧
      let c := run (locked θ _ _ α) (Locked.start s fun t => (scripts t).routine Verifier.service)
        schedule
      let p := run (Atomic.machine θ _ α fun _ : Empty => id)
        ⟨s, fun t => (scripts t).program Verifier.service⟩ (calls.map .thread)
      (∀ t a, c.routine t = .ret a → p.prog t = .ret a) ∧
        ((∀ m, c.holder m = none) → c.store = p.shared) :=
  Verifier.sound.scripts_atomic _ scripts s schedule

end Oid4vc.StoreSections
