import Oid4vc.Base.PartialMap
import Oid4vc.Types.Oid4vp

/-!
The verifier's session store: the sessions by their ids, and the id of each state.
-/

namespace Oid4vc.VerifierState

open Oid4vc.PartialMap Oid4vc.Oid4vp

structure InMemoryVerifierState where
  sessions : PMap String VerifierSession
  stateToId : PMap String String

namespace InMemoryVerifierState

def new : InMemoryVerifierState := ⟨empty, empty⟩

variable (s : InMemoryVerifierState)

def storeSession (session : VerifierSession) : InMemoryVerifierState where
  sessions := s.sessions.insert session.id session
  stateToId := s.stateToId.insert session.state session.id

def getSession (id : String) : Option VerifierSession := s.sessions.get id

def getSessionByState (state : String) : Option VerifierSession :=
  (s.stateToId.get state).bind s.sessions.get

def deleteSession (id : String) : InMemoryVerifierState :=
  match s.sessions.get id with
  | some session => ⟨s.sessions.remove id, s.stateToId.remove session.state⟩
  | none => s

variable {s}

lemma getSessionByState_storeSession (session : VerifierSession) :
    (s.storeSession session).getSessionByState session.state = some session := by
  simp [getSessionByState, InMemoryVerifierState.storeSession]

lemma getSession_storeSession (session : VerifierSession) :
    (s.storeSession session).getSession session.id = some session := by
  simp [getSession, InMemoryVerifierState.storeSession]

lemma sessions_deleteSession (id : String) :
    (s.deleteSession id).sessions = s.sessions.remove id := by
  unfold deleteSession
  cases hget : s.sessions.get id with
  | some session => rfl
  | none =>
    apply PMap.ext
    intro k
    by_cases hk : k = id
    · rw [hk, hget, get_remove_self]
    · rw [get_remove_of_ne _ hk]

end InMemoryVerifierState

end Oid4vc.VerifierState
