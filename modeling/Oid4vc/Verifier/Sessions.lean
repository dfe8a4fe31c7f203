import Oid4vc.Base.Run
import Oid4vc.Verifier.Request

/-!
The two maps of the session store, over every sequence of calls that store and delete sessions.

A session is stored under its id, and its id under its state. As long as the sessions have ids and
states of their own, each map is the inverse of the other.
-/

namespace Oid4vc.Sessions

open Oid4vc.Run Oid4vc.PartialMap Oid4vc.Instant Oid4vc.External Oid4vc.Oid4vp
open Oid4vc.VerifierState Oid4vc.Request

/-- A call that writes to the session store. -/
inductive Call
  | store (session : VerifierSession)
  | delete (id : String)

def sessionMachine : Machine InMemoryVerifierState Call Unit where
  step s
    | .store session => (s.storeSession session, ())
    | .delete id => (s.deleteSession id, ())

/-- The session was stored, and not deleted since. -/
def Live (calls : List Call) (session : VerifierSession) : Prop :=
  ∃ as bs, calls = as ++ .store session :: bs ∧ .delete session.id ∉ bs

def Call.stored : Call → Option VerifierSession
  | .store session => some session
  | .delete _ => none

/-- Sessions have ids and states of their own. -/
def Fresh (calls : List Call) : Prop :=
  ((calls.filterMap Call.stored).map VerifierSession.id).Nodup ∧
    ((calls.filterMap Call.stored).map VerifierSession.state).Nodup

/-- A call of the verifier: create an authorization request, reading the clock twice, or delete a
session. -/
inductive RequestCall
  | create (params : RequestParams) (createdAt now : ℤ)
  | delete (id : String)

/-- The verifier, with the identifiers it has drawn. -/
def requestMachine (X : Crates) : Machine (ℕ × InMemoryVerifierState) RequestCall
    (Option (AuthorizationRequest × String)) where
  step w
    | .create params createdAt now =>
      ((createAuthorizationRequest X params createdAt now w.1 w.2).2,
        (createAuthorizationRequest X params createdAt now w.1 w.2).1)
    | .delete id => ((w.1, w.2.deleteSession id), none)

/-- What the verifier's calls write to the session store. -/
def writes (X : Crates) : ℕ → List RequestCall → List Call
  | _, [] => []
  | drawn, .create params createdAt now :: calls =>
    ((newSession X params createdAt now drawn).map Call.store).toList ++ writes X (drawn + 3) calls
  | drawn, .delete id :: calls => .delete id :: writes X drawn calls

/-- **What the store holds after these calls**, and what a deletion would change. -/
structure InStep (calls : List Call) (s : InMemoryVerifierState) : Prop where
  byState : ∀ state session, s.getSessionByState state = some session ↔
    Live calls session ∧ session.state = state
  byId : ∀ id session, s.getSession id = some session ↔ Live calls session ∧ session.id = id
  /-- No state is kept without its session. -/
  noneLeft : ∀ state, (s.stateToId.get state).isSome = true ↔
    ∃ session, Live calls session ∧ session.state = state
  /-- A deletion removes the session of the id, if there is one, and leaves all others as they
  are. -/
  deletedByState : ∀ id state, (s.deleteSession id).getSessionByState state =
    (s.getSessionByState state).filter fun session => session.id != id
  deletedById : ∀ id id', (s.deleteSession id).getSession id' =
    (s.getSession id').filter fun session => session.id != id
  deletedState : ∀ id state, (s.deleteSession id).stateToId.get state =
    (s.stateToId.get state).filter fun id' => id' != id

/-- The two maps hold just the live sessions, and are inverse to each other. -/
structure Inverse (live : VerifierSession → Prop) (s : InMemoryVerifierState) : Prop where
  sessions : ∀ id session, s.sessions.get id = some session ↔ live session ∧ session.id = id
  states : ∀ state id, s.stateToId.get state = some id ↔
    ∃ session, live session ∧ session.state = state ∧ session.id = id

variable {calls : List Call}

/-! ### Live sessions -/

lemma not_live_nil (session : VerifierSession) : ¬ Live [] session := by
  rintro ⟨as, bs, hsplit, -⟩
  simp at hsplit

/-- The last call of a split list is the one that stored the session, or comes after it. -/
lemma live_snoc {c : Call} {session : VerifierSession} : Live (calls ++ [c]) session ↔
    c = .store session ∨ Live calls session ∧ c ≠ .delete session.id := by
  constructor
  · rintro ⟨as, bs, hsplit, hnot⟩
    induction bs using List.reverseRecOn with
    | nil =>
      have hlast := (List.append_inj' hsplit rfl).2
      exact Or.inl (by simpa using hlast)
    | append_singleton bs b _ =>
      rw [← List.cons_append, ← List.append_assoc] at hsplit
      obtain ⟨hcalls, hc⟩ := List.append_inj' hsplit rfl
      rw [List.cons.injEq] at hc
      rw [List.mem_append, not_or, List.mem_singleton] at hnot
      exact Or.inr ⟨⟨as, bs, hcalls, hnot.1⟩, fun heq => hnot.2 (by rw [← heq, hc.1])⟩
  · rintro (rfl | ⟨⟨as, bs, rfl, hnot⟩, hne⟩)
    · exact ⟨calls, [], rfl, List.not_mem_nil⟩
    · refine ⟨as, bs ++ [c], by simp, ?_⟩
      rw [List.mem_append, not_or, List.mem_singleton]
      exact ⟨hnot, fun heq => hne heq.symm⟩

lemma Live.stored {session : VerifierSession} (h : Live calls session) :
    session ∈ calls.filterMap Call.stored := by
  obtain ⟨as, bs, rfl, -⟩ := h
  simp [Call.stored]

lemma Fresh.of_append {c : Call} (h : Fresh (calls ++ [c])) : Fresh calls := by
  unfold Fresh at h ⊢
  rw [List.filterMap_append, List.map_append, List.map_append] at h
  exact ⟨h.1.of_append_left, h.2.of_append_left⟩

lemma Fresh.ne {session found : VerifierSession} (h : Fresh (calls ++ [.store session]))
    (hfound : Live calls found) : found.id ≠ session.id ∧ found.state ≠ session.state := by
  unfold Fresh at h
  have hstored : ([Call.store session].filterMap Call.stored) = [session] := rfl
  rw [List.filterMap_append, List.map_append, List.map_append, hstored] at h
  have hmem := hfound.stored
  constructor
  · intro heq
    exact List.disjoint_of_nodup_append h.1 (List.mem_map_of_mem hmem) (by simp [heq])
  · intro heq
    exact List.disjoint_of_nodup_append h.2 (List.mem_map_of_mem hmem) (by simp [heq])

lemma Live.unique (h : Fresh calls) {session found : VerifierSession} (hlive : Live calls session)
    (hfound : Live calls found) (hsame : session.id = found.id ∨ session.state = found.state) :
    session = found := by
  rcases hsame with hid | hstate
  · exact List.inj_on_of_nodup_map h.1 hlive.stored hfound.stored hid
  · exact List.inj_on_of_nodup_map h.2 hlive.stored hfound.stored hstate

/-! ### The two maps -/

variable {s : InMemoryVerifierState}

lemma inverse_new : Inverse (Live []) InMemoryVerifierState.new := by
  constructor
  · intro id session
    simp [InMemoryVerifierState.new, not_live_nil]
  · intro state id
    simp [InMemoryVerifierState.new, not_live_nil]

/-- Storing a session of its own id and state adds it to both maps. -/
lemma Inverse.store {session : VerifierSession} (h : Inverse (Live calls) s)
    (hfresh : Fresh (calls ++ [.store session])) :
    Inverse (Live (calls ++ [.store session])) (s.storeSession session) := by
  have hlive : ∀ found, Live (calls ++ [.store session]) found ↔
      session = found ∨ Live calls found := by
    intro found
    rw [live_snoc]
    simp
  constructor
  · intro id found
    rw [hlive]
    by_cases hid : id = session.id
    · subst hid
      simp only [InMemoryVerifierState.storeSession, get_insert_self, Option.some.injEq]
      constructor
      · rintro rfl
        exact ⟨Or.inl rfl, rfl⟩
      · rintro ⟨rfl | hfound, hsame⟩
        · rfl
        · -- another live session would have the id of this one
          exact absurd hsame (hfresh.ne hfound).1
    · simp only [InMemoryVerifierState.storeSession, get_insert_of_ne _ _ hid, h.sessions]
      constructor
      · rintro ⟨hfound, hsame⟩
        exact ⟨Or.inr hfound, hsame⟩
      · rintro ⟨rfl | hfound, hsame⟩
        · exact absurd hsame.symm hid
        · exact ⟨hfound, hsame⟩
  · intro state id
    simp only [hlive]
    by_cases hstate : state = session.state
    · subst hstate
      simp only [InMemoryVerifierState.storeSession, get_insert_self, Option.some.injEq]
      constructor
      · rintro rfl
        exact ⟨session, Or.inl rfl, rfl, rfl⟩
      · rintro ⟨found, rfl | hfound, hsame, hid⟩
        · exact hid
        · -- nor has another live session its state
          exact absurd hsame (hfresh.ne hfound).2
    · simp only [InMemoryVerifierState.storeSession, get_insert_of_ne _ _ hstate, h.states]
      constructor
      · rintro ⟨found, hfound, hsame⟩
        exact ⟨found, Or.inr hfound, hsame⟩
      · rintro ⟨found, rfl | hfound, hsame, hid⟩
        · exact absurd hsame.symm hstate
        · exact ⟨found, hfound, hsame, hid⟩

/-- What a deletion leaves in the two maps. -/
lemma Inverse.deleteSession (h : Inverse (Live calls) s) (hfresh : Fresh calls) (id : String) :
    (∀ id', (s.deleteSession id).sessions.get id' =
        (s.sessions.get id').filter fun session => session.id != id) ∧
      ∀ state, (s.deleteSession id).stateToId.get state =
        (s.stateToId.get state).filter fun id' => id' != id := by
  constructor
  · intro id'
    rw [InMemoryVerifierState.sessions_deleteSession]
    cases hget : s.sessions.get id' with
    | none =>
      by_cases hid : id' = id
      · rw [hid, get_remove_self]
        rfl
      · rw [get_remove_of_ne _ hid, hget]
        rfl
    | some session =>
      obtain ⟨-, hsame⟩ := (h.sessions id' session).mp hget
      by_cases hid : id' = id
      · rw [hid, get_remove_self]
        simp [Option.filter_some, hsame, hid]
      · rw [get_remove_of_ne _ hid, hget]
        simp [Option.filter_some, hsame, hid]
  · intro state
    unfold InMemoryVerifierState.deleteSession
    cases hget : s.sessions.get id with
    | none =>
      -- no state leads to an id that is not stored
      cases hstate : s.stateToId.get state with
      | none => rfl
      | some id' =>
        obtain ⟨found, hfound, -, hid⟩ := (h.states state id').mp hstate
        have hne : id' ≠ id := by
          rintro rfl
          rw [(h.sessions id' found).mpr ⟨hfound, hid⟩] at hget
          cases hget
        simp [Option.filter_some, hne]
    | some session =>
      obtain ⟨hlive, hid⟩ := (h.sessions id session).mp hget
      by_cases hsame : state = session.state
      · have hstate := (h.states state id).mpr ⟨session, hlive, hsame.symm, hid⟩
        rw [hstate, hsame]
        simp [Option.filter_some]
      · simp only [get_remove_of_ne _ hsame]
        cases hstate : s.stateToId.get state with
        | none => rfl
        | some id' =>
          obtain ⟨found, hfound, hof, hid'⟩ := (h.states state id').mp hstate
          have hne : id' ≠ id := by
            rintro rfl
            have := hlive.unique hfresh hfound (Or.inl (hid.trans hid'.symm))
            exact hsame (by rw [this, hof])
          simp [Option.filter_some, hne]

lemma Inverse.delete (h : Inverse (Live calls) s) (hfresh : Fresh calls) (id : String) :
    Inverse (Live (calls ++ [.delete id])) (s.deleteSession id) := by
  obtain ⟨hsessions, hstates⟩ := h.deleteSession hfresh id
  have hlive : ∀ found, Live (calls ++ [.delete id]) found ↔ Live calls found ∧ id ≠ found.id := by
    intro found
    rw [live_snoc]
    simp
  constructor
  · intro id' found
    rw [hsessions, Option.filter_eq_some_iff, h.sessions, hlive, bne_iff_ne]
    grind
  · intro state id'
    rw [hstates, Option.filter_eq_some_iff, h.states]
    simp only [hlive, bne_iff_ne]
    grind

/-- **The run lemma.** -/
lemma inverse_run (hfresh : Fresh calls) :
    Inverse (Live calls) (run sessionMachine InMemoryVerifierState.new calls) := by
  induction calls using List.reverseRecOn with
  | nil => exact inverse_new
  | append_singleton calls c ih =>
    have hprefix := ih hfresh.of_append
    rw [run_append]
    cases c with
    | store session => exact hprefix.store hfresh
    | delete id => exact hprefix.delete hfresh.of_append id

/-- What the lookups find. -/
lemma Inverse.inStep (h : Inverse (Live calls) s) (hfresh : Fresh calls) : InStep calls s := by
  have hbyState : ∀ state session, s.getSessionByState state = some session ↔
      Live calls session ∧ session.state = state := by
    intro state session
    unfold InMemoryVerifierState.getSessionByState
    rw [Option.bind_eq_some_iff]
    constructor
    · rintro ⟨id, hid, hsession⟩
      obtain ⟨found, hfound, hstate, hof⟩ := (h.states state id).mp hid
      obtain ⟨hlive, hsame⟩ := (h.sessions id session).mp hsession
      -- the two live sessions have one id
      rw [hlive.unique hfresh hfound (Or.inl (hsame.trans hof.symm))]
      exact ⟨hfound, hstate⟩
    · rintro ⟨hlive, hstate⟩
      exact ⟨session.id, (h.states state _).mpr ⟨session, hlive, hstate, rfl⟩,
        (h.sessions _ session).mpr ⟨hlive, rfl⟩⟩
  refine ⟨hbyState, h.sessions, fun state => ?_, fun id state => ?_,
    fun id => (h.deleteSession hfresh id).1, fun id => (h.deleteSession hfresh id).2⟩
  · rw [Option.isSome_iff_exists]
    constructor
    · rintro ⟨id, hid⟩
      obtain ⟨found, hfound, hstate, -⟩ := (h.states state id).mp hid
      exact ⟨found, hfound, hstate⟩
    · rintro ⟨found, hfound, hstate⟩
      exact ⟨found.id, (h.states state _).mpr ⟨found, hfound, hstate, rfl⟩⟩
  · obtain ⟨hsessions, hstates⟩ := h.deleteSession hfresh id
    unfold InMemoryVerifierState.getSessionByState
    rw [hstates]
    cases hstate : s.stateToId.get state with
    | none => rfl
    | some id' =>
      obtain ⟨found, hfound, -, hof⟩ := (h.states state id').mp hstate
      have hget := (h.sessions id' found).mpr ⟨hfound, hof⟩
      by_cases hid : id' = id
      · rw [Option.bind_some, hget]
        simp [Option.filter_some, hof, hid]
      · simp [Option.filter_some, hget, hof, hid, hsessions]

/-! ### Requests -/

variable {X : Crates}

lemma storeNew_eq (s : InMemoryVerifierState) (drawn : ℕ) (session : Option VerifierSession) :
    (storeNew s drawn session).2 =
      (drawn, run sessionMachine s (session.map Call.store).toList) := by
  cases session with
  | none => rfl
  | some session => rfl

lemma run_requests (requests : List RequestCall) (drawn : ℕ) (s : InMemoryVerifierState) :
    (run (requestMachine X) (drawn, s) requests).2 = run sessionMachine s (writes X drawn requests) := by
  induction requests generalizing drawn s with
  | nil => rfl
  | cons r requests ih =>
    cases r with
    | create params createdAt now =>
      -- the request is left as it is: it must not be evaluated
      have hstep : (requestMachine X).step (drawn, s) (.create params createdAt now) =
          ((createAuthorizationRequest X params createdAt now drawn s).2,
            (createAuthorizationRequest X params createdAt now drawn s).1) := rfl
      rw [run_cons, hstep, createAuthorizationRequest, storeNew_eq, ih, writes, run_append]
    | delete id => exact ih drawn (s.deleteSession id)

lemma newSession_drawn {params : RequestParams} {createdAt now : ℤ} {drawn : ℕ}
    {session : VerifierSession} (h : newSession X params createdAt now drawn = some session) :
    session.id = X.uuid drawn ∧ session.state = X.uuid (drawn + 2) := by
  unfold newSession at h
  rw [Option.map_eq_some_iff] at h
  obtain ⟨expiresAt, -, rfl⟩ := h
  exact ⟨rfl, rfl⟩

/-- Sessions are named by identifiers drawn from then on. -/
lemma stored_drawn {requests : List RequestCall} {drawn : ℕ} {session : VerifierSession}
    (h : session ∈ (writes X drawn requests).filterMap Call.stored) :
    ∃ k, drawn ≤ k ∧ session.id = X.uuid k ∧ session.state = X.uuid (k + 2) := by
  induction requests generalizing drawn with
  | nil => simp [writes] at h
  | cons r requests ih =>
    cases r with
    | create params createdAt now =>
      rw [writes, List.filterMap_append, List.mem_append] at h
      rcases h with h | h
      · cases hnew : newSession X params createdAt now drawn with
        | none => simp [hnew] at h
        | some found =>
          have hsame : session = found := by simpa [hnew, Call.stored] using h
          rw [hsame]
          exact ⟨drawn, Nat.le_refl _, newSession_drawn hnew⟩
      · obtain ⟨k, hk, hof⟩ := ih h
        exact ⟨k, by omega, hof⟩
    | delete id => exact ih (by simpa [writes, Call.stored] using h)

/-- **The sessions of authorization requests** have ids and states of their own. -/
lemma fresh_writes (huuid : Function.Injective X.uuid) (requests : List RequestCall) (drawn : ℕ) :
    Fresh (writes X drawn requests) := by
  induction requests generalizing drawn with
  | nil => exact ⟨List.nodup_nil, List.nodup_nil⟩
  | cons r requests ih =>
    cases r with
    | create params createdAt now =>
      rw [writes]
      cases hnew : newSession X params createdAt now drawn with
      | none => exact ih (drawn + 3)
      | some session =>
        obtain ⟨hid, hstate⟩ := newSession_drawn hnew
        refine ⟨List.nodup_cons.mpr ⟨?_, (ih (drawn + 3)).1⟩,
          List.nodup_cons.mpr ⟨?_, (ih (drawn + 3)).2⟩⟩
        · intro hmem
          obtain ⟨found, hfound, hsame⟩ := List.mem_map.mp hmem
          obtain ⟨k, hk, hof, -⟩ := stored_drawn hfound
          rw [hid, hof] at hsame
          have := huuid hsame
          omega
        · intro hmem
          obtain ⟨found, hfound, hsame⟩ := List.mem_map.mp hmem
          obtain ⟨k, hk, -, hof⟩ := stored_drawn hfound
          rw [hstate, hof] at hsame
          have := huuid hsame
          omega
    | delete id => exact ih drawn

/-- **The session store keeps its two maps in step**, for sessions with ids and states of their
own, such as those of authorization requests. -/
theorem sessions_inStep :
    (∀ calls, Fresh calls → InStep calls (run sessionMachine InMemoryVerifierState.new calls)) ∧
      ∀ X : Crates, Function.Injective X.uuid → ∀ requests, Fresh (writes X 0 requests) ∧
        InStep (writes X 0 requests)
          (run (requestMachine X) (0, InMemoryVerifierState.new) requests).2 := by
  refine ⟨fun calls hfresh => (inverse_run hfresh).inStep hfresh, fun X huuid requests => ?_⟩
  have hfresh := fresh_writes huuid requests 0
  rw [run_requests]
  exact ⟨hfresh, (inverse_run hfresh).inStep hfresh⟩

section TwoSessions

/-- A session of these identifiers, that asks for nothing in particular. -/
def openSession (id nonce state : String) : VerifierSession where
  id := id
  nonce := nonce
  state := state
  request := authorizationRequest
    ⟨"https://verifier.example.com", "https://verifier.example.com/response", none, 600⟩ nonce state
  createdAt := seconds 1767225600
  expiresAt := seconds 1767226200

def firstSession : VerifierSession :=
  openSession "1b4e28ba-2fa1-4d28-883f-0016d3cca427" "6fa459ea-ee8a-4ca4-894e-db77e160355e"
    "16fd2706-8baf-433b-82eb-8c7fada847da"

def secondSession : VerifierSession :=
  openSession "7d444840-9dc0-41d1-b245-5ffdce74fad2" "e4eaaaf2-d142-41b3-b1c1-7a4f0e8f7f06"
    "a3bb189e-8bf9-4888-9912-ace4e6543002"

/-- Of two sessions one is deleted: its state is gone, and the other session is found. -/
theorem second_remains :
    let s := run sessionMachine InMemoryVerifierState.new
      [.store firstSession, .store secondSession, .delete firstSession.id]
    s.getSessionByState secondSession.state = some secondSession ∧
      s.stateToId.get firstSession.state = none := by
  have hstep := sessions_inStep.1 [.store firstSession, .store secondSession] (by
    constructor <;> decide)
  have hdelete := hstep.deletedByState firstSession.id secondSession.state
  have hstate := hstep.deletedState firstSession.id firstSession.state
  rw [(hstep.byState _ secondSession).mpr ⟨⟨[.store firstSession], [], rfl, by simp⟩, rfl⟩] at hdelete
  exact ⟨hdelete.trans (Option.filter_some_eq_some.mpr (by decide)), hstate.trans rfl⟩

end TwoSessions

end Oid4vc.Sessions
