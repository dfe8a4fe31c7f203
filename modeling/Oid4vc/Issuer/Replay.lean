import Oid4vc.Base.Run
import Oid4vc.Issuer.ClientAttestation

/-!
How often a one-time proof is accepted.

The `jti` of an accepted DPoP proof or attestation PoP is remembered for a fixed time from
its receipt, while the proof itself stays acceptable for a time that starts at its `iat`. A
proof is accepted once as long as nobody presents it again after the one time has passed
and before the other has.
-/

namespace Oid4vc.Replay

open Oid4vc.JsonValue Oid4vc.Text Oid4vc.Fallible Oid4vc.PartialMap Oid4vc.Instant Oid4vc.Run
open Oid4vc.External Oid4vc.Jwks Oid4vc.Keys Oid4vc.Jws Oid4vc.SdJwt Oid4vc.IssuerStore
open Oid4vc.Dpop Oid4vc.ClientAttestation

/-- A request to verify a one-time proof. -/
inductive Request
  | dpop (proof : String) (ctx : DpopContext)
  | attestation (attestation pop : String) (trustedAttesters : List Jwk) (audience : String)

/-- A call, with the instants at which it reads the clock: for the times that the proof
states, and when its `jti` is recorded. -/
structure Call where
  request : Request
  now : ℤ
  recordedAt : ℤ

inductive Answer
  | dpop (r : Except DpopError String)
  | attestation (r : Except AttestationError AttestedClient)

def Answer.isOk : Answer → Bool
  | .dpop r => r.isOk
  | .attestation r => r.isOk

/-- What may be used once. -/
inductive OneTime
  | dpopProof (proof : String)
  | attestationPop (pop : String)
  deriving DecidableEq

def OneTime.text : OneTime → String
  | .dpopProof proof => proof
  | .attestationPop pop => pop

def Request.presents : Request → OneTime
  | .dpop proof _ => .dpopProof proof
  | .attestation _ pop _ _ => .attestationPop pop

variable (X : Crates)

/-- Calls on one store, one after the other. -/
def calls : Machine InMemoryIssuerState Call Answer where
  step s c := match c.request with
    | .dpop proof ctx =>
      ((verifyDpopProof X c.now c.recordedAt proof ctx s).2,
        .dpop (verifyDpopProof X c.now c.recordedAt proof ctx s).1)
    | .attestation attestation pop trustedAttesters audience =>
      ((verifyClientAttestation X c.now c.recordedAt attestation pop trustedAttesters audience
          s).2,
        .attestation (verifyClientAttestation X c.now c.recordedAt attestation pop
          trustedAttesters audience s).1)

/-- The clock does not go back. -/
def Chronological (cs : List Call) : Prop :=
  (∀ c ∈ cs, c.now ≤ c.recordedAt) ∧ cs.Pairwise fun c c' => c.recordedAt ≤ c'.now

/-- No one-time proof is accepted by two of the calls. -/
def AcceptedOnce (entries : List (Entry InMemoryIssuerState Call Answer)) : Prop :=
  entries.Pairwise fun e e' => e.input.request.presents = e'.input.request.presents →
    ¬ (e.answer.isOk = true ∧ e'.answer.isOk = true)

/-- The instant a proof says it was made at. -/
def statedIat (p : OneTime) : Option ℤ := (jwtClaims X p.text).bind fun c => i64Claim c "iat"

/-- The client that an attestation is about. -/
def attestedSub : Request → Option String
  | .dpop _ _ => none
  | .attestation attestation _ _ _ => (jwtClaims X attestation).bind fun c => strClaim c "sub"

/-- The later call comes when the earlier one's `jti` has been forgotten, and the proof is
still young enough. -/
def OutlivesRecord (c c' : Call) : Prop :=
  c.recordedAt + seconds (maxAgeSecs + maxSkewSecs) ≤ c'.recordedAt ∧
    ∃ iat ∈ statedIat X c.request.presents, timestamp c'.now - maxAgeSecs ≤ iat

/-- The PoP names no client, and comes with attestations of two. -/
def ChangesClient (c c' : Call) : Prop :=
  (jwtClaims X c.request.presents.text).bind (fun claims => strClaim claims "iss") = none ∧
    attestedSub X c.request ≠ attestedSub X c'.request

/-- No proof is presented again in one of these two ways. -/
def Covered (cs : List Call) : Prop :=
  cs.Pairwise fun c c' => c.request.presents = c'.request.presents →
    ¬ OutlivesRecord X c c' ∧ ¬ ChangesClient X c c'

/-- The key under which a request's `jti` is recorded. -/
def recordKey : Request → Option String
  | .dpop proof _ => do
    let claims ← jwtClaims X proof
    let jti ← strClaim claims "jti"
    some (jtiKey jti)
  | .attestation attestation pop _ _ => do
    let claims ← jwtClaims X pop
    let jti ← strClaim claims "jti"
    let attested ← jwtClaims X attestation
    let sub ← strClaim attested "sub"
    some (popKey sub jti)

variable {X}

/-- What it takes to be accepted: a young proof, recorded under its key, and for a PoP its
`iss`, if any, the client attested. -/
structure Accepts (X : Crates) (s : InMemoryIssuerState) (c : Call) (key : String) : Prop where
  keyed : recordKey X c.request = some key
  young : ∃ iat ∈ statedIat X c.request.presents, timestamp c.now - maxAgeSecs ≤ iat
  iss : ∀ sub, attestedSub X c.request = some sub → ∀ claims iss,
    jwtClaims X c.request.presents.text = some claims → strClaim claims "iss" = some iss →
      iss = sub
  recorded : s.recordJti c.recordedAt key (maxAgeSecs + maxSkewSecs) = (true, ((calls X).step s c).1)

lemma step_accepts {s : InMemoryIssuerState} {c : Call}
    (h : ((calls X).step s c).2.isOk = true) : ∃ key, Accepts X s c key := by
  obtain ⟨request, now, recordedAt⟩ := c
  cases request with
  | dpop proof ctx =>
    generalize hr : verifyDpopProof X now recordedAt proof ctx s = r at h
    obtain ⟨r, s'⟩ := r
    simp only [calls, Answer.isOk, hr] at h
    cases r with
    | error e => cases h
    | ok thumbprint =>
      obtain ⟨jti, hcheck, hrec⟩ := verifyDpopProof_eq_ok hr
      obtain ⟨d, jwk, claims, hv, -, -, -, -, hc, hcc, -⟩ := checkDpopProof_eq_ok.mp hcheck
      obtain ⟨-, -, ⟨iat, hiat, -, hyoung⟩, -, hjti⟩ := checkClaims_eq_ok.mp hcc
      have hjwt : jwtClaims X proof = some claims :=
        jwtClaims_of_decodes (verifyWithPublicJwk_eq_ok.mp hv).1 hc
      refine ⟨jtiKey jti, ?_, ⟨iat, ?_, hyoung⟩,
        fun sub hs => by simp [attestedSub] at hs, ?_⟩
      · simp [recordKey, hjwt, hjti]
      · simp [statedIat, Request.presents, OneTime.text, hjwt, hiat]
      · simpa [calls, hr] using hrec
  | attestation attestation pop trustedAttesters audience =>
    generalize hr : verifyClientAttestation X now recordedAt attestation pop trustedAttesters
      audience s = r at h
    obtain ⟨r, s'⟩ := r
    simp only [calls, Answer.isOk, hr] at h
    cases r with
    | error e => cases h
    | ok client =>
      obtain ⟨jti, hcheck, hrec⟩ := verifyClientAttestation_eq_ok hr
      obtain ⟨hatt, claims, hjwt, hpop⟩ := checkClientAttestation_eq_ok hcheck
      obtain ⟨attested, hattested, hsub⟩ := checkAttestation_eq_ok hatt
      obtain ⟨hiss, ⟨iat, hiat, -, hyoung⟩, hjti⟩ := checkPopClaims_eq_ok hpop
      refine ⟨popKey client.clientId jti, ?_, ⟨iat, ?_, hyoung⟩,
        fun sub hs claims' iss hc' hi => ?_, ?_⟩
      · simp [recordKey, hjwt, hjti, hattested, hsub]
      · simp [statedIat, Request.presents, OneTime.text, hjwt, hiat]
      · -- the `iss` of the PoP, if it has one, is the attested client
        simp only [Request.presents, OneTime.text, hjwt, Option.some.injEq] at hc'
        subst hc'
        simp only [attestedSub, hattested, Option.bind_some, hsub, Option.some.injEq] at hs
        rw [← hs]
        exact hiss iss hi
      · simp only [calls, hr]
        exact hrec

lemma step_state (s : InMemoryIssuerState) (c : Call) :
    ((calls X).step s c).1 = s ∨
      ∃ key, ((calls X).step s c).1 =
        (s.recordJti c.recordedAt key (maxAgeSecs + maxSkewSecs)).2 := by
  obtain ⟨request, now, recordedAt⟩ := c
  cases request with
  | dpop proof ctx =>
    rcases verifyDpopProof_state now recordedAt proof ctx s with h | ⟨jti, t, -, h⟩
    · exact Or.inl h
    · exact Or.inr ⟨jtiKey jti, h⟩
  | attestation attestation pop trustedAttesters audience =>
    rcases verifyClientAttestation_state now recordedAt attestation pop trustedAttesters audience
      s with h | ⟨client, jti, -, h⟩
    · exact Or.inl h
    · exact Or.inr ⟨popKey client.clientId jti, h⟩

/-- An accepted proof is remembered: its `jti` is recorded until its time is over, or it was
over at the instant `t`. -/
def Remembered (X : Crates) (s : InMemoryIssuerState) (t : ℤ) (c : Call) : Prop :=
  ∀ key, recordKey X c.request = some key →
    (∃ expires, s.seenJtis.get key = some expires ∧
      c.recordedAt + seconds (maxAgeSecs + maxSkewSecs) ≤ expires) ∨
    c.recordedAt + seconds (maxAgeSecs + maxSkewSecs) ≤ t

/-- **What one call forgets.** A later call forgets only what has had its time. -/
lemma Remembered.step {s : InMemoryIssuerState} {c c' : Call} (h : Remembered X s c'.recordedAt c)
    (hle : c.recordedAt ≤ c'.recordedAt) :
    Remembered X ((calls X).step s c').1 c'.recordedAt c := by
  intro key hkey
  rcases h key hkey with ⟨expires, hget, hlong⟩ | hover
  · rcases step_state (X := X) s c' with hs | ⟨key', hs⟩
    · exact Or.inl ⟨expires, by rw [hs]; exact hget, hlong⟩
    · rcases Int.lt_or_le c'.recordedAt expires with hlt | hle'
      · obtain ⟨expires', hget', he⟩ := InMemoryIssuerState.get_recordJti key'
          (maxAgeSecs + maxSkewSecs) hget hlt
        refine Or.inl ⟨expires', by rw [hs]; exact hget', ?_⟩
        rcases he with rfl | rfl
        · exact hlong
        · push_cast
          omega
      · exact Or.inr (by omega)
  · exact Or.inr hover

lemma Accepts.remembered {s : InMemoryIssuerState} {c : Call} {key : String}
    (h : Accepts X s c key) : Remembered X ((calls X).step s c).1 c.recordedAt c := by
  intro key' hkey
  obtain rfl : key = key' := Option.some.inj (h.keyed.symm.trans hkey)
  have hrec := (InMemoryIssuerState.recordJti_eq_true (congrArg Prod.fst h.recorded)).2
  rw [h.recorded] at hrec
  refine Or.inl ⟨_, by rw [hrec]; exact get_insert_self _ _ _, ?_⟩
  push_cast
  omega

lemma input_mem {s : InMemoryIssuerState} {cs : List Call}
    {e : Entry InMemoryIssuerState Call Answer} (he : e ∈ log (calls X) s cs) : e.input ∈ cs := by
  obtain ⟨as, c, bs, rfl, rfl⟩ := exists_split_of_mem_log he
  exact List.mem_append_right _ (List.mem_cons_self ..)

lemma chronological_append {cs : List Call} {c : Call} (h : Chronological (cs ++ [c])) :
    Chronological cs ∧ ∀ c0 ∈ cs, c0.recordedAt ≤ c.recordedAt := by
  obtain ⟨hreads, hpairs⟩ := h
  obtain ⟨hcs, -, hlast⟩ := List.pairwise_append.mp hpairs
  refine ⟨⟨fun c0 h0 => hreads c0 (List.mem_append_left _ h0), hcs⟩, fun c0 h0 => ?_⟩
  have h1 := hlast c0 h0 c (List.mem_singleton_self c)
  have h2 := hreads c (List.mem_append_right _ (List.mem_singleton_self c))
  omega

/-- **What a run remembers.** -/
theorem run_remembered {s : InMemoryIssuerState} {cs : List Call} (h : Chronological cs) {t : ℤ}
    (ht : ∀ c ∈ cs, c.recordedAt ≤ t) {e : Entry InMemoryIssuerState Call Answer}
    (he : e ∈ log (calls X) s cs) (hok : e.answer.isOk = true) :
    Remembered X (run (calls X) s cs) t e.input := by
  induction cs using List.reverseRecOn generalizing t with
  | nil => simp at he
  | append_singleton cs c ih =>
    obtain ⟨hcs, hlast⟩ := chronological_append h
    have hct := ht c (List.mem_append_right _ (List.mem_singleton_self c))
    -- what is remembered at the call is remembered at `t`
    suffices hc : Remembered X (run (calls X) s (cs ++ [c])) c.recordedAt e.input by
      intro key hkey
      exact (hc key hkey).imp id fun hover => by omega
    rw [log_append, List.mem_append] at he
    rw [run_append]
    rcases he with he | he
    · exact (ih hcs hlast he).step (hlast _ (input_mem he))
    · simp only [log_cons, log_nil, List.mem_singleton] at he
      subst he
      obtain ⟨key, haccepts⟩ := step_accepts hok
      exact haccepts.remembered

/-- A request that is recorded is one for a DPoP proof, or attests a client. -/
lemma recordKey_eq_some {r : Request} {key : String} (h : recordKey X r = some key) :
    (∃ proof ctx claims jti, r = .dpop proof ctx ∧ jwtClaims X proof = some claims ∧
        strClaim claims "jti" = some jti ∧ key = jtiKey jti) ∨
      ∃ attestation pop trusted audience claims jti sub,
        r = .attestation attestation pop trusted audience ∧ jwtClaims X pop = some claims ∧
        strClaim claims "jti" = some jti ∧ attestedSub X r = some sub ∧ key = popKey sub jti := by
  cases r with
  | dpop proof ctx =>
    simp only [recordKey, Option.bind_eq_bind, Option.bind_eq_some_iff, Option.some.injEq] at h
    obtain ⟨claims, hc, jti, hj, rfl⟩ := h
    exact Or.inl ⟨proof, ctx, claims, jti, rfl, hc, hj, rfl⟩
  | attestation attestation pop trusted audience =>
    simp only [recordKey, Option.bind_eq_bind, Option.bind_eq_some_iff, Option.some.injEq] at h
    obtain ⟨claims, hc, jti, hj, attested, ha, sub, hs, rfl⟩ := h
    exact Or.inr ⟨attestation, pop, trusted, audience, claims, jti, sub, rfl, hc, hj,
      by simp [attestedSub, ha, hs], rfl⟩

/-- Two accepted calls with one proof record it under one key, unless it is a PoP that names
no client and comes with two. -/
lemma accepts_key_eq {s s' : InMemoryIssuerState} {c c' : Call} {key key' : String}
    (h : Accepts X s c key) (h' : Accepts X s' c' key')
    (hp : c.request.presents = c'.request.presents) (hchange : ¬ ChangesClient X c c') :
    key = key' := by
  rcases recordKey_eq_some h.keyed with
    ⟨proof, ctx, claims, jti, hr, hc, hj, rfl⟩ | ⟨att, pop, tr, aud, claims, jti, sub, hr, hc, hj, hs, rfl⟩ <;>
  rcases recordKey_eq_some h'.keyed with
    ⟨proof', ctx', claims', jti', hr', hc', hj', rfl⟩ |
      ⟨att', pop', tr', aud', claims', jti', sub', hr', hc', hj', hs', rfl⟩
  · rw [hr, hr'] at hp
    obtain rfl : proof = proof' := by simpa [Request.presents] using hp
    obtain rfl : claims = claims' := Option.some.inj (hc.symm.trans hc')
    rw [Option.some.inj (hj.symm.trans hj')]
  · rw [hr, hr'] at hp
    simp [Request.presents] at hp
  · rw [hr, hr'] at hp
    simp [Request.presents] at hp
  · have hpop : c.request.presents.text = pop := by rw [hr]; rfl
    rw [hr, hr'] at hp
    obtain rfl : pop = pop' := by simpa [Request.presents] using hp
    obtain rfl : claims = claims' := Option.some.inj (hc.symm.trans hc')
    rw [Option.some.inj (hj.symm.trans hj')]
    -- one PoP: with an `iss` it is of one client, and without one the client has not changed
    suffices hsub : sub = sub' by rw [hsub]
    by_contra hne
    refine hchange ⟨?_, by rw [hs, hs']; simpa using hne⟩
    rw [hpop, hc, Option.bind_some]
    cases hiss : strClaim claims "iss" with
    | none => rfl
    | some iss =>
      exfalso
      have h1 := h.iss sub hs claims iss (by rw [hpop]; exact hc) hiss
      have h2 := h'.iss sub' hs' claims iss (by rw [hr']; exact hc) hiss
      exact hne (h1.symm.trans h2)

/-- **One acceptance a proof.** In every sequence of calls at times that do not go back, no
proof is accepted twice, unless it is presented again when its record is over and it is not,
or for another client. -/
theorem acceptedOnce_of_covered (X : Crates) (s : InMemoryIssuerState) (cs : List Call)
    (htimes : Chronological cs) (hcovered : Covered X cs) :
    AcceptedOnce (log (calls X) s cs) := by
  induction cs using List.reverseRecOn with
  | nil => exact List.Pairwise.nil
  | append_singleton cs c ih =>
    obtain ⟨hcs, hlast⟩ := chronological_append htimes
    obtain ⟨hpast, -, hnew⟩ := List.pairwise_append.mp hcovered
    rw [AcceptedOnce, log_append]
    refine List.pairwise_append.mpr ⟨ih hcs hpast, List.pairwise_singleton _ _, ?_⟩
    intro e he e' he' hp hok
    simp only [log_cons, log_nil, List.mem_singleton] at he'
    subst he'
    obtain ⟨key, haccepts⟩ := step_accepts (X := X) (c := c) hok.2
    have hmem := input_mem he
    obtain ⟨houtlives, hchange⟩ := hnew e.input hmem c (List.mem_singleton_self c) hp
    -- the earlier call was accepted too, under the same key, and its record is over
    obtain ⟨as, c0, bs, rfl, rfl⟩ := exists_split_of_mem_log he
    obtain ⟨key0, haccepts0⟩ := step_accepts (X := X) (c := c0) hok.1
    obtain rfl : key0 = key := accepts_key_eq haccepts0 haccepts hp hchange
    have hover : c0.recordedAt + seconds (maxAgeSecs + maxSkewSecs) ≤ c.recordedAt := by
      rcases run_remembered hcs hlast he hok.1 key0 haccepts0.keyed with ⟨expires, hget, hle⟩ | h
      · have hexp := (InMemoryIssuerState.recordJti_eq_true
          (congrArg Prod.fst haccepts.recorded)).1 expires hget
        exact Int.le_trans hle hexp
      · exact h
    obtain ⟨iat, hiat, hyoung⟩ := haccepts.young
    exact houtlives ⟨hover, iat, by rw [hp]; exact hiat, hyoung⟩

section TwoCalls

variable {proof : String} {ctx : DpopContext} {t t' : ℤ} {jti thumbprint : String}

lemma accepted_first (h : checkDpopProof X t proof ctx = .ok (jti, thumbprint)) :
    verifyDpopProof X t t proof ctx InMemoryIssuerState.new = (.ok thumbprint,
      (InMemoryIssuerState.new.recordJti t (jtiKey jti) (maxAgeSecs + maxSkewSecs)).2) := by
  simp [verifyDpopProof, h, InMemoryIssuerState.recordJti, InMemoryIssuerState.remembered,
    InMemoryIssuerState.new]

/-- A proof that passes the checks at two instants, the second when its record is over, is
accepted at both. -/
lemma accepted_again (h : checkDpopProof X t proof ctx = .ok (jti, thumbprint))
    (h' : checkDpopProof X t' proof ctx = .ok (jti, thumbprint))
    (hover : t + seconds (maxAgeSecs + maxSkewSecs) ≤ t') :
    ¬ AcceptedOnce (log (calls X) InMemoryIssuerState.new
      [⟨.dpop proof ctx, t, t⟩, ⟨.dpop proof ctx, t', t'⟩]) := by
  intro honce
  simp only [log_cons, log_nil, AcceptedOnce, List.pairwise_cons, List.mem_singleton,
    forall_eq] at honce
  refine honce.1 rfl ⟨?_, ?_⟩
  · simp only [entry, calls, accepted_first h]
    rfl
  · have hnot : ¬ t' < t + seconds (maxAgeSecs + maxSkewSecs) := by omega
    simp only [entry, calls, accepted_first h]
    simp [verifyDpopProof, h', InMemoryIssuerState.recordJti, InMemoryIssuerState.remembered,
      InMemoryIssuerState.new, hnot, Answer.isOk]
    rfl

/-- A proof that is presented twice within the time of its record is accepted only once. -/
lemma covered_pair (hwithin : t' < t + seconds (maxAgeSecs + maxSkewSecs)) :
    Covered X [⟨.dpop proof ctx, t, t⟩, ⟨.dpop proof ctx, t', t'⟩] := by
  refine List.pairwise_pair.mpr fun _ => ⟨fun houtlives => ?_, fun hchange => hchange.2 rfl⟩
  have hover : t + seconds (maxAgeSecs + maxSkewSecs) ≤ t' := houtlives.1
  omega

lemma exists_accepted (h : checkDpopProof X t proof ctx = .ok (jti, thumbprint))
    (cs : List Call) :
    ∃ e ∈ log (calls X) InMemoryIssuerState.new (⟨.dpop proof ctx, t, t⟩ :: cs),
      e.answer.isOk = true := by
  refine ⟨_, List.mem_cons_self .., ?_⟩
  simp only [entry, calls, accepted_first h]
  rfl

end TwoCalls

/-! ### A proof made for a minute ahead -/

section ProofAhead

/-- The header, payload and signature of a DPoP proof. -/
def proofHeader : String :=
  "eyJ0eXAiOiJkcG9wK2p3dCIsImFsZyI6IkVTMjU2IiwiandrIjp7Imt0eSI6Ik" ++
  "VDIiwieCI6Imw4dEZyaHgtMzR0VjNoUklDUkRZOXpDa0RscEJoRjQyVVFVZldWQVdCR" ++
  "nMiLCJ5IjoiOVZFNGpmX09rX282NHpiVFRsY3VOSmFqSG10NnY5VERWclUwQ2R2R1JE" ++
  "QSIsImNydiI6IlAtMjU2In19"

def proofPayload : String :=
  "eyJqdGkiOiItQndDM0VTYzZhY2MybFRjIiwiaHRtIj" ++
  "oiUE9TVCIsImh0dSI6Imh0dHBzOi8vc2VydmVyLmV4YW1wbGUuY29tL3Rva2VuIiwia" ++
  "WF0IjoxNTYyMjYyNjE2fQ"

def proofSignature : String :=
  "2-GxA6T8lP4vfrg8v-FdWP0A0zdrj8igiMLvqRMUvwnQg" ++
  "4PtFLbdLXiOSsX0x7NVY-FNyJK70nfbV37xRZT3Lg"

def proofText : String := proofHeader ++ "." ++ proofPayload ++ "." ++ proofSignature

/-- What these texts decode to. -/
def proofHeaderBytes : Bytes := utf8 <|
  "\x7b\"typ\":\"dpop+jwt\",\"alg\":\"ES256\",\"jwk\":\x7b\"kty\":\"EC\"," ++
  "\"x\":\"l8tFrhx-34tV3hRICRDY9zCkDlpBhF42UQUfWVAWBFs\"," ++
  "\"y\":\"9VE4jf_Ok_o64zbTTlcuNJajHmt6v9TDVrU0CdvGRDA\",\"crv\":\"P-256\"\x7d\x7d"

def proofPayloadBytes : Bytes := utf8 <|
  "\x7b\"jti\":\"-BwC3ESc6acc2lTc\",\"htm\":\"POST\"," ++
  "\"htu\":\"https://server.example.com/token\",\"iat\":1562262616\x7d"

def proofSignatureBytes : Bytes :=
  [0xdb, 0xe1, 0xb1, 0x03, 0xa4, 0xfc, 0x94, 0xfe, 0x2f, 0x7e, 0xb8, 0x3c, 0xbf, 0xe1, 0x5d, 0x58,
   0xfd, 0x00, 0xd3, 0x37, 0x6b, 0x8f, 0xc8, 0xa0, 0x88, 0xc2, 0xef, 0xa9, 0x13, 0x14, 0xbf, 0x09,
   0xd0, 0x83, 0x83, 0xed, 0x14, 0xb6, 0xdd, 0x2d, 0x78, 0x8e, 0x4a, 0xc5, 0xf4, 0xc7, 0xb3, 0x55,
   0x63, 0xe1, 0x4d, 0xc8, 0x92, 0xbb, 0xd2, 0x77, 0xdb, 0x57, 0x7e, 0xf1, 0x45, 0x94, 0xf7, 0x2e]

def proofX : String := "l8tFrhx-34tV3hRICRDY9zCkDlpBhF42UQUfWVAWBFs"

def proofXBytes : Bytes :=
  [0x97, 0xcb, 0x45, 0xae, 0x1c, 0x7e, 0xdf, 0x8b, 0x55, 0xde, 0x14, 0x48, 0x09, 0x10, 0xd8, 0xf7,
   0x30, 0xa4, 0x0e, 0x5a, 0x41, 0x84, 0x5e, 0x36, 0x51, 0x05, 0x1f, 0x59, 0x50, 0x16, 0x04, 0x5b]

def proofY : String := "9VE4jf_Ok_o64zbTTlcuNJajHmt6v9TDVrU0CdvGRDA"

def proofYBytes : Bytes :=
  [0xf5, 0x51, 0x38, 0x8d, 0xff, 0xce, 0x93, 0xfa, 0x3a, 0xe3, 0x36, 0xd3, 0x4e, 0x57, 0x2e, 0x34,
   0x96, 0xa3, 0x1e, 0x6b, 0x7a, 0xbf, 0xd4, 0xc3, 0x56, 0xb5, 0x34, 0x09, 0xdb, 0xc6, 0x44, 0x30]

def proofJwk : Jwk where
  kty := "EC"
  crv := some "P-256"
  x := some proofX
  y := some proofY
  d := none
  alg := none
  kid := none
  use := none

def proofJwsHeader : JwsHeader := ⟨"ES256", some "dpop+jwt", none, some proofJwk, none⟩

def proofClaims : Json :=
  .obj [("htm", .str "POST"), ("htu", .str "https://server.example.com/token"),
    ("iat", .num (.posInt 1562262616)), ("jti", .str "-BwC3ESc6acc2lTc")]

def proofContext : DpopContext := ⟨"POST", "https://server.example.com/token", none⟩

def proofInput : Bytes := utf8 (proofHeader ++ "." ++ proofPayload)

def proofTexts : List (String × Bytes) :=
  [(proofHeader, proofHeaderBytes), (proofPayload, proofPayloadBytes),
    (proofSignature, proofSignatureBytes), (proofX, proofXBytes), (proofY, proofYBytes)]

def proofCrates : Crates :=
  { Crates.inert with
    base64UrlDecode := table proofTexts "invalid Base64 encoding"
    headerFromSlice := table [(proofHeaderBytes, proofJwsHeader)] "expected value"
    jsonFromSlice := table [(proofPayloadBytes, proofClaims)] "expected value"
    p256FromAffine := fun x y => table [((proofXBytes, proofYBytes), ())] "invalid point" (x, y)
    p256Signature := table [(proofSignatureBytes, ())] "signature error"
    p256Verify := fun key message signature =>
      table [(((proofXBytes, proofYBytes), proofInput, proofSignatureBytes), ())]
        "signature error" (key, message, signature)
    urlParse := some
    urlWithoutQuery := id }

lemma proof_base64 :
    proofCrates.base64UrlDecode = table proofTexts "invalid Base64 encoding" := rfl

lemma proof_header :
    proofCrates.headerFromSlice = table [(proofHeaderBytes, proofJwsHeader)] "expected value" :=
  rfl

lemma proof_payload :
    proofCrates.jsonFromSlice = table [(proofPayloadBytes, proofClaims)] "expected value" := rfl

lemma proof_noDot : '.' ∉ proofHeader.toList ∧ '.' ∉ proofPayload.toList := by
  unfold proofHeader proofPayload
  refine ⟨not_mem_append (not_mem_append (not_mem_append ?_ ?_) ?_) ?_,
    not_mem_append (not_mem_append ?_ ?_) ?_⟩ <;> exact not_mem_ofList (by decide +kernel)

lemma proof_decodes :
    decodeCompact proofCrates proofText = .ok {
      header := proofJwsHeader
      payload := proofPayloadBytes
      signature := proofSignatureBytes
      signingInput := proofHeader ++ "." ++ proofPayload } := by
  have hsplit : splitn 3 '.' proofText = [proofHeader, proofPayload, proofSignature] :=
    splitn_dots.mpr ⟨by rw [proofText], proof_noDot.1, proof_noDot.2⟩
  refine decodeCompact_eq_ok.mpr ⟨_, _, _, proofHeaderBytes, hsplit, ?_, ?_, ?_, ?_, rfl⟩
  · rw [proof_base64, proofTexts, table_self]
  · rw [proof_header, table_self]
  · rw [proof_base64, proofTexts, table_of_ne (by decide +kernel), table_self]
  · rw [proof_base64, proofTexts, table_of_ne (by decide +kernel),
      table_of_ne (by decide +kernel), table_self]

lemma proof_verifies : verifyWithJwk proofCrates proofJwk proofInput proofSignatureBytes =
    .ok () := by
  have hx : decodeCoordinate proofCrates proofJwk.x "x" = .ok proofXBytes := by
    simp only [decodeCoordinate, proofJwk, bind_eq_ok, okOr_eq_ok, mapError_eq_ok]
    refine ⟨_, rfl, ?_⟩
    rw [proof_base64, proofTexts, table_of_ne (by decide +kernel), table_of_ne (by decide +kernel),
      table_of_ne (by decide +kernel), table_self]
  have hy : decodeCoordinate proofCrates proofJwk.y "y" = .ok proofYBytes := by
    simp only [decodeCoordinate, proofJwk, bind_eq_ok, okOr_eq_ok, mapError_eq_ok]
    refine ⟨_, rfl, ?_⟩
    rw [proof_base64, proofTexts, table_of_ne (by decide +kernel), table_of_ne (by decide +kernel),
      table_of_ne (by decide +kernel), table_of_ne (by decide +kernel), table_self]
  have haffine : proofCrates.p256FromAffine = fun x y =>
    table [((proofXBytes, proofYBytes), ())] "invalid point" (x, y) := rfl
  have hsignature : proofCrates.p256Signature =
    table [(proofSignatureBytes, ())] "signature error" := rfl
  have hverify : proofCrates.p256Verify = fun key message signature =>
    table [(((proofXBytes, proofYBytes), proofInput, proofSignatureBytes), ())]
      "signature error" (key, message, signature) := rfl
  change verifyP256 proofCrates proofJwk _ _ = .ok ()
  simp only [verifyP256, bind_eq_ok, ensure_eq_ok, mapError_eq_ok, exists_unit, haffine,
    hsignature, hverify]
  exact ⟨_, hx, _, hy, ⟨rfl, rfl⟩, table_self _ _ _ _, table_self _ _ _ _, table_self _ _ _ _⟩

/-- The proof passes the checks from a minute before its `iat` to five minutes after it. -/
lemma proof_checks {t : ℤ} (h : 1562262556 ≤ timestamp t) (h' : timestamp t ≤ 1562262916) :
    checkDpopProof proofCrates t proofText proofContext =
      .ok ("-BwC3ESc6acc2lTc", computeThumbprint proofCrates proofJwk) := by
  have hjws := verifyWithPublicJwk_eq_ok.mpr
    ⟨proof_decodes, ⟨.es256, rfl, rfl⟩, proof_verifies⟩
  refine checkDpopProof_eq_ok.mpr ⟨_, proofJwk, proofClaims, hjws, rfl, by decide, rfl, rfl,
    by rw [proof_payload, table_self], ?_, rfl⟩
  · have hno : ∀ token ∈ proofContext.accessToken,
        strClaim proofClaims "ath" = some (accessTokenHash proofCrates token) := by
      simp [proofContext]
    refine checkClaims_eq_ok.mpr ⟨by decide +kernel,
      ⟨"https://server.example.com/token", by decide +kernel, rfl⟩,
      ⟨1562262616, by decide +kernel, ?_, ?_⟩, hno, by decide +kernel⟩
    · simp only [maxSkewSecs]
      omega
    · simp only [maxAgeSecs]
      omega

/-- The proof is accepted a minute before its `iat`, and again six minutes later. -/
theorem replayedProof_accepted :
    ¬ AcceptedOnce (log (calls proofCrates) InMemoryIssuerState.new
      [⟨.dpop proofText proofContext, seconds 1562262556, seconds 1562262556⟩,
        ⟨.dpop proofText proofContext, seconds 1562262916, seconds 1562262916⟩]) :=
  accepted_again (proof_checks (by decide) (by decide)) (proof_checks (by decide) (by decide))
    (by decide)

/-- Ten seconds later it is refused. -/
theorem proof_acceptedOnce :
    let entries := log (calls proofCrates) InMemoryIssuerState.new
      [⟨.dpop proofText proofContext, seconds 1562262616, seconds 1562262616⟩,
        ⟨.dpop proofText proofContext, seconds 1562262626, seconds 1562262626⟩]
    AcceptedOnce entries ∧ ∃ e ∈ entries, e.answer.isOk = true := by
  exact ⟨acceptedOnce_of_covered proofCrates _ _ ⟨by decide, by simp [seconds]⟩
      (covered_pair (by decide)),
    exists_accepted (proof_checks (by decide) (by decide)) _⟩

end ProofAhead

end Oid4vc.Replay
