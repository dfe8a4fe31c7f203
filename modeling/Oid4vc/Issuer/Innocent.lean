import Oid4vc.Issuer.Replay
import Oid4vc.Issuer.Wallet

/-!
Whom the replay protection refuses.

All identifiers share one map. A DPoP proof is recorded by its `jti` alone, and an attestation PoP
by a text that joins its client and its `jti`: where two parties come to one text, the second is
refused for what the first has used.
-/

namespace Oid4vc.Innocent

open Oid4vc.JsonValue Oid4vc.CborBytes Oid4vc.Text Oid4vc.Fallible Oid4vc.PartialMap
open Oid4vc.Instant Oid4vc.Run Oid4vc.External Oid4vc.Codecs Oid4vc.Keys Oid4vc.Jws
open Oid4vc.IssuerStore Oid4vc.Dpop Oid4vc.ClientAttestation Oid4vc.Replay Oid4vc.Tables
open Oid4vc.Wallet

/-- Who presents a one-time proof: the owner of a key, by its thumbprint, or a client. -/
inductive Party
  | key (thumbprint : String)
  | client (clientId : String)
  deriving DecidableEq

variable (X : Crates)

/-- The party and the `jti` of a call whose proof passes every check but the one that it is new. -/
def verified (c : Call) : Option (Party × String) :=
  match c.request with
  | .dpop proof ctx =>
    (checkDpopProof X c.now proof ctx).toOption.map fun r => (.key r.2, r.1)
  | .attestation attestation pop trustedAttesters audience =>
    (checkClientAttestation X c.now attestation pop trustedAttesters audience).toOption.map
      fun r => (.client r.1.clientId, r.2)

abbrev Event := Entry InMemoryIssuerState Call Answer

/-- The proof passed every other check, and was refused as already used. -/
def RefusedAsUsed (e : Event) : Prop :=
  (verified X e.input).isSome = true ∧ e.answer.isOk = false

/-- The proof was accepted, which recorded it. -/
def Recorded (e : Event) (party : Party × String) : Prop :=
  verified X e.input = some party ∧ e.answer.isOk = true

/-- **Nobody is refused for what another party has used.** -/
def BlocksNoInnocent (history : List Event) : Prop :=
  ∀ as e bs, history = as ++ e :: bs → RefusedAsUsed X e →
    ∃ party, verified X e.input = some party ∧ ∃ e' ∈ as, Recorded X e' party

/-- Two proofs of different keys with one `jti`; or two PoPs, of different clients or with different
`jti`s, that are the same text once they are joined. -/
inductive Collide : Party × String → Party × String → Prop
  | keys {thumbprint thumbprint' jti : String} (h : thumbprint ≠ thumbprint') :
    Collide (.key thumbprint, jti) (.key thumbprint', jti)
  | clients {clientId clientId' jti jti' : String} (h : (clientId, jti) ≠ (clientId', jti'))
    (hjoined : clientId ++ ":" ++ jti = clientId' ++ ":" ++ jti') :
    Collide (.client clientId, jti) (.client clientId', jti')

/-- Two calls whose proofs collide. -/
def Colliding (c c' : Call) : Prop :=
  ∃ party party', verified X c = some party ∧ verified X c' = some party' ∧ Collide party party'

/-- The key under which a proof is recorded. -/
def keyOf : Party × String → String
  | (.key _, jti) => jtiKey jti
  | (.client clientId, jti) => popKey clientId jti

/-- How long it is recorded, in seconds. -/
def recordSecs : ℕ := maxAgeSecs + maxSkewSecs

variable {X}

lemma append_left_inj {a b c : String} (h : a ++ b = a ++ c) : b = c := by
  rw [← String.toList_inj, String.toList_append, String.toList_append,
    List.append_cancel_left_eq, String.toList_inj] at h
  exact h

lemma join_four (a b c d : String) : a ++ b ++ c ++ d = a ++ (b ++ c ++ d) := by
  simp only [String.append_assoc]

lemma popKey_eq (clientId jti : String) :
    popKey clientId jti = "attestation-pop:" ++ (clientId ++ ":" ++ jti) :=
  join_four _ _ _ _

lemma jtiKey_ne_popKey (jti clientId jti' : String) : jtiKey jti ≠ popKey clientId jti' := by
  intro h
  rw [popKey_eq, jtiKey] at h
  have := congrArg (fun s => s.toList.head?) h
  simp [String.toList_append] at this

/-- **One text for two proofs**: they are of one party with one `jti`, or they collide. -/
lemma keyOf_eq_iff {party party' : Party × String} :
    keyOf party = keyOf party' ↔ party = party' ∨ Collide party party' := by
  obtain ⟨p, jti⟩ := party
  obtain ⟨p', jti'⟩ := party'
  cases p with
  | key thumbprint =>
    cases p' with
    | key thumbprint' =>
      constructor
      · intro h
        obtain rfl : jti = jti' := append_left_inj h
        by_cases hsame : thumbprint = thumbprint'
        · exact Or.inl (by rw [hsame])
        · exact Or.inr (.keys hsame)
      · rintro (h | h)
        · rw [h]
        · cases h
          rfl
    -- the two kinds have different prefixes
    | client clientId' =>
      constructor
      · exact fun h => absurd h (jtiKey_ne_popKey jti clientId' jti')
      · rintro (h | h)
        · simp at h
        · cases h
  | client clientId =>
    cases p' with
    | key thumbprint' =>
      constructor
      · exact fun h => absurd h.symm (jtiKey_ne_popKey jti' clientId jti)
      · rintro (h | h)
        · simp at h
        · cases h
    | client clientId' =>
      -- a client may have a colon in its name, so the text does not say where the `jti` begins
      simp only [keyOf, popKey_eq]
      constructor
      · intro h
        have hjoined := append_left_inj h
        by_cases hsame : (clientId, jti) = (clientId', jti')
        · rw [Prod.mk.injEq] at hsame
          exact Or.inl (by rw [hsame.1, hsame.2])
        · exact Or.inr (.clients hsame hjoined)
      · rintro (h | h)
        · simp only [Prod.mk.injEq, Party.client.injEq] at h
          rw [h.1, h.2]
        · cases h with
          | clients _ hjoined => rw [hjoined]

/-- A call whose proof passes records it, if it is new. -/
lemma step_verified {c : Call} {party : Party × String} (h : verified X c = some party)
    (s : InMemoryIssuerState) :
    ((calls X).step s c).1 = (s.recordJti c.recordedAt (keyOf party) recordSecs).2 ∧
      ((calls X).step s c).2.isOk = (s.recordJti c.recordedAt (keyOf party) recordSecs).1 := by
  obtain ⟨request, now, recordedAt⟩ := c
  cases request with
  | dpop proof ctx =>
    simp only [verified] at h
    cases hcheck : checkDpopProof X now proof ctx with
    | error e => simp [hcheck, Except.toOption] at h
    | ok r =>
      obtain ⟨jti, thumbprint⟩ := r
      simp only [hcheck, Except.toOption, Option.map_some, Option.some.injEq] at h
      subst h
      simp only [calls, verifyDpopProof, hcheck, keyOf, recordSecs]
      cases hrec : s.recordJti recordedAt (jtiKey jti) (maxAgeSecs + maxSkewSecs) with
      | mk new s' => cases new <;> exact ⟨rfl, rfl⟩
  | attestation attestation pop trustedAttesters audience =>
    simp only [verified] at h
    cases hcheck : checkClientAttestation X now attestation pop trustedAttesters audience with
    | error e => simp [hcheck, Except.toOption] at h
    | ok r =>
      obtain ⟨client, jti⟩ := r
      simp only [hcheck, Except.toOption, Option.map_some, Option.some.injEq] at h
      subst h
      simp only [calls, verifyClientAttestation, hcheck, keyOf, recordSecs]
      have hsecs : popMaxAgeSecs + skewSecs = maxAgeSecs + maxSkewSecs := rfl
      rw [hsecs]
      cases hrec : s.recordJti recordedAt (popKey client.clientId jti) (maxAgeSecs + maxSkewSecs) with
      | mk new s' => cases new <;> exact ⟨rfl, rfl⟩

/-- A call whose proof does not pass changes nothing, and is not accepted. -/
lemma step_unverified {c : Call} (h : verified X c = none) (s : InMemoryIssuerState) :
    ((calls X).step s c).1 = s ∧ ((calls X).step s c).2.isOk = false := by
  obtain ⟨request, now, recordedAt⟩ := c
  cases request with
  | dpop proof ctx =>
    simp only [verified] at h
    cases hcheck : checkDpopProof X now proof ctx with
    | error e => simp only [calls, verifyDpopProof, hcheck]; exact ⟨trivial, rfl⟩
    | ok r => simp [hcheck, Except.toOption] at h
  | attestation attestation pop trustedAttesters audience =>
    simp only [verified] at h
    cases hcheck : checkClientAttestation X now attestation pop trustedAttesters audience with
    | error e => simp only [calls, verifyClientAttestation, hcheck]; exact ⟨trivial, rfl⟩
    | ok r => simp [hcheck, Except.toOption] at h

/-! ### Runs -/

/-- What is remembered was recorded by a call. -/
def Kept (history : List Event) (s : InMemoryIssuerState) : Prop :=
  ∀ key expires, s.seenJtis.get key = some expires →
    ∃ e ∈ history, ∃ party, Recorded X e party ∧ keyOf party = key

/-- The step lemma. -/
lemma kept_step {history : List Event} {s : InMemoryIssuerState} (h : Kept (X := X) history s)
    (c : Call) : Kept (X := X) (history ++ [entry (calls X) s c]) ((calls X).step s c).1 := by
  intro key expires hget
  have hold : s.seenJtis.get key = some expires → ∃ e ∈ history ++ [entry (calls X) s c],
      ∃ party, Recorded X e party ∧ keyOf party = key := by
    intro hs
    obtain ⟨e, he, hparty⟩ := h key expires hs
    exact ⟨e, List.mem_append_left _ he, hparty⟩
  cases hverified : verified X c with
  | none =>
    rw [(step_unverified hverified s).1] at hget
    exact hold hget
  | some party =>
    obtain ⟨hstate, hanswer⟩ := step_verified hverified s
    rw [hstate] at hget
    unfold InMemoryIssuerState.recordJti at hget hanswer
    split_ifs at hget hanswer with hseen
    · exact hold (Option.filter_eq_some_iff.mp hget).1
    · rcases get_of_get_insert hget with ⟨rfl, -⟩ | ⟨-, hs⟩
      · exact ⟨_, List.mem_append_right _ List.mem_cons_self, party, ⟨hverified, hanswer⟩, rfl⟩
      · exact hold (Option.filter_eq_some_iff.mp hs).1

/-- The run lemma. -/
lemma kept_run (cs : List Call) : Kept (X := X) (log (calls X) InMemoryIssuerState.new cs)
    (run (calls X) InMemoryIssuerState.new cs) := by
  have hstep : ∀ l (s : InMemoryIssuerState) c, Kept (X := X) l s → True →
      Kept (X := X) (l ++ [entry (calls X) s c]) ((calls X).step s c).1 :=
    fun _ _ c h _ => kept_step h c
  have hnew : Kept (X := X) [] InMemoryIssuerState.new := fun key expires h => by
    simp [InMemoryIssuerState.new] at h
  exact log_inv hstep hnew (every_true _ cs)

lemma remembered_of_refused {c : Call} {party : Party × String} {s : InMemoryIssuerState}
    (h : verified X c = some party) (hrefused : ((calls X).step s c).2.isOk = false) :
    ∃ expires, s.seenJtis.get (keyOf party) = some expires := by
  rw [(step_verified h s).2] at hrefused
  unfold InMemoryIssuerState.recordJti at hrefused
  split_ifs at hrefused with hseen
  rw [containsKey_eq, Option.isSome_iff_exists] at hseen
  obtain ⟨expires, hget⟩ := hseen
  exact ⟨expires, (Option.filter_eq_some_iff.mp hget).1⟩

/-- The second of two colliding calls is refused while the first is remembered. -/
lemma refused_of_colliding {c c' : Call} (h : Colliding X c c')
    (htime : c'.recordedAt < c.recordedAt + seconds recordSecs) :
    ¬ BlocksNoInnocent X (log (calls X) InMemoryIssuerState.new [c, c']) := by
  obtain ⟨party, party', hparty, hparty', hcollide⟩ := h
  have hkey : keyOf party = keyOf party' := keyOf_eq_iff.mpr (Or.inr hcollide)
  set s := ((calls X).step InMemoryIssuerState.new c).1 with hs
  have hget : s.seenJtis.get (keyOf party') = some (c.recordedAt + seconds recordSecs) := by
    rw [hs, (step_verified hparty _).1, ← hkey]
    simp [InMemoryIssuerState.recordJti, InMemoryIssuerState.remembered, InMemoryIssuerState.new]
  have hrefused : ((calls X).step s c').2.isOk = false := by
    rw [(step_verified hparty' s).2]
    simp [InMemoryIssuerState.recordJti, InMemoryIssuerState.remembered, hget, htime]
  intro hblocks
  obtain ⟨found, hfound, e, he, hrecorded⟩ := hblocks [entry (calls X) InMemoryIssuerState.new c]
    (entry (calls X) s c') [] rfl ⟨by rw [show (entry (calls X) s c').input = c' from rfl, hparty']; rfl,
      hrefused⟩
  obtain rfl := List.mem_singleton.mp he
  have hsame : found = party' := Option.some.inj (hfound.symm.trans hparty')
  have hsame' : found = party := Option.some.inj (hrecorded.1.symm.trans hparty)
  rw [hsame] at hsame'
  rw [← hsame'] at hcollide
  cases hcollide with
  | keys hne => exact hne rfl
  | clients hne => exact hne rfl

/-- **Replay protection blocks nobody** in a run of calls that do not collide; and of two calls
that collide, the second is blocked while the first is remembered. -/
theorem blocksNoInnocent_of_distinct (X : Crates) :
    (∀ cs : List Call, (cs.Pairwise fun c c' => ¬ Colliding X c c') →
      BlocksNoInnocent X (log (calls X) InMemoryIssuerState.new cs)) ∧
      ∀ c c', Colliding X c c' → c'.recordedAt < c.recordedAt + seconds recordSecs →
        ¬ BlocksNoInnocent X (log (calls X) InMemoryIssuerState.new [c, c']) := by
  refine ⟨fun cs hdistinct as e bs hsplit hrefused => ?_, fun c c' => refused_of_colliding⟩
  obtain ⟨hverified, hanswer⟩ := hrefused
  obtain ⟨party, hparty⟩ := Option.isSome_iff_exists.mp hverified
  refine ⟨party, hparty, ?_⟩
  obtain ⟨cs₁, c, cs₂, rfl, rfl, rfl⟩ := exists_split_of_log hsplit
  obtain ⟨expires, hget⟩ := remembered_of_refused hparty hanswer
  obtain ⟨e, he, found, hrecorded, hkey⟩ := kept_run cs₁ _ _ hget
  refine ⟨e, he, ?_⟩
  rcases keyOf_eq_iff.mp hkey with rfl | hcollide
  · exact hrecorded
  · obtain ⟨-, -, hcross⟩ := List.pairwise_append.mp hdistinct
    exact absurd ⟨found, party, hrecorded.1, hparty, hcollide⟩
      (hcross e.input (input_mem he) c List.mem_cons_self)

/-! ### Two wallets with one `jti` -/

def credentialEndpoint : DpopContext := ⟨"POST", "https://issuer.example.com/credential", none⟩

/-- What a wallet signs to use the `jti` 1. -/
def firstInput (x y : ℕ) : Bytes :=
  walletInput (walletHeader "dpop+jwt" (holderJwk x y none)) (dpopClaims credentialEndpoint 1767225600 "1")

def sameJti : Table :=
  wallets []
    [(firstInput holderX holderY,
      bigEndian 32 0xacd2051c26c1e021dcb49be671812e53edb6cc34079c9088287619e6a53085b0 ++
        bigEndian 32 0x30ae501d0700fe455bb03ec7ec83778431579f2c7a8469532c879343d2847664)]
    [(firstInput otherX otherY,
      bigEndian 32 0x6264a265764e70b00d4022a98a5a40a37ea677e71988d73727259bca3075ef78 ++
        bigEndian 32 0x380a9949a493e0b825177be478218688ecc752775fc81a0646db23c4b6fed4e0)]

/-- A DPoP proof with the `jti` 1 at its first second. -/
def firstCall (x y : ℕ) : Call :=
  ⟨.dpop (dpopProof sameJti x y credentialEndpoint 1767225600 "1") credentialEndpoint,
    seconds 1767225600, seconds 1767225600⟩

lemma verified_firstCall (x y : ℕ) : verified (web sameJti) (firstCall x y) =
    some (.key (computeThumbprint (web sameJti) (holderJwk x y none)), "1") := by
  have hchecks : checkDpopProof (web sameJti) (seconds 1767225600)
      (dpopProof sameJti x y credentialEndpoint 1767225600 "1") credentialEndpoint =
        .ok ("1", computeThumbprint (web sameJti) (holderJwk x y none)) :=
    dpopProof_checks x y rfl "1" (by decide) (by decide) (by decide)
  simp only [verified, firstCall, hchecks, Except.toOption, Option.map_some]

lemma injective_sha256 : Function.Injective (web sameJti).sha256 := by
  have hinj : Function.Injective (extend (holderDigests ++ [])) :=
    extend_injective (by decide +kernel) (by decide +kernel)
  exact hinj

/-- The second of two wallets that both count their proofs from 1 is refused. -/
theorem otherWallet_blocked :
    ¬ BlocksNoInnocent (web sameJti) (log (calls (web sameJti)) InMemoryIssuerState.new
      [firstCall holderX holderY, firstCall otherX otherY]) := by
  have hne : computeThumbprint (web sameJti) (holderJwk holderX holderY none) ≠
      computeThumbprint (web sameJti) (holderJwk otherX otherY none) :=
    thumbprint_ne injective_sha256 (by decide +kernel)
  exact refused_of_colliding ⟨_, _, verified_firstCall holderX holderY,
    verified_firstCall otherX otherY, .keys hne⟩ (by decide)

/-- A wallet that sends its proof twice blocks only itself. -/
theorem sameWallet_blocks_itself :
    BlocksNoInnocent (web sameJti) (log (calls (web sameJti)) InMemoryIssuerState.new
      [firstCall holderX holderY, firstCall holderX holderY]) := by
  refine (blocksNoInnocent_of_distinct (web sameJti)).1 _ (List.pairwise_pair.mpr ?_)
  rintro ⟨party, party', hparty, hparty', hcollide⟩
  obtain rfl : party = party' := Option.some.inj (hparty.symm.trans hparty')
  cases hcollide with
  | keys hne => exact hne rfl
  | clients hne => exact hne rfl

end Oid4vc.Innocent
