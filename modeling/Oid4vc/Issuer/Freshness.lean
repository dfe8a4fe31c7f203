import Oid4vc.Issuer.Batch
import Oid4vc.Issuer.ClientAttestation

/-!
The arithmetic of the freshness checks, on signed 64-bit numbers.

A sum or a difference that does not fit wraps around, and so does the absolute value of the least
number. The clock is small, so only an operation on a claim of the sender can do so.
-/

namespace Oid4vc.Freshness

open Oid4vc.JsonValue Oid4vc.Fallible Oid4vc.Instant Oid4vc.External Oid4vc.Jwks Oid4vc.Jws
open Oid4vc.SdJwt Oid4vc.Dpop Oid4vc.ClientAttestation Oid4vc.Credential

/-- A check of a time claim against the clock. -/
inductive Check
  | proofIat
  | dpopIat
  | popIat
  | exp
  | nbf

namespace Check

/-- What the check computes, one operation after another. -/
def results (now claim : ℤ) : Check → List ℤ
  | proofIat => [now - claim, (wrapI64 (now - claim)).natAbs]
  | dpopIat => [now + maxSkewSecs, now - maxAgeSecs]
  | popIat => [now + skewSecs, now - popMaxAgeSecs]
  | exp => [claim + skewSecs]
  | nbf => [now + skewSecs]

/-- What the check decides, on results that wrap around. -/
def Accepts (now claim : ℤ) : Check → Prop
  | proofIat => ¬ proofMaxAgeSecs < wrapI64 (wrapI64 (now - claim)).natAbs
  | dpopIat => ¬ (wrapI64 (now + maxSkewSecs) < claim ∨ claim < wrapI64 (now - maxAgeSecs))
  | popIat => ¬ (wrapI64 (now + skewSecs) < claim ∨ claim < wrapI64 (now - popMaxAgeSecs))
  | exp => ¬ wrapI64 (claim + skewSecs) < now
  | nbf => ¬ wrapI64 (now + skewSecs) < claim

/-- What the check is for, on integers. -/
def Exact (now claim : ℤ) : Check → Prop
  | proofIat => (now - claim).natAbs ≤ 300
  | dpopIat | popIat => now - 300 ≤ claim ∧ claim ≤ now + 60
  | exp => now ≤ claim + 60
  | nbf => claim ≤ now + 60

/-- A proof is not issued ages ago, and nothing expires at the end of time. -/
def InRange (now claim : ℤ) : Check → Prop
  | proofIat => now - 2 ^ 63 < claim
  | exp => claim < 2 ^ 63 - 60
  | _ => True

end Check

/-- The check computes nothing that overflows, and accepts only what it should. -/
def ArithmeticExact (now claim : ℤ) (c : Check) : Prop :=
  (∀ n ∈ c.results now claim, Fits n) ∧ (c.Accepts now claim → c.Exact now claim)

/-- The clock, in seconds since the epoch, within the next thirty thousand years. -/
def Realistic (now : ℤ) : Prop := 0 ≤ now ∧ now < 2 ^ 40

/-- **What is accepted has passed its checks**, each on a claim that is a 64-bit number. -/
structure Checked (X : Crates) : Prop where
  proof : ∀ jwt issuerUrl config now r, Realistic (timestamp now) →
    verifyProofJwt X jwt issuerUrl config now = .ok r →
    ∃ claims iat, jwtClaims X jwt = some claims ∧ i64Claim claims "iat" = some iat ∧ Fits iat ∧
      Check.proofIat.Accepts (timestamp now) iat
  dpop : ∀ proof ctx now r, Realistic (timestamp now) → checkDpopProof X now proof ctx = .ok r →
    ∃ claims iat, jwtClaims X proof = some claims ∧ i64Claim claims "iat" = some iat ∧ Fits iat ∧
      Check.dpopIat.Accepts (timestamp now) iat
  attestation : ∀ attestation pop trustedAttesters audience now r, Realistic (timestamp now) →
    checkClientAttestation X now attestation pop trustedAttesters audience = .ok r →
    (∃ claims exp, jwtClaims X attestation = some claims ∧ i64Claim claims "exp" = some exp ∧
      Fits exp ∧ Check.exp.Accepts (timestamp now) exp ∧
      ∀ nbf, i64Claim claims "nbf" = some nbf → Fits nbf ∧ Check.nbf.Accepts (timestamp now) nbf) ∧
    ∃ claims iat, jwtClaims X pop = some claims ∧ i64Claim claims "iat" = some iat ∧
      Fits iat ∧ Check.popIat.Accepts (timestamp now) iat ∧
      (∀ exp, i64Claim claims "exp" = some exp → Fits exp ∧ Check.exp.Accepts (timestamp now) exp) ∧
      ∀ nbf, i64Claim claims "nbf" = some nbf → Fits nbf ∧ Check.nbf.Accepts (timestamp now) nbf

/-! ### The arithmetic -/

/-- **Each check.** It is exact just if its operations on the claim do not overflow. -/
lemma arithmeticExact_iff (c : Check) {now claim : ℤ} (hnow : Realistic now) (hclaim : Fits claim) :
    ArithmeticExact now claim c ↔ c.InRange now claim := by
  obtain ⟨hlow, hhigh⟩ := hnow
  have hskew : (maxSkewSecs : ℤ) = 60 ∧ (skewSecs : ℤ) = 60 := ⟨rfl, rfl⟩
  have hage : (maxAgeSecs : ℤ) = 300 ∧ (popMaxAgeSecs : ℤ) = 300 ∧ proofMaxAgeSecs = 300 :=
    ⟨rfl, rfl, rfl⟩
  have hplus : Fits (now + 60) := ⟨by omega, by omega⟩
  have hminus : Fits (now - 300) := ⟨by omega, by omega⟩
  -- only a claim from the request can overflow: the bounds around the clock cannot
  unfold Fits at hclaim
  cases c with
  | proofIat =>
    simp only [ArithmeticExact, Check.results, Check.Accepts, Check.Exact, Check.InRange, hage,
      List.forall_mem_cons]
    constructor
    · rintro ⟨⟨hdiff, -⟩, -⟩
      unfold Fits at hdiff
      omega
    · intro hrange
      have hdiff : Fits (now - claim) := ⟨by omega, by omega⟩
      have habs : Fits ((now - claim).natAbs : ℤ) := by
        unfold Fits
        omega
      rw [wrapI64_of_fits hdiff, wrapI64_of_fits habs]
      exact ⟨⟨hdiff, habs, by simp⟩, fun h => by omega⟩
  | dpopIat =>
    simp only [ArithmeticExact, Check.results, Check.Accepts, Check.Exact, Check.InRange, hage, hskew,
      wrapI64_of_fits hplus, wrapI64_of_fits hminus, List.forall_mem_cons, iff_true]
    exact ⟨⟨hplus, hminus, by simp⟩, fun h => by omega⟩
  | popIat =>
    simp only [ArithmeticExact, Check.results, Check.Accepts, Check.Exact, Check.InRange, hage, hskew,
      wrapI64_of_fits hplus, wrapI64_of_fits hminus, List.forall_mem_cons, iff_true]
    exact ⟨⟨hplus, hminus, by simp⟩, fun h => by omega⟩
  | exp =>
    simp only [ArithmeticExact, Check.results, Check.Accepts, Check.Exact, Check.InRange, hskew,
      List.forall_mem_cons]
    constructor
    · rintro ⟨⟨hsum, -⟩, -⟩
      unfold Fits at hsum
      omega
    · intro hrange
      have hsum : Fits (claim + 60) := ⟨by omega, by omega⟩
      rw [wrapI64_of_fits hsum]
      exact ⟨⟨hsum, by simp⟩, fun h => by omega⟩
  | nbf =>
    simp only [ArithmeticExact, Check.results, Check.Accepts, Check.Exact, Check.InRange, hskew,
      wrapI64_of_fits hplus, List.forall_mem_cons, iff_true]
    exact ⟨⟨hplus, by simp⟩, fun h => by omega⟩

/-! ### The messages -/

/-- A claim that is read as an integer is a 64-bit one. -/
lemma fits_i64Claim {claims : Json} {name : String} {n : ℤ} (h : i64Claim claims name = some n) :
    Fits n := by
  unfold i64Claim at h
  rw [Option.bind_eq_some_iff] at h
  obtain ⟨value, -, hvalue⟩ := h
  unfold Json.asI64 at hvalue
  unfold Fits
  split at hvalue
  · next m =>
    split_ifs at hvalue with hm
    rw [Option.some.injEq] at hvalue
    omega
  · next m =>
    rw [Option.some.injEq] at hvalue
    have hle := BitVec.le_toInt m
    have hlt := BitVec.toInt_lt (x := m)
    omega
  · cases hvalue

lemma checkTimeWindow_ok {claims : Json} {now : ℤ} {what : String} {expRequired : Bool}
    (hnow : Realistic now) (h : checkTimeWindow claims now what expRequired = .ok ()) :
    (expRequired = true → ∃ exp, i64Claim claims "exp" = some exp) ∧
      (∀ exp, i64Claim claims "exp" = some exp → Fits exp ∧ Check.exp.Accepts now exp) ∧
      ∀ nbf, i64Claim claims "nbf" = some nbf → Fits nbf ∧ Check.nbf.Accepts now nbf := by
  have hplus : Fits (now + skewSecs) := by
    obtain ⟨hlow, hhigh⟩ := hnow
    exact ⟨by simp only [skewSecs]; omega, by simp only [skewSecs]; omega⟩
  simp only [checkTimeWindow, bind_eq_ok, ensure_eq_ok, exists_unit] at h
  obtain ⟨hexp, hmissing, hnbf⟩ := h
  refine ⟨fun hrequired => ?_, fun exp he => ⟨fits_i64Claim he, hexp exp he⟩,
    fun nbf hn => ⟨fits_i64Claim hn, ?_⟩⟩
  · rw [← Option.isSome_iff_exists, ← Option.ne_none_iff_isSome]
    intro hnone
    rw [hmissing hnone] at hrequired
    cases hrequired
  · unfold Check.Accepts
    rw [wrapI64_of_fits hplus]
    exact hnbf nbf hn

/-- The `iat` of a DPoP proof and of a PoP is compared with sums that do not overflow. -/
lemma accepts_iat {now iat : ℤ} (hnow : Realistic now) (hle : iat ≤ now + 60)
    (hage : now - 300 ≤ iat) :
    Check.dpopIat.Accepts now iat ∧ Check.popIat.Accepts now iat := by
  obtain ⟨hlow, hhigh⟩ := hnow
  have hplus : Fits (now + 60) := ⟨by omega, by omega⟩
  have hminus : Fits (now - 300) := ⟨by omega, by omega⟩
  have hskew : (maxSkewSecs : ℤ) = 60 ∧ (skewSecs : ℤ) = 60 := ⟨rfl, rfl⟩
  have hmax : (maxAgeSecs : ℤ) = 300 ∧ (popMaxAgeSecs : ℤ) = 300 := ⟨rfl, rfl⟩
  unfold Check.Accepts
  simp only [hskew, hmax, wrapI64_of_fits hplus, wrapI64_of_fits hminus]
  omega

lemma checked (X : Crates) : Checked X := by
  refine ⟨fun jwt issuerUrl config now r hnow h => ?_, fun proof ctx now r hnow h => ?_,
    fun attestation pop trustedAttesters audience now r hnow h => ?_⟩
  · obtain ⟨decoded, alg, payload, aud, iat, hdecoded, -, -, -, -, -, -, hpayload, -, -, hiat, hage, -⟩ :=
      verifyProofJwt_eq_ok.mp h
    exact ⟨payload, iat, jwtClaims_of_decodes hdecoded hpayload, hiat, fits_i64Claim hiat, hage⟩
  · obtain ⟨decoded, jwk, claims, hverified, -, -, -, -, hclaims, hcheck, -⟩ :=
      checkDpopProof_eq_ok.mp h
    obtain ⟨-, -, ⟨iat, hiat, hle, hage⟩, -, -⟩ := checkClaims_eq_ok.mp hcheck
    exact ⟨claims, iat, jwtClaims_of_decodes (verifyWithPublicJwk_eq_ok.mp hverified).1 hclaims, hiat,
      fits_i64Claim hiat, (accepts_iat hnow hle hage).1⟩
  · obtain ⟨client, jti⟩ := r
    obtain ⟨hattestation, claims, hclaims, hpop⟩ := checkClientAttestation_eq_ok h
    constructor
    · simp only [checkAttestation, bind_eq_ok, mapError_eq_ok, ensure_eq_ok, exists_unit] at hattestation
      obtain ⟨decoded, hdecoded, -, -, -, payload, hpayload, -, sub, -, hwindow, -⟩ := hattestation
      obtain ⟨hrequired, hexp, hnbf⟩ := checkTimeWindow_ok hnow hwindow
      obtain ⟨exp, he⟩ := hrequired rfl
      exact ⟨payload, exp, jwtClaims_of_decodes hdecoded hpayload, he, (hexp exp he).1, (hexp exp he).2,
        hnbf⟩
    · simp only [checkPopClaims, bind_eq_ok, ensure_eq_ok, okOr_eq_ok, exists_unit, not_or,
        Int.not_lt] at hpop
      obtain ⟨-, -, iat, hiat, ⟨hle, hage⟩, hwindow, -⟩ := hpop
      obtain ⟨-, hexp, hnbf⟩ := checkTimeWindow_ok hnow hwindow
      exact ⟨claims, iat, hclaims, hiat, fits_i64Claim hiat, (accepts_iat hnow hle hage).2, hexp, hnbf⟩

/-- **Freshness.** What is accepted has passed its checks of the time; and a check is exact on
every 64-bit claim, but for the age of a proof issued ages ago and for an expiry at the end of
time. -/
theorem freshness_exact_iff (X : Crates) :
    (∀ c now claim, Realistic now → Fits claim →
      (ArithmeticExact now claim c ↔ c.InRange now claim)) ∧ Checked X :=
  ⟨fun c _ _ hnow hclaim => arithmeticExact_iff c hnow hclaim, checked X⟩

section Sample

open Oid4vc.CborBytes Oid4vc.Codecs Oid4vc.SelfSigned Oid4vc.Tables Oid4vc.Wallet Oid4vc.Batch

/-- The claims of a proof that was issued 2^63 seconds ago. -/
def ancientClaims : Json :=
  .obj [("aud", .str sampleUrl), ("iat", .num (.negInt (BitVec.ofInt 64 (1767225600 - 2 ^ 63)))),
    ("nonce", .str "n-1")]

def ancientHeader : JwsHeader :=
  walletHeader "openid4vci-proof+jwt" (holderJwk holderX holderY none)

def ancientTable : Table :=
  wallets []
    [(walletInput ancientHeader ancientClaims,
      bigEndian 32 0x199119d3b0775b94234a6db40f49b6afc5ab56aa9f839c2f95d1c05073b4aab5 ++
        bigEndian 32 0x2224a4ec890a1c22c64f2d98457e3bf6f4ff29b03be9382db8893ecd53a512d2)] []

def ancientProof : String :=
  signJwt ancientTable.crates (ancientTable.key holderX holderY) ancientHeader ancientClaims

/-- The claims of an attestation that expires at the end of time. -/
def endlessClaims : Json := .obj [("exp", .num (.posInt (BitVec.ofNat 64 (2 ^ 63 - 1))))]

lemma sortMembers_ancientClaims : sortMembers ancientClaims = ancientClaims := by
  rw [ancientClaims]
  apply sortMembers_of_sorted
  decide

lemma iat_ancientClaims : i64Claim ancientClaims "iat" = some (1767225600 - 2 ^ 63) := by
  decide +kernel

/-- A proof issued 2^63 seconds ago is accepted, since its age wraps around to the least number,
which is its own absolute value; and an attestation that expires at the end of time has expired,
since the time that it is given wraps around. -/
theorem ancientProof_accepted :
    (verifyProofJwt ancientTable.crates ancientProof sampleUrl sampleConfiguration
        (seconds 1767225600) = .ok (holderJwk holderX holderY none, "n-1") ∧
      (jwtClaims ancientTable.crates ancientProof).bind (i64Claim · "iat") =
        some (1767225600 - 2 ^ 63) ∧
      ¬ Check.proofIat.Exact 1767225600 (1767225600 - 2 ^ 63) ∧
      ¬ ArithmeticExact 1767225600 (1767225600 - 2 ^ 63) .proofIat) ∧
    (checkTimeWindow endlessClaims 1767225600 "attestation" true =
        .error ⟨"attestation has expired"⟩ ∧
      i64Claim endlessClaims "exp" = some (2 ^ 63 - 1) ∧
      ¬ ArithmeticExact 1767225600 (2 ^ 63 - 1) .exp) := by
  have haccepts : Check.proofIat.Accepts 1767225600 (1767225600 - 2 ^ 63) := by
    unfold Check.Accepts
    decide
  have hexact : ¬ Check.proofIat.Exact 1767225600 (1767225600 - 2 ^ 63) := by
    unfold Check.Exact
    omega
  have hnow : timestamp (seconds 1767225600) = 1767225600 := by decide
  refine ⟨⟨?_, ?_, hexact, fun h => hexact (h.2 haccepts)⟩, by decide +kernel, by decide +kernel,
    fun h => ?_⟩
  · refine verifyProofJwt_signJwt reading_table (Table.key_correct holderX holderY) none
      sortMembers_ancientClaims (by decide) ?_ iat_ancientClaims ?_ ?_
    · simp [stringMember, ancientClaims, Json.get, Json.asStr]
    · rw [hnow]
      exact haccepts
    · simp [stringMember, ancientClaims, Json.get, Json.asStr]
  · rw [ancientProof, jwtClaims_signJwt reading_table (Table.key_correct holderX holderY)
      (Table.key_signs holderX holderY) _ sortMembers_ancientClaims, Option.bind_some]
    exact iat_ancientClaims
  · obtain ⟨-, hfits⟩ := h.1 (2 ^ 63 - 1 + 60) List.mem_cons_self
    omega

end Sample

/-- A proof issued a minute ago is fresh. -/
theorem recentProof_exact :
    ArithmeticExact 1767225600 1767225540 .proofIat :=
  ((freshness_exact_iff Crates.inert).1 .proofIat 1767225600 1767225540 ⟨by decide, by decide⟩
    ⟨by decide, by decide⟩).mpr (by unfold Check.InRange; omega)

end Oid4vc.Freshness
