import Oid4vc.Base.NumericDate
import Oid4vc.Crypto.SelfSigned
import Oid4vc.Crypto.Tables
import Oid4vc.Issuer.ClientAttestation
import Oid4vc.Types.RoundTrip

/-!
The time limits of signed payloads.

A limit may be any JSON value. The checks read it as a signed 64-bit integer, and one that
cannot be read so is treated as if it were absent.
-/

namespace Oid4vc.TimeLimits

open Oid4vc.JsonValue Oid4vc.NumericDate Oid4vc.Fallible Oid4vc.Instant Oid4vc.PartialMap
open Oid4vc.Text Oid4vc.CborBytes Oid4vc.Jwks Oid4vc.External Oid4vc.Codecs Oid4vc.Keys Oid4vc.Jws
open Oid4vc.Credentials Oid4vc.SdJwt Oid4vc.ClientAttestation Oid4vc.SelfSigned Oid4vc.Tables

/-- The member, if there is one, is a number within its bound. -/
def Meets (claims : Json) (name : String) (bound : ℚ → Prop) : Prop :=
  ∀ v, claims.get name = some v → ∃ q, numericDate v = some q ∧ bound q

/-- The member is there, does not read as a signed 64-bit integer, and is no number within
its bound. -/
def Unread (claims : Json) (name : String) (bound : ℚ → Prop) : Prop :=
  ∃ v, claims.get name = some v ∧ v.asI64 = none ∧ ¬ ∃ q, numericDate v = some q ∧ bound q

/-- What `exp` and `nbf` must be. -/
structure Limits where
  exp : ℚ → Prop
  nbf : ℚ → Prop

/-- A credential is accepted before `exp`, and from `nbf` on. -/
def credentialLimits (clock : ℤ) : Limits where
  exp q := secondsOf clock < q
  nbf q := q ≤ secondsOf clock

/-- Attestations and PoPs are accepted with a tolerance of a minute, in whole seconds. -/
def attestationLimits (now : ℤ) : Limits where
  exp q := (now : ℚ) ≤ q + skewSecs
  nbf q := q ≤ (now : ℚ) + skewSecs

def Kept (claims : Json) (l : Limits) : Prop := Meets claims "exp" l.exp ∧ Meets claims "nbf" l.nbf

def Missed (claims : Json) (l : Limits) : Prop := Unread claims "exp" l.exp ∨ Unread claims "nbf" l.nbf

/-- A bound that was checked as far as it can be read holds, unless it was not read. -/
lemma meets_iff {claims : Json} {name : String} {bound : ℚ → Prop}
    (h : ∀ n, i64Claim claims name = some n → bound n) :
    Meets claims name bound ↔ ¬ Unread claims name bound := by
  constructor
  · rintro hmeets ⟨v, hv, -, hbound⟩
    exact hbound (hmeets v hv)
  · intro hread v hv
    cases hi : v.asI64 with
    | none => exact not_not.mp fun hbound => hread ⟨v, hv, hi, hbound⟩
    | some n =>
      have hclaim : i64Claim claims name = some n := by rw [i64Claim, hv, Option.bind_some, hi]
      exact ⟨n, numericDate_of_asI64 hi, h n hclaim⟩

/-! ### Credentials -/

lemma kept_iff_of_checkWindow {payload : Json} {clock : ℤ}
    (h : checkWindow payload (timestamp clock) = .ok ()) :
    Kept payload (credentialLimits clock) ↔ ¬ Missed payload (credentialLimits clock) := by
  simp only [checkWindow, bind_eq_ok, ensure_eq_ok, exists_unit] at h
  obtain ⟨hexp, hnbf⟩ := h
  have hexp' : ∀ n, i64Claim payload "exp" = some n → (credentialLimits clock).exp n :=
    fun n hn => secondsOf_lt_intCast.mpr (hexp n hn)
  have hnbf' : ∀ n, i64Claim payload "nbf" = some n → (credentialLimits clock).nbf n := by
    intro n hn
    refine not_lt.mp fun hlt => ?_
    have hbefore := secondsOf_lt_intCast.mp hlt
    have hle := hnbf n hn
    unfold timestamp at hle
    omega
  rw [Kept, Missed, meets_iff hexp', meets_iff hnbf', not_or]

variable (X : Crates)

/-- Every check of the verification passes, as far as it goes, on this payload. -/
def PassesOtherwise (sdJwt : String) (issuerKey : KeyPair) (clock : ℤ) (payload : Json) : Prop :=
  ∃ parsed decoded disclosed, SdJwtVc.parse sdJwt = .ok parsed ∧
    verifyCompact X parsed.issuerJwt issuerKey = .ok decoded ∧
    X.jsonFromSlice decoded.payload = .ok payload ∧
    checkWindow payload (timestamp clock) = .ok () ∧
    matchDisclosures X (((payload.get "_sd").bind Json.asStrings).getD []) parsed.disclosures []
      empty = .ok disclosed

/-- The credential is accepted only inside its limits. -/
def CredentialFailsClosed (sdJwt : String) (issuerKey : KeyPair) (clock : ℤ) : Prop :=
  ∀ v, verifySdJwtVc X sdJwt issuerKey clock = .ok v → Kept v.payload (credentialLimits clock)

variable {X}

lemma passesOtherwise_of_verifySdJwtVc {sdJwt : String} {issuerKey : KeyPair} {clock : ℤ}
    {v : VerifiedSdJwtVc} (h : verifySdJwtVc X sdJwt issuerKey clock = .ok v) :
    PassesOtherwise X sdJwt issuerKey clock v.payload := by
  simp only [verifySdJwtVc, bind_eq_ok, mapError_eq_ok, pure_eq_ok, exists_unit] at h
  obtain ⟨parsed, hparsed, decoded, hdecoded, payload, hpayload, hwindow, disclosed, hmatch, rfl⟩ := h
  exact ⟨parsed, decoded, disclosed, hparsed, hdecoded, hpayload, hwindow, hmatch⟩

lemma verifySdJwtVc_of_passesOtherwise {sdJwt : String} {issuerKey : KeyPair} {clock : ℤ}
    {payload : Json} (h : PassesOtherwise X sdJwt issuerKey clock payload) :
    ∃ v, verifySdJwtVc X sdJwt issuerKey clock = .ok v ∧ v.payload = payload := by
  obtain ⟨parsed, decoded, disclosed, hparsed, hdecoded, hpayload, hwindow, hmatch⟩ := h
  simp only [verifySdJwtVc, bind_eq_ok, mapError_eq_ok, pure_eq_ok, exists_unit]
  exact ⟨_, ⟨parsed, hparsed, decoded, hdecoded, payload, hpayload, hwindow, disclosed, hmatch, rfl⟩,
    rfl⟩

lemma credentialFailsClosed_iff {sdJwt : String} {issuerKey : KeyPair} {clock : ℤ} :
    CredentialFailsClosed X sdJwt issuerKey clock ↔
      ∀ payload, PassesOtherwise X sdJwt issuerKey clock payload →
        ¬ Missed payload (credentialLimits clock) := by
  constructor
  · intro h payload hpasses
    have hwindow : checkWindow payload (timestamp clock) = .ok () := by
      obtain ⟨parsed, decoded, disclosed, -, -, -, hwindow, -⟩ := hpasses
      exact hwindow
    obtain ⟨v, hv, rfl⟩ := verifySdJwtVc_of_passesOtherwise hpasses
    exact (kept_iff_of_checkWindow hwindow).mp (h v hv)
  · intro h v hv
    have hpasses := passesOtherwise_of_verifySdJwtVc hv
    have hmissed := h v.payload hpasses
    obtain ⟨parsed, decoded, disclosed, -, -, -, hwindow, -⟩ := hpasses
    exact (kept_iff_of_checkWindow hwindow).mpr hmissed

/-! ### Attestations and PoPs -/

/-- The limits that can be read hold, and one that is required can be read. -/
def ReadableHold (claims : Json) (now : ℤ) (expRequired : Bool) : Prop :=
  (∀ exp, i64Claim claims "exp" = some exp → now ≤ wrapI64 (exp + skewSecs)) ∧
  (expRequired = true → i64Claim claims "exp" ≠ none) ∧
  ∀ nbf, i64Claim claims "nbf" = some nbf → nbf ≤ now + skewSecs

lemma checkTimeWindow_eq_ok {claims : Json} {now : ℤ} {what : String} {expRequired : Bool} :
    checkTimeWindow claims now what expRequired = .ok () ↔ ReadableHold claims now expRequired := by
  simp only [checkTimeWindow, bind_eq_ok, ensure_eq_ok, exists_unit, ReadableHold, Option.mem_def,
    not_lt]
  have hrequired : (i64Claim claims "exp" = none → expRequired = false) ↔
      (expRequired = true → i64Claim claims "exp" ≠ none) := by
    cases expRequired <;> simp
  rw [hrequired]

lemma wrapI64_le {n : ℤ} (hlow : -2 ^ 63 ≤ n) (hhigh : n < 2 ^ 64) : wrapI64 n ≤ n := by
  unfold wrapI64
  rw [Int.bmod_def]
  split_ifs <;> omega

lemma kept_iff_of_readableHold {claims : Json} {now : ℤ} {expRequired : Bool}
    (h : ReadableHold claims now expRequired) :
    Kept claims (attestationLimits now) ↔ ¬ Missed claims (attestationLimits now) := by
  obtain ⟨hexp, -, hnbf⟩ := h
  have hexp' : ∀ n, i64Claim claims "exp" = some n → (attestationLimits now).exp n := by
    intro n hn
    obtain ⟨v, -, hv⟩ := Option.bind_eq_some_iff.mp hn
    obtain ⟨hlow, hhigh⟩ := Json.asI64_range hv
    have hskew : (skewSecs : ℤ) = 60 := rfl
    have hle := wrapI64_le (n := n + skewSecs) (by omega) (by omega)
    have hnow : now ≤ n + skewSecs := le_trans (hexp n hn) hle
    have hcast : (now : ℚ) ≤ n + skewSecs := by exact_mod_cast hnow
    exact hcast
  have hnbf' : ∀ n, i64Claim claims "nbf" = some n → (attestationLimits now).nbf n := by
    intro n hn
    have hcast : (n : ℚ) ≤ (now : ℚ) + skewSecs := by exact_mod_cast hnbf n hn
    exact hcast
  rw [Kept, Missed, meets_iff hexp', meets_iff hnbf', not_or]

/-- The claims are accepted only inside their limits. -/
def WindowFailsClosed (claims : Json) (now : ℤ) (what : String) (expRequired : Bool) : Prop :=
  checkTimeWindow claims now what expRequired = .ok () → Kept claims (attestationLimits now)

lemma windowFailsClosed_iff {claims : Json} {now : ℤ} {what : String} {expRequired : Bool} :
    WindowFailsClosed claims now what expRequired ↔
      (ReadableHold claims now expRequired → ¬ Missed claims (attestationLimits now)) := by
  rw [WindowFailsClosed, checkTimeWindow_eq_ok]
  constructor
  · exact fun h hold => (kept_iff_of_readableHold hold).mp (h hold)
  · exact fun h hold => (kept_iff_of_readableHold hold).mpr (h hold)

/-- **Time limits fail closed** exactly where no limit that is there is unreadable and missed,
in a payload that passes every other check. -/
theorem timeLimits_failClosed_iff (X : Crates) (sdJwt : String) (issuerKey : KeyPair)
    (clock : ℤ) (claims : Json) (now : ℤ) (what : String) (expRequired : Bool) :
    (CredentialFailsClosed X sdJwt issuerKey clock ↔
      ∀ payload, PassesOtherwise X sdJwt issuerKey clock payload →
        ¬ Missed payload (credentialLimits clock)) ∧
    (WindowFailsClosed claims now what expRequired ↔
      (ReadableHold claims now expRequired → ¬ Missed claims (attestationLimits now))) :=
  ⟨credentialFailsClosed_iff, windowFailsClosed_iff⟩

/-! ### A date as a text -/

section Sample

lemma not_kept_of_str {claims : Json} {l : Limits} {date : String}
    (h : claims.get "exp" = some (.str date)) : ¬ Kept claims l := by
  rintro ⟨hexp, -⟩
  obtain ⟨q, hq, -⟩ := hexp _ h
  cases hq

/-- A credential without disclosures, signed by its issuer, passes if its window does. -/
lemma verifySdJwtVc_signJwt {X : Crates} (hb64 : Base64Url X) (hserde : SerdeJson X)
    {key : SigningKey} (hkey : key.Correct X) (hsigns : key.Signs) (header : JwsHeader)
    {payload : Json} {clock : ℤ} (hread : X.jsonFromSlice (X.jsonToVec payload) = .ok payload)
    (hwindow : checkWindow payload (timestamp clock) = .ok ()) :
    ∃ v, verifySdJwtVc X (SdJwtVc.toCompact ⟨signJwt X key header payload, [], none⟩)
      (key.toKeyPair X) clock = .ok v ∧ v.payload = payload := by
  obtain ⟨jws, hjws⟩ := signCompact_total (SigningKey.sign_total (X := X) hsigns) header payload
  have hsame : signJwt X key header payload = jws := by
    rw [signJwt, hjws]
    rfl
  obtain ⟨signature, signingInput, hdecoded, hsigned, hseparator, hne⟩ :=
    decodeCompact_signCompact hb64 hserde hjws
  rw [hsame]
  have hparsed := parse_of_wellFormed (v := ⟨jws, [], none⟩) ⟨⟨hne, hseparator⟩, by simp, by simp⟩
  have hverified := verifyCompact_eq_ok.mpr ⟨hdecoded, SigningKey.verify_of_sign hkey hsigned⟩
  exact verifySdJwtVc_of_passesOtherwise ⟨_, _, _, hparsed, hverified, hread, hwindow, rfl⟩

def issuerX : ℕ := 0xef2ee6fb6a1ba991aee45356c0accbb2fe3ea7fc5ebf88cd248850af373774ba

def issuerY : ℕ := 0x9583cb3d3ec64d76492c52af7d4af4a84bd921ca4f4777f5089dd734e28b6e59

def datedTable : Table where
  digests := []
  signatures := [((bigEndian 32 issuerX, bigEndian 32 issuerY),
    [(utf8 ("eyJhbGciOiJFUzI1NiIsInR5cCI6ImRjK3NkLWp3dCJ9." ++
        "eyJleHAiOiIyMDIwLTAxLTAxIiwiaXNzIjoiaHR0cHM6Ly9pc3N1ZXIuZXhhbXBsZS5jb20ifQ"),
      bigEndian 32 0x73fc8e7ae6b0c7d506132b6ca9fb280df08ebb4cd43382b173e27ae6d36e7d0a ++
        bigEndian 32 0x326f5705d1996def65589a8a85360ba8d423d51d0def2fed511dce17de0cf443)])]
  certificates := []
  derSignatures := []
  dates := []

/-- Claims that expired in 2020, with their expiry as a date. -/
def datedClaims : Json :=
  .obj [("exp", .str "2020-01-01"), ("iss", .str "https://issuer.example.com")]

def datedCredential : String :=
  SdJwtVc.toCompact ⟨signJwt datedTable.crates (datedTable.key issuerX issuerY)
    ⟨"ES256", some "dc+sd-jwt", none, none, none⟩ datedClaims, [], none⟩

/-- In 2026, a credential and a PoP with an expiry that is a text of 2020 are accepted. -/
theorem datedClaims_accepted :
    ¬ CredentialFailsClosed datedTable.crates datedCredential
      ((datedTable.key issuerX issuerY).toKeyPair datedTable.crates) (seconds 1767225600) ∧
    ¬ WindowFailsClosed datedClaims 1767225600 "PoP" false := by
  refine ⟨fun h => ?_, fun h => not_kept_of_str rfl (h rfl)⟩
  have hread : datedTable.crates.jsonFromSlice (datedTable.crates.jsonToVec datedClaims) =
      .ok datedClaims := by
    rw [Table.jsonFromSlice_jsonToVec, datedClaims, sortMembers,
      List.mergeSort_of_pairwise (by decide)]
  obtain ⟨v, hv, hpayload⟩ := verifySdJwtVc_signJwt Table.base64Url Table.serdeJson
    (Table.key_correct issuerX issuerY) (Table.key_signs issuerX issuerY)
    ⟨"ES256", some "dc+sd-jwt", none, none, none⟩ hread rfl
  have hexp : v.payload.get "exp" = some (.str "2020-01-01") := by
    rw [hpayload]
    rfl
  exact not_kept_of_str hexp (h v hv)

end Sample

end Oid4vc.TimeLimits
