import Oid4vc.Crypto.Presented
import Oid4vc.Issuer.HolderKey

/-!
The revocation handle that an issued credential carries: a list and an index in it, at
`status.status_list` of an SD-JWT VC and of the MSO of an mdoc.
-/

namespace Oid4vc.StatusRef

open Oid4vc.JsonValue Oid4vc.CborValue Oid4vc.Text Oid4vc.Fallible Oid4vc.Instant Oid4vc.Jwks
open Oid4vc.External Oid4vc.Codecs Oid4vc.Jws Oid4vc.Cose Oid4vc.Credentials Oid4vc.SdJwt
open Oid4vc.Disclosures Oid4vc.Selective Oid4vc.Mdoc Oid4vc.Issuance Oid4vc.Presented
open Oid4vc.Oid4vci Oid4vc.Credential Oid4vc.HolderKey

variable (X : Crates)

/-- The value of `status`, as the credential endpoint writes it. -/
def refOf (status : Json) : Option StatusListRef := do
  let list ← status.get "status_list"
  let uri ← stringMember list "uri"
  match list.get "idx" with
  | some (.num (.posInt idx)) => some ⟨idx, uri⟩
  | _ => none

def sdJwtStatus (credential : Json) : Option StatusListRef := do
  let text ← credential.asStr
  let parsed ← (SdJwtVc.parse text).toOption
  let payload ← jwtClaims X parsed.issuerJwt
  let status ← payload.get "status"
  refOf status

def mdocStatus (credential : Json) : Option StatusListRef := do
  let text ← credential.asStr
  let bytes ← (X.base64UrlDecode text).toOption
  let issuerSigned ← (X.cborDecode bytes).toOption
  let issuerAuth ← get issuerSigned "issuerAuth"
  let sign1 ← (fromValue X issuerAuth).toOption
  let mso ← (readMso X sign1).toOption
  (parseStatus mso).toOption.join

/-- The handle of a credential, of either format. -/
def handleOf (credential : Json) : Option StatusListRef :=
  (sdJwtStatus X credential).or (mdocStatus X credential)

variable {X} {σ : Type} {ctx : IssuanceContext X σ} {credential : Json}

/-- What an SD-JWT VC has at `status` is what it was signed with. -/
lemma sdJwtStatus_of_signed (hb64 : Base64Url X) (hserde : SerdeJson X) {vct : String}
    {holderJwk : Jwk} {status : Json} {ref : StatusListRef} {draws : CredentialDraws} {now : ℤ}
    (h : signSdJwtCredential X ctx vct holderJwk (some status) draws now = .ok credential)
    (hproper : status.Proper) (hnow : Representable now)
    (hstatus : refOf status = some ref) : sdJwtStatus X credential = some ref := by
  obtain ⟨text, parsed, payload, rfl, hparsed, hclaims, hpayload⟩ :=
    payload_of_signed hb64 hserde h (fun v hv => Option.some.inj hv ▸ hproper) hnow
  have hget : payload.get "status" = some status := by
    apply hpayload.get
    simp [registered, claimsFor]
  simp only [sdJwtStatus, Json.asStr, Option.bind_eq_bind, Option.bind_some, hparsed,
    Except.toOption, hclaims, hget, hstatus]

/-- **The handle of an SD-JWT VC** is the one it was signed with. -/
theorem handleOf_of_sdJwt (hb64 : Base64Url X) (hserde : SerdeJson X) {vct : String} {holderJwk : Jwk}
    {status : Json} {ref : StatusListRef} {draws : CredentialDraws} {now : ℤ}
    (h : signSdJwtCredential X ctx vct holderJwk (some status) draws now = .ok credential)
    (hproper : status.Proper) (hnow : Representable now)
    (hstatus : refOf status = some ref) : handleOf X credential = some ref := by
  rw [handleOf, sdJwtStatus_of_signed hb64 hserde h hproper hnow hstatus, Option.some_or]

/-- A text of base64url is no SD-JWT VC: it has no dots. -/
lemma sdJwtStatus_base64 (hb64 : Base64Url X) (bytes : Bytes) :
    sdJwtStatus X (.str (X.base64UrlEncode bytes)) = none := by
  obtain ⟨hdot, htilde⟩ := hb64.alphabet bytes
  have hclaims : jwtClaims X (X.base64UrlEncode bytes) = none := by
    unfold jwtClaims
    cases hdecoded : decodeCompact X (X.base64UrlEncode bytes) with
    | error e => rfl
    | ok decoded =>
      obtain ⟨h, p, s, headerBytes, hparts, -⟩ := decodeCompact_eq_ok.mp hdecoded
      rw [(splitn_dots.mp hparts).1] at hdot
      simp [String.toList_append] at hdot
  simp only [sdJwtStatus, Json.asStr, Option.bind_eq_bind, Option.bind_some, SdJwtVc.parse,
    split_of_not_mem htilde]
  split_ifs
  · rfl
  · simp only [Except.toOption, Option.bind_some, hclaims, Option.bind_none]

lemma sdJwtStatus_of_mdoc (hb64 : Base64Url X) {request : IssueRequest} {ref : Option StatusListRef}
    {draws : CredentialDraws} (h : signMdocCredential X ctx request ref draws = .ok credential) :
    sdJwtStatus X credential = none := by
  unfold signMdocCredential at h
  split at h
  · cases h
  · cases h
  · rw [← Except.ok.inj h]
    exact sdJwtStatus_base64 hb64 _

/-- **The handle of an mdoc** is the one it was signed with. -/
theorem handleOf_of_mdoc (hb64 : Base64Url X) (hcbor : CborCodec X) (hcose : CoseCodec X)
    {request : IssueRequest} {ref : StatusListRef} {draws : CredentialDraws}
    (h : signMdocCredential X ctx request (some ref) draws = .ok credential) :
    handleOf X credential = some ref := by
  obtain ⟨text, bytes, sign1, i, hcredential, htext, hbytes, hfrom, hmso⟩ :=
    issued_of_signed hb64 hcbor hcose h
  have hread : mdocStatus X credential = some ref := by
    have hstatus := @parseStatus_msoOf X { request with status := some ref } i.namespaces i.deviceKey
    rw [hcredential]
    simp [mdocStatus, Json.asStr, htext, hbytes, Except.toOption, hfrom, hmso, hstatus]
  rw [handleOf, hread, sdJwtStatus_of_mdoc hb64 h, Option.none_or]

end Oid4vc.StatusRef
