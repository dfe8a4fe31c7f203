import Oid4vc.Crypto.Acceptance
import Oid4vc.Crypto.PublicKey
import Oid4vc.Crypto.Selective
import Oid4vc.Issuer.Credential

/-!
The holder key that an issued credential names: at `cnf.jwk` of an SD-JWT VC, and as the device
key of an mdoc.
-/

namespace Oid4vc.HolderKey

open Oid4vc.JsonValue Oid4vc.CborValue Oid4vc.Text Oid4vc.Fallible Oid4vc.Instant Oid4vc.Atomic
open Oid4vc.Jwks Oid4vc.External Oid4vc.Codecs Oid4vc.Jws Oid4vc.Cose Oid4vc.Credentials
open Oid4vc.SdJwt Oid4vc.Disclosures Oid4vc.Selective Oid4vc.Mdoc Oid4vc.Issuance
open Oid4vc.Elements Oid4vc.Acceptance Oid4vc.PublicKeys Oid4vc.Oid4vci Oid4vc.IssuerStore
open Oid4vc.Credential

variable (X : Crates)

/-- What an SD-JWT VC has at `cnf.jwk`. -/
def cnfValue (credential : Json) : Option Json := do
  let text ← credential.asStr
  let parsed ← (SdJwtVc.parse text).toOption
  let payload ← jwtClaims X parsed.issuerJwt
  let cnf ← payload.get "cnf"
  cnf.get "jwk"

def deviceKeyValue (credential : Json) : Option Cbor := do
  let text ← credential.asStr
  let bytes ← (X.base64UrlDecode text).toOption
  let issuerSigned ← (X.cborDecode bytes).toOption
  let issuerAuth ← get issuerSigned "issuerAuth"
  let sign1 ← (fromValue X issuerAuth).toOption
  let mso ← (readMso X sign1).toOption
  let info ← get mso "deviceKeyInfo"
  get info "deviceKey"

/-- The public key that a credential of this format is bound to. -/
def holderKey (format : String) (credential : Json) : Option PublicKey :=
  if format = "dc+sd-jwt" then
    ((cnfValue X credential).bind Jwk.ofJson).bind (PublicKey.ofJwk X)
  else (deviceKeyValue X credential).bind PublicKey.ofCoseKey

/-- The holder key of a credential comes without its private member: `d` of a JWK, and the value
under -4 of a COSE_Key. -/
def NoPrivateMember (format : String) (credential : Json) : Prop :=
  if format = "dc+sd-jwt" then ∃ value, cnfValue X credential = some value ∧ value.get "d" = none
  else ∃ entries, deviceKeyValue X credential = some (.map entries) ∧ labelled entries (-4) = none

/-- The JWK is in the credential, as its format has it. -/
inductive Embeds (format : String) (credential : Json) (jwk : Jwk) : Prop
  | sdJwt (hformat : format = "dc+sd-jwt") (hvalue : cnfValue X credential = some jwk.toValue)
  | mdoc (hformat : format = "mso_mdoc") {key : Cbor} (hkey : coseKey X jwk = .ok key)
    (hvalue : deviceKeyValue X credential = some key)

variable {X}

/-- **The holder key is the one embedded.** -/
theorem Embeds.holderKey {format : String} {credential : Json} {jwk : Jwk}
    (h : Embeds X format credential jwk) :
    HolderKey.holderKey X format credential = PublicKey.ofJwk X jwk := by
  cases h with
  | sdJwt hformat hvalue =>
    rw [HolderKey.holderKey, if_pos hformat, hvalue, Option.bind_some, ofJson_toValue, Option.bind_some]
  | mdoc hformat hkey hvalue =>
    have hne : format ≠ "dc+sd-jwt" := by
      rw [hformat]
      decide
    rw [HolderKey.holderKey, if_neg hne, hvalue, Option.bind_some]
    exact (PublicKey.ofCoseKey_coseKey hkey).1

/-- **The private member** of the JWK is in an SD-JWT VC, and in no mdoc. -/
theorem Embeds.noPrivateMember_iff {format : String} {credential : Json} {jwk : Jwk}
    (h : Embeds X format credential jwk) :
    NoPrivateMember X format credential ↔ format = "mso_mdoc" ∨ jwk.d = none := by
  cases h with
  | sdJwt hformat hvalue =>
    have hne : format ≠ "mso_mdoc" := by
      rw [hformat]
      decide
    have hd : jwk.toValue.get "d" = none ↔ jwk.d = none := by
      rw [get_d_toValue, Option.map_eq_none_iff]
    rw [NoPrivateMember, if_pos hformat, hvalue]
    constructor
    · rintro ⟨value, hsome, hnone⟩
      rw [Option.some.injEq] at hsome
      rw [← hsome] at hnone
      exact Or.inr (hd.mp hnone)
    · rintro (hformat' | hnone)
      · exact absurd hformat' hne
      · exact ⟨_, rfl, hd.mpr hnone⟩
  | mdoc hformat hkey hvalue =>
    have hne : format ≠ "dc+sd-jwt" := by
      rw [hformat]
      decide
    obtain ⟨-, entries, rfl, hnone⟩ := PublicKey.ofCoseKey_coseKey hkey
    rw [NoPrivateMember, if_neg hne]
    exact ⟨fun _ => Or.inl hformat, fun _ => ⟨entries, hvalue, hnone⟩⟩

/-! ### SD-JWT VCs -/

/-- **The payload of an SD-JWT VC** is read back from what was signed. -/
lemma payload_of_signed (hb64 : Base64Url X) (hserde : SerdeJson X) {σ : Type}
    {ctx : IssuanceContext X σ} {vct : String} {holderJwk : Jwk} {status : Option Json}
    {draws : CredentialDraws} {now : ℤ} {credential : Json}
    (h : signSdJwtCredential X ctx vct holderJwk status draws now = .ok credential)
    (hstatus : ∀ v ∈ status, v.Proper) (hnow : Representable now) :
    ∃ text parsed payload, credential = .str text ∧ SdJwtVc.parse text = .ok parsed ∧
      jwtClaims X parsed.issuerJwt = some payload ∧
      PayloadOf (claimsFor ctx.issuerUrl vct [] (disclosuresFor X draws.claims draws.salts)
        (some (.obj [("jwk", holderJwk.toValue)])) status now) payload := by
  simp only [signSdJwtCredential, bind_eq_ok, mapError_eq_ok, pure_eq_ok] at h
  obtain ⟨⟨compact, ds⟩, hissue, rfl⟩ := h
  obtain ⟨rfl, issuerJwt, header, hsign, rfl⟩ := issue_ok hissue
  obtain ⟨signature, signingInput, hdecoded, -, htilde, hne⟩ :=
    decodeCompact_signCompact hb64 hserde hsign
  have hholder : ∀ v ∈ some (Json.obj [("jwk", holderJwk.toValue)]), v.Proper := by
    intro v hv
    obtain rfl := Option.some.inj hv
    rw [Json.Proper, Json.properMembers_iff]
    refine ⟨fun m hm => ?_, List.pairwise_singleton _ _⟩
    rw [List.mem_singleton.mp hm]
    exact proper_toValue holderJwk
  have hissued := List.Subset.refl (disclosuresFor X draws.claims draws.salts)
  have hparsed := parse_of_wellFormed (wellFormed_presentation hb64 hserde htilde hne hissued)
  have hplain : (([] : List (String × Json)).map Prod.fst).Nodup := List.nodup_nil
  have hnames : ∀ c ∈ ([] : List (String × Json)), isPlainClaim c.1 = true := by simp
  have hproper : Json.ProperMembers [] := by simp [Json.properMembers_iff]
  obtain ⟨sorted, hperm, hpayload⟩ := hserde.object _ (members_nodup hplain hnames)
    (members_proper hproper hholder hstatus hnow)
  exact ⟨_, _, .obj sorted, rfl, hparsed, jwtClaims_of_decodes hdecoded hpayload,
    ⟨sorted, rfl, hperm⟩, members_nodup hplain hnames⟩

/-- **An SD-JWT VC names the key it was issued for**, with every member of its JWK. -/
theorem cnfValue_of_signed (hb64 : Base64Url X) (hserde : SerdeJson X) {σ : Type}
    {ctx : IssuanceContext X σ} {vct : String} {holderJwk : Jwk} {status : Option Json}
    {draws : CredentialDraws} {now : ℤ} {credential : Json}
    (h : signSdJwtCredential X ctx vct holderJwk status draws now = .ok credential)
    (hstatus : ∀ v ∈ status, v.Proper) (hnow : Representable now) :
    cnfValue X credential = some holderJwk.toValue := by
  obtain ⟨text, parsed, payload, rfl, hparsed, hclaims, hpayload⟩ :=
    payload_of_signed hb64 hserde h hstatus hnow
  have hget : payload.get "cnf" = some (.obj [("jwk", holderJwk.toValue)]) := by
    apply hpayload.get
    simp [registered, claimsFor]
  have hjwk : (Json.obj [("jwk", holderJwk.toValue)]).get "jwk" = some holderJwk.toValue := rfl
  simp only [cnfValue, Json.asStr, Option.bind_eq_bind, Option.bind_some, hparsed, Except.toOption, hclaims,
    hget, hjwk]

/-! ### mdocs -/

/-- **What an mdoc was signed from** is read back: its elements, and the MSO. -/
lemma issued_of_signed (hb64 : Base64Url X) (hcbor : CborCodec X) (hcose : CoseCodec X) {σ : Type}
    {ctx : IssuanceContext X σ} {request : IssueRequest} {status : Option StatusListRef}
    {draws : CredentialDraws} {credential : Json}
    (h : signMdocCredential X ctx request status draws = .ok credential) :
    ∃ text bytes sign1, ∃ i : Issued (X := X) { request with status := status } ctx.issuerKey bytes,
      credential = .str text ∧ X.base64UrlDecode text = .ok bytes ∧
      X.cborDecode bytes = .ok (.map [(.text "nameSpaces", .map (i.namespaces.map itemsOf)),
        (.text "issuerAuth", i.issuerAuth)]) ∧ fromValue X i.issuerAuth = .ok sign1 ∧
      readMso X sign1 = .ok (msoOf X { request with status := status } i.namespaces i.deviceKey) := by
  unfold signMdocCredential at h
  split at h
  · cases h
  · cases h
  · next bytes hissue =>
    rw [Except.ok.injEq] at h
    obtain ⟨i⟩ := issue_eq_ok hissue
    obtain ⟨sign1, hfrom, hsame⟩ := fromValue_issuerAuth hcose i
    have hpayload : sign1.payload = some i.payload := by rw [hsame.payload, signed_payload]
    exact ⟨_, bytes, sign1, i, h.symm, hb64.decode_encode bytes, hcbor.decode_encode _ _ i.encode_eq,
      hfrom, readMso_of_payload hcbor i hpayload⟩

/-- **An mdoc names the key it was issued for**, as a COSE_Key. -/
theorem deviceKeyValue_of_signed (hb64 : Base64Url X) (hcbor : CborCodec X) (hcose : CoseCodec X)
    {σ : Type} {ctx : IssuanceContext X σ} {request : IssueRequest} {status : Option StatusListRef}
    {draws : CredentialDraws} {credential : Json}
    (h : signMdocCredential X ctx request status draws = .ok credential) :
    ∃ key, coseKey X request.deviceKey = .ok key ∧ deviceKeyValue X credential = some key := by
  obtain ⟨text, bytes, sign1, i, rfl, htext, hbytes, hfrom, hmso⟩ :=
    issued_of_signed hb64 hcbor hcose h
  refine ⟨i.deviceKey, i.coseKey_eq, ?_⟩
  simp [deviceKeyValue, Json.asStr, htext, hbytes, Except.toOption, hfrom, hmso]

/-! ### Either format -/

/-- The allocator of status entries answers JSON values as they are kept. -/
def AllocatesValues {σ : Type} (ctx : IssuanceContext X σ) : Prop :=
  ∀ draws status v status', ctx.allocateStatus draws status = some (.ok (some v), status') → v.Proper

lemma allocate_issuer {σ ρ : Type} (alloc : StatusAllocator σ ρ) (draws : List ℕ) (b : Backend σ) :
    (Calls.allocate alloc draws b).2.issuer = b.issuer := by
  unfold Calls.allocate
  split <;> rfl

section Issue

variable {σ : Type} {ctx : IssuanceContext X σ} {configId : String} {config : CredentialConfiguration}
  {holderJwk : Jwk} {draws : CredentialDraws} {b : Backend σ}

lemma issueSdJwtCredential_issuer :
    ((issueSdJwtCredential X config ctx holderJwk draws).exec b).2.issuer = b.issuer := by
  unfold issueSdJwtCredential
  split
  · rfl
  · rw [Prog.exec_call]
    have hissuer := allocate_issuer ctx.allocateStatus draws.index b
    split <;> exact hissuer

lemma issueMdocCredential_issuer :
    ((issueMdocCredential X config ctx holderJwk draws).exec b).2.issuer = b.issuer := by
  unfold issueMdocCredential
  split
  · rfl
  · next signer docType country _ =>
    rw [Prog.exec_call]
    split
    · rfl
    · rw [Prog.exec_call]
      have hissuer := allocate_issuer signer.allocateStatus draws.index b
      split <;> exact hissuer

lemma issueCredential_issuer :
    ((issueCredential X configId config ctx holderJwk draws).exec b).2.issuer = b.issuer := by
  unfold issueCredential
  split_ifs
  · exact issueSdJwtCredential_issuer
  · exact issueMdocCredential_issuer
  · rfl

/-- What an SD-JWT VC that is issued was signed from. -/
lemma issueSdJwtCredential_ok (hvalues : AllocatesValues ctx) {credential : Json}
    (h : ((issueSdJwtCredential X config ctx holderJwk draws).exec b).1 = .ok credential) :
    ∃ vct status, config.vct = some vct ∧ (∀ v ∈ status, v.Proper) ∧
      signSdJwtCredential X ctx vct holderJwk status draws b.issuer.clock = .ok credential := by
  unfold issueSdJwtCredential at h
  split at h
  · simp at h
  · next vct hvct =>
    simp only [Prog.exec_call, Calls.allocate] at h
    cases halloc : ctx.allocateStatus draws.index b.status with
    | none => simp [halloc] at h
    | some answer =>
      obtain ⟨answer, status'⟩ := answer
      cases answer with
      | error e => simp [halloc] at h
      | ok status =>
        simp only [halloc, Prog.exec_call, Prog.exec_ret, Calls.readClock] at h
        refine ⟨vct, status, hvct, fun v hv => ?_, h⟩
        obtain rfl := hv
        exact hvalues _ _ _ _ halloc

lemma issueSdJwtCredential_embeds (hb64 : Base64Url X) (hserde : SerdeJson X)
    (hvalues : AllocatesValues ctx) (hclock : Representable b.issuer.clock) {credential : Json}
    (h : ((issueSdJwtCredential X config ctx holderJwk draws).exec b).1 = .ok credential) :
    cnfValue X credential = some holderJwk.toValue := by
  obtain ⟨vct, status, -, hstatus, hsigned⟩ := issueSdJwtCredential_ok hvalues h
  exact cnfValue_of_signed hb64 hserde hsigned hstatus hclock

/-- What an mDL that is issued was signed from. -/
lemma issueMdocCredential_ok {credential : Json}
    (h : ((issueMdocCredential X config ctx holderJwk draws).exec b).1 = .ok credential) :
    ∃ signer docType country request status, mdlSigner X config ctx = .ok (signer, docType, country) ∧
      mdlRequest X signer.certificate docType country holderJwk b.issuer.clock = .ok request ∧
      signMdocCredential X ctx request status draws = .ok credential := by
  unfold issueMdocCredential at h
  split at h
  · simp at h
  · next signer docType country hsigner =>
    simp only [Prog.exec_call, Calls.readClock] at h
    split at h
    · simp at h
    · next request hrequest =>
      simp only [Prog.exec_call] at h
      split at h
      · simp at h
      · simp at h
      · next status _ => exact ⟨signer, docType, country, request, status, hsigner, hrequest, h⟩

lemma issueMdocCredential_embeds (hb64 : Base64Url X) (hcbor : CborCodec X) (hcose : CoseCodec X)
    {credential : Json}
    (h : ((issueMdocCredential X config ctx holderJwk draws).exec b).1 = .ok credential) :
    ∃ key, coseKey X holderJwk = .ok key ∧ deviceKeyValue X credential = some key := by
  obtain ⟨signer, docType, country, request, status, -, hrequest, hsigned⟩ := issueMdocCredential_ok h
  have hdevice : request.deviceKey = holderJwk := by
    simp only [mdlRequest, bind_eq_ok, ensure_eq_ok, exists_unit, pure_eq_ok] at hrequest
    obtain ⟨elements, -, -, rfl⟩ := hrequest
    rfl
  obtain ⟨key, hkey, hvalue⟩ := deviceKeyValue_of_signed hb64 hcbor hcose hsigned
  rw [hdevice] at hkey
  exact ⟨key, hkey, hvalue⟩

/-- **What is issued** embeds the holder's JWK. -/
theorem issueCredential_embeds (hb64 : Base64Url X) (hserde : SerdeJson X) (hcbor : CborCodec X)
    (hcose : CoseCodec X) (hvalues : AllocatesValues ctx) (hclock : Representable b.issuer.clock)
    {credential : Json}
    (h : ((issueCredential X configId config ctx holderJwk draws).exec b).1 = .ok credential) :
    Embeds X config.format credential holderJwk := by
  unfold issueCredential at h
  split_ifs at h with hsd hmdoc
  · exact .sdJwt hsd (issueSdJwtCredential_embeds hb64 hserde hvalues hclock h)
  · obtain ⟨key, hkey, hvalue⟩ := issueMdocCredential_embeds hb64 hcbor hcose h
    exact .mdoc hmdoc hkey hvalue
  · simp at h

end Issue

end Oid4vc.HolderKey
