import Oid4vc.Crypto.Elements

/-!
When an `IssuerSigned` structure is accepted, and what is read of the MSO that `issue` signed.
-/

namespace Oid4vc.Acceptance

open Oid4vc.JsonValue Oid4vc.Fallible Oid4vc.PartialMap Oid4vc.CborValue Oid4vc.Jwks
open Oid4vc.External Oid4vc.Codecs Oid4vc.Keys Oid4vc.Cose Oid4vc.X509 Oid4vc.Mdoc Oid4vc.Issuance
open Oid4vc.Elements

variable (X : Crates)

/-- The signature over the MSO is good: now, and when the MSO was signed. -/
structure SignatureChecked (issuerSigned : Cbor) (trustAnchors : List Bytes) (now : ℤ)
    (sign1 : CoseSign1) (v : VerifiedMdoc) : Prop where
  issuerAuth : ∃ auth, get issuerSigned "issuerAuth" = some auth ∧ fromValue X auth = .ok sign1
  chain : ∃ chain key key', issuerX5chain sign1 = .ok chain ∧
    validateChain X chain trustAnchors now = .ok key ∧ verify X sign1 key = .ok () ∧
    validateChain X chain trustAnchors v.signed = .ok key' ∧ v.signerCertificate = chain.headD []

/-- What is read of an MSO. -/
structure MsoRead (mso : Cbor) (expectedDocType : Option String) (now : ℤ) (valueDigests : Cbor)
    (v : VerifiedMdoc) : Prop where
  docType : readDocType mso expectedDocType = .ok v.docType
  validity : readValidity X mso now = .ok (v.signed, v.validFrom, v.validUntil)
  digests : get mso "valueDigests" = some valueDigests
  deviceKey : ∃ info key, get mso "deviceKeyInfo" = some info ∧ get info "deviceKey" = some key ∧
    jwkFromCoseKey X key = .ok v.deviceKey
  status : parseStatus mso = .ok v.status

/-- The issuer put this element under the namespace, with this value. -/
def IssuedElement (request : IssueRequest) (ns id : String) (json : Json) : Prop :=
  ∃ elements value, (ns, elements) ∈ request.namespaces ∧ (id, value) ∈ elements ∧
    json = cborToJson X value

variable {X}

/-- **When an `IssuerSigned` structure is accepted, and as what.** -/
theorem verifyIssuerSignedValue_eq_ok {issuerSigned : Cbor} {expectedDocType : Option String}
    {trustAnchors : List Bytes} {now : ℤ} {v : VerifiedMdoc} :
    verifyIssuerSignedValue X issuerSigned expectedDocType trustAnchors now = .ok v ↔
      ∃ sign1 mso valueDigests groups, SignatureChecked X issuerSigned trustAnchors now sign1 v ∧
        readMso X sign1 = .ok mso ∧ MsoRead X mso expectedDocType now valueDigests v ∧
        ElementsChecked X issuerSigned valueDigests groups ∧
        v.claims = empty.insertGroups groups := by
  simp only [verifyIssuerSignedValue, bind_eq_ok, mapError_eq_ok, require_eq_ok, exists_unit,
    pure_eq_ok, verifyElements_eq_ok]
  constructor
  · rintro ⟨auth, hauth, sign1, hsign1, chain, hchain, key, hkey, hverify, mso, hmso, docType, hdoc,
      ⟨signed, validFrom, validUntil⟩, hvalidity, key', hkey', valueDigests, hdigests, _,
      ⟨groups, hgroups, rfl⟩, info, hinfo, deviceKey, hdevice, jwk, hjwk, status, hstatus, rfl⟩
    exact ⟨sign1, mso, valueDigests, groups, ⟨⟨auth, hauth, hsign1⟩, chain, key, key', hchain, hkey,
      hverify, hkey', rfl⟩, hmso, ⟨hdoc, hvalidity, hdigests, ⟨info, deviceKey, hinfo, hdevice, hjwk⟩,
      hstatus⟩, hgroups, rfl⟩
  · rintro ⟨sign1, mso, valueDigests, groups, ⟨⟨auth, hauth, hsign1⟩, chain, key, key', hchain, hkey,
      hverify, hkey', hcert⟩, hmso, ⟨hdoc, hvalidity, hdigests, ⟨info, deviceKey, hinfo, hdevice,
      hjwk⟩, hstatus⟩, hgroups, hclaims⟩
    refine ⟨auth, hauth, sign1, hsign1, chain, hchain, key, hkey, hverify, mso, hmso, _, hdoc,
      _, hvalidity, key', hkey', valueDigests, hdigests, _, ⟨groups, hgroups, rfl⟩, info, hinfo,
      deviceKey, hdevice, _, hjwk, _, hstatus, ?_⟩
    rw [← hclaims, ← hcert]

lemma claim_eq_some {v : VerifiedMdoc} {groups : List (String × List (String × Json))}
    (hdistinct : ((pairs groups).map Prod.fst).Nodup) (hclaims : v.claims = empty.insertGroups groups)
    {ns id : String} {json : Json} : v.claim ns id = some json ↔ ((ns, id), json) ∈ pairs groups := by
  have hflat : v.claim ns id = (empty.insertAll (pairs groups)).get (ns, id) := by
    rw [VerifiedMdoc.claim, ← get_flat, hclaims, flat_insertGroups, flat_empty]
  rw [hflat, get_insertAll_empty hdistinct]

/-! ### The issued MSO -/

section Mso

variable {request : IssueRequest} {ns : List (Namespace X)} {deviceKey : Cbor}

@[simp] lemma get_msoOf_version : get (msoOf X request ns deviceKey) "version" = some (.text "1.0") := by
  simp [msoOf, buildMso]

@[simp] lemma get_msoOf_digestAlgorithm :
    get (msoOf X request ns deviceKey) "digestAlgorithm" = some (.text "SHA-256") := by
  simp [msoOf, buildMso]

@[simp] lemma get_msoOf_valueDigests :
    get (msoOf X request ns deviceKey) "valueDigests" = some (.map (ns.map digestsOf)) := by
  simp [msoOf, buildMso]

@[simp] lemma get_msoOf_deviceKeyInfo : get (msoOf X request ns deviceKey) "deviceKeyInfo" =
    some (.map [(.text "deviceKey", deviceKey)]) := by
  simp [msoOf, buildMso]

@[simp] lemma get_msoOf_docType :
    get (msoOf X request ns deviceKey) "docType" = some (.text request.docType) := by
  simp [msoOf, buildMso]

@[simp] lemma get_msoOf_validityInfo : get (msoOf X request ns deviceKey) "validityInfo" =
    some (.map [(.text "signed", tdate X (wholeSeconds request.signed)),
      (.text "validFrom",
        tdate X (max (wholeSeconds request.validFrom) (wholeSeconds request.signed))),
      (.text "validUntil", tdate X (wholeSeconds request.validUntil))]) := by
  simp [msoOf, buildMso]

@[simp] lemma get_msoOf_status :
    get (msoOf X request ns deviceKey) "status" = request.status.map statusValue := by
  cases h : request.status <;> simp [msoOf, buildMso, h]

end Mso

variable {request : IssueRequest} {signer : KeyPair} {bytes : Bytes}

lemma readMso_of_payload (hcbor : CborCodec X) (i : Issued (X := X) request signer bytes)
    {sign1 : CoseSign1} (h : sign1.payload = some i.payload) :
    readMso X sign1 = .ok (msoOf X request i.namespaces i.deviceKey) := by
  have hpayload := hcbor.decode_encode _ _ i.encode_payload
  have hmso := hcbor.decode_encode _ _ i.encode_mso
  simp only [readMso, bind_eq_ok, okOr_eq_ok, ensure_eq_ok, exists_unit, pure_eq_ok,
    requireText_eq_ok, decode, mapError_eq_ok]
  exact ⟨i.payload, h, _, hpayload, _, by simp [unembed, decode, hmso], "1.0", by simp, rfl,
    "SHA-256", by simp, rfl, rfl⟩

lemma signed_payload (i : Issued (X := X) request signer bytes) : i.sign1.payload = some i.payload := by
  obtain ⟨signature, -, h⟩ := sign_eq_ok.mp i.sign_eq
  rw [h]

lemma plain_x5chain (chain : List Bytes) :
    (unprotectedHeader [(headerX5chain, x5chainValue chain)]).Plain := by
  refine ⟨List.nodup_singleton _, fun p hp => ?_⟩
  rw [unprotectedHeader, List.mem_singleton] at hp
  have hlabel : 9 < headerX5chain.val := by decide
  rwa [hp]

/-- The `issuerAuth` of an issued mdoc is an array, and is read back as it was signed. -/
lemma fromValue_issuerAuth (hcose : CoseCodec X) (i : Issued (X := X) request signer bytes) :
    ∃ sign1, fromValue X i.issuerAuth = .ok sign1 ∧ CoseSame X i.sign1 sign1 := by
  obtain ⟨signature, -, hsign⟩ := sign_eq_ok.mp i.sign_eq
  obtain ⟨items, sign1, hto, hfrom, hsame⟩ := hcose.roundTrip i.sign1 (by rw [hsign]; rfl)
    (by rw [hsign]; rfl) (by rw [hsign]; exact plain_x5chain _) (by rw [hsign]; rfl)
  have hvalue := i.toValue_eq
  rw [toValue, mapError_eq_ok, hto, Except.ok.injEq] at hvalue
  refine ⟨sign1, ?_, hsame⟩
  rw [← hvalue]
  simp [fromValue, hfrom]

def CarriesIssuerAuth (X : Crates) (issued : Bytes) (issuerSigned : Cbor) : Prop :=
  ∃ value auth, X.cborDecode issued = .ok value ∧ get value "issuerAuth" = some auth ∧
    get issuerSigned "issuerAuth" = some auth

lemma issuerAuth_of_carries (hcbor : CborCodec X) (i : Issued (X := X) request signer bytes)
    {issuerSigned : Cbor} (h : CarriesIssuerAuth X bytes issuerSigned) :
    get issuerSigned "issuerAuth" = some i.issuerAuth := by
  obtain ⟨value, auth, hvalue, hauth, hcarried⟩ := h
  rw [hcbor.decode_encode _ _ i.encode_eq, Except.ok.injEq] at hvalue
  have hissued : get value "issuerAuth" = some i.issuerAuth := by simp [← hvalue]
  rw [hcarried, ← hauth, hissued]

/-- **The MSO of a structure that carries an issued `issuerAuth`** is the one that was signed. -/
theorem mso_of_carries (hcbor : CborCodec X) (hcose : CoseCodec X)
    (i : Issued (X := X) request signer bytes) {issuerSigned mso : Cbor} {trustAnchors : List Bytes}
    {now : ℤ} {sign1 : CoseSign1} {v : VerifiedMdoc}
    (hcarries : CarriesIssuerAuth X bytes issuerSigned)
    (hsigned : SignatureChecked X issuerSigned trustAnchors now sign1 v)
    (hmso : readMso X sign1 = .ok mso) : mso = msoOf X request i.namespaces i.deviceKey := by
  obtain ⟨auth, hauth, hsign1⟩ := hsigned.issuerAuth
  rw [issuerAuth_of_carries hcbor i hcarries, Option.some.injEq] at hauth
  obtain ⟨sign1', hfrom, hsame⟩ := fromValue_issuerAuth hcose i
  rw [← hauth, hfrom, Except.ok.injEq] at hsign1
  have hpayload : sign1.payload = some i.payload := by
    rw [← hsign1, hsame.payload, signed_payload]
  rw [readMso_of_payload hcbor i hpayload, Except.ok.injEq] at hmso
  exact hmso.symm

end Oid4vc.Acceptance
