import Oid4vc.Crypto.Presented

/-!
An mdoc presentation is bound to one session and to one device.

What the device key signs determines the session transcript, and the transcript determines the
request it was computed for.
-/

namespace Oid4vc.DeviceBound

open Oid4vc.JsonValue Oid4vc.Fallible Oid4vc.CborValue Oid4vc.Jwks Oid4vc.External Oid4vc.Codecs
open Oid4vc.Keys Oid4vc.Cose Oid4vc.Mdoc Oid4vc.Issuance Oid4vc.Elements Oid4vc.Acceptance
open Oid4vc.Presented Oid4vc.Tables

variable (X : Crates)

def msoDeviceKey (issuerSigned : Cbor) : Except MdocError Jwk := do
  let issuerAuth ← (fromValue X (← require issuerSigned "issuerAuth" "IssuerSigned")).mapError .cose
  let mso ← readMso X issuerAuth
  let info ← require mso "deviceKeyInfo" "MSO"
  (jwkFromCoseKey X (← require info "deviceKey" "deviceKeyInfo")).mapError .cose

variable {X}

/-! ### What is signed -/

/-- **The transcript determines the request** it was computed for. -/
theorem transcript_inj (hcbor : CborCodec X) (hsha : Function.Injective X.sha256)
    {clientId nonce responseUri clientId' nonce' responseUri' : String}
    {thumbprint thumbprint' : Option Bytes} {transcript : Cbor}
    (h : oid4vpSessionTranscript X clientId nonce thumbprint responseUri = .ok transcript)
    (h' : oid4vpSessionTranscript X clientId' nonce' thumbprint' responseUri' = .ok transcript) :
    (clientId, nonce, thumbprint, responseUri) = (clientId', nonce', thumbprint', responseUri') := by
  simp only [oid4vpSessionTranscript, bind_eq_ok, encode_eq_ok, pure_eq_ok] at h h'
  obtain ⟨info, hinfo, rfl⟩ := h
  obtain ⟨info', hinfo', heq⟩ := h'
  simp only [Cbor.array.injEq, List.cons.injEq, Cbor.bytes.injEq, true_and, and_true] at heq
  rw [hsha heq] at hinfo'
  have hvalues := hcbor.inj hinfo hinfo'
  simp only [Cbor.array.injEq, List.cons.injEq, Cbor.text.injEq, and_true] at hvalues
  obtain ⟨rfl, rfl, hthumbprint, rfl⟩ := hvalues
  cases thumbprint <;> cases thumbprint' <;> simp_all

lemma deviceAuthenticationBytes_inj (hcbor : CborCodec X) {transcript transcript' : Cbor}
    {docType docType' : String} {spaces spaces' : Cbor} {bytes : Bytes}
    (h : deviceAuthenticationBytes X transcript docType spaces = .ok bytes)
    (h' : deviceAuthenticationBytes X transcript' docType' spaces' = .ok bytes) :
    transcript = transcript' := by
  simp only [deviceAuthenticationBytes, bind_eq_ok, embed_eq_ok, encode_eq_ok] at h h'
  obtain ⟨_, ⟨inner, hinner, rfl⟩, hbytes⟩ := h
  obtain ⟨_, ⟨inner', hinner', rfl⟩, hbytes'⟩ := h'
  have htag := hcbor.inj hbytes hbytes'
  simp only [Cbor.tag.injEq, Cbor.bytes.injEq, true_and] at htag
  subst htag
  have hvalues := hcbor.inj hinner hinner'
  simp only [Cbor.array.injEq, List.cons.injEq, true_and] at hvalues
  exact hvalues.1

/-! ### Presentations -/

/-- **What `present` returns**: a response with one document, over the `issuerAuth` of the mdoc,
signed by the device key for the session. -/
lemma present_eq_ok {issuerSigned response : Bytes} {disclose : List (String × String)}
    {transcript : Cbor} {key : KeyPair}
    (h : present X issuerSigned disclose transcript key = .ok response) :
    ∃ value issuerAuth docType revealed spaces bytes s signature,
      X.cborDecode issuerSigned = .ok value ∧ get value "issuerAuth" = some issuerAuth ∧
      deviceAuthenticationBytes X transcript docType spaces = .ok bytes ∧
      signDetached X key bytes = .ok s ∧ toValue X s = .ok signature ∧
      X.cborEncode (deviceResponse docType revealed issuerAuth spaces signature) = .ok response := by
  simp only [present, decode, bind_eq_ok, mapError_eq_ok, require_eq_ok, encode_eq_ok] at h
  obtain ⟨value, hvalue, issuerAuth, hauth, -, -, -, -, -, -, -, -, docType, -, spaces, -, bytes,
    hbytes, s, hs, signature, hsignature, hresponse⟩ := h
  exact ⟨value, issuerAuth, docType, _, spaces, bytes, s, signature, hvalue, hauth, hbytes, hs,
    hsignature, hresponse⟩

/-- **An accepted presentation** verifies over what was signed, under the device key of its MSO. -/
lemma accepted_presentation (hcbor : CborCodec X) (hcose : CoseCodec X) {device : SigningKey}
    (hexact : device.Exact X) {issuerSigned response : Bytes} {disclose : List (String × String)}
    {transcript transcript' : Cbor} {trustAnchors : List Bytes} {now : ℤ} {vs : List VerifiedMdoc}
    (h : present X issuerSigned disclose transcript (device.toKeyPair X) = .ok response)
    (hv : verifyDeviceResponse X response transcript' trustAnchors now = .ok vs) :
    transcript' = transcript ∧ ∃ value key jwk, X.cborDecode issuerSigned = .ok value ∧
      msoDeviceKey X value = .ok jwk ∧ jwkFromCoseKey X key = .ok jwk ∧
      algorithmForJwk jwk = .ok (device.toKeyPair X).algorithm ∧ device.Coordinates (X := X) jwk := by
  obtain ⟨value, issuerAuth, docType, revealed, spaces, bytes, s, signature, hvalue, hauth, hbytes, hs,
    hsignature, hresponse⟩ := present_eq_ok h
  obtain ⟨_, s', hto, hfrom, hsame⟩ := fromValue_signDetached hcose hs
  rw [hsignature, Except.ok.injEq] at hto
  subst hto
  simp only [verifyDeviceResponse, bind_eq_ok, readDocuments_deviceResponse hcbor hresponse,
    mapM_eq_ok, Except.ok.injEq, exists_eq_left'] at hv
  cases hv with
  | @cons _ v _ _ hv _ =>
    simp only [verifyDocument, bind_eq_ok, requireText_eq_ok, require_eq_ok, mapError_eq_ok,
      exists_unit, get_cons, String.reduceEq, if_true, if_false, Option.some.injEq,
      Option.bind_some, Cbor.asText_text, exists_eq_left', readDeviceSignature] at hv
    obtain ⟨v', hv, s'', hs'', bytes', hbytes', hverify, -⟩ := hv
    rw [hfrom, Except.ok.injEq] at hs''
    subst hs''
    obtain ⟨rfl, halg, hcoordinates⟩ := eq_of_verifyDetached hcose hexact hs hsame hverify
    obtain ⟨sign1, mso, _, _, ⟨⟨auth, hauth', hsign1⟩, -⟩, hmso, hread, -⟩ :=
      verifyIssuerSignedValue_eq_ok.mp hv
    obtain ⟨info, key, hinfo, hkey, hjwk⟩ := hread.deviceKey
    simp only [get_cons, String.reduceEq, if_true, if_false, Option.some.injEq] at hauth'
    subst hauth'
    refine ⟨deviceAuthenticationBytes_inj hcbor hbytes' hbytes, value, key, v'.deviceKey, hvalue, ?_, hjwk,
      halg, hcoordinates⟩
    simp only [msoDeviceKey, bind_eq_ok, require_eq_ok, mapError_eq_ok]
    exact ⟨_, hauth, sign1, hsign1, mso, hmso, info, hinfo, key, hkey, hjwk⟩

/-- **An mdoc presentation is bound to one request and one device.** Presented for one request, it
is not accepted for another; and signed by another key than the device key of its MSO, it is not
accepted for any. -/
theorem bound_to_request_and_device (hb64 : Base64Url X) (hcbor : CborCodec X)
    (hcose : CoseCodec X) (hsha : Function.Injective X.sha256) {key : SigningKey}
    (hexact : key.Exact X) {transcript issuerSigned : Cbor} {bytes response : Bytes}
    {disclose : List (String × String)} (hdecode : X.cborDecode bytes = .ok issuerSigned)
    (hpresent : present X bytes disclose transcript (key.toKeyPair X) = .ok response) :
    (∀ clientId nonce thumbprint responseUri clientId' nonce' thumbprint' responseUri' transcript',
      oid4vpSessionTranscript X clientId nonce thumbprint responseUri = .ok transcript →
      oid4vpSessionTranscript X clientId' nonce' thumbprint' responseUri' = .ok transcript' →
      (clientId, nonce, thumbprint, responseUri) ≠ (clientId', nonce', thumbprint', responseUri') →
      ∀ trustAnchors now vs,
        verifyDeviceResponse X response transcript' trustAnchors now ≠ .ok vs) ∧
    ∀ deviceKey, msoDeviceKey X issuerSigned = .ok deviceKey →
      deviceKey.publicMembers ≠ (key.toKeyPair X).publicJwk.publicMembers →
      ∀ transcript' trustAnchors now vs,
        verifyDeviceResponse X response transcript' trustAnchors now ≠ .ok vs := by
  constructor
  · intro clientId nonce thumbprint responseUri clientId' nonce' thumbprint' responseUri' transcript'
      htranscript htranscript' hne trustAnchors now vs hv
    obtain ⟨rfl, -⟩ := accepted_presentation hcbor hcose hexact hpresent hv
    exact hne (transcript_inj hcbor hsha htranscript htranscript')
  · intro deviceKey hdevice hne transcript' trustAnchors now vs hv
    obtain ⟨-, value, coseKey, jwk, hvalue, hjwk, hread, halg, hcoordinates⟩ :=
      accepted_presentation hcbor hcose hexact hpresent hv
    rw [hdecode, Except.ok.injEq] at hvalue
    subst hvalue
    rw [hdevice, Except.ok.injEq] at hjwk
    subst hjwk
    exact hne (publicMembers_of_coordinates hb64.decode_encode hread halg hcoordinates)

/-- What was presented for the sample request is not accepted for the next one, which has another
nonce and another response endpoint. -/
theorem other_nonce_rejected : ∃ issued response transcript,
    issue sampleTable.crates (sampleRequest expiresOn) (signerKey.toKeyPair sampleTable.crates)
      sampleDraws = .ok issued ∧
    present sampleTable.crates issued [(mdlNamespace, "age_over_18")] sampleTranscript
      (deviceKey.toKeyPair sampleTable.crates) = .ok response ∧
    oid4vpSessionTranscript sampleTable.crates "x509_san_dns:verifier.example.com" "n-1b9fT4Qx8z"
      none "https://verifier.example.com/response/2" = .ok transcript ∧
    ∀ vs, verifyDeviceResponse sampleTable.crates response transcript [rootDer] sampleNow ≠
      .ok vs := by
  obtain ⟨issued, hissued⟩ := @sample_issued expiresOn (by decide)
  obtain ⟨i⟩ := issue_eq_ok hissued
  obtain ⟨response, -, -, -, -, hpresent, -⟩ := present_issued Table.cborCodec Table.coseCodec
    (Table.key_signs deviceX deviceY) i [(mdlNamespace, "age_over_18")] sampleTranscript
  -- the digest of the handover is in the table
  have hfirst : oid4vpSessionTranscript sampleTable.crates "x509_san_dns:verifier.example.com"
      "n-0S6_WzA2Mj" none "https://verifier.example.com/response/1" = .ok sampleTranscript := by
    have hdigest : sampleTable.crates.sha256 (CborBytes.encode (.array
        [.text "x509_san_dns:verifier.example.com", .text "n-0S6_WzA2Mj", .null,
          .text "https://verifier.example.com/response/1"])) = handoverDigest := by
      decide +kernel
    simp only [oid4vpSessionTranscript, bind_eq_ok, encode_eq_ok, pure_eq_ok]
    exact ⟨_, rfl, by rw [hdigest]; rfl⟩
  obtain ⟨transcript, hsecond⟩ : ∃ transcript, oid4vpSessionTranscript sampleTable.crates
      "x509_san_dns:verifier.example.com" "n-1b9fT4Qx8z" none
      "https://verifier.example.com/response/2" = .ok transcript := by
    obtain ⟨info, hinfo⟩ := (@Table.cborCodec sampleTable).total (.array
      [.text "x509_san_dns:verifier.example.com", .text "n-1b9fT4Qx8z", .null,
        .text "https://verifier.example.com/response/2"])
    simp only [oid4vpSessionTranscript, bind_eq_ok, encode_eq_ok, pure_eq_ok]
    exact ⟨_, info, hinfo, rfl⟩
  refine ⟨issued, response, transcript, hissued, hpresent, hsecond, fun vs => ?_⟩
  exact (bound_to_request_and_device Table.base64Url Table.cborCodec Table.coseCodec
    sample_sha256_injective (Table.key_exact sampleTable_distinct deviceX deviceY)
    (Table.cborCodec.decode_encode _ _ i.encode_eq) hpresent).1 _ _ _ _ _ _ _ _ _ hfirst hsecond
      (by decide) _ _ vs

end Oid4vc.DeviceBound
