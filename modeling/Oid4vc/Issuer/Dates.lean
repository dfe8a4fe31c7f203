import Oid4vc.Issuer.DocumentSigner

/-!
The dates of what is issued.

They are rounded down to the day, each format in its own way: credentials of one day have the same
dates, and are valid at the instant they are issued.
-/

namespace Oid4vc.Dates

open Oid4vc.JsonValue Oid4vc.CborValue Oid4vc.Fallible Oid4vc.Instant Oid4vc.Atomic Oid4vc.Jwks
open Oid4vc.External Oid4vc.Codecs Oid4vc.Keys Oid4vc.Jws Oid4vc.X509 Oid4vc.Cose Oid4vc.Credentials
open Oid4vc.SdJwt Oid4vc.Selective Oid4vc.Mdoc Oid4vc.Issuance Oid4vc.Elements Oid4vc.Acceptance
open Oid4vc.Oid4vci Oid4vc.IssuerStore Oid4vc.Credential Oid4vc.HolderKey

variable (X : Crates)

/-! ### What can be read -/

def sdJwtClaims (credential : Json) : Option Json := do
  let text ← credential.asStr
  let parsed ← (SdJwtVc.parse text).toOption
  jwtClaims X parsed.issuerJwt

def issuerSignedOf (credential : Json) : Option Cbor := do
  let text ← credential.asStr
  let bytes ← (X.base64UrlDecode text).toOption
  (X.cborDecode bytes).toOption

def validityInfo (issuerSigned : Cbor) : Option Cbor := do
  let issuerAuth ← get issuerSigned "issuerAuth"
  let sign1 ← (fromValue X issuerAuth).toOption
  let mso ← (readMso X sign1).toOption
  get mso "validityInfo"

/-- The element of an item, with its value. -/
def elementOf (item : Cbor) : Option (String × Cbor) := do
  let item ← (unembed X item).toOption
  let identifier ← (get item "elementIdentifier").bind Cbor.asText
  let value ← get item "elementValue"
  some (identifier, value)

/-- The elements of an mdoc by namespace, those with a date among them. -/
def elementsIn (issuerSigned : Cbor) : List (Option String × List (String × Cbor)) :=
  (nameSpacesOf issuerSigned).map fun entry =>
    (entry.1.asText, (entry.2.asArray.getD []).filterMap (elementOf X))

/-- What a credential has that depends on when it was issued. -/
inductive TimeContent
  | sdJwt (iat nbf exp : Option Json)
  | mdoc (validityInfo : Cbor) (elements : List (Option String × List (String × Cbor)))

def timeContent (format : String) (credential : Json) : Option TimeContent :=
  if format = "dc+sd-jwt" then
    (sdJwtClaims X credential).map fun claims =>
      .sdJwt (claims.get "iat") (claims.get "nbf") (claims.get "exp")
  else do
    let issuerSigned ← issuerSignedOf X credential
    let info ← validityInfo X issuerSigned
    some (.mdoc info (elementsIn X issuerSigned))

/-- A `validityInfo` with these dates. -/
def datesValue (signed validFrom validUntil : ℤ) : Cbor :=
  .map [(.text "signed", tdate X signed), (.text "validFrom", tdate X validFrom),
    (.text "validUntil", tdate X validUntil)]

/-- The instant is in the validity period of the credential. -/
def InPeriod (format : String) (credential : Json) (now : ℤ) : Prop :=
  if format = "dc+sd-jwt" then
    ∃ claims nbf exp, sdJwtClaims X credential = some claims ∧ i64Claim claims "nbf" = some nbf ∧
      i64Claim claims "exp" = some exp ∧ seconds nbf ≤ now ∧ now < seconds exp
  else
    ∃ issuerSigned signed validFrom validUntil, issuerSignedOf X credential = some issuerSigned ∧
      validityInfo X issuerSigned = some (datesValue X signed validFrom validUntil) ∧
      validFrom ≤ now ∧ now < validUntil

variable {X}

/-! ### SD-JWT VCs -/

/-- The day in whole seconds, by remainder and on the calendar. -/
lemma timestamp_sub_emod (t : ℤ) : timestamp t - timestamp t % daySecs = timestamp (startOfDay t) := by
  unfold timestamp startOfDay seconds daySecs
  omega

/-- The claims with a time, of an SD-JWT VC issued now. -/
structure SdJwtDated (claims : Json) (now : ℤ) : Prop where
  iat : claims.get "iat" = some (i64Json (timestamp (startOfDay now)))
  nbf : claims.get "nbf" = some (i64Json (timestamp (startOfDay now)))
  exp : claims.get "exp" = some (i64Json (timestamp (startOfDay now) + daySecs * 365))

section SdJwt

variable {σ : Type} {ctx : IssuanceContext X σ} {config : CredentialConfiguration} {holderJwk : Jwk}
  {draws : CredentialDraws} {b : Backend σ}

lemma sdJwtDated_of_issued (hb64 : Base64Url X) (hserde : SerdeJson X) (hvalues : AllocatesValues ctx)
    (hclock : Representable b.issuer.clock) {credential : Json}
    (h : ((issueSdJwtCredential X config ctx holderJwk draws).exec b).1 = .ok credential) :
    ∃ claims, sdJwtClaims X credential = some claims ∧ SdJwtDated claims b.issuer.clock := by
  obtain ⟨vct, status, -, hstatus, hsigned⟩ := issueSdJwtCredential_ok hvalues h
  obtain ⟨text, parsed, payload, rfl, hparsed, hclaims, hpayload⟩ :=
    payload_of_signed hb64 hserde hsigned hstatus hclock
  refine ⟨payload, ?_, ?_, ?_, ?_⟩
  · simp only [sdJwtClaims, Json.asStr, Option.bind_eq_bind, Option.bind_some, hparsed,
      Except.toOption, hclaims]
  · rw [← timestamp_sub_emod]
    apply hpayload.get
    simp [registered, claimsFor]
  · rw [← timestamp_sub_emod]
    apply hpayload.get
    simp [registered, claimsFor]
  · rw [← timestamp_sub_emod]
    apply hpayload.get
    simp [registered, claimsFor, expiry]

/-- The day of an instant starts before it, and a year later is after it. -/
lemma SdJwtDated.inPeriod {claims : Json} {now : ℤ} (h : SdJwtDated claims now)
    (hnow : Representable now) : ∃ nbf exp, i64Claim claims "nbf" = some nbf ∧
      i64Claim claims "exp" = some exp ∧ seconds nbf ≤ now ∧ now < seconds exp := by
  obtain ⟨hlow, hhigh⟩ := hnow
  have hstart := startOfDay_le now
  have hend := lt_startOfDay_add now
  have hday := seconds_timestamp_startOfDay now
  have hmono := timestamp_mono hstart
  have hfirst : timestamp now - 86400 ≤ timestamp (startOfDay now) := by
    rw [← timestamp_sub_emod]
    unfold daySecs
    omega
  have hnbf : i64Claim claims "nbf" = some (timestamp (startOfDay now)) := by
    rw [i64Claim, h.nbf, Option.bind_some]
    exact asI64_i64Json (by omega) (by omega)
  have hexp : i64Claim claims "exp" = some (timestamp (startOfDay now) + daySecs * 365) := by
    rw [i64Claim, h.exp, Option.bind_some]
    exact asI64_i64Json (by unfold daySecs; omega) (by unfold daySecs; omega)
  refine ⟨_, _, hnbf, hexp, ?_, ?_⟩
  · rw [hday]
    exact hstart
  · have hsum : seconds (timestamp (startOfDay now) + daySecs * 365) =
        startOfDay now + seconds (86400 * 365) := by
      rw [← hday]
      unfold seconds daySecs timestamp
      omega
    rw [hsum]
    unfold seconds at hend ⊢
    omega

end SdJwt

/-! ### mdocs -/

lemma filterMap_elementOf (hcbor : CborCodec X) (es : List (Entry X)) :
    (es.map Entry.item).filterMap (elementOf X) = es.map Entry.element := by
  rw [List.filterMap_map, ← List.filterMap_eq_map]
  refine List.filterMap_congr fun e _ => ?_
  simp [elementOf, e.unembed_item hcbor, itemValue, Except.toOption, Entry.element]

lemma elementsIn_issued (hcbor : CborCodec X) {request : IssueRequest} {signer : KeyPair}
    {bytes : Bytes} (i : Issued (X := X) request signer bytes) (issuerAuth : Cbor) :
    elementsIn X (.map [(.text "nameSpaces", .map (i.namespaces.map itemsOf)),
      (.text "issuerAuth", issuerAuth)]) = request.namespaces.map fun n => (some n.1, n.2) := by
  have hentries : nameSpacesOf (.map [(.text "nameSpaces", .map (i.namespaces.map itemsOf)),
      (.text "issuerAuth", issuerAuth)]) = i.namespaces.map itemsOf := by
    simp [nameSpacesOf]
  rw [elementsIn, hentries, ← i.elements, List.map_map, List.map_map]
  refine List.map_congr_left fun n _ => ?_
  simp only [Function.comp_apply, itemsOf, elementsOf, Cbor.asText, Cbor.asArray, Option.getD_some,
    filterMap_elementOf hcbor]

/-- An mdoc of these elements and dates. -/
structure MdocDated (credential : Json) (namespaces : List (String × List (String × Cbor)))
    (signed validFrom validUntil : ℤ) : Prop where
  content : ∃ issuerSigned, issuerSignedOf X credential = some issuerSigned ∧
    validityInfo X issuerSigned = some (datesValue X signed validFrom validUntil) ∧
    elementsIn X issuerSigned = namespaces.map fun n => (some n.1, n.2)
  order : validFrom < validUntil

section Mdoc

variable {σ : Type} {ctx : IssuanceContext X σ} {config : CredentialConfiguration} {holderJwk : Jwk}
  {draws : CredentialDraws} {b : Backend σ}

/-- **What is put in an mdoc** is what its request has, in whole seconds. -/
lemma mdocDated_of_signed (hb64 : Base64Url X) (hcbor : CborCodec X) (hcose : CoseCodec X)
    {request : IssueRequest} {status : Option StatusListRef} {credential : Json}
    (h : signMdocCredential X ctx request status draws = .ok credential) :
    MdocDated (X := X) credential request.namespaces (wholeSeconds request.signed)
      (max (wholeSeconds request.validFrom) (wholeSeconds request.signed))
      (wholeSeconds request.validUntil) := by
  obtain ⟨text, bytes, sign1, i, rfl, htext, hbytes, hfrom, hmso⟩ :=
    issued_of_signed hb64 hcbor hcose h
  refine ⟨⟨_, ?_, ?_, elementsIn_issued hcbor i i.issuerAuth⟩, i.dates⟩
  · simp only [issuerSignedOf, Json.asStr, Option.bind_eq_bind, Option.bind_some, htext, hbytes,
      Except.toOption]
  · simp [validityInfo, hfrom, hmso, Except.toOption, datesValue]

lemma mdlRequest_day {certificate : IssuerCertificate X} {docType country : String} {now now' : ℤ}
    (hday : startOfDay now = startOfDay now') :
    mdlRequest X certificate docType country holderJwk now =
      mdlRequest X certificate docType country holderJwk now' := by
  simp only [mdlRequest, hday]

/-- An mdoc of today: the elements are those of the day, and the dates midnights. -/
lemma mdocDated_of_issued (hb64 : Base64Url X) (hcbor : CborCodec X) (hcose : CoseCodec X)
    {credential : Json}
    (h : ((issueMdocCredential X config ctx holderJwk draws).exec b).1 = .ok credential) :
    ∃ signer docType country elements, mdlSigner X config ctx = .ok (signer, docType, country) ∧
      mdlElements X country (startOfDay b.issuer.clock) = .ok elements ∧
      MdocDated (X := X) credential [(mdlNamespace, elements)] (startOfDay b.issuer.clock)
        (startOfDay b.issuer.clock) (startOfDay (min (startOfDay b.issuer.clock +
          seconds (msoValidityDays * 86400)) signer.certificate.notAfter)) := by
  obtain ⟨signer, docType, country, request, status, hsigner, hrequest, hsigned⟩ :=
    issueMdocCredential_ok h
  have hdated := mdocDated_of_signed hb64 hcbor hcose hsigned
  simp only [mdlRequest, bind_eq_ok, ensure_eq_ok, exists_unit, pure_eq_ok] at hrequest
  obtain ⟨elements, helements, -, rfl⟩ := hrequest
  refine ⟨signer, docType, country, elements, hsigner, helements, ?_⟩
  have hwhole : ∀ t, wholeSeconds (startOfDay t) = startOfDay t := seconds_timestamp_startOfDay
  simpa only [hwhole, Int.max_self] using hdated

lemma MdocDated.inPeriod {credential : Json} {namespaces : List (String × List (String × Cbor))}
    {now latest : ℤ} (h : MdocDated (X := X) credential namespaces (startOfDay now) (startOfDay now)
      (startOfDay latest)) : startOfDay now ≤ now ∧ now < startOfDay latest := by
  have hnext := startOfDay_add_le h.order
  have hend := lt_startOfDay_add now
  exact ⟨startOfDay_le now, by omega⟩

/-- Two mdocs of one day, from one document signer. -/
lemma timeContent_mdoc (hb64 : Base64Url X) (hcbor : CborCodec X) (hcose : CoseCodec X)
    {holderJwk' : Jwk} {draws' : CredentialDraws} {b' : Backend σ} {credential credential' : Json}
    (hday : startOfDay b.issuer.clock = startOfDay b'.issuer.clock)
    (h : ((issueMdocCredential X config ctx holderJwk draws).exec b).1 = .ok credential)
    (h' : ((issueMdocCredential X config ctx holderJwk' draws').exec b').1 = .ok credential') :
    ∃ content, timeContent X "mso_mdoc" credential = some content ∧
      timeContent X "mso_mdoc" credential' = some content := by
  obtain ⟨signer, docType, country, elements, hsigner, helements, hdated⟩ :=
    mdocDated_of_issued hb64 hcbor hcose h
  obtain ⟨signer', docType', country', elements', hsigner', helements', hdated'⟩ :=
    mdocDated_of_issued hb64 hcbor hcose h'
  obtain ⟨rfl, rfl, rfl⟩ : signer = signer' ∧ docType = docType' ∧ country = country' := by
    rw [hsigner, Except.ok.injEq] at hsigner'
    simpa using hsigner'
  rw [hday] at helements hdated
  obtain rfl := Except.ok.inj (helements.symm.trans helements')
  have hcontent : ∀ {c : Json} {signed validFrom validUntil : ℤ},
      MdocDated (X := X) c [(mdlNamespace, elements)] signed validFrom validUntil →
      timeContent X "mso_mdoc" c = some (.mdoc (datesValue X signed validFrom validUntil)
        [(some mdlNamespace, elements)]) := by
    rintro c signed validFrom validUntil ⟨⟨issuerSigned, hissuerSigned, hinfo, helements⟩, -⟩
    simp [timeContent, hissuerSigned, hinfo, helements]
  exact ⟨_, hcontent hdated, hcontent hdated'⟩

end Mdoc

/-! ### Either format -/

section Issue

variable {σ : Type} {ctx : IssuanceContext X σ} {config : CredentialConfiguration}

lemma timeContent_sdJwt (hb64 : Base64Url X) (hserde : SerdeJson X) (hvalues : AllocatesValues ctx)
    {holderJwk holderJwk' : Jwk} {draws draws' : CredentialDraws} {b b' : Backend σ}
    {credential credential' : Json} (hclock : Representable b.issuer.clock)
    (hclock' : Representable b'.issuer.clock)
    (hday : startOfDay b.issuer.clock = startOfDay b'.issuer.clock)
    (h : ((issueSdJwtCredential X config ctx holderJwk draws).exec b).1 = .ok credential)
    (h' : ((issueSdJwtCredential X config ctx holderJwk' draws').exec b').1 = .ok credential') :
    ∃ content, timeContent X "dc+sd-jwt" credential = some content ∧
      timeContent X "dc+sd-jwt" credential' = some content := by
  obtain ⟨claims, hclaims, hdated⟩ := sdJwtDated_of_issued hb64 hserde hvalues hclock h
  obtain ⟨claims', hclaims', hdated'⟩ := sdJwtDated_of_issued hb64 hserde hvalues hclock' h'
  refine ⟨.sdJwt (claims.get "iat") (claims.get "nbf") (claims.get "exp"), ?_, ?_⟩
  · simp only [timeContent, if_true, hclaims, Option.map_some]
  · simp only [timeContent, if_true, hclaims', Option.map_some, hdated.iat, hdated.nbf, hdated.exp,
      hdated'.iat, hdated'.nbf, hdated'.exp, hday]

variable {configId : String}

/-- What is issued at an instant is valid then. -/
lemma inPeriod_of_issued (hb64 : Base64Url X) (hserde : SerdeJson X) (hcbor : CborCodec X)
    (hcose : CoseCodec X) (hvalues : AllocatesValues ctx) {holderJwk : Jwk} {draws : CredentialDraws}
    {b : Backend σ} {credential : Json} (hclock : Representable b.issuer.clock)
    (h : ((issueCredential X configId config ctx holderJwk draws).exec b).1 = .ok credential) :
    InPeriod X config.format credential b.issuer.clock := by
  unfold issueCredential at h
  split_ifs at h with hsd hmdoc
  · obtain ⟨claims, hclaims, hdated⟩ := sdJwtDated_of_issued hb64 hserde hvalues hclock h
    obtain ⟨nbf, exp, hnbf, hexp, hfrom, huntil⟩ := hdated.inPeriod hclock
    rw [InPeriod, if_pos hsd]
    exact ⟨claims, nbf, exp, hclaims, hnbf, hexp, hfrom, huntil⟩
  · obtain ⟨signer, docType, country, elements, -, -, hdated⟩ :=
      mdocDated_of_issued hb64 hcbor hcose h
    obtain ⟨issuerSigned, hissuerSigned, hinfo, -⟩ := hdated.content
    rw [InPeriod, if_neg hsd]
    exact ⟨issuerSigned, _, _, _, hissuerSigned, hinfo, hdated.inPeriod⟩
  · simp at h

/-- **Issuance times** neither tell credentials of one day apart, nor invalidate them: what a
credential has that depends on when it was issued is that of the day, in both formats, and the
instant it was issued at is in its validity period. -/
theorem dates_of_day (hb64 : Base64Url X) (hserde : SerdeJson X) (hcbor : CborCodec X)
    (hcose : CoseCodec X) (hvalues : AllocatesValues ctx) :
    (∀ {holderJwk holderJwk' : Jwk} {draws draws' : CredentialDraws} {b b' : Backend σ}
      {credential credential' : Json}, Representable b.issuer.clock →
      Representable b'.issuer.clock → startOfDay b.issuer.clock = startOfDay b'.issuer.clock →
      ((issueCredential X configId config ctx holderJwk draws).exec b).1 = .ok credential →
      ((issueCredential X configId config ctx holderJwk' draws').exec b').1 = .ok credential' →
      ∃ content, timeContent X config.format credential = some content ∧
        timeContent X config.format credential' = some content) ∧
    ∀ {holderJwk : Jwk} {draws : CredentialDraws} {b : Backend σ} {credential : Json},
      Representable b.issuer.clock →
      ((issueCredential X configId config ctx holderJwk draws).exec b).1 = .ok credential →
      InPeriod X config.format credential b.issuer.clock := by
  refine ⟨?_, inPeriod_of_issued hb64 hserde hcbor hcose hvalues⟩
  intro holderJwk holderJwk' draws draws' b b' credential credential' hclock hclock' hday h h'
  unfold issueCredential at h h'
  split_ifs at h h' with hsd hmdoc
  · rw [hsd]
    exact timeContent_sdJwt hb64 hserde hvalues hclock hclock' hday h h'
  · rw [hmdoc]
    exact timeContent_mdoc hb64 hcbor hcose hday h h'
  · simp at h

end Issue

/-! ### A licence in the afternoon and in the evening -/

section Sample

open Oid4vc.Presented Oid4vc.Tables Oid4vc.DocumentSigner

/-- On September 21, 2026, shortly before midnight. -/
def evening : ℤ := seconds 1790035199

def eveningBackend : Backend Unit := ⟨⟨evening, 0, .new⟩, ()⟩

/-- What is issued in the evening is what is issued in the afternoon. -/
lemma licence_evening (r : Renewal) :
    ((issueMdocCredential r.crates licenceConfiguration r.context r.holderJwk licenceDraws).exec
      eveningBackend).1 = ((issueMdocCredential r.crates licenceConfiguration r.context r.holderJwk
        licenceDraws).exec licenceBackend).1 := by
  have hday : startOfDay eveningBackend.issuer.clock = startOfDay licenceBackend.issuer.clock := by
    decide
  have hsigner : mdlSigner r.crates licenceConfiguration r.context =
      .ok (r.signer, mdlDoctype, "ZZ") := rfl
  simp only [issueMdocCredential, hsigner, Prog.exec_call, Calls.readClock, mdlRequest_day hday]
  cases mdlRequest r.crates r.signer.certificate mdlDoctype "ZZ" r.holderJwk
    licenceBackend.issuer.clock with
  | error h => simp only [Prog.exec_ret]
  | ok request => simp only [Prog.exec_call, Calls.allocate, Renewal.signer, Prog.exec_ret]

/-- The two licences of the day have the same dates, and each is valid when it is issued. -/
theorem dates_of_licence : ∃ credential credential' content,
    ((issueCredential Renewal.midnight.crates "mdl" licenceConfiguration Renewal.midnight.context
      Renewal.midnight.holderJwk licenceDraws).exec licenceBackend).1 = .ok credential ∧
    ((issueCredential Renewal.midnight.crates "mdl" licenceConfiguration Renewal.midnight.context
      Renewal.midnight.holderJwk licenceDraws).exec eveningBackend).1 = .ok credential' ∧
    timeContent Renewal.midnight.crates "mso_mdoc" credential = some content ∧
    timeContent Renewal.midnight.crates "mso_mdoc" credential' = some content ∧
    InPeriod Renewal.midnight.crates "mso_mdoc" credential sampleNow ∧
    InPeriod Renewal.midnight.crates "mso_mdoc" credential' evening := by
  obtain ⟨credential, b', hissued⟩ := licence_issued Renewal.midnight
  have hafternoon := congrArg Prod.fst hissued
  have hevening := (licence_evening Renewal.midnight).trans hafternoon
  generalize Renewal.midnight = r at hafternoon hevening ⊢
  have hserde : SerdeJson r.crates :=
    (Table.serdeJson : SerdeJson r.table.crates).congr rfl rfl rfl rfl
  have hvalues : AllocatesValues r.context := by
    rintro _ _ v _ ⟨⟩
  have hdates := @dates_of_day r.crates Unit r.context licenceConfiguration "mdl"
    (base64Url_licensing Table.base64Url) hserde (cborCodec_licensing Table.cborCodec)
    (coseCodec_licensing Table.coseCodec) hvalues
  have hclock : Representable licenceBackend.issuer.clock := by decide
  have hclock' : Representable eveningBackend.issuer.clock := by decide
  obtain ⟨content, hcontent, hcontent'⟩ := hdates.1 hclock hclock' (by decide) hafternoon hevening
  exact ⟨credential, credential, content, hafternoon, hevening, hcontent, hcontent',
    hdates.2 hclock hafternoon, hdates.2 hclock' hevening⟩

end Sample

end Oid4vc.Dates
