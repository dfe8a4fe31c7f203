import Oid4vc.Crypto.Presented
import Oid4vc.Issuer.HolderKey

/-!
The dates of an mDL and the validity of the document signer that signs it.

An mDL is dated to the start of the day. It expires before the certificate does; but it may be
dated before the certificate was valid, and then no verifier accepts it.
-/

namespace Oid4vc.DocumentSigner

open Oid4vc.JsonValue Oid4vc.CborValue Oid4vc.Fallible Oid4vc.Instant Oid4vc.Atomic Oid4vc.Jwks
open Oid4vc.External Oid4vc.Codecs Oid4vc.Keys Oid4vc.X509 Oid4vc.Mdoc Oid4vc.Issuance
open Oid4vc.Elements Oid4vc.Acceptance Oid4vc.Presented Oid4vc.Tables Oid4vc.Oid4vci
open Oid4vc.IssuerStore Oid4vc.Credential Oid4vc.HolderKey
open Oid4vc.Cose (int coseKey coseKey_publicJwk)
open Oid4vc.CborBytes (bigEndian length_bigEndian)

variable {X : Crates}

/-- A document signer that a trust anchor issued: its certificate is for this key, and is valid
only while the anchor is. -/
structure Certified (certificate : IssuerCertificate X) (key : SigningKey) (anchorDer : Bytes) :
    Prop where
  key : ∃ leaf, p256Jwk X certificate.certificate.subjectPublicKey = .ok leaf ∧
    leaf.publicMembers = (key.toKeyPair X).publicJwk.publicMembers
  anchor : ∃ anchor, X.certificateFromDer anchorDer = .ok anchor ∧
    verifyIssuedBy X certificate.certificate anchor = .ok () ∧
    ∀ instant, checkValidity X certificate.certificate instant = .ok () →
      checkValidity X anchor instant = .ok ()

/-- **The mDL is accepted at this instant** by who trusts the anchor, and never outlives the
certificate: it was signed while the certificate is valid, and expires before the certificate. -/
def AcceptedNow (certificate : IssuerCertificate X) (anchorDer : Bytes) (now : ℤ)
    (credential : Json) : Prop :=
  ∃ text bytes v, credential = .str text ∧ X.base64UrlDecode text = .ok bytes ∧
    verifyIssuerSigned X bytes [anchorDer] now = .ok v ∧
    checkValidity X certificate.certificate v.signed = .ok () ∧ v.validUntil ≤ certificate.notAfter

/-! ### The request -/

lemma wholeSeconds_startOfDay (t : ℤ) : wholeSeconds (startOfDay t) = startOfDay t :=
  seconds_timestamp_startOfDay t

def mdlNames : List String :=
  ["family_name", "given_name", "birth_date", "issue_date", "expiry_date", "issuing_country",
    "issuing_authority", "document_number", "portrait", "driving_privileges",
    "un_distinguishing_sign", "age_over_18", "age_over_21"]

lemma mdlElements_nodup {country : String} {today : ℤ} {elements : List (String × Cbor)}
    (h : mdlElements X country today = .ok elements) :
    (elements.map Prod.fst).Nodup ∧ elements ≠ [] := by
  simp only [mdlElements, bind_eq_ok, pure_eq_ok] at h
  obtain ⟨expiry, -, rfl⟩ := h
  have hnodup : mdlNames.Nodup := by decide
  exact ⟨hnodup, by simp⟩

/-- What is put in an mDL: its dates are of the day. -/
structure Dated (certificate : IssuerCertificate X) (now : ℤ) (request : IssueRequest) : Prop where
  names : ∀ n ∈ request.namespaces, (n.2.map Prod.fst).Nodup ∧ n.2 ≠ []
  signed : request.signed = startOfDay now
  validFrom : request.validFrom = startOfDay now
  validUntil : ∃ latest, request.validUntil = startOfDay (min latest certificate.notAfter)
  x5chain : request.x5chain = [certificate.der]

lemma dated_mdlRequest {certificate : IssuerCertificate X} {docType country : String}
    {holderJwk : Jwk} {now : ℤ} {request : IssueRequest}
    (h : mdlRequest X certificate docType country holderJwk now = .ok request)
    (status : Option StatusListRef) : Dated certificate now { request with status := status } := by
  simp only [mdlRequest, bind_eq_ok, ensure_eq_ok, exists_unit, pure_eq_ok] at h
  obtain ⟨elements, helements, -, rfl⟩ := h
  refine ⟨fun n hn => ?_, rfl, rfl, ⟨_, rfl⟩, rfl⟩
  rw [List.mem_singleton.mp hn]
  exact mdlElements_nodup helements

section Issued

variable {certificate : IssuerCertificate X} {key : SigningKey} {anchorDer : Bytes} {now : ℤ}
  {request : IssueRequest} {issued : Bytes}

lemma checkValidity_instant {cert : Certificate} {instant : ℤ}
    (h : checkValidity X cert instant = .ok ()) : 0 ≤ instant ∧ instant < year10000 := by
  obtain ⟨hfrom, huntil⟩ := checkValidity_eq_ok.mp h
  have hafter := cert.notAfter.isLt
  unfold toDatetime seconds at hfrom huntil
  unfold year10000 seconds
  omega

/-- The dates of an mDL that is issued now. -/
lemma Dated.dates (h : Dated certificate now request)
    (i : Issued (X := X) request (key.toKeyPair X) issued) :
    wholeSeconds request.signed = startOfDay now ∧ wholeSeconds request.validFrom = startOfDay now ∧
      now ≤ wholeSeconds request.validUntil ∧
      wholeSeconds request.validUntil ≤ certificate.notAfter := by
  obtain ⟨latest, huntil⟩ := h.validUntil
  have hsigned : wholeSeconds request.signed = startOfDay now := by
    rw [h.signed, wholeSeconds_startOfDay]
  have hfrom : wholeSeconds request.validFrom = startOfDay now := by
    rw [h.validFrom, wholeSeconds_startOfDay]
  have hafter : wholeSeconds request.validUntil = startOfDay (min latest certificate.notAfter) := by
    rw [huntil, wholeSeconds_startOfDay]
  have hdates := i.dates
  rw [hsigned, hfrom, hafter, Int.max_self] at hdates
  have hday := startOfDay_add_le hdates
  have hnow := lt_startOfDay_add now
  have hcap := startOfDay_le (min latest certificate.notAfter)
  refine ⟨hsigned, hfrom, ?_, ?_⟩
  · rw [hafter]
    omega
  · rw [hafter]
    omega

/-- The chain of a certified document signer is trusted while its certificate is valid. -/
lemma Certified.validateChain (h : Certified certificate key anchorDer) {instant : ℤ}
    (hvalid : checkValidity X certificate.certificate instant = .ok ()) :
    ∃ leaf, X509.validateChain X [certificate.der] [anchorDer] instant = .ok leaf ∧
      leaf.publicMembers = (key.toKeyPair X).publicJwk.publicMembers := by
  obtain ⟨leaf, hleaf, hmembers⟩ := h.key
  obtain ⟨anchor, hanchor, hissued, hcontains⟩ := h.anchor
  refine ⟨leaf, ?_, hmembers⟩
  exact validateChain_single certificate.parsed hanchor List.mem_cons_self hissued hleaf hvalid
    (hcontains instant hvalid)

/-- An mDL that is dated to a day of the certificate can be verified now. -/
lemma Dated.validAt (h : Dated certificate now request)
    (i : Issued (X := X) request (key.toKeyPair X) issued)
    (hcertified : Certified certificate key anchorDer)
    (hvalid : checkValidity X certificate.certificate now = .ok ())
    (hsigned : checkValidity X certificate.certificate (startOfDay now) = .ok ()) :
    ValidAt X request key [anchorDer] now := by
  obtain ⟨hday, hfrom, huntil, -⟩ := h.dates i
  obtain ⟨leaf, hleaf, -⟩ := hcertified.validateChain hsigned
  refine ⟨?_, huntil, ?_, leaf, ?_⟩
  · rw [hday, hfrom, Int.max_self]
    exact startOfDay_le now
  · rw [h.x5chain]
    exact hcertified.validateChain hvalid
  · rw [h.x5chain, hday]
    exact hleaf

/-- The date that is read of an mDL is the day of its issuance. -/
lemma Dated.signed_eq (hcbor : CborCodec X) (hcose : CoseCodec X) (hdate : Rfc3339 X)
    (h : Dated certificate now request) (i : Issued (X := X) request (key.toKeyPair X) issued)
    (hvalid : checkValidity X certificate.certificate now = .ok ()) {v : VerifiedMdoc}
    (hv : verifyIssuerSigned X issued [anchorDer] now = .ok v) : v.signed = startOfDay now := by
  obtain ⟨hday, -, -, -⟩ := h.dates i
  obtain ⟨hpos, hyear⟩ := checkValidity_instant hvalid
  simp only [verifyIssuerSigned, decode, hcbor.decode_encode _ _ i.encode_eq, bind_eq_ok,
    mapError_eq_ok, Except.ok.injEq, exists_eq_left'] at hv
  obtain ⟨sign1, mso, valueDigests, groups, hchecked, hmso, hread, -, -⟩ :=
    verifyIssuerSignedValue_eq_ok.mp hv
  have hcarries : CarriesIssuerAuth X issued (.map [(.text "nameSpaces",
      .map (i.namespaces.map itemsOf)), (.text "issuerAuth", i.issuerAuth)]) :=
    ⟨_, i.issuerAuth, hcbor.decode_encode _ _ i.encode_eq, by simp, by simp⟩
  obtain rfl := mso_of_carries hcbor hcose i hcarries hchecked hmso
  have hvalidity := hread.validity
  simp only [readValidity, bind_eq_ok, require_eq_ok, ensure_eq_ok, exists_unit, pure_eq_ok,
    get_msoOf_validityInfo, Option.some.injEq, exists_eq_left', get_cons, String.reduceEq, if_true,
    if_false, Prod.mk.injEq] at hvalidity
  obtain ⟨signed, hparse, _, -, _, -, -, rfl, -⟩ := hvalidity
  have hle := startOfDay_le now
  have hnonneg := startOfDay_nonneg hpos
  have htoday := parseTdate_tdate hdate (t := startOfDay now) hnonneg
    (by rw [wholeSeconds_startOfDay]; omega) "signed"
  rw [wholeSeconds_startOfDay] at htoday
  rw [hday, htoday, Except.ok.injEq] at hparse
  exact hparse.symm

end Issued

/-! ### Acceptance -/

section Acceptance

variable {σ : Type} {ctx : IssuanceContext X σ} {signer : MdocSigner X σ} {key : SigningKey}
  {anchorDer : Bytes}

/-- What an mDL of this document signer is: it was issued from a request that is dated today. -/
lemma issued_of_exec (hb64 : Base64Url X) (hissuer : ctx.issuerKey = key.toKeyPair X)
    (hsigner : ctx.mdoc = some signer) {config : CredentialConfiguration} {holderJwk : Jwk}
    {draws : CredentialDraws} {b b' : Backend σ} {credential : Json}
    (h : (issueMdocCredential X config ctx holderJwk draws).exec b = (.ok credential, b')) :
    ∃ request bytes text, Dated signer.certificate b.issuer.clock request ∧
      Nonempty (Issued (X := X) request (key.toKeyPair X) bytes) ∧ credential = .str text ∧
      X.base64UrlDecode text = .ok bytes := by
  obtain ⟨signer', docType, country, request, status, hsigner', hrequest, hsigned⟩ :=
    issueMdocCredential_ok (congrArg Prod.fst h)
  simp only [mdlSigner, hsigner, bind_eq_ok, okOr_eq_ok, Option.some.injEq, exists_eq_left', ensure_eq_ok,
    exists_unit, pure_eq_ok, Prod.mk.injEq] at hsigner'
  obtain ⟨-, country', -, rfl, -, -⟩ := hsigner'
  unfold signMdocCredential at hsigned
  split at hsigned
  · cases hsigned
  · cases hsigned
  · next bytes hissue =>
    rw [Except.ok.injEq] at hsigned
    rw [hissuer] at hissue
    exact ⟨_, bytes, X.base64UrlEncode bytes, dated_mdlRequest hrequest status, issue_eq_ok hissue,
      hsigned.symm, hb64.decode_encode bytes⟩

section Issue

variable (hb64 : Base64Url X) (hcbor : CborCodec X) (hcose : CoseCodec X) (hdate : Rfc3339 X)
  (hissuer : ctx.issuerKey = key.toKeyPair X) (hsigner : ctx.mdoc = some signer)
  {config : CredentialConfiguration} {holderJwk : Jwk} {draws : CredentialDraws} {b b' : Backend σ}
  {credential : Json}
  (hvalid : checkValidity X signer.certificate.certificate b.issuer.clock = .ok ())
  (h : (issueMdocCredential X config ctx holderJwk draws).exec b = (.ok credential, b'))

include hb64 hcbor hcose hdate hissuer hsigner hvalid h

/-- An mDL is accepted only if the certificate was valid on the day it is dated to. -/
lemma notBefore_of_acceptedNow
    (haccepted : AcceptedNow signer.certificate anchorDer b.issuer.clock credential) :
    toDatetime signer.certificate.certificate.notBefore ≤ startOfDay b.issuer.clock := by
  obtain ⟨request, bytes, text, hdated, ⟨i⟩, rfl, htext⟩ := issued_of_exec hb64 hissuer hsigner h
  obtain ⟨text', bytes', v, htext', hbytes', hv, hsigned, -⟩ := haccepted
  obtain rfl := Json.str.inj htext'
  rw [htext, Except.ok.injEq] at hbytes'
  rw [← hbytes'] at hv
  rw [hdated.signed_eq hcbor hcose hdate i hvalid hv] at hsigned
  exact (checkValidity_eq_ok.mp hsigned).1

/-- An mDL that is dated to a day of the certificate is accepted. -/
lemma acceptedNow_of_notBefore (hkey : key.Correct X)
    (hcertified : Certified signer.certificate key anchorDer)
    (hbefore : toDatetime signer.certificate.certificate.notBefore ≤ startOfDay b.issuer.clock) :
    AcceptedNow signer.certificate anchorDer b.issuer.clock credential := by
  obtain ⟨request, bytes, text, hdated, ⟨i⟩, rfl, htext⟩ := issued_of_exec hb64 hissuer hsigner h
  obtain ⟨hday, -, huntil, hcap⟩ := hdated.dates i
  have hsigned : checkValidity X signer.certificate.certificate (startOfDay b.issuer.clock) = .ok () := by
    refine checkValidity_eq_ok.mpr ⟨hbefore, ?_⟩
    have hafter := (checkValidity_eq_ok.mp hvalid).2
    have hle := startOfDay_le b.issuer.clock
    omega
  have hyear : wholeSeconds request.validUntil < year10000 := by
    have hafter := signer.certificate.certificate.notAfter.isLt
    unfold IssuerCertificate.notAfter toDatetime seconds at hcap
    unfold year10000 seconds
    omega
  obtain ⟨v, hv, hsignedAt, huntilAt⟩ := verifyIssuerSigned_issued hb64 hcbor hcose hdate hkey i
    (fun n hn => (hdated.names n hn).1) (fun n hn => (hdated.names n hn).2)
    (hdated.validAt i hcertified hvalid hsigned) hyear
  refine ⟨text, bytes, v, rfl, htext, hv, ?_, ?_⟩
  · rw [hsignedAt, hday]
    exact hsigned
  · rw [huntilAt]
    exact hcap

end Issue

/-- **When an mDL is accepted.** An mDL issued while the certificate of the document signer is
valid is accepted at once, and never outlives the certificate, if and only if the certificate was
valid at the start of the day already. -/
theorem acceptedNow_iff (hb64 : Base64Url X) (hcbor : CborCodec X) (hcose : CoseCodec X)
    (hdate : Rfc3339 X) (hkey : key.Correct X) (hissuer : ctx.issuerKey = key.toKeyPair X)
    (hsigner : ctx.mdoc = some signer) (hcertified : Certified signer.certificate key anchorDer)
    (config : CredentialConfiguration) (holderJwk : Jwk) (draws : CredentialDraws)
    {b b' : Backend σ} {credential : Json}
    (hvalid : checkValidity X signer.certificate.certificate b.issuer.clock = .ok ())
    (h : (issueMdocCredential X config ctx holderJwk draws).exec b = (.ok credential, b')) :
    AcceptedNow signer.certificate anchorDer b.issuer.clock credential ↔
      toDatetime signer.certificate.certificate.notBefore ≤ startOfDay b.issuer.clock := by
  constructor
  · intro haccepted
    exact notBefore_of_acceptedNow hb64 hcbor hcose hdate hissuer hsigner hvalid h haccepted
  · intro hbefore
    exact acceptedNow_of_notBefore hb64 hcbor hcose hdate hissuer hsigner hvalid h hkey hcertified
      hbefore

end Acceptance

/-- **Issuance of an mDL succeeds** if there is a status entry to allocate, and nothing else fails. -/
lemma issueMdocCredential_succeeds {σ : Type} {ctx : IssuanceContext X σ} {signer : MdocSigner X σ}
    {config : CredentialConfiguration} {docType country : String} {holderJwk : Jwk}
    {draws : CredentialDraws} {b : Backend σ} {request : IssueRequest} {status : Option StatusListRef}
    {status' : σ} {bytes : Bytes} (hsigner : mdlSigner X config ctx = .ok (signer, docType, country))
    (hrequest : mdlRequest X signer.certificate docType country holderJwk b.issuer.clock = .ok request)
    (hstatus : signer.allocateStatus draws.index b.status = some (.ok status, status'))
    (hissue : issue X { request with status := status } ctx.issuerKey draws.mdoc = .ok bytes) :
    (issueMdocCredential X config ctx holderJwk draws).exec b =
      (.ok (.str (X.base64UrlEncode bytes)), { b with status := status' }) := by
  simp only [issueMdocCredential, hsigner, Prog.exec_call, Calls.readClock, hrequest, Calls.allocate,
    hstatus, signMdocCredential, hissue, Prog.exec_ret]

/-! ### A certificate that is valid from noon -/

/-- The days of a licence, as they are written. -/
def licenceDates : List (ℤ × String) :=
  [(631152000, "1990-01-01"), (1789948800, "2026-09-21"), (1947715200, "2031-09-21")]

/-- Crates that know how the dates of a licence issued on September 21, 2026 are computed and
written, and the shortest of portraits. -/
def licensing (crates : Crates) : Crates :=
  { crates with
    formatDate := fun t => (licenceDates.lookup (t / 1000000000)).getD ""
    addMonths := fun t months =>
      if t = issuedOn ∧ months = 60 then some (seconds 1947715200) else none
    yearsSince := fun t birth => some ((t - birth) / seconds 31556952).toNat
    portraitJpeg := bigEndian 4 0xffd8ffd9 }

section Licensing

variable {crates : Crates}

lemma base64Url_licensing (h : Base64Url crates) : Base64Url (licensing crates) :=
  ⟨h.decode_encode, h.alphabet, h.nonempty⟩

lemma cborCodec_licensing (h : CborCodec crates) : CborCodec (licensing crates) :=
  ⟨h.total, h.decode_encode⟩

lemma coseCodec_licensing (h : CoseCodec crates) : CoseCodec (licensing crates) where
  roundTrip s horiginal hrest hplain halg := by
    obtain ⟨items, s', hto, hfrom, hsame⟩ := h.roundTrip s horiginal hrest hplain halg
    exact ⟨items, s', hto, hfrom, hsame.header, hsame.unprotectedHeader, hsame.payload,
      hsame.signature, hsame.sigStructure⟩
  sigStructure_inj := h.sigStructure_inj

lemma rfc3339_licensing (h : Rfc3339 crates) : Rfc3339 (licensing crates) := ⟨h.parse_seconds⟩

lemma correct_licensing {k : SigningKey} (h : k.Correct crates) : k.Correct (licensing crates) := by
  cases k with
  | p256 k => exact h
  | ed25519 k => exact h

lemma publicJwk_licensing (k : SigningKey) :
    (k.toKeyPair (licensing crates)).publicJwk = (k.toKeyPair crates).publicJwk := by
  cases k with
  | p256 k => rfl
  | ed25519 k => rfl

lemma p256Jwk_licensing (point : Bytes) : p256Jwk (licensing crates) point = p256Jwk crates point := rfl

lemma verifyIssuedBy_licensing (cert issuer : Certificate) :
    verifyIssuedBy (licensing crates) cert issuer = verifyIssuedBy crates cert issuer := rfl

end Licensing

def licenceElements : List (String × Cbor) :=
  ((mdlElements (licensing codecs) "ZZ" issuedOn).toOption).getD []

/-- What is drawn for it. -/
def licenceIds : List (BitVec 32) := (List.range 13).map fun i => BitVec.ofNat 32 (0x51c04a00 + i)

def licenceDigests : List Bytes :=
  [0x2796bc95779eadc4d7e3e5936ec80e7a233783e215b595cc2926eb4617b2d544,
    0xf31e87ca2b708970c80cacf2faa48db8f5cc3a8b589053004e44cf5a7fb589f8,
    0x16ee7acc25bceee2c55a97e808a67c122ed78de84e4d9c824ad1be0f062a504e,
    0xd4697d845fd82c0d47d7d32e0837bdc5891f1f19d40971507da04810ac816540,
    0x591c042572a2ac7935fa4cd6555298ca31936725a7e937a05002d4af52877c8d,
    0x5d6ad9d50b8b7582fbbc07484c6766f92df9c276869437e3fde6d5b1abf6246e,
    0x4acdf463adf69222e5819073618a1bf83badea3145f9bf9bc8fd1ec3a8019628,
    0x8dbc7dc23bf9f8b9f2339a133397cd26edc6bb65cbb16659d19ae5d120ab7988,
    0x92f345d9a4ff44c21c24301fb1345c4a4a71b5edec56186b48cd60c71510c6fc,
    0x490838a3fe3559aff322d6898c1ff69028e315e9c4056cf5f24b1f879e1e04b1,
    0x10521d83e6079416ace57301b05777f78f522b784eabd618f7052c873f34c8a9,
    0x829d9d870b8ab29e7fe913601aa4173106dcd5445a3915ff275611a7b322a501,
    0x9b095a94c327e926518a6bc33beb0d8b9d97f676856d166e1a931b57fb104262].map (bigEndian 32)

/-- The MSO over the digests, valid for a year. -/
def licenceMso : Cbor :=
  buildMso (pki [] [] [] sampleDates).crates mdlDoctype
    [(.text mdlNamespace,
      .map ((licenceIds.map digestIdValue).zip (licenceDigests.map Cbor.bytes)))]
    (.map [(.integer (int 1), .integer (int 2)), (.integer (int (-1)), .integer (int 1)),
      (.integer (int (-2)), .bytes (bigEndian 32 deviceX)),
      (.integer (int (-3)), .bytes (bigEndian 32 deviceY))])
    issuedOn issuedOn expiresOn none

def licenceItems : List Bytes :=
  ((licenceIds.zip licenceElements).zipIdx).map fun ((id, identifier, value), i) =>
    CborBytes.encode (embedded (itemValue id (sampleSalts i) identifier value))

/-- The signature of the document signer over the MSO. -/
def licenceSignature : Bytes :=
  bigEndian 32 0xbdb977722ffae95cd2b9a797ef9e5ec7bd06acf0122da0e267fb4c76157cea74 ++
    bigEndian 32 0x03e704ba98022333a970e5f377d9ec79618571fe265bdf0b802110f41508ecf3

/-- How a certificate of the document signer differs from another: the time it is valid from, and
the signature of the root. -/
structure Renewal where
  notBefore : CertificateTime
  der : Bytes
  tbs : Bytes
  signature : Bytes
  issued : Bytes

namespace Renewal

/-- The certificate that is valid from the start of the year. -/
def midnight : Renewal :=
  ⟨signerCertificate.notBefore, signerDer, signerTbs, signerSignature, issuedSignature⟩

def noonTbs : Bytes :=
  bigEndian 32 0x3081f8a003020102020103300a06082a8648ce3d0403023023310b3009060355 ++
    bigEndian 32 0x040613025a5a3114301206035504030c0b53616d706c6520526f6f74301e170d ++
    bigEndian 32 0x3236303932313132303030305a170d3330303130313030303030305a302e310b ++
    bigEndian 32 0x3009060355040613025a5a311f301d06035504030c1653616d706c6520446f63 ++
    bigEndian 32 0x756d656e74205369676e65723059301306072a8648ce3d020106082a8648ce3d ++
    bigEndian 32 0x030107034200047fcdce2770f6c45d4183cbee6fdb4b7b580733357be9ef13ba ++
    bigEndian 32 0xcf6e3c7bd15445c7f144cd1bbd9b7e872cdfedb9eeb9f4b3695d6ea90b24ad8a ++
    bigEndian 27 0x4623288588e5ada3123010300e0603551d0f0101ff040403020780

def noonSignature : Bytes :=
  bigEndian 32 0x3045022100db8e1e0b54965cc83ef69251c2c051c5638f84e7a69f1e61369d41 ++
    bigEndian 32 0xa9fb1418b502207b6a9120a4c1f1285d312e71707ddd2673b46f5f7627f3796f ++
    bigEndian 7 0x8ad590e6a28c8f

/-- A certificate that is valid from noon on September 21, 2026. -/
def noon : Renewal where
  notBefore := ⟨1789992000, by decide⟩
  der := bigEndian 4 0x30820151 ++ noonTbs ++
    bigEndian 15 0x300a06082a8648ce3d040302034800 ++ noonSignature
  tbs := noonTbs
  signature := noonSignature
  issued :=
    bigEndian 32 0xdb8e1e0b54965cc83ef69251c2c051c5638f84e7a69f1e61369d41a9fb1418b5 ++
      bigEndian 32 0x7b6a9120a4c1f1285d312e71707ddd2673b46f5f7627f3796f8ad590e6a28c8f

variable (r : Renewal)

def certificate : Certificate :=
  { signerCertificate with notBefore := r.notBefore, signature := r.signature, tbs := .ok r.tbs }

/-- The root and the document signer, with what they sign. -/
def table : Table where
  digests := licenceItems.zip licenceDigests
  signatures := [(rootPoint, [(r.tbs, r.issued)]),
    ((bigEndian 32 signerX, bigEndian 32 signerY),
      [(toBeSigned (embedded licenceMso), licenceSignature)])]
  certificates := [(r.der, r.certificate), (rootDer, rootCertificate)]
  derSignatures := [(r.signature, r.issued)]
  dates := sampleDates

def crates : Crates := licensing r.table.crates

def key : SigningKey := r.table.key signerX signerY

def issuerCertificate : IssuerCertificate r.crates where
  der := r.der
  certificate := r.certificate
  parsed := by simp [crates, licensing, Table.crates, table]

def signer : MdocSigner r.crates Unit := ⟨r.issuerCertificate, fun _ status => some (.ok none, status)⟩

/-- An issuer of mDLs without status lists. -/
def context : IssuanceContext r.crates Unit where
  issuerKey := r.key.toKeyPair r.crates
  issuerUrl := "https://issuer.example.com"
  metadata := ⟨"https://issuer.example.com", none, []⟩
  allocateStatus := fun _ status => some (.ok none, status)
  x5c := none
  mdoc := some r.signer

/-- The key of the holder's device. -/
def holderJwk : Jwk := ((r.table.key deviceX deviceY).toKeyPair r.crates).publicJwk

variable {r}

lemma rfc3339 : Rfc3339 r.crates := by
  have hwords : ∀ d ∈ sampleDates, Text.parseU64 d.2 = none := by decide
  have hdates : (sampleDates.map Prod.snd).Nodup := by decide
  have hdated : r.table.Dated := ⟨hdates, hwords⟩
  exact rfc3339_licensing (Table.rfc3339 hdated)

lemma verifyIssuedBy_root : verifyIssuedBy r.table.crates r.certificate rootCertificate = .ok () := by
  have hsignature : r.table.crates.p256SignatureFromDer r.certificate.signature = some r.issued := by
    simp [Table.crates, table, certificate]
  have hpoint : r.table.crates.p256FromSec1 rootCertificate.subjectPublicKey = .ok rootPoint :=
    p256FromSec1_eq _ _
  have hverify : r.table.crates.p256Verify rootPoint r.tbs r.issued = .ok () := by
    refine Table.p256Verify_eq_ok.mpr ⟨⟨length_bigEndian 32 _, length_bigEndian 32 _⟩, ?_⟩
    simp [Table.signature, Table.signaturesOf, table]
  simp only [verifyIssuedBy, p256VerifyingKey, bind_eq_ok, ensure_eq_ok, exists_unit, okOr_eq_ok,
    mapError_eq_ok]
  exact ⟨rfl, rfl, rootPoint, ⟨⟨rfl, rfl⟩, hpoint⟩, r.issued, hsignature, r.tbs, rfl, hverify⟩

/-- The root issued the certificate, and is valid as long. -/
lemma certified (hne : rootDer ≠ r.der) (hfrom : rootCertificate.notBefore ≤ r.notBefore) :
    Certified r.issuerCertificate r.key rootDer := by
  obtain ⟨leaf, hleaf, hmembers⟩ := p256Jwk_signer (t := r.table)
  have hroot : r.table.crates.certificateFromDer rootDer = .ok rootCertificate := by
    simp [Table.crates, table, List.lookup_cons, beq_eq_false_iff_ne.mpr hne]
  refine ⟨⟨leaf, ?_, ?_⟩, rootCertificate, hroot, ?_, fun instant h => ?_⟩
  · have hpoint : r.issuerCertificate.certificate.subjectPublicKey = signerCertificate.subjectPublicKey :=
      rfl
    rw [hpoint]
    exact (p256Jwk_licensing _).trans hleaf
  · rw [hmembers, crates, publicJwk_licensing]
    rfl
  · exact (verifyIssuedBy_licensing r.certificate rootCertificate).trans verifyIssuedBy_root
  · obtain ⟨hbefore, hafter⟩ := checkValidity_eq_ok.mp h
    refine checkValidity_eq_ok.mpr ⟨?_, hafter⟩
    have hle : toDatetime rootCertificate.notBefore ≤ toDatetime r.notBefore := by
      have hval := Fin.le_def.mp hfrom
      unfold toDatetime seconds
      omega
    exact hle.trans hbefore

variable (r) in
lemma licence_request : ∃ request,
    mdlRequest r.crates r.issuerCertificate mdlDoctype "ZZ" r.holderJwk sampleNow = .ok request ∧
    request.deviceKey = r.holderJwk ∧ request.signed = issuedOn ∧ request.validFrom = issuedOn ∧
    request.validUntil = expiresOn ∧ (request.namespaces.map fun n => n.2.length).sum = 13 := by
  have htoday : startOfDay sampleNow = issuedOn := by decide
  have hmonths : r.crates.addMonths issuedOn (5 * 12) = some (seconds 1947715200) := by
    have hadd : r.crates.addMonths = fun t months =>
      if t = issuedOn ∧ months = 60 then some (seconds 1947715200) else none := rfl
    rw [hadd]
    exact if_pos ⟨rfl, rfl⟩
  have hlatest : Representable (issuedOn + seconds (msoValidityDays * 86400)) := ⟨by decide, by decide⟩
  have huntil : startOfDay (min (issuedOn + seconds (msoValidityDays * 86400))
      r.issuerCertificate.notAfter) = expiresOn := by
    have hafter : r.issuerCertificate.notAfter = seconds 1893456000 := rfl
    rw [hafter]
    decide
  simp only [mdlRequest, mdlElements, htoday, hmonths, bind_eq_ok, okOr_eq_ok, ensure_eq_ok, exists_unit,
    pure_eq_ok, Option.some.injEq]
  exact ⟨_, ⟨_, ⟨_, rfl, rfl⟩, hlatest, rfl⟩, rfl, rfl, rfl, huntil, rfl⟩

end Renewal

def licenceConfiguration : CredentialConfiguration where
  format := "mso_mdoc"
  scope := some "mdl"
  proofTypesSupported := some [("jwt", ⟨["ES256", "EdDSA"]⟩)]
  vct := none
  doctype := some mdlDoctype

def licenceDraws : CredentialDraws :=
  ⟨[], demoClaims.reverse, sampleSalts, ⟨licenceIds, sampleSalts⟩, List.reverse_perm _⟩

/-- On September 21, 2026, in the afternoon. -/
def licenceBackend : Backend Unit := ⟨⟨sampleNow, 0, .new⟩, ()⟩

lemma licence_issued (r : Renewal) : ∃ credential b',
    (issueMdocCredential r.crates licenceConfiguration r.context r.holderJwk licenceDraws).exec
      licenceBackend = (.ok credential, b') := by
  obtain ⟨request, hrequest, hkey, hsigned, hfrom, huntil, hcount⟩ := r.licence_request
  have hcose : ∃ key, coseKey r.crates request.deviceKey = .ok key := by
    rw [hkey]
    exact coseKey_publicJwk (base64Url_licensing Table.base64Url).decode_encode _
  have hdates : max (wholeSeconds request.validFrom) (wholeSeconds request.signed) <
      wholeSeconds request.validUntil := by
    rw [hsigned, hfrom, huntil]
    decide
  have hids : licenceIds.Nodup := by decide
  have hissued : ∃ bytes, issue r.crates { request with status := none } r.context.issuerKey
      licenceDraws.mdoc = .ok bytes :=
    issue_total (cborCodec_licensing Table.cborCodec) (coseCodec_licensing Table.coseCodec)
      (Table.key_signs signerX signerY) hdates hcose hids hcount.le
  obtain ⟨bytes, hissue⟩ := hissued
  exact ⟨_, _, issueMdocCredential_succeeds (rfl : mdlSigner r.crates licenceConfiguration r.context =
    .ok (r.signer, mdlDoctype, "ZZ")) hrequest rfl
    hissue⟩

/-- What is accepted in the sample is dated to a day of the certificate. -/
lemma licence_accepted (r : Renewal) {credential : Json} {b' : Backend Unit}
    (hvalid : checkValidity r.crates r.signer.certificate.certificate licenceBackend.issuer.clock = .ok ())
    (h : (issueMdocCredential r.crates licenceConfiguration r.context r.holderJwk licenceDraws).exec
      licenceBackend = (.ok credential, b'))
    (haccepted : AcceptedNow r.signer.certificate rootDer licenceBackend.issuer.clock credential) :
    toDatetime r.signer.certificate.certificate.notBefore ≤ startOfDay licenceBackend.issuer.clock := by
  have hissuer : r.context.issuerKey = r.key.toKeyPair r.crates := rfl
  have hsigner : r.context.mdoc = some r.signer := rfl
  exact notBefore_of_acceptedNow (base64Url_licensing Table.base64Url)
    (cborCodec_licensing Table.cborCodec) (coseCodec_licensing Table.coseCodec) Renewal.rfc3339 hissuer
    hsigner hvalid h haccepted

/-- An mDL that is issued in the afternoon under a certificate valid from noon is rejected: it is
dated to midnight. -/
theorem noon_rejected :
    Certified Renewal.noon.signer.certificate Renewal.noon.key rootDer ∧
    checkValidity Renewal.noon.crates Renewal.noon.signer.certificate.certificate
      licenceBackend.issuer.clock = .ok () ∧
    ∃ credential b', (issueMdocCredential Renewal.noon.crates licenceConfiguration
      Renewal.noon.context Renewal.noon.holderJwk licenceDraws).exec licenceBackend =
        (.ok credential, b') ∧
      ¬ AcceptedNow Renewal.noon.signer.certificate rootDer licenceBackend.issuer.clock credential := by
  have hne : rootDer ≠ Renewal.noon.der := by
    intro h
    have hlength := congrArg List.length h
    simp [rootDer, rootTbs, rootSignature, Renewal.noon, Renewal.noonTbs, Renewal.noonSignature]
      at hlength
  have hnotBefore : Renewal.noon.notBefore = 1789992000 := rfl
  have hfrom : rootCertificate.notBefore ≤ Renewal.noon.notBefore := by decide
  generalize Renewal.noon = r at hne hnotBefore hfrom ⊢
  have hafter : r.signer.certificate.certificate.notAfter = 1893456000 := rfl
  have hsame : r.signer.certificate.certificate.notBefore = 1789992000 := hnotBefore
  have hvalid : checkValidity r.crates r.signer.certificate.certificate licenceBackend.issuer.clock =
      .ok () := by
    rw [checkValidity_eq_ok, hsame, hafter]
    decide
  obtain ⟨credential, b', h⟩ := licence_issued r
  refine ⟨Renewal.certified hne hfrom, hvalid, credential, b', h, fun haccepted => ?_⟩
  have hbefore := licence_accepted r hvalid h haccepted
  rw [hsame] at hbefore
  revert hbefore
  decide

/-- Under the certificate that is valid from the start of the year, the mDL is accepted. -/
theorem midnight_accepted : ∃ credential b',
    (issueMdocCredential Renewal.midnight.crates licenceConfiguration Renewal.midnight.context
      Renewal.midnight.holderJwk licenceDraws).exec licenceBackend = (.ok credential, b') ∧
    AcceptedNow Renewal.midnight.signer.certificate rootDer licenceBackend.issuer.clock credential := by
  have hne : rootDer ≠ Renewal.midnight.der := by
    intro h
    have hlength := congrArg List.length h
    simp [rootDer, rootTbs, rootSignature, Renewal.midnight, signerDer, signerTbs, signerSignature]
      at hlength
  have hnotBefore : Renewal.midnight.notBefore = 1767225600 := rfl
  generalize Renewal.midnight = r at hne hnotBefore ⊢
  have hfrom : rootCertificate.notBefore ≤ r.notBefore := hnotBefore.ge
  have hafter : r.signer.certificate.certificate.notAfter = 1893456000 := rfl
  have hsame : r.signer.certificate.certificate.notBefore = 1767225600 := hnotBefore
  have hvalid : checkValidity r.crates r.signer.certificate.certificate licenceBackend.issuer.clock =
      .ok () := by
    rw [checkValidity_eq_ok, hsame, hafter]
    decide
  have hbefore : toDatetime r.signer.certificate.certificate.notBefore ≤
      startOfDay licenceBackend.issuer.clock := by
    rw [hsame]
    decide
  obtain ⟨credential, b', h⟩ := licence_issued r
  exact ⟨credential, b', h, (acceptedNow_iff (base64Url_licensing Table.base64Url)
    (cborCodec_licensing Table.cborCodec) (coseCodec_licensing Table.coseCodec) Renewal.rfc3339
    (correct_licensing (Table.key_correct signerX signerY)) rfl rfl (Renewal.certified hne hfrom) _ _ _
    hvalid h).mpr hbefore⟩

end Oid4vc.DocumentSigner
