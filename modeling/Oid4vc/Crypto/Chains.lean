import Oid4vc.Crypto.Tables
import Mathlib.Data.List.Chain
import Mathlib.Data.List.Forall2

/-!
Which certificate chains are accepted.

The contract asks of every certificate that issues another to be a CA, and of every key to be a
P-256 key by its algorithm. The validation asks neither of a trust anchor above the chain and of
the leaf.
-/

namespace Oid4vc.Chains

open Oid4vc.JsonValue Oid4vc.Fallible Oid4vc.Instant Oid4vc.CborBytes Oid4vc.Jwks Oid4vc.External
open Oid4vc.Keys Oid4vc.X509 Oid4vc.Tables

/-! ### The contract -/

def ValidAt (cert : Certificate) (instant : ℤ) : Prop :=
  toDatetime cert.notBefore ≤ instant ∧ instant ≤ toDatetime cert.notAfter

def NamesP256 (cert : Certificate) : Prop :=
  cert.spkiAlgorithm = idEcPublicKey ∧ cert.spkiCurve = some secp256r1

variable (X : Crates)

/-- The name of the issuer, and its ecdsa-with-SHA256 signature under a P-256 key. -/
structure IssuedBy (cert issuer : Certificate) : Prop where
  name : cert.issuer = issuer.subject
  algorithm : cert.signatureAlgorithm = ecdsaWithSha256
  p256 : NamesP256 issuer
  signed : ∃ key signature tbs, X.p256FromSec1 issuer.subjectPublicKey = .ok key ∧
    X.p256SignatureFromDer cert.signature = some signature ∧ cert.tbs = .ok tbs ∧
    X.p256Verify key tbs signature = .ok ()

/-- A chain, leaf first, with its certificates in order. -/
structure InOrder (chain : List Bytes) (instant : ℤ) (certs : List Certificate) : Prop where
  parses : List.Forall₂ (fun der cert => X.certificateFromDer der = .ok cert) chain certs
  valid : ∀ cert ∈ certs, ValidAt cert instant
  issued : certs.IsChain fun cert issuer => isCa issuer = true ∧ IssuedBy X cert issuer

/-- A chain in order, from its leaf to its top. -/
def Path (chain : List Bytes) (instant : ℤ) (leaf top : Certificate) (topDer : Bytes) : Prop :=
  ∃ certs, InOrder X chain instant certs ∧ certs.head? = some leaf ∧ certs.getLast? = some top ∧
    chain.getLast? = some topDer

/-- The top is a trust anchor, or issued by one that is valid and suits. -/
def Trusted (suits : Certificate → Prop) (trustAnchors : List Bytes) (instant : ℤ)
    (top : Certificate) (topDer : Bytes) : Prop :=
  ∃ anchorDer ∈ trustAnchors, anchorDer = topDer ∨
    ∃ anchor, X.certificateFromDer anchorDer = .ok anchor ∧ ValidAt anchor instant ∧
      suits anchor ∧ IssuedBy X top anchor

def pointJwk (point : Bytes × Bytes) : Jwk where
  kty := "EC"
  crv := some "P-256"
  x := some (X.base64UrlEncode point.1)
  y := some (X.base64UrlEncode point.2)
  d := none
  alg := none
  kid := none
  use := none

/-- What validation is to accept, and the key it is to return. -/
def Contract (chain trustAnchors : List Bytes) (instant : ℤ) (key : Jwk) : Prop :=
  ∃ leaf top topDer point, Path X chain instant leaf top topDer ∧
    Trusted X (fun anchor => isCa anchor = true) trustAnchors instant top topDer ∧
    NamesP256 leaf ∧ X.p256FromSec1 leaf.subjectPublicKey = .ok point ∧ key = pointJwk X point

/-! ### The validation -/

/-- What validation does accept: any certificate that issued the top, and any algorithm of the
leaf. -/
def Accepted (chain trustAnchors : List Bytes) (instant : ℤ) (key : Jwk) : Prop :=
  ∃ leaf top topDer point, Path X chain instant leaf top topDer ∧
    Trusted X (fun _ => True) trustAnchors instant top topDer ∧
    X.p256FromSec1 leaf.subjectPublicKey = .ok point ∧ key = pointJwk X point

variable {X}

lemma verifyIssuedBy_eq_ok {cert issuer : Certificate} :
    verifyIssuedBy X cert issuer = .ok () ↔ IssuedBy X cert issuer := by
  simp only [verifyIssuedBy, p256VerifyingKey, bind_eq_ok, ensure_eq_ok, exists_unit, okOr_eq_ok,
    mapError_eq_ok]
  constructor
  · rintro ⟨hname, halgorithm, key, ⟨hp256, hkey⟩, signature, hsignature, tbs, htbs, hverify⟩
    exact ⟨hname, halgorithm, hp256, key, signature, tbs, hkey, hsignature, htbs, hverify⟩
  · rintro ⟨hname, halgorithm, hp256, key, signature, tbs, hkey, hsignature, htbs, hverify⟩
    exact ⟨hname, halgorithm, key, ⟨hp256, hkey⟩, signature, hsignature, tbs, htbs, hverify⟩

lemma p256Jwk_eq_ok {bytes : Bytes} {key : Jwk} :
    p256Jwk X bytes = .ok key ↔
      ∃ point, X.p256FromSec1 bytes = .ok point ∧ key = pointJwk X point := by
  simp only [p256Jwk, bind_eq_ok, mapError_eq_ok, pure_eq_ok]
  exact exists_congr fun point => and_congr_right fun _ => eq_comm

/-- The links are checked one after the other, each with the validity of its certificate. -/
lemma checkLinks_eq_ok {instant : ℤ} {certs : List Certificate} {i : ℕ} :
    checkLinks X instant i certs = .ok () ↔ (∀ cert ∈ certs, ValidAt cert instant) ∧
      certs.IsChain fun cert issuer => isCa issuer = true ∧ IssuedBy X cert issuer := by
  induction certs generalizing i with
  | nil => simp [checkLinks]
  | cons cert rest ih =>
    cases rest with
    | nil => simp [checkLinks, checkValidity_eq_ok, ValidAt]
    | cons issuer rest =>
      simp only [checkLinks, bind_eq_ok, exists_unit, checkValidity_eq_ok, ensure_eq_ok,
        verifyIssuedBy_eq_ok, ih, List.isChain_cons_cons, List.forall_mem_cons (a := cert)]
      constructor
      · rintro ⟨hvalid, hca, hissued, hrest, hchain⟩
        exact ⟨⟨hvalid, hrest⟩, ⟨hca, hissued⟩, hchain⟩
      · rintro ⟨⟨hvalid, hrest⟩, ⟨hca, hissued⟩, hchain⟩
        exact ⟨hvalid, hca, hissued, hrest, hchain⟩

lemma isOk_eq_true {ε : Type} {x : Except ε Unit} : x.isOk = true ↔ x = .ok () := by
  cases x with
  | error e => simp [Except.isOk, Except.toBool]
  | ok u => simp [Except.isOk, Except.toBool]

lemma anchors_eq_true {top : Certificate} {topDer anchorDer : Bytes} {instant : ℤ} :
    anchors X top topDer instant anchorDer = true ↔ anchorDer = topDer ∨
      ∃ anchor, X.certificateFromDer anchorDer = .ok anchor ∧ ValidAt anchor instant ∧ True ∧
        IssuedBy X top anchor := by
  rw [anchors, Bool.or_eq_true, beq_iff_eq]
  refine or_congr_right ?_
  cases hparse : parse X anchorDer with
  | error e =>
    have hnone : ∀ anchor, X.certificateFromDer anchorDer ≠ .ok anchor := by
      intro anchor h
      rw [parse, h] at hparse
      cases hparse
    simp [hnone]
  | ok anchor =>
    rw [parse, mapError_eq_ok] at hparse
    simp only [hparse, Bool.and_eq_true, isOk_eq_true, checkValidity_eq_ok, verifyIssuedBy_eq_ok,
      Except.ok.injEq, exists_eq_left', true_and]
    rfl

lemma any_anchors {trustAnchors : List Bytes} {top : Certificate} {topDer : Bytes} {instant : ℤ} :
    trustAnchors.any (anchors X top topDer instant) = true ↔
      Trusted X (fun _ => True) trustAnchors instant top topDer := by
  rw [List.any_eq_true]
  exact exists_congr fun anchorDer => and_congr_right fun _ => anchors_eq_true

/-- **What chain validation accepts.** -/
lemma validateChain_eq_ok {chain trustAnchors : List Bytes} {instant : ℤ} {key : Jwk} :
    validateChain X chain trustAnchors instant = .ok key ↔
      Accepted X chain trustAnchors instant key := by
  simp only [validateChain, bind_eq_ok, mapM_eq_ok, parse, mapError_eq_ok]
  constructor
  · rintro ⟨certs, hparses, h⟩
    split at h
    · rename_i leaf top topDer hleaf htop htopDer
      simp only [bind_eq_ok, exists_unit, ensure_eq_ok, checkLinks_eq_ok, any_anchors,
        p256Jwk_eq_ok] at h
      obtain ⟨⟨hvalid, hissued⟩, htrusted, point, hpoint, hkey⟩ := h
      exact ⟨leaf, top, topDer, point, ⟨certs, ⟨hparses, hvalid, hissued⟩, hleaf, htop, htopDer⟩,
        htrusted, hpoint, hkey⟩
    · cases h
  · rintro ⟨leaf, top, topDer, point, ⟨certs, hcerts, hleaf, htop, htopDer⟩, htrusted, hpoint, hkey⟩
    refine ⟨certs, hcerts.parses, ?_⟩
    simp only [hleaf, htop, htopDer, bind_eq_ok, exists_unit, ensure_eq_ok, checkLinks_eq_ok,
      any_anchors, p256Jwk_eq_ok]
    exact ⟨⟨hcerts.valid, hcerts.issued⟩, htrusted, point, hpoint, hkey⟩

lemma Path.unique {chain : List Bytes} {instant : ℤ} {leaf top leaf' top' : Certificate}
    {topDer topDer' : Bytes} (h : Path X chain instant leaf top topDer)
    (h' : Path X chain instant leaf' top' topDer') :
    leaf = leaf' ∧ top = top' ∧ topDer = topDer' := by
  obtain ⟨certs, hcerts, hleaf, htop, htopDer⟩ := h
  obtain ⟨certs', hcerts', hleaf', htop', htopDer'⟩ := h'
  have hdet : Relator.RightUnique fun der cert => X.certificateFromDer der = .ok cert := by
    intro der cert cert' hcert hcert'
    exact Except.ok.inj (hcert.symm.trans hcert')
  obtain rfl := List.right_unique_forall₂' hdet hcerts.parses hcerts'.parses
  exact ⟨Option.some.inj (hleaf.symm.trans hleaf'), Option.some.inj (htop.symm.trans htop'),
    Option.some.inj (htopDer.symm.trans htopDer')⟩

/-! ### Where they agree -/

variable (X)

/-- If the chain is in order, some certificate vouches for its top and the leaf's key is a point,
then what vouches is the top itself or a CA, and the leaf names P-256. -/
def Careful (chain trustAnchors : List Bytes) (instant : ℤ) : Prop :=
  ∀ leaf top topDer, Path X chain instant leaf top topDer →
    Trusted X (fun _ => True) trustAnchors instant top topDer →
    (∃ point, X.p256FromSec1 leaf.subjectPublicKey = .ok point) →
    Trusted X (fun anchor => isCa anchor = true) trustAnchors instant top topDer ∧ NamesP256 leaf

variable {X}

lemma Trusted.mono {suits suits' : Certificate → Prop}
    (himp : ∀ anchor, suits anchor → suits' anchor) {trustAnchors : List Bytes} {instant : ℤ}
    {top : Certificate} {topDer : Bytes}
    (h : Trusted X suits trustAnchors instant top topDer) :
    Trusted X suits' trustAnchors instant top topDer := by
  obtain ⟨anchorDer, hmem, h⟩ := h
  refine ⟨anchorDer, hmem, h.imp_right ?_⟩
  rintro ⟨anchor, hanchor, hvalid, hsuits, hissued⟩
  exact ⟨anchor, hanchor, hvalid, himp anchor hsuits, hissued⟩

lemma Contract.accepted {chain trustAnchors : List Bytes} {instant : ℤ} {key : Jwk}
    (h : Contract X chain trustAnchors instant key) :
    Accepted X chain trustAnchors instant key := by
  obtain ⟨leaf, top, topDer, point, hpath, htrusted, -, hpoint, hkey⟩ := h
  exact ⟨leaf, top, topDer, point, hpath, htrusted.mono fun _ _ => trivial, hpoint, hkey⟩

/-- **Chain validation keeps its contract** exactly on the chains whose trust anchor is their top
or a CA, and whose leaf names P-256. -/
theorem validateChain_contract_iff (X : Crates) (chain trustAnchors : List Bytes) (instant : ℤ) :
    (∀ key, validateChain X chain trustAnchors instant = .ok key ↔
      Contract X chain trustAnchors instant key) ↔ Careful X chain trustAnchors instant := by
  simp only [validateChain_eq_ok]
  constructor
  · intro h leaf top topDer hpath htrusted hpoint
    obtain ⟨point, hpoint⟩ := hpoint
    have haccepted : Accepted X chain trustAnchors instant (pointJwk X point) :=
      ⟨leaf, top, topDer, point, hpath, htrusted, hpoint, rfl⟩
    obtain ⟨leaf', top', topDer', point', hpath', htrusted', hp256, -, -⟩ := (h _).mp haccepted
    obtain ⟨rfl, rfl, rfl⟩ := hpath.unique hpath'
    exact ⟨htrusted', hp256⟩
  · intro h key
    refine ⟨?_, Contract.accepted⟩
    rintro ⟨leaf, top, topDer, point, hpath, htrusted, hpoint, hkey⟩
    obtain ⟨htrusted', hp256⟩ := h leaf top topDer hpath htrusted ⟨point, hpoint⟩
    exact ⟨leaf, top, topDer, point, hpath, htrusted', hp256, hpoint, hkey⟩

/-! ### An issuer that is no CA, and a key for key agreement -/

section Sample

def idEcDh : String := "1.3.132.1.12"

def subjectPoint : Point :=
  (bigEndian 32 0x061eada413a4ed1115a696c76cbc9fff3c845f2badaeda94d6b02c11dae7e2aa,
    bigEndian 32 0xfbdde789b71d11ffb3efb20953c0afaf5eb95eb4b067a19ce752d5e5ab793c05)

def agentName : Bytes :=
  bigEndian 32 0x3024310b3009060355040613025a5a3115301306035504030c0c53616d706c65 ++
    bigEndian 6 0x204167656e74

def agentTbs : Bytes :=
  bigEndian 32 0x3081f9a003020102020103300a06082a8648ce3d040302302e310b3009060355 ++
    bigEndian 32 0x040613025a5a311f301d06035504030c1653616d706c6520446f63756d656e74 ++
    bigEndian 32 0x205369676e6572301e170d3236303130313030303030305a170d333030313031 ++
    bigEndian 32 0x3030303030305a3024310b3009060355040613025a5a3115301306035504030c ++
    bigEndian 32 0x0c53616d706c65204167656e743059301306072a8648ce3d020106082a8648ce ++
    bigEndian 32 0x3d03010703420004061eada413a4ed1115a696c76cbc9fff3c845f2badaeda94 ++
    bigEndian 32 0xd6b02c11dae7e2aafbdde789b71d11ffb3efb20953c0afaf5eb95eb4b067a19c ++
    bigEndian 28 0xe752d5e5ab793c05a3123010300e0603551d0f0101ff040403020780

def agentSignature : Bytes :=
  bigEndian 32 0x3045022100c206e97046891024281e6633a357c6a20c4e54acff1123952d59a2 ++
    bigEndian 32 0xbb2c08c3ff02201e1a80b4216d06a1d809344d1b044f5ed7d89377ff6f389af5 ++
    bigEndian 7 0xf35eb444a53c29

def agentRaw : Bytes :=
  bigEndian 32 0xc206e97046891024281e6633a357c6a20c4e54acff1123952d59a2bb2c08c3ff ++
    bigEndian 32 0x1e1a80b4216d06a1d809344d1b044f5ed7d89377ff6f389af5f35eb444a53c29

def agentDer : Bytes :=
  bigEndian 4 0x30820152 ++ agentTbs ++
    bigEndian 15 0x300a06082a8648ce3d040302034800 ++ agentSignature

/-- A certificate that the document signer issued. -/
def agentCertificate : Certificate :=
  { signerCertificate with
    issuer := signerName
    subject := agentName
    subjectText := "CN=Sample Agent,C=ZZ"
    subjectPublicKey := 4 :: (subjectPoint.1 ++ subjectPoint.2)
    signature := agentSignature
    tbs := .ok agentTbs }

def agreementName : Bytes :=
  bigEndian 32 0x3028310b3009060355040613025a5a3119301706035504030c1053616d706c65 ++
    bigEndian 10 0x2041677265656d656e74

def agreementTbs : Bytes :=
  bigEndian 32 0x3081f0a003020102020104300a06082a8648ce3d0403023023310b3009060355 ++
    bigEndian 32 0x040613025a5a3114301206035504030c0b53616d706c6520526f6f74301e170d ++
    bigEndian 32 0x3236303130313030303030305a170d3330303130313030303030305a3028310b ++
    bigEndian 32 0x3009060355040613025a5a3119301706035504030c1053616d706c6520416772 ++
    bigEndian 32 0x65656d656e743057301106052b8104010c06082a8648ce3d0301070342000406 ++
    bigEndian 32 0x1eada413a4ed1115a696c76cbc9fff3c845f2badaeda94d6b02c11dae7e2aafb ++
    bigEndian 32 0xdde789b71d11ffb3efb20953c0afaf5eb95eb4b067a19ce752d5e5ab793c05a3 ++
    bigEndian 19 0x123010300e0603551d0f0101ff040403020780

def agreementSignature : Bytes :=
  bigEndian 32 0x3044022002b92f1fb95f08cc788d9bec7fe035405c34c7798038b30a937cb8f1 ++
    bigEndian 32 0x288213d202205e0b058c60c3336b3837717870740ce730f61730452c8bb1aad8 ++
    bigEndian 6 0x55126b05c9e9

def agreementRaw : Bytes :=
  bigEndian 32 0x02b92f1fb95f08cc788d9bec7fe035405c34c7798038b30a937cb8f1288213d2 ++
    bigEndian 32 0x5e0b058c60c3336b3837717870740ce730f61730452c8bb1aad855126b05c9e9

def agreementDer : Bytes :=
  bigEndian 4 0x30820148 ++ agreementTbs ++
    bigEndian 15 0x300a06082a8648ce3d040302034700 ++ agreementSignature

/-- A certificate that the root issued for a key that only agrees on keys. -/
def agreementCertificate : Certificate :=
  { agentCertificate with
    issuer := rootName
    subject := agreementName
    subjectText := "CN=Sample Agreement,C=ZZ"
    spkiAlgorithm := idEcDh
    signature := agreementSignature
    tbs := .ok agreementTbs }

/-- The document signer and the root, with what each of them issued. -/
def chains : Table where
  digests := []
  signatures := [((bigEndian 32 signerX, bigEndian 32 signerY), [(agentTbs, agentRaw)]),
    (rootPoint, [(agreementTbs, agreementRaw)])]
  certificates := [(agentDer, agentCertificate), (agreementDer, agreementCertificate),
    (signerDer, signerCertificate), (rootDer, rootCertificate)]
  derSignatures := [(agentSignature, agentRaw), (agreementSignature, agreementRaw)]
  dates := []

lemma length_ders : agentDer.length = 342 ∧ agreementDer.length = 332 ∧ signerDer.length = 341 ∧
    rootDer.length = 330 := by
  simp [agentDer, agentTbs, agentSignature, agreementDer, agreementTbs, agreementSignature,
    signerDer, signerTbs, signerSignature, rootDer, rootTbs, rootSignature]

lemma lookup_certificates :
    chains.crates.certificateFromDer agentDer = .ok agentCertificate ∧
    chains.crates.certificateFromDer agreementDer = .ok agreementCertificate ∧
    chains.crates.certificateFromDer signerDer = .ok signerCertificate ∧
    chains.crates.certificateFromDer rootDer = .ok rootCertificate := by
  obtain ⟨hagent, hagreement, hsigner, hroot⟩ := length_ders
  have hne : ∀ {a b : Bytes}, a.length ≠ b.length → (a == b) = false :=
    fun h => beq_eq_false_iff_ne.mpr (mt (congrArg List.length) h)
  have h₁ := hne (a := agreementDer) (b := agentDer) (by omega)
  have h₂ := hne (a := signerDer) (b := agentDer) (by omega)
  have h₃ := hne (a := signerDer) (b := agreementDer) (by omega)
  have h₄ := hne (a := rootDer) (b := agentDer) (by omega)
  have h₅ := hne (a := rootDer) (b := agreementDer) (by omega)
  have h₆ := hne (a := rootDer) (b := signerDer) (by omega)
  simp [Table.crates, chains, List.lookup_cons, h₁, h₂, h₃, h₄, h₅, h₆]

lemma issuedBy_of_table {cert issuer : Certificate} {tbs signature : Bytes} (key : Point)
    (hname : cert.issuer = issuer.subject) (halgorithm : cert.signatureAlgorithm = ecdsaWithSha256)
    (hp256 : NamesP256 issuer) (htbs : cert.tbs = .ok tbs)
    (hkey : issuer.subjectPublicKey = 4 :: (key.1 ++ key.2))
    (hlength : key.1.length = 32 ∧ key.2.length = 32)
    (hder : chains.derSignatures.lookup cert.signature = some signature)
    (hsigned : chains.signature key tbs = signature) : IssuedBy chains.crates cert issuer := by
  have hpoint : chains.crates.p256FromSec1 issuer.subjectPublicKey = .ok key := by
    rw [hkey]
    exact readPoint_eq hlength.1 hlength.2
  exact ⟨hname, halgorithm, hp256, key, signature, tbs, hpoint, hder, htbs,
    Table.p256Verify_eq_ok.mpr ⟨hlength, hsigned.symm⟩⟩

lemma length_point (x y : ℕ) : (bigEndian 32 x).length = 32 ∧ (bigEndian 32 y).length = 32 :=
  ⟨length_bigEndian 32 x, length_bigEndian 32 y⟩

lemma agent_issuedBy : IssuedBy chains.crates agentCertificate signerCertificate := by
  refine issuedBy_of_table (bigEndian 32 signerX, bigEndian 32 signerY) rfl rfl ⟨rfl, rfl⟩ rfl rfl
    (length_point _ _) List.lookup_cons_self ?_
  simp [Table.signature, Table.signaturesOf, chains]

lemma agreement_issuedBy : IssuedBy chains.crates agreementCertificate rootCertificate := by
  have hder : chains.derSignatures.lookup agreementSignature = some agreementRaw := by
    have hne : agreementSignature ≠ agentSignature := by
      intro h
      have hlength := congrArg List.length h
      simp [agreementSignature, agentSignature] at hlength
    simp [chains, List.lookup_cons, beq_eq_false_iff_ne.mpr hne]
  refine issuedBy_of_table rootPoint rfl rfl ⟨rfl, rfl⟩ rfl rfl (length_point _ _) hder ?_
  have hne : rootPoint ≠ (bigEndian 32 signerX, bigEndian 32 signerY) := by decide
  simp [Table.signature, Table.signaturesOf, chains, List.lookup_cons, beq_eq_false_iff_ne.mpr hne]

/-- The middle of 2026. -/
def midYear : ℤ := seconds 1782864000

lemma validAt_midYear : ValidAt agentCertificate midYear ∧ ValidAt agreementCertificate midYear ∧
    ValidAt signerCertificate midYear ∧ ValidAt rootCertificate midYear := by
  have hvalid : toDatetime 1767225600 ≤ midYear ∧ midYear ≤ toDatetime 1893456000 := by
    have hfrom : toDatetime 1767225600 = seconds 1767225600 := rfl
    have huntil : toDatetime 1893456000 = seconds 1893456000 := rfl
    rw [hfrom, huntil, midYear, seconds, seconds, seconds]
    omega
  exact ⟨hvalid, hvalid, hvalid, hvalid⟩

lemma path_singleton {X : Crates} {der : Bytes} {cert : Certificate} {instant : ℤ}
    (hcert : X.certificateFromDer der = .ok cert) (hvalid : ValidAt cert instant) :
    Path X [der] instant cert cert der := by
  refine ⟨[cert], ⟨.cons hcert .nil, ?_, List.isChain_singleton cert⟩, rfl, rfl, rfl⟩
  intro cert' hmem
  rw [List.mem_singleton.mp hmem]
  exact hvalid

lemma p256FromSec1_agent : chains.crates.p256FromSec1 agentCertificate.subjectPublicKey =
    .ok subjectPoint := by
  have hread : chains.crates.p256FromSec1 = Table.readPoint := rfl
  have hkey : agentCertificate.subjectPublicKey = 4 :: (subjectPoint.1 ++ subjectPoint.2) := rfl
  rw [hread, hkey]
  exact readPoint_eq (length_bigEndian 32 _) (length_bigEndian 32 _)

lemma path_agent :
    Path chains.crates [agentDer] midYear agentCertificate agentCertificate agentDer :=
  path_singleton lookup_certificates.1 validAt_midYear.1

lemma path_agreement : Path chains.crates [agreementDer] midYear agreementCertificate
    agreementCertificate agreementDer :=
  path_singleton lookup_certificates.2.1 validAt_midYear.2.1

lemma agent_accepted : Accepted chains.crates [agentDer] [signerDer] midYear
    (pointJwk chains.crates subjectPoint) := by
  obtain ⟨-, -, hsigner, -⟩ := lookup_certificates
  obtain ⟨-, -, hvalid, -⟩ := validAt_midYear
  exact ⟨_, _, _, _, path_agent, ⟨signerDer, List.mem_singleton_self _,
    Or.inr ⟨_, hsigner, hvalid, trivial, agent_issuedBy⟩⟩, p256FromSec1_agent, rfl⟩

lemma agent_not_contract (key : Jwk) :
    ¬ Contract chains.crates [agentDer] [signerDer] midYear key := by
  rintro ⟨leaf, top, topDer, _, hpath, ⟨anchorDer, hmem, hanchor⟩, -⟩
  obtain ⟨rfl, rfl, rfl⟩ := path_agent.unique hpath
  rw [List.mem_singleton.mp hmem] at hanchor
  rcases hanchor with hsame | ⟨anchor, hparse, -, hca, -⟩
  · obtain ⟨hagent, -, hsigner, -⟩ := length_ders
    have hlength := congrArg List.length hsame
    omega
  · obtain ⟨-, -, hsigner, -⟩ := lookup_certificates
    obtain rfl := Except.ok.inj (hsigner.symm.trans hparse)
    cases hca

lemma agreement_accepted : Accepted chains.crates [agreementDer] [rootDer] midYear
    (pointJwk chains.crates subjectPoint) := by
  obtain ⟨-, -, -, hroot⟩ := lookup_certificates
  obtain ⟨-, -, -, hvalid⟩ := validAt_midYear
  exact ⟨_, _, _, _, path_agreement, ⟨rootDer, List.mem_singleton_self _,
    Or.inr ⟨_, hroot, hvalid, trivial, agreement_issuedBy⟩⟩, p256FromSec1_agent, rfl⟩

lemma agreement_not_contract (key : Jwk) :
    ¬ Contract chains.crates [agreementDer] [rootDer] midYear key := by
  rintro ⟨leaf, top, topDer, _, hpath, -, hp256, -⟩
  obtain ⟨rfl, rfl, rfl⟩ := path_agreement.unique hpath
  have hname : idEcDh = idEcPublicKey := hp256.1
  simp [idEcDh, idEcPublicKey] at hname

/-- An agent of the document signer, which is no CA, and a key for key agreement are validated. -/
theorem uncertified_validated :
    ¬ (∀ key, validateChain chains.crates [agentDer] [signerDer] midYear = .ok key ↔
      Contract chains.crates [agentDer] [signerDer] midYear key) ∧
    ¬ ∀ key, validateChain chains.crates [agreementDer] [rootDer] midYear = .ok key ↔
      Contract chains.crates [agreementDer] [rootDer] midYear key :=
  ⟨fun h => agent_not_contract _ ((h _).mp (validateChain_eq_ok.mpr agent_accepted)),
    fun h => agreement_not_contract _ ((h _).mp (validateChain_eq_ok.mpr agreement_accepted))⟩

end Sample

end Oid4vc.Chains
