import Oid4vc.Crypto.X509
import Mathlib.Data.List.Pairwise

/-!
Crates that agree with tables: digests, the signatures of several P-256 keys, certificates, and
dates. What is in no table has a value of its own, so that nothing collides.
-/

namespace Oid4vc.Tables

open Oid4vc.JsonValue Oid4vc.Text Oid4vc.Fallible Oid4vc.CborBytes Oid4vc.External Oid4vc.Codecs
open Oid4vc.Keys Oid4vc.X509

/-- A P-256 public key. -/
abbrev Point := Bytes × Bytes

structure Table where
  digests : List (Bytes × Bytes)
  /-- The signatures of each key. -/
  signatures : List (Point × List (Bytes × Bytes))
  certificates : List (Bytes × Certificate)
  /-- Signatures in DER. -/
  derSignatures : List (Bytes × Bytes)
  /-- Seconds since the epoch, as they are written. -/
  dates : List (ℤ × String)

namespace Table

variable (t : Table)

def signaturesOf (key : Point) : List (Bytes × Bytes) := (t.signatures.lookup key).getD []

/-- The signature of a key over a message. -/
def signature (key : Point) (message : Bytes) : Bytes :=
  ((t.signaturesOf key).lookup message).getD (List.replicate 65 0 ++ key.1 ++ key.2 ++ message)

/-- The first second of the year 0. -/
def year0 : ℤ := -62167219200

def writeDate (instant : ℤ) : String :=
  (t.dates.lookup (instant / 1000000000)).getD (instant / 1000000000 - year0).toNat.repr

/-- A date of the table whose year has four digits, or the number of another second. -/
def readDate (text : String) : Option ℤ :=
  match t.dates.find? fun d => d.2 == text && decide (d.1 < 253402300800) with
  | some d => some (d.1 * 1000000000)
  | none => (parseU64 text).map fun n : ℕ => ((n : ℤ) + year0) * 1000000000

def readPoint : Bytes → Except String Point
  | [] => .error "empty"
  | tag :: xy => if tag = 4 ∧ xy.length = 64 then .ok (xy.take 32, xy.drop 32) else .error "not a point"

/-- The codecs, with what the tables hold. -/
def crates : Crates :=
  { codecs with
    sha256 := extend t.digests
    p256FromAffine := fun _ _ => .ok ()
    p256FromSec1 := readPoint
    p256Signature := fun _ => .ok ()
    p256SignatureFromDer := fun der => t.derSignatures.lookup der
    p256Verify := fun key message signature =>
      if (key.1.length = 32 ∧ key.2.length = 32) ∧ signature = t.signature key message then .ok ()
      else .error "signature error"
    certificateFromDer := fun der => okOr "not a certificate" (t.certificates.lookup der)
    rfc3339Seconds := t.writeDate
    parseRfc3339 := t.readDate }

/-- The key pair of a point. -/
def key (x y : ℕ) : SigningKey :=
  .p256 ⟨bigEndian 32 x, bigEndian 32 y, fun message =>
    .ok (t.signature (bigEndian 32 x, bigEndian 32 y) message)⟩

variable {t}

lemma base64Url : Base64Url t.crates :=
  ⟨base64Url_codecs.decode_encode, base64Url_codecs.alphabet, base64Url_codecs.nonempty⟩

lemma serdeJson : SerdeJson t.crates := serdeJson_codecs.congr rfl rfl rfl rfl

lemma jsonFromSlice_jsonToVec (v : Json) :
    t.crates.jsonFromSlice (t.crates.jsonToVec v) = .ok (sortMembers v) := by
  have hslice : t.crates.jsonFromSlice = codecs.jsonFromSlice := rfl
  have hvec : t.crates.jsonToVec = codecs.jsonToVec := rfl
  rw [hslice, hvec]
  exact jsonFromSlice_codecs v

lemma cborCodec : CborCodec t.crates := ⟨cborCodec_codecs.total, cborCodec_codecs.decode_encode⟩

lemma coseParameters : CoseParameters t.crates where
  roundTrip s horiginal hheader hplain halg := by
    obtain ⟨items, s', hto, hfrom, hsame⟩ :=
      coseParameters_codecs.roundTrip s horiginal hheader hplain halg
    exact ⟨items, s', hto, hfrom, hsame.header, hsame.unprotectedHeader, hsame.payload,
      hsame.signature, hsame.sigStructure⟩

lemma coseCodec : CoseCodec t.crates where
  roundTrip s horiginal hrest hplain halg := by
    obtain ⟨items, s', hto, hfrom, hsame⟩ :=
      coseCodec_codecs.roundTrip s horiginal hrest hplain halg
    exact ⟨items, s', hto, hfrom, hsame.header, hsame.unprotectedHeader, hsame.payload,
      hsame.signature, hsame.sigStructure⟩
  sigStructure_inj := coseCodec_codecs.sigStructure_inj

lemma p256Verify_eq_ok {key : Point} {m s : Bytes} : t.crates.p256Verify key m s = .ok () ↔
    (key.1.length = 32 ∧ key.2.length = 32) ∧ s = t.signature key m := by
  have hverify : t.crates.p256Verify key m s =
      if (key.1.length = 32 ∧ key.2.length = 32) ∧ s = t.signature key m then .ok ()
      else .error "signature error" := rfl
  rw [hverify]
  split_ifs with h
  · simp [h]
  · simp [h]

lemma key_signs (x y : ℕ) : (t.key x y).Signs := fun _ => ⟨_, rfl⟩

lemma key_correct (x y : ℕ) : (t.key x y).Correct t.crates := by
  have hx := length_bigEndian 32 x
  have hy := length_bigEndian 32 y
  refine ⟨hx, hy, rfl, fun m s hs => ⟨rfl, ?_⟩⟩
  rw [Except.ok.injEq] at hs
  exact p256Verify_eq_ok.mpr ⟨⟨hx, hy⟩, hs.symm⟩

/-- The keys of a table are those of all crates that verify as its own do. -/
lemma key_correct_of_eq {X : Crates} (hpoint : X.p256FromAffine = t.crates.p256FromAffine)
    (hsignature : X.p256Signature = t.crates.p256Signature)
    (hverify : X.p256Verify = t.crates.p256Verify) (x y : ℕ) : (t.key x y).Correct X := by
  have hcorrect := key_correct (t := t) x y
  unfold key at hcorrect ⊢
  simp only [SigningKey.Correct, hpoint, hsignature, hverify] at hcorrect ⊢
  exact hcorrect

/-- A table of signatures that differ, and are short. -/
structure Distinct (t : Table) : Prop where
  signatures : (t.signatures.flatMap fun e => e.2.map Prod.snd).Nodup
  short : ∀ e ∈ t.signatures, ∀ s ∈ e.2, s.2.length ≤ 64

/-- A signature of the table, or one that is longer than any of it. -/
lemma signature_cases (key : Point) (message : Bytes) :
    (∃ e ∈ t.signatures, e.1 = key ∧ (message, t.signature key message) ∈ e.2) ∨
      t.signature key message = List.replicate 65 0 ++ key.1 ++ key.2 ++ message := by
  unfold signature signaturesOf
  cases hkey : t.signatures.lookup key with
  | none => exact Or.inr rfl
  | some entries =>
    obtain ⟨l₁, l₂, hsplit, -⟩ := List.lookup_eq_some_iff.mp hkey
    cases hmessage : entries.lookup message with
    | none => exact Or.inr (by simp [hmessage])
    | some s =>
      refine Or.inl ⟨(key, entries), by simp [hsplit], rfl, ?_⟩
      simpa [hmessage] using mem_of_lookup hmessage

/-- **Signatures do not collide**, neither of one key nor of two. -/
lemma signature_inj (h : t.Distinct) {key key' : Point} {m m' : Bytes}
    (hx : key.1.length = key'.1.length) (hy : key.2.length = key'.2.length)
    (heq : t.signature key m = t.signature key' m') : key = key' ∧ m = m' := by
  -- what is not in the table is longer than what is
  have hlong : ∀ {key : Point} {m : Bytes} {e : Point × List (Bytes × Bytes)} {s : Bytes × Bytes},
      e ∈ t.signatures → s ∈ e.2 → s.2 ≠ List.replicate 65 0 ++ key.1 ++ key.2 ++ m := by
    intro key m e s he hs hlong
    have hlen := h.short e he s hs
    rw [hlong] at hlen
    simp only [List.length_append, List.length_replicate] at hlen
    omega
  rcases signature_cases (t := t) key m with ⟨e, he, rfl, hm⟩ | hm
  · rcases signature_cases (t := t) key' m' with ⟨e', he', rfl, hm'⟩ | hm'
    · obtain ⟨hin, hpair⟩ := List.nodup_flatMap.mp h.signatures
      have hsame : e = e' := by
        by_contra hne
        have hsymm : Std.Symm (Function.onFun List.Disjoint
            fun e : Point × List (Bytes × Bytes) => e.2.map Prod.snd) := ⟨fun _ _ h a ha hb => h hb ha⟩
        have hs : t.signature e.1 m ∈ e.2.map Prod.snd := List.mem_map.mpr ⟨_, hm, rfl⟩
        have hs' : t.signature e'.1 m' ∈ e'.2.map Prod.snd := List.mem_map.mpr ⟨_, hm', rfl⟩
        rw [← heq] at hs'
        exact hpair.forall he he' hne hs hs'
      subst hsame
      rw [← heq] at hm'
      have := List.inj_on_of_nodup_map (hin e he) hm hm' rfl
      exact ⟨rfl, (Prod.mk.inj this).1⟩
    · exact absurd (heq.trans hm') (hlong he hm)
  · rcases signature_cases (t := t) key' m' with ⟨e', he', rfl, hm'⟩ | hm'
    · exact absurd (heq.symm.trans hm) (hlong he' hm')
    · rw [hm, hm', List.append_assoc, List.append_assoc, List.append_assoc, List.append_assoc] at heq
      have htail := List.append_cancel_left heq
      obtain ⟨hx, htail⟩ := List.append_inj htail hx
      obtain ⟨hy, hm⟩ := List.append_inj htail hy
      exact ⟨Prod.ext hx hy, hm⟩

lemma key_exact (h : t.Distinct) (x y : ℕ) : (t.key x y).Exact t.crates := by
  intro m s hs x' y' m' hverify
  obtain ⟨⟨hx, hy⟩, hsignature⟩ := p256Verify_eq_ok.mp hverify
  rw [Except.ok.injEq] at hs
  rw [← hs] at hsignature
  have hlen : (x', y').1.length = (bigEndian 32 x, bigEndian 32 y).1.length :=
    hx.trans (length_bigEndian 32 x).symm
  have hlen' : (x', y').2.length = (bigEndian 32 x, bigEndian 32 y).2.length :=
    hy.trans (length_bigEndian 32 y).symm
  obtain ⟨hkey, hm⟩ := signature_inj h hlen hlen' hsignature.symm
  obtain ⟨hx', hy'⟩ := Prod.mk.inj hkey
  exact ⟨hx', hy', hm⟩

/-- Dates that differ, and are no numbers. -/
structure Dated (t : Table) : Prop where
  distinct : (t.dates.map Prod.snd).Nodup
  words : ∀ d ∈ t.dates, parseU64 d.2 = none

lemma rfc3339 (h : t.Dated) : Rfc3339 t.crates where
  parse_seconds n hlow hhigh := by
    have hdiv : n * 1000000000 / 1000000000 = n := by omega
    have hparse : t.readDate (t.writeDate (n * 1000000000)) = some (n * 1000000000) := by
      unfold writeDate readDate
      rw [hdiv]
      cases hdate : t.dates.lookup n with
      | some text =>
        obtain ⟨l₁, l₂, hsplit, -⟩ := List.lookup_eq_some_iff.mp hdate
        have hmem : (n, text) ∈ t.dates := by simp [hsplit]
        obtain ⟨d, hd⟩ : ∃ d, t.dates.find? (fun d => d.2 == text && decide (d.1 < 253402300800)) =
            some d := by
          rw [← Option.isSome_iff_exists, List.find?_isSome]
          exact ⟨_, hmem, by simp [hhigh]⟩
        have htext : d.2 = text := by
          have := List.find?_some hd
          simp only [Bool.and_eq_true, beq_iff_eq] at this
          exact this.1
        have hsame := List.inj_on_of_nodup_map h.distinct (List.mem_of_find?_eq_some hd) hmem htext
        simp [hd, hsame]
      | none =>
        have hnat : (n - year0).toNat < 2 ^ 64 := by
          unfold year0
          omega
        have hnone : t.dates.find? (fun d => d.2 == (n - year0).toNat.repr &&
            decide (d.1 < 253402300800)) = none := by
          rw [List.find?_eq_none]
          intro d hd heq
          simp only [Bool.and_eq_true, beq_iff_eq] at heq
          have hword := h.words d hd
          rw [heq.1, parseU64_repr hnat] at hword
          cases hword
        simp only [Option.getD_none, hnone, parseU64_repr hnat, Option.map_some]
        unfold year0
        congr 1
        omega
    exact hparse

end Table

/-! ### A root and a document signer -/

section Pki

/-- The keys of the root, of the document signer, and of a holder's device. -/
def rootPoint : Point :=
  (bigEndian 32 0x72fe98ddb78f71493af5d9917b78e5fb003317916b544de1381dfa6d3ff57a7c,
    bigEndian 32 0xbb13473c14d683766264cf97593f08162c184e29fa5615513de3550662e1543b)

def signerX : ℕ := 0x7fcdce2770f6c45d4183cbee6fdb4b7b580733357be9ef13bacf6e3c7bd15445

def signerY : ℕ := 0xc7f144cd1bbd9b7e872cdfedb9eeb9f4b3695d6ea90b24ad8a4623288588e5ad

def deviceX : ℕ := 0x30a0424cd21c2944838a2d75c92b37e76ea20d9f00893a3b4eee8a3c0aafec3e

def deviceY : ℕ := 0xe04b65e92456d9888b52b379bdfbd51ee869ef1f0fc65b6659695b6cce081723

def rootName : Bytes :=
  bigEndian 32 0x3023310b3009060355040613025a5a3114301206035504030c0b53616d706c65 ++
    bigEndian 5 0x20526f6f74

def rootTbs : Bytes :=
  bigEndian 32 0x3081eea003020102020101300a06082a8648ce3d0403023023310b3009060355 ++
    bigEndian 32 0x040613025a5a3114301206035504030c0b53616d706c6520526f6f74301e170d ++
    bigEndian 32 0x3236303130313030303030305a170d3330303130313030303030305a3023310b ++
    bigEndian 32 0x3009060355040613025a5a3114301206035504030c0b53616d706c6520526f6f ++
    bigEndian 32 0x743059301306072a8648ce3d020106082a8648ce3d0301070342000472fe98dd ++
    bigEndian 32 0xb78f71493af5d9917b78e5fb003317916b544de1381dfa6d3ff57a7cbb13473c ++
    bigEndian 32 0x14d683766264cf97593f08162c184e29fa5615513de3550662e1543ba3133011 ++
    bigEndian 17 0x300f0603551d130101ff040530030101ff

def rootSignature : Bytes :=
  bigEndian 32 0x3044022007261bb873589a2101429b687b0b8f695423d093416ee55ef7f1e004 ++
    bigEndian 32 0x3c72d1d50220790447254452a0ead24b5805a3ab20e76d8aeddf2559d8108181 ++
    bigEndian 6 0x532fc582a257

def rootDer : Bytes :=
  bigEndian 4 0x30820146 ++ rootTbs ++
    bigEndian 15 0x300a06082a8648ce3d040302034700 ++ rootSignature

def rootCertificate : Certificate where
  issuer := rootName
  subject := rootName
  subjectText := "CN=Sample Root,C=ZZ"
  subjectCountry := some "ZZ"
  notBefore := 1767225600
  notAfter := 1893456000
  basicConstraintsCa := some true
  spkiAlgorithm := idEcPublicKey
  spkiCurve := some secp256r1
  subjectPublicKey := 4 :: (rootPoint.1 ++ rootPoint.2)
  signatureAlgorithm := ecdsaWithSha256
  signature := rootSignature
  tbs := .ok rootTbs

def signerName : Bytes :=
  bigEndian 32 0x302e310b3009060355040613025a5a311f301d06035504030c1653616d706c65 ++
    bigEndian 16 0x20446f63756d656e74205369676e6572

def signerTbs : Bytes :=
  bigEndian 32 0x3081f8a003020102020102300a06082a8648ce3d0403023023310b3009060355 ++
    bigEndian 32 0x040613025a5a3114301206035504030c0b53616d706c6520526f6f74301e170d ++
    bigEndian 32 0x3236303130313030303030305a170d3330303130313030303030305a302e310b ++
    bigEndian 32 0x3009060355040613025a5a311f301d06035504030c1653616d706c6520446f63 ++
    bigEndian 32 0x756d656e74205369676e65723059301306072a8648ce3d020106082a8648ce3d ++
    bigEndian 32 0x030107034200047fcdce2770f6c45d4183cbee6fdb4b7b580733357be9ef13ba ++
    bigEndian 32 0xcf6e3c7bd15445c7f144cd1bbd9b7e872cdfedb9eeb9f4b3695d6ea90b24ad8a ++
    bigEndian 27 0x4623288588e5ada3123010300e0603551d0f0101ff040403020780

def signerSignature : Bytes :=
  bigEndian 32 0x30450220325386f526e45b20200572277fe87ea970fc5ff06bf00b7cf7965950 ++
    bigEndian 32 0x7d79ffd9022100dc318904f383dc2f0927e31adcfccc78600fcc331cda70f050 ++
    bigEndian 7 0x0248552ce9749f

/-- The signature of the root over the certificate of the document signer. -/
def issuedSignature : Bytes :=
  bigEndian 32 0x325386f526e45b20200572277fe87ea970fc5ff06bf00b7cf79659507d79ffd9 ++
    bigEndian 32 0xdc318904f383dc2f0927e31adcfccc78600fcc331cda70f0500248552ce9749f

def signerDer : Bytes :=
  bigEndian 4 0x30820151 ++ signerTbs ++
    bigEndian 15 0x300a06082a8648ce3d040302034800 ++ signerSignature

def signerCertificate : Certificate where
  issuer := rootName
  subject := signerName
  subjectText := "CN=Sample Document Signer,C=ZZ"
  subjectCountry := some "ZZ"
  notBefore := 1767225600
  notAfter := 1893456000
  basicConstraintsCa := none
  spkiAlgorithm := idEcPublicKey
  spkiCurve := some secp256r1
  subjectPublicKey := 4 :: (bigEndian 32 signerX ++ bigEndian 32 signerY)
  signatureAlgorithm := ecdsaWithSha256
  signature := signerSignature
  tbs := .ok signerTbs

variable (digests signerSignatures deviceSignatures : List (Bytes × Bytes)) (dates : List (ℤ × String))

/-- The two certificates, with what the document signer and the device sign. -/
def pki : Table where
  digests := digests
  signatures := [(rootPoint, [(signerTbs, issuedSignature)]),
    ((bigEndian 32 signerX, bigEndian 32 signerY), signerSignatures),
    ((bigEndian 32 deviceX, bigEndian 32 deviceY), deviceSignatures)]
  certificates := [(signerDer, signerCertificate), (rootDer, rootCertificate)]
  derSignatures := [(signerSignature, issuedSignature)]
  dates := dates

variable {digests signerSignatures deviceSignatures dates}

lemma readPoint_eq {x y : Bytes} (hx : x.length = 32) (hy : y.length = 32) :
    Table.readPoint (4 :: (x ++ y)) = .ok (x, y) := by
  simp [Table.readPoint, hx, hy, List.take_left' hx, List.drop_left' hx]

section Chain

variable {t : Table} (ht : t = pki digests signerSignatures deviceSignatures dates)

include ht

lemma certificateFromDer_signer : t.crates.certificateFromDer signerDer = .ok signerCertificate := by
  simp [Table.crates, ht, pki]

lemma certificateFromDer_root : t.crates.certificateFromDer rootDer = .ok rootCertificate := by
  have hne : rootDer ≠ signerDer := by
    intro h
    have := congrArg List.length h
    simp [rootDer, signerDer, rootTbs, signerTbs, rootSignature, signerSignature] at this
  simp [Table.crates, ht, pki, List.lookup_cons, beq_eq_false_iff_ne.mpr hne]

lemma p256Verify_root : t.crates.p256Verify rootPoint signerTbs issuedSignature = .ok () := by
  refine Table.p256Verify_eq_ok.mpr ⟨⟨length_bigEndian 32 _, length_bigEndian 32 _⟩, ?_⟩
  simp [Table.signature, Table.signaturesOf, ht, pki]

omit ht in
lemma p256FromSec1_eq (x y : ℕ) : t.crates.p256FromSec1 (4 :: (bigEndian 32 x ++ bigEndian 32 y)) =
    .ok (bigEndian 32 x, bigEndian 32 y) := by
  have hread : t.crates.p256FromSec1 = Table.readPoint := rfl
  rw [hread]
  exact readPoint_eq (length_bigEndian 32 x) (length_bigEndian 32 y)

lemma verifyIssuedBy_root : verifyIssuedBy t.crates signerCertificate rootCertificate = .ok () := by
  have hsignature : t.crates.p256SignatureFromDer signerCertificate.signature = some issuedSignature := by
    simp [Table.crates, ht, pki, signerCertificate]
  have hpoint : t.crates.p256FromSec1 rootCertificate.subjectPublicKey = .ok rootPoint :=
    p256FromSec1_eq _ _
  simp only [verifyIssuedBy, p256VerifyingKey, bind_eq_ok, ensure_eq_ok, exists_unit, okOr_eq_ok,
    mapError_eq_ok]
  exact ⟨rfl, rfl, rootPoint, ⟨⟨rfl, rfl⟩, hpoint⟩, issuedSignature, hsignature, signerTbs, rfl,
    p256Verify_root ht⟩

omit ht in
lemma p256Jwk_signer : ∃ leaf, p256Jwk t.crates signerCertificate.subjectPublicKey = .ok leaf ∧
    leaf.publicMembers = ((t.key signerX signerY).toKeyPair t.crates).publicJwk.publicMembers := by
  have hpoint : t.crates.p256FromSec1 signerCertificate.subjectPublicKey =
      .ok (bigEndian 32 signerX, bigEndian 32 signerY) := p256FromSec1_eq _ _
  simp only [p256Jwk, hpoint, bind_eq_ok, mapError_eq_ok, pure_eq_ok]
  exact ⟨_, ⟨_, rfl, rfl⟩, rfl⟩

/-- **The chain of the document signer** is trusted from 2026 to 2029. -/
theorem validateChain_pki {instant : ℤ} (hfrom : Instant.seconds 1767225600 ≤ instant)
    (huntil : instant ≤ Instant.seconds 1893456000) :
    ∃ leaf, validateChain t.crates [signerDer] [rootDer] instant = .ok leaf ∧
      leaf.publicMembers =
        ((t.key signerX signerY).toKeyPair t.crates).publicJwk.publicMembers := by
  obtain ⟨leaf, hleaf, hmembers⟩ := p256Jwk_signer (t := t)
  have hfrom' : toDatetime 1767225600 = Instant.seconds 1767225600 := rfl
  have huntil' : toDatetime 1893456000 = Instant.seconds 1893456000 := rfl
  have hvalid : toDatetime 1767225600 ≤ instant ∧ instant ≤ toDatetime 1893456000 := by
    rw [hfrom', huntil']
    exact ⟨hfrom, huntil⟩
  refine ⟨leaf, ?_, hmembers⟩
  exact validateChain_single (certificateFromDer_signer ht) (certificateFromDer_root ht)
    List.mem_cons_self (verifyIssuedBy_root ht) hleaf (checkValidity_eq_ok.mpr hvalid)
    (checkValidity_eq_ok.mpr hvalid)

end Chain

end Pki

end Oid4vc.Tables
