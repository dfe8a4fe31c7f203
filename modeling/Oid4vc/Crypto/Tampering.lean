import Oid4vc.Crypto.Presented

/-!
Soundness of an mdoc against a malicious holder, who controls the whole structure around the
`issuerAuth` of the issuer.

An item is accepted only if its encoding hashes to a digest that the issuer signed for the
namespace, so it is one of the items that were issued there.
-/

namespace Oid4vc.Tampering

open Oid4vc.JsonValue Oid4vc.Fallible Oid4vc.PartialMap Oid4vc.CborValue Oid4vc.Jwks
open Oid4vc.External Oid4vc.Codecs Oid4vc.Keys Oid4vc.Cose Oid4vc.Mdoc Oid4vc.Issuance
open Oid4vc.Elements Oid4vc.Acceptance Oid4vc.Presented Oid4vc.Tables

variable (X : Crates)

/-- The element that an item names. -/
def identifierOf (item : Cbor) : Option String :=
  (unembed X item).toOption.bind fun item => (get item "elementIdentifier").bind Cbor.asText

/-- The elements that a structure presents, in order, each with its namespace. -/
def presentedElements (issuerSigned : Cbor) : List (String × String) :=
  (nameSpacesOf issuerSigned).flatMap fun entry =>
    ((entry.2.asArray.getD []).filterMap (identifierOf X)).map fun id => (entry.1.asText.getD "", id)

/-- What was verified of a structure is what the issuer put in the mdoc. -/
structure Authentic (request : IssueRequest) (issuerSigned : Cbor) (v : VerifiedMdoc) : Prop where
  issued : ∀ ns id json, v.claim ns id = some json → IssuedElement X request ns id json
  presented : ∀ ns id, (v.claim ns id).isSome ↔ (ns, id) ∈ presentedElements X issuerSigned
  once : (presentedElements X issuerSigned).Nodup

variable {X}

/-! ### Items -/

lemma get_digestsOf {ns : List (Namespace X)} {name : String} {digests : Cbor}
    (h : get (.map (ns.map digestsOf)) name = some digests) :
    ∃ n ∈ ns, n.1 = name ∧ digests = .map (n.2.map Entry.digest) := by
  induction ns with
  | nil => simp at h
  | cons n ns ih =>
    rw [List.map_cons, digestsOf, get_cons] at h
    split_ifs at h with hname
    · exact ⟨n, List.mem_cons_self, hname, (Option.some.inj h).symm⟩
    · obtain ⟨n', hn', hrest⟩ := ih h
      exact ⟨n', List.mem_cons_of_mem _ hn', hrest⟩

lemma signedDigest_digests {es : List (Entry X)} {digestId : CborInt} {digest : Bytes}
    (h : signedDigest (.map (es.map Entry.digest)) digestId = some digest) :
    ∃ e ∈ es, X.sha256 e.outer = digest := by
  simp only [signedDigest, Cbor.asMap_map, Option.bind_some, Option.bind_eq_some_iff,
    Option.map_eq_some_iff] at h
  obtain ⟨v, ⟨d, hd, rfl⟩, hv⟩ := h
  obtain ⟨e, he, rfl⟩ := List.mem_map.mp (List.mem_of_find?_eq_some hd)
  exact ⟨e, he, Option.some.inj hv⟩

/-- **An accepted item was issued** in the namespace whose digests it was checked against. -/
lemma issued_of_checked (hcbor : CborCodec X) (hsha : Function.Injective X.sha256)
    {ns : List (Namespace X)} {name : String} {digests itemBytes : Cbor} {element : String × Json}
    (hdigests : get (.map (ns.map digestsOf)) name = some digests)
    (h : ItemChecked X digests itemBytes element) :
    ∃ n ∈ ns, n.1 = name ∧ ∃ e ∈ n.2, itemBytes = e.item ∧ element = e.claim := by
  obtain ⟨n, hn, hname, rfl⟩ := get_digestsOf hdigests
  obtain ⟨item, digestId, bytes, value, hitem, hid, -, hbytes, hdigest, hvalue, hjson⟩ := h.checked
  obtain ⟨e, he, hsame⟩ := signedDigest_digests hdigest
  have houter := e.embeds
  rw [hsha hsame] at houter
  have hissued : itemBytes = e.item := hcbor.inj hbytes houter
  rw [hissued, e.unembed_item hcbor, Except.ok.injEq] at hitem
  subst hitem
  simp only [itemValue, get_cons, String.reduceEq, if_false, if_true, Option.bind_some,
    Cbor.asText_text, Option.some.injEq] at hid hvalue
  refine ⟨n, hn, hname, e, he, hissued, ?_⟩
  rw [Entry.claim, hvalue, ← hjson, hid]

/-! ### Presented elements -/

lemma identifierOf_of_checked {digests itemBytes : Cbor} {element : String × Json}
    (h : ItemChecked X digests itemBytes element) : identifierOf X itemBytes = some element.1 := by
  obtain ⟨item, digestId, bytes, value, hitem, hid, -⟩ := h.checked
  rw [identifierOf, hitem]
  exact hid

lemma filterMap_identifierOf {digests : Cbor} {items : List Cbor} {es : List (String × Json)}
    (h : List.Forall₂ (ItemChecked X digests) items es) :
    items.filterMap (identifierOf X) = es.map Prod.fst := by
  induction h with
  | nil => rfl
  | cons hitem _ ih => rw [List.filterMap_cons, identifierOf_of_checked hitem, ih, List.map_cons]

/-- The elements that the checks found are the ones presented. -/
lemma presentedElements_eq {issuerSigned valueDigests : Cbor}
    {groups : List (String × List (String × Json))}
    (h : ElementsChecked X issuerSigned valueDigests groups) :
    presentedElements X issuerSigned = (pairs groups).map Prod.fst := by
  have hall : ∀ {entries : List (Cbor × Cbor)} {groups : List (String × List (String × Json))},
      List.Forall₂ (NamespaceChecked X valueDigests) entries groups →
      (entries.flatMap fun entry => ((entry.2.asArray.getD []).filterMap (identifierOf X)).map
        fun id => (entry.1.asText.getD "", id)) = (pairs groups).map Prod.fst := by
    intro entries groups hentries
    induction hentries with
    | nil => rfl
    | @cons entry group _ _ hentry _ ih =>
      obtain ⟨hname, digests, items, -, hitems, hes⟩ := hentry
      obtain ⟨name, es⟩ := group
      rw [List.flatMap_cons, ih, hname, hitems, Option.getD_some, Option.getD_some,
        filterMap_identifierOf hes, pairs_cons, List.map_append]
      simp [Function.comp_def]
  exact hall h.checked

/-! ### Soundness -/

lemma authentic_of_accepted (hcbor : CborCodec X) (hcose : CoseCodec X)
    (hsha : Function.Injective X.sha256) {request : IssueRequest} {signer : KeyPair}
    {issued : Bytes} (i : Issued (X := X) request signer issued) {issuerSigned : Cbor}
    {expectedDocType : Option String} {trustAnchors : List Bytes} {now : ℤ} {v : VerifiedMdoc}
    (hcarries : CarriesIssuerAuth X issued issuerSigned)
    (hv : verifyIssuerSignedValue X issuerSigned expectedDocType trustAnchors now = .ok v) :
    Authentic X request issuerSigned v := by
  obtain ⟨sign1, mso, valueDigests, groups, hsigned, hmso, hread, hgroups, hclaims⟩ :=
    verifyIssuerSignedValue_eq_ok.mp hv
  have hdistinct := hgroups.distinct
  have hclaim : ∀ {ns id json}, v.claim ns id = some json ↔ ((ns, id), json) ∈ pairs groups :=
    claim_eq_some hdistinct hclaims
  -- the digests are the ones that were signed
  have hdigests := hread.digests
  rw [mso_of_carries hcbor hcose i hcarries hsigned hmso, get_msoOf_valueDigests,
    Option.some.injEq] at hdigests
  refine ⟨fun ns id json h => ?_, fun ns id => ?_, ?_⟩
  · obtain ⟨es, hgroup, helement⟩ := mem_pairs.mp (hclaim.mp h)
    obtain ⟨entry, -, hentry⟩ := exists_of_mem_right hgroups.checked hgroup
    obtain ⟨-, digests, items, hget, -, hes⟩ := hentry
    obtain ⟨itemBytes, -, hitem⟩ := exists_of_mem_right hes helement
    rw [← hdigests] at hget
    obtain ⟨n, hn, rfl, e, he, -, hclaimed⟩ := issued_of_checked hcbor hsha hget hitem
    obtain ⟨rfl, rfl⟩ := Prod.mk.inj hclaimed
    refine ⟨n.2.map Entry.element, e.value, ?_, List.mem_map_of_mem (f := Entry.element) he, rfl⟩
    rw [← i.elements]
    exact List.mem_map_of_mem (f := elementsOf) hn
  · rw [presentedElements_eq hgroups, Option.isSome_iff_exists, List.mem_map]
    constructor
    · rintro ⟨json, h⟩
      exact ⟨_, hclaim.mp h, rfl⟩
    · rintro ⟨⟨⟨ns', id'⟩, json⟩, hp, heq⟩
      obtain ⟨rfl, rfl⟩ := Prod.mk.inj heq
      exact ⟨json, hclaim.mpr hp⟩
  · rw [presentedElements_eq hgroups]
    exact hdistinct

/-- **A holder can only drop elements.** However a structure that carries an issued `issuerAuth`
is put together, what is verified of it is what the issuer put there, and no element is there
twice. -/
theorem only_issued (hcbor : CborCodec X) (hcose : CoseCodec X)
    (hsha : Function.Injective X.sha256) {request : IssueRequest} {signer : KeyPair}
    {draws : Draws} {issued : Bytes} (hissued : issue X request signer draws = .ok issued)
    (trustAnchors : List Bytes) (now : ℤ) :
    (∀ bytes issuerSigned v, X.cborDecode bytes = .ok issuerSigned →
      CarriesIssuerAuth X issued issuerSigned →
      verifyIssuerSigned X bytes trustAnchors now = .ok v → Authentic X request issuerSigned v) ∧
    ∀ bytes sessionTranscript vs,
      verifyDeviceResponse X bytes sessionTranscript trustAnchors now = .ok vs →
      ∃ documents, readDocuments X bytes = .ok documents ∧
        List.Forall₂ (fun document v => ∃ issuerSigned, get document "issuerSigned" = some issuerSigned ∧
          (CarriesIssuerAuth X issued issuerSigned → Authentic X request issuerSigned v))
          documents vs := by
  obtain ⟨i⟩ := issue_eq_ok hissued
  constructor
  · intro bytes issuerSigned v hdecode hcarries hv
    rw [verifyIssuerSigned, decode, hdecode] at hv
    exact authentic_of_accepted hcbor hcose hsha i hcarries hv
  · intro bytes sessionTranscript vs hvs
    simp only [verifyDeviceResponse, bind_eq_ok, mapM_eq_ok] at hvs
    obtain ⟨documents, hdocuments, hvs⟩ := hvs
    refine ⟨documents, hdocuments, hvs.imp fun document v hv => ?_⟩
    simp only [verifyDocument, bind_eq_ok, mapError_eq_ok, require_eq_ok, exists_unit,
      pure_eq_ok] at hv
    obtain ⟨docType, -, issuerSigned, hissuerSigned, v', hv', rest⟩ := hv
    obtain ⟨-, -, -, -, -, -, -, -, -, -, -, rfl⟩ := rest
    exact ⟨issuerSigned, hissuerSigned,
      fun hcarries => authentic_of_accepted hcbor hcose hsha i hcarries hv'⟩

/-- From the sample mdoc the holder drops the name; the age that is left was issued. -/
theorem dropped_name : ∃ issued bytes issuerSigned v,
    issue sampleTable.crates (sampleRequest expiresOn) (signerKey.toKeyPair sampleTable.crates)
      sampleDraws = .ok issued ∧
    CarriesIssuerAuth sampleTable.crates issued issuerSigned ∧
    sampleTable.crates.cborDecode bytes = .ok issuerSigned ∧
    verifyIssuerSigned sampleTable.crates bytes [rootDer] sampleNow = .ok v ∧
    (v.claim mdlNamespace "family_name").isNone ∧
    Authentic sampleTable.crates (sampleRequest expiresOn) issuerSigned v := by
  obtain ⟨issued, hissued⟩ := @sample_issued expiresOn (by decide)
  obtain ⟨i⟩ := issue_eq_ok hissued
  set shown := revealedSigned [(mdlNamespace, "age_over_18")] i with hshown
  obtain ⟨bytes, hbytes⟩ := (@Table.cborCodec sampleTable).total shown
  have hdecode := (@Table.cborCodec sampleTable).decode_encode _ _ hbytes
  have hcarries : CarriesIssuerAuth sampleTable.crates issued shown :=
    ⟨_, i.issuerAuth, Table.cborCodec.decode_encode _ _ i.encode_eq, by simp,
      by simp [hshown, revealedSigned]⟩
  have hany : ∀ t ∈ (none : Option String), t = (sampleRequest expiresOn).docType := by simp
  obtain ⟨v, hv, hclaims⟩ := verify_revealed Table.base64Url Table.cborCodec Table.coseCodec
    (Table.rfc3339 sampleTable_dated) (Table.key_correct signerX signerY) i (sample_distinct _) rfl
    (sample_validAt (by decide)) (by decide) hany [(mdlNamespace, "age_over_18")]
  have hnone : (v.claim mdlNamespace "family_name").isNone := by
    rw [Option.isNone_iff_eq_none, Option.eq_none_iff_forall_ne_some]
    intro json h
    have hshown := ((hclaims.claims _ _ json).mp h).1
    revert hshown
    decide
  have hverified : verifyIssuerSigned sampleTable.crates bytes [rootDer] sampleNow = .ok v := by
    rw [verifyIssuerSigned, decode, hdecode]
    exact hv
  exact ⟨issued, bytes, shown, v, hissued, hcarries, hdecode, hverified, hnone,
    (only_issued Table.cborCodec Table.coseCodec sample_sha256_injective hissued [rootDer]
      sampleNow).1 bytes shown v hdecode hcarries hverified⟩

end Oid4vc.Tampering
