import Oid4vc.Crypto.Acceptance
import Oid4vc.Crypto.Tables

/-!
Selective disclosure of an mdoc: what a holder who presents it honestly reveals.

The items of the elements to disclose keep their encodings, so they hash to the digests that
were signed; the device key signs the session, and the verifier reads its public key in the MSO.
-/

namespace Oid4vc.Presented

open Oid4vc.JsonValue Oid4vc.Instant Oid4vc.Fallible Oid4vc.PartialMap Oid4vc.CborValue Oid4vc.Jwks
open Oid4vc.External Oid4vc.Codecs Oid4vc.Keys Oid4vc.Cose Oid4vc.X509 Oid4vc.Mdoc Oid4vc.Issuance
open Oid4vc.Elements Oid4vc.Acceptance Oid4vc.Tables
open Oid4vc.CborBytes (bigEndian)

variable {X : Crates}

/-! ### Issuing -/

lemma issueItem_total (hcbor : CborCodec X) (id : BitVec 32) (random : Bytes) (identifier : String)
    (value : Cbor) : ∃ r, issueItem X id random identifier value = .ok r := by
  obtain ⟨inner, hinner⟩ := hcbor.total (itemValue id random identifier value)
  obtain ⟨outer, houter⟩ := hcbor.total (.tag tagEncodedCbor (.bytes inner))
  refine ⟨(.tag tagEncodedCbor (.bytes inner), digestIdValue id, .bytes (X.sha256 outer)), ?_⟩
  simp only [issueItem, bind_eq_ok, embed_eq_ok, encode_eq_ok, pure_eq_ok]
  exact ⟨_, ⟨inner, hinner, rfl⟩, outer, houter, rfl⟩

lemma issueItems_total (hcbor : CborCodec X) {elements : List (String × Cbor)} :
    ∀ {used : List (BitVec 32)} {draws : Draws}, (used ++ draws.ids).Nodup →
      elements.length ≤ draws.ids.length → ∃ items digests draws',
        issueItems X used elements draws = .ok (items, digests, draws') ∧
        draws'.ids = draws.ids.drop elements.length := by
  induction elements with
  | nil => exact fun {used draws} _ _ => ⟨[], [], draws, rfl, rfl⟩
  | cons element elements ih =>
    intro used draws hnodup hcount
    obtain ⟨identifier, value⟩ := element
    obtain ⟨ids, salts⟩ := draws
    cases ids with
    | nil => simp at hcount
    | cons id ids =>
      rw [List.nodup_append'] at hnodup
      obtain ⟨hused, hids, hdisjoint⟩ := hnodup
      have hfresh : id ∉ used := fun h => hdisjoint h List.mem_cons_self
      have hrest : ((id :: used) ++ ids).Nodup := by
        rw [List.nodup_append']
        refine ⟨List.nodup_cons.mpr ⟨hfresh, hused⟩, (List.nodup_cons.mp hids).2, ?_⟩
        intro i hi hi'
        rcases List.mem_cons.mp hi with rfl | hi
        · exact (List.nodup_cons.mp hids).1 hi'
        · exact hdisjoint hi (List.mem_cons_of_mem _ hi')
      obtain ⟨⟨item, digest⟩, hitem⟩ := issueItem_total hcbor id (salts 0) identifier value
      obtain ⟨items, digests, draws', hitems, hleft⟩ := @ih (id :: used)
        ⟨ids, fun i => salts (i + 1)⟩ hrest (by simpa using hcount)
      refine ⟨item :: items, digest :: digests, draws', ?_, by simpa using hleft⟩
      have hdraw : drawDigestId used (id :: ids) = .ok (id, ids) := if_neg hfresh
      simp only [issueItems, bind_eq_ok, mapError_eq_ok, pure_eq_ok]
      exact ⟨(id, ids), hdraw, (item, digest), hitem, (items, digests, draws'), hitems, rfl⟩

lemma issueNamespaces_total (hcbor : CborCodec X)
    {namespaces : List (String × List (String × Cbor))} :
    ∀ {draws : Draws}, draws.ids.Nodup →
      (namespaces.map fun n => n.2.length).sum ≤ draws.ids.length →
      ∃ r, issueNamespaces X namespaces draws = .ok r := by
  induction namespaces with
  | nil => exact fun _ _ => ⟨_, rfl⟩
  | cons n namespaces ih =>
    intro draws hnodup hcount
    obtain ⟨name, elements⟩ := n
    rw [List.map_cons, List.sum_cons] at hcount
    have hids : (([] : List (BitVec 32)) ++ draws.ids).Nodup := hnodup
    obtain ⟨items, digests, draws', hitems, hleft⟩ := issueItems_total hcbor hids
      (show elements.length ≤ draws.ids.length by simp only at hcount; omega)
    obtain ⟨⟨nameSpaces, valueDigests⟩, hrest⟩ := @ih draws'
      (by rw [hleft]; exact hnodup.sublist (List.drop_sublist _ _))
      (by rw [hleft, List.length_drop]; simp only at hcount; omega)
    refine ⟨((.text name, .array items) :: nameSpaces, (.text name, .map digests) :: valueDigests), ?_⟩
    simp only [issueNamespaces, bind_eq_ok, pure_eq_ok]
    exact ⟨_, hitems, _, hrest, rfl⟩

/-- **Issuing succeeds** for a supported device key and dates in order, when the ids that are
drawn are enough. -/
theorem issue_total (hcbor : CborCodec X) (hcose : CoseCodec X) {signer : SigningKey}
    (hsigns : signer.Signs) {request : IssueRequest} {draws : Draws}
    (hdates : max (wholeSeconds request.validFrom) (wholeSeconds request.signed) <
      wholeSeconds request.validUntil)
    (hkey : ∃ key, coseKey X request.deviceKey = .ok key) (hnodup : draws.ids.Nodup)
    (hcount : (request.namespaces.map fun n => n.2.length).sum ≤ draws.ids.length) :
    ∃ issued, issue X request (signer.toKeyPair X) draws = .ok issued := by
  obtain ⟨⟨nameSpaces, valueDigests⟩, hns⟩ := issueNamespaces_total hcbor hnodup hcount
  obtain ⟨key, hkey⟩ := hkey
  set mso := buildMso X request.docType valueDigests key (wholeSeconds request.signed)
    (max (wholeSeconds request.validFrom) (wholeSeconds request.signed))
    (wholeSeconds request.validUntil) request.status with hmso
  obtain ⟨embedded, hembedded⟩ := hcbor.total mso
  obtain ⟨payload, hpayload⟩ := hcbor.total (.tag tagEncodedCbor (.bytes embedded))
  obtain ⟨signature, hsign⟩ := SigningKey.sign_total (X := X) hsigns
    (X.coseSigStructure (protectedHeader (signer.toKeyPair X) []) payload)
  obtain ⟨items, _, hvalue, -, -⟩ := hcose.roundTrip ⟨protectedHeader (signer.toKeyPair X) [],
    unprotectedHeader [(headerX5chain, x5chainValue request.x5chain)], some payload, signature⟩ rfl rfl
    (plain_x5chain request.x5chain) rfl
  obtain ⟨bytes, hbytes⟩ := hcbor.total (.map [(.text "nameSpaces", .map nameSpaces),
    (.text "issuerAuth", .array items)])
  refine ⟨bytes, ?_⟩
  simp only [issue, sealMdoc, bind_eq_ok, ensure_eq_ok, exists_unit, mapError_eq_ok, embed_eq_ok,
    encode_eq_ok]
  exact ⟨hdates, (nameSpaces, valueDigests), hns, key, hkey, _, ⟨embedded, hembedded, rfl⟩, payload,
    hpayload, _, sign_eq_ok.mpr ⟨signature, hsign, rfl⟩, .array items, mapError_eq_ok.mpr hvalue, hbytes⟩

/-! ### The revealed items -/

/-- The elements of a namespace that are to be disclosed. -/
def disclosedOf (disclose : List (String × String)) (n : Namespace X) : Namespace X :=
  (n.1, n.2.filter fun e => disclose.contains (n.1, e.identifier))

/-- The namespaces that a presentation reveals. -/
def revealedOf (disclose : List (String × String)) (ns : List (Namespace X)) : List (Namespace X) :=
  (ns.map (disclosedOf disclose)).filter fun n => !n.2.isEmpty

lemma isDisclosed_item (hcbor : CborCodec X) (disclose : List (String × String)) (name : String)
    (e : Entry X) : isDisclosed X disclose name e.item = disclose.contains (name, e.identifier) := by
  simp [isDisclosed, e.unembed_item hcbor, itemValue]

/-- **What is revealed** are the items of the elements to disclose. -/
lemma reveal_eq (hcbor : CborCodec X) (disclose : List (String × String)) (ns : List (Namespace X)) :
    reveal X disclose (ns.map itemsOf) = (revealedOf disclose ns).map itemsOf := by
  induction ns with
  | nil => rfl
  | cons n ns ih =>
    have hkept : (n.2.map Entry.item).filter (isDisclosed X disclose n.1) =
        (disclosedOf disclose n).2.map Entry.item := by
      rw [List.filter_map, disclosedOf]
      congr 1
      refine List.filter_congr fun e _ => ?_
      exact isDisclosed_item hcbor disclose n.1 e
    rw [List.map_cons, itemsOf, reveal]
    simp only [Cbor.asArray_array, Cbor.asText_text, Option.getD_some, hkept, ih]
    unfold revealedOf
    rw [List.map_cons, List.filter_cons]
    have hname : n.1 = (disclosedOf disclose n).1 := rfl
    rw [hname]
    generalize disclosedOf disclose n = d
    obtain ⟨name, es⟩ := d
    cases es <;> simp [itemsOf]

/-! ### The signed digests -/

lemma get_digestsOf_mem {ns : List (Namespace X)} (hnames : (ns.map Prod.fst).Nodup)
    {n : Namespace X} (hn : n ∈ ns) :
    get (.map (ns.map digestsOf)) n.1 = some (.map (n.2.map Entry.digest)) := by
  induction ns with
  | nil => simp at hn
  | cons n' ns ih =>
    rw [List.map_cons, List.nodup_cons] at hnames
    rw [List.map_cons, digestsOf, get_cons]
    rcases List.mem_cons.mp hn with rfl | hn
    · rw [if_pos rfl]
    · rw [if_neg, ih hnames.2 hn]
      intro heq
      exact hnames.1 (heq ▸ List.mem_map_of_mem hn)

/-- A digest id as it is written. -/
def idOf (e : Entry X) : CborInt := ofU64 (e.id.setWidth 64)

lemma idOf_inj {e e' : Entry X} (h : idOf e = idOf e') : e.id = e'.id := by
  have hval := congrArg CborInt.val h
  simp only [idOf, ofU64, BitVec.toNat_setWidth] at hval
  apply BitVec.eq_of_toNat_eq
  have h1 := e.id.isLt
  have h2 := e'.id.isLt
  omega

lemma signedDigest_cons (id digestId : CborInt) (digest : Bytes) (es : List (Cbor × Cbor)) :
    signedDigest (.map ((.integer id, .bytes digest) :: es)) digestId =
      if id = digestId then some digest else signedDigest (.map es) digestId := by
  by_cases h : id = digestId
  · simp [signedDigest, h]
  · simp [signedDigest, h]

lemma signedDigest_of_mem {es : List (Entry X)} (hids : (es.map Entry.id).Nodup) {e : Entry X}
    (he : e ∈ es) :
    signedDigest (.map (es.map Entry.digest)) (idOf e) = some (X.sha256 e.outer) := by
  induction es with
  | nil => simp at he
  | cons e' es ih =>
    rw [List.map_cons, List.nodup_cons] at hids
    have hdigest : e'.digest = (.integer (idOf e'), .bytes (X.sha256 e'.outer)) := rfl
    rw [List.map_cons, hdigest, signedDigest_cons]
    rcases List.mem_cons.mp he with rfl | he
    · rw [if_pos rfl]
    · rw [if_neg, ih hids.2 he]
      intro heq
      exact hids.1 (idOf_inj heq ▸ List.mem_map_of_mem he)

lemma itemChecked_of_mem (hcbor : CborCodec X) {es : List (Entry X)}
    (hids : (es.map Entry.id).Nodup) {e : Entry X} (he : e ∈ es) :
    ItemChecked X (.map (es.map Entry.digest)) e.item e.claim :=
  ⟨itemValue e.id e.random e.identifier e.value, idOf e, e.outer, e.value, e.unembed_item hcbor,
    by simp [itemValue, Entry.claim], by simp [itemValue, digestIdValue, idOf], e.embeds,
    signedDigest_of_mem hids he, by simp [itemValue], rfl⟩

/-! ### The revealed elements -/

def claimsOf (n : Namespace X) : String × List (String × Json) := (n.1, n.2.map Entry.claim)

/-- Pairs differ if the keys of the groups do, and the keys in each group. -/
lemma nodup_pairs {groups : List (String × List (String × Json))}
    (hnames : (groups.map Prod.fst).Nodup) (hkeys : ∀ g ∈ groups, (g.2.map Prod.fst).Nodup) :
    ((pairs groups).map Prod.fst).Nodup := by
  induction groups with
  | nil => exact List.nodup_nil
  | cons g groups ih =>
    obtain ⟨name, es⟩ := g
    rw [List.map_cons, List.nodup_cons] at hnames
    rw [pairs_cons, List.map_append, List.nodup_append]
    refine ⟨nodup_group.mpr (hkeys _ List.mem_cons_self),
      ih hnames.2 fun g hg => hkeys g (List.mem_cons_of_mem _ hg), ?_⟩
    rintro p hp q hq rfl
    obtain ⟨e, he, rfl⟩ := List.mem_map.mp hp
    obtain ⟨e', -, rfl⟩ := List.mem_map.mp he
    obtain ⟨⟨⟨name', id⟩, json⟩, hpair, heq⟩ := List.mem_map.mp hq
    obtain ⟨rfl, -⟩ := Prod.mk.inj heq
    obtain ⟨es', hes', -⟩ := mem_pairs.mp hpair
    exact hnames.1 (List.mem_map.mpr ⟨_, hes', rfl⟩)

section Revealed

variable {request : IssueRequest} {signer : KeyPair} {issued : Bytes}

lemma names_nodup (i : Issued (X := X) request signer issued) : (i.namespaces.map Prod.fst).Nodup := by
  have hnames : i.namespaces.map Prod.fst = request.namespaces.map Prod.fst := by
    rw [← i.elements, List.map_map]
    rfl
  rw [hnames]
  refine List.Pairwise.imp ?_ request.sorted
  rintro a _ h rfl
  exact String.lt_irrefl a h

lemma mem_revealedOf {disclose : List (String × String)} {ns : List (Namespace X)} {n : Namespace X}
    (h : n ∈ revealedOf disclose ns) : ∃ n' ∈ ns, n = disclosedOf disclose n' := by
  obtain ⟨n', hn', rfl⟩ := List.mem_map.mp (List.mem_of_mem_filter h)
  exact ⟨n', hn', rfl⟩

/-- The structure that a presentation shows the verifier. -/
def revealedSigned (disclose : List (String × String))
    (i : Issued (X := X) request signer issued) : Cbor :=
  .map [(.text "nameSpaces", .map ((revealedOf disclose i.namespaces).map itemsOf)),
    (.text "issuerAuth", i.issuerAuth)]

/-- **The revealed elements pass every check.** -/
lemma elementsChecked_revealed (hcbor : CborCodec X) (i : Issued (X := X) request signer issued)
    (hdistinct : ∀ n ∈ request.namespaces, (n.2.map Prod.fst).Nodup)
    (disclose : List (String × String)) :
    ElementsChecked X (revealedSigned disclose i) (.map (i.namespaces.map digestsOf))
      ((revealedOf disclose i.namespaces).map claimsOf) := by
  have hget : get (revealedSigned disclose i) "nameSpaces" =
      some (.map ((revealedOf disclose i.namespaces).map itemsOf)) := by simp [revealedSigned]
  have hspaces : nameSpacesOf (revealedSigned disclose i) =
      (revealedOf disclose i.namespaces).map itemsOf := by simp [nameSpacesOf, hget]
  refine ⟨fun v hv => ?_, ?_, nodup_pairs ?_ ?_⟩
  · rw [hget, Option.some.injEq] at hv
    exact ⟨_, by rw [← hv, Cbor.asMap_map]⟩
  · rw [hspaces, List.forall₂_map_left_iff, List.forall₂_map_right_iff, List.forall₂_same]
    intro n hn
    obtain ⟨n', hn', rfl⟩ := mem_revealedOf hn
    refine ⟨rfl, .map (n'.2.map Entry.digest), _, get_digestsOf_mem (names_nodup i) hn', rfl, ?_⟩
    rw [claimsOf, List.forall₂_map_left_iff, List.forall₂_map_right_iff, List.forall₂_same]
    exact fun e he => itemChecked_of_mem hcbor (i.ids n' hn') (List.mem_of_mem_filter he)
  · -- a namespace is revealed once, as it was issued once
    have hnames : ((revealedOf disclose i.namespaces).map claimsOf).map Prod.fst =
        (revealedOf disclose i.namespaces).map Prod.fst := by
      rw [List.map_map]
      rfl
    have hall : (i.namespaces.map (disclosedOf disclose)).map Prod.fst =
        i.namespaces.map Prod.fst := by
      rw [List.map_map]
      rfl
    have hsub : ((revealedOf disclose i.namespaces).map Prod.fst).Sublist
        (i.namespaces.map Prod.fst) := by
      rw [← hall]
      exact List.filter_sublist.map Prod.fst
    rw [hnames]
    exact hsub.nodup (names_nodup i)
  · intro g hg
    obtain ⟨n, hn, rfl⟩ := List.mem_map.mp hg
    obtain ⟨n', hn', rfl⟩ := mem_revealedOf hn
    -- and so is each of its elements
    have hkeys : (n'.2.map Entry.identifier).Nodup := by
      have helements : elementsOf n' ∈ request.namespaces := i.elements ▸ List.mem_map_of_mem hn'
      have hnodup := hdistinct _ helements
      rwa [elementsOf, List.map_map] at hnodup
    have hsub : ((claimsOf (disclosedOf disclose n')).2.map Prod.fst).Sublist
        (n'.2.map Entry.identifier) := by
      rw [claimsOf, List.map_map]
      exact List.filter_sublist.map Entry.identifier
    exact hsub.nodup hkeys

/-- **The revealed claims** are the issued elements that are to be disclosed. -/
lemma mem_pairs_revealed (i : Issued (X := X) request signer issued)
    (disclose : List (String × String)) (ns id : String) (json : Json) :
    ((ns, id), json) ∈ pairs ((revealedOf disclose i.namespaces).map claimsOf) ↔
      (ns, id) ∈ disclose ∧ IssuedElement X request ns id json := by
  rw [mem_pairs]
  constructor
  · rintro ⟨es, hgroup, helement⟩
    obtain ⟨n, hn, heq⟩ := List.mem_map.mp hgroup
    obtain ⟨n', hn', rfl⟩ := mem_revealedOf hn
    obtain ⟨rfl, rfl⟩ := Prod.mk.inj heq
    obtain ⟨e, he, hclaim⟩ := List.mem_map.mp helement
    obtain ⟨rfl, rfl⟩ := Prod.mk.inj hclaim
    obtain ⟨he, hdisclosed⟩ := List.mem_filter.mp he
    refine ⟨by simpa [disclosedOf] using hdisclosed, n'.2.map Entry.element, e.value, ?_,
      List.mem_map_of_mem (f := Entry.element) he, rfl⟩
    rw [← i.elements]
    exact List.mem_map_of_mem (f := elementsOf) hn'
  · rintro ⟨hdisclosed, elements, value, hns, helement, rfl⟩
    rw [← i.elements] at hns
    obtain ⟨n, hn, heq⟩ := List.mem_map.mp hns
    obtain ⟨rfl, rfl⟩ := Prod.mk.inj heq
    obtain ⟨e, he, heq⟩ := List.mem_map.mp helement
    obtain ⟨rfl, rfl⟩ := Prod.mk.inj heq
    have hkept : e ∈ (disclosedOf disclose n).2 :=
      List.mem_filter.mpr ⟨he, by simpa using hdisclosed⟩
    -- the namespace is not empty, so it is not left out
    have hrevealed : disclosedOf disclose n ∈ revealedOf disclose i.namespaces := by
      refine List.mem_filter.mpr ⟨List.mem_map_of_mem hn, ?_⟩
      cases hes : (disclosedOf disclose n).2 with
      | nil => simp [hes] at hkept
      | cons _ _ => rfl
    have hgroup := List.mem_map_of_mem (f := claimsOf) hrevealed
    exact ⟨_, hgroup, List.mem_map_of_mem (f := Entry.claim) hkept⟩

end Revealed

/-! ### The MSO -/

/-- The first instant whose year has five digits. -/
def year10000 : ℤ := seconds 253402300800

lemma parseTdate_tdate (hdate : Rfc3339 X) {t : ℤ} (hfrom : 0 ≤ t) (huntil : wholeSeconds t < year10000)
    (field : String) : parseTdate X (tdate X (wholeSeconds t)) field = .ok (wholeSeconds t) := by
  have hsecs : X.parseRfc3339 (X.rfc3339Seconds (wholeSeconds t)) = some (wholeSeconds t) := by
    unfold year10000 wholeSeconds seconds timestamp at huntil
    exact hdate.parse_seconds (timestamp t) (by unfold timestamp; omega) (by unfold timestamp; omega)
  simp [parseTdate, tdate, hsecs]

lemma parseStatus_msoOf {request : IssueRequest} {ns : List (Namespace X)} {deviceKey : Cbor} :
    parseStatus (msoOf X request ns deviceKey) = .ok request.status := by
  rw [parseStatus, get_msoOf_status]
  cases request.status with
  | none => rfl
  | some status =>
    obtain ⟨idx, uri⟩ := status
    have hidx : (ofU64 idx).val = idx.toNat := rfl
    simp [statusValue, requireText, hidx]

/-- An mdoc of the request that can be presented now: it is valid, the chain of its issuer is
trusted now and was when it was signed, and certifies the key that signed it. -/
structure ValidAt (X : Crates) (request : IssueRequest) (signer : SigningKey)
    (trustAnchors : List Bytes) (now : ℤ) : Prop where
  validFrom : max (wholeSeconds request.validFrom) (wholeSeconds request.signed) ≤ now
  validUntil : now ≤ wholeSeconds request.validUntil
  chain : ∃ leaf, validateChain X request.x5chain trustAnchors now = .ok leaf ∧
    leaf.publicMembers = (signer.toKeyPair X).publicJwk.publicMembers
  signed : ∃ leaf, validateChain X request.x5chain trustAnchors (wholeSeconds request.signed) = .ok leaf

/-- What is verified of an mdoc whose holder discloses these elements. -/
structure Disclosed (X : Crates) (request : IssueRequest) (disclose : List (String × String))
    (v : VerifiedMdoc) : Prop where
  claims : ∀ ns id json, v.claim ns id = some json ↔
    (ns, id) ∈ disclose ∧ IssuedElement X request ns id json
  docType : v.docType = request.docType
  deviceKey : v.deviceKey.publicMembers = request.deviceKey.publicMembers
  signed : v.signed = wholeSeconds request.signed
  validFrom : v.validFrom = max (wholeSeconds request.validFrom) v.signed
  validUntil : v.validUntil = wholeSeconds request.validUntil
  status : v.status = request.status

section Accepted

variable {request : IssueRequest} {signer device : SigningKey} {issued : Bytes}

/-- The dates of an mdoc that is valid now are read back, if their years have four digits. -/
lemma readValidity_msoOf (hdate : Rfc3339 X) {trustAnchors : List Bytes} {now : ℤ}
    (hvalid : ValidAt X request signer trustAnchors now)
    (hyear : wholeSeconds request.validUntil < year10000)
    (hdates : max (wholeSeconds request.validFrom) (wholeSeconds request.signed) <
      wholeSeconds request.validUntil) {ns : List (Namespace X)} {deviceKey : Cbor} :
    readValidity X (msoOf X request ns deviceKey) now = .ok (wholeSeconds request.signed,
      max (wholeSeconds request.validFrom) (wholeSeconds request.signed),
      wholeSeconds request.validUntil) := by
  obtain ⟨hfrom, huntil, -, leaf, hsigned⟩ := hvalid
  obtain ⟨hpos, -⟩ := validateChain_instant hsigned
  have hread : ∀ {t : ℤ} {field : String}, 0 ≤ wholeSeconds t →
      wholeSeconds t ≤ wholeSeconds request.validUntil →
      parseTdate X (tdate X (wholeSeconds t)) field = .ok (wholeSeconds t) := by
    intro t field h0 hle
    refine parseTdate_tdate hdate ?_ (by omega) field
    unfold wholeSeconds seconds timestamp at h0
    omega
  have hmax : ∀ field, parseTdate X (tdate X (max (wholeSeconds request.validFrom)
      (wholeSeconds request.signed))) field =
      .ok (max (wholeSeconds request.validFrom) (wholeSeconds request.signed)) := by
    intro field
    rcases Int.le_total (wholeSeconds request.validFrom) (wholeSeconds request.signed) with h | h
    · rw [Int.max_eq_right h]
      exact hread hpos (by omega)
    · rw [Int.max_eq_left h]
      exact hread (by omega) (by omega)
  simp only [readValidity, bind_eq_ok, require_eq_ok, ensure_eq_ok, exists_unit, pure_eq_ok]
  exact ⟨_, get_msoOf_validityInfo, _, by simp, _, hread hpos (by omega), _, by simp, _, hmax _, _,
    by simp, _, hread (by omega) (by omega), ⟨hfrom, huntil⟩, rfl⟩

/-- What is verified of an mdoc that reveals these elements, under this device key. -/
def revealedMdoc (disclose : List (String × String))
    (i : Issued (X := X) request (signer.toKeyPair X) issued) (jwk : Jwk) : VerifiedMdoc where
  docType := request.docType
  claims := empty.insertGroups ((revealedOf disclose i.namespaces).map claimsOf)
  deviceKey := jwk
  signed := wholeSeconds request.signed
  validFrom := max (wholeSeconds request.validFrom) (wholeSeconds request.signed)
  validUntil := wholeSeconds request.validUntil
  status := request.status
  signerCertificate := request.x5chain.headD []

/-- **The revealed part of an issued mdoc is accepted**, under the device key that is read. -/
lemma verify_revealedMdoc (hb64 : Base64Url X) (hcbor : CborCodec X) (hcose : CoseCodec X)
    (hdate : Rfc3339 X) (hsigner : signer.Correct X)
    (i : Issued (X := X) request (signer.toKeyPair X) issued)
    (hdistinct : ∀ n ∈ request.namespaces, (n.2.map Prod.fst).Nodup) {jwk : Jwk}
    (hjwk : jwkFromCoseKey X i.deviceKey = .ok jwk)
    {trustAnchors : List Bytes} {now : ℤ} (hvalid : ValidAt X request signer trustAnchors now)
    (hyear : wholeSeconds request.validUntil < year10000) {expectedDocType : Option String}
    (hexpected : ∀ t ∈ expectedDocType, t = request.docType) (disclose : List (String × String)) :
    verifyIssuerSignedValue X (revealedSigned disclose i) expectedDocType trustAnchors now =
      .ok (revealedMdoc disclose i jwk) := by
  obtain ⟨sign1, hfrom, hsame⟩ := fromValue_issuerAuth hcose i
  obtain ⟨leaf, hchain, hleaf⟩ := hvalid.chain
  obtain ⟨leaf', hsigned⟩ := hvalid.signed
  have hne : request.x5chain ≠ [] := by
    obtain ⟨der, rest, -, h, -⟩ := validateChain_leaf hchain
    simp [h]
  have hx5chain : issuerX5chain sign1 = .ok request.x5chain := by
    obtain ⟨signature, -, hsign⟩ := sign_eq_ok.mp i.sign_eq
    have hheader : sign1.unprotectedHeader =
        unprotectedHeader [(headerX5chain, x5chainValue request.x5chain)] := by
      rw [hsame.unprotectedHeader, hsign]
    rw [issuerX5chain, hheader, x5chain_x5chainValue hne]
    simp [hne, Except.mapError]
  have hpayload : sign1.payload = some i.payload := by rw [hsame.payload, signed_payload]
  refine verifyIssuerSignedValue_eq_ok.mpr ⟨sign1, _, _, _, ⟨⟨i.issuerAuth, by simp [revealedSigned],
    hfrom⟩, request.x5chain, leaf, leaf', hx5chain, hchain, ?_, hsigned, rfl⟩,
    readMso_of_payload hcbor i hpayload, ⟨?_, ?_, get_msoOf_valueDigests, ?_, ?_⟩,
    elementsChecked_revealed hcbor i hdistinct disclose, rfl⟩
  · exact verify_of_sign hb64.decode_encode hsigner i.sign_eq hsame hleaf
  · cases expectedDocType with
    | none => simp [readDocType, revealedMdoc]
    | some t => simp [readDocType, revealedMdoc, hexpected t rfl]
  · exact readValidity_msoOf hdate hvalid hyear i.dates
  · exact ⟨_, _, get_msoOf_deviceKeyInfo, by simp, hjwk⟩
  · exact parseStatus_msoOf

/-- **What the revealed part of an issued mdoc is accepted as.** -/
lemma verify_revealed (hb64 : Base64Url X) (hcbor : CborCodec X) (hcose : CoseCodec X)
    (hdate : Rfc3339 X) (hsigner : signer.Correct X)
    (i : Issued (X := X) request (signer.toKeyPair X) issued)
    (hdistinct : ∀ n ∈ request.namespaces, (n.2.map Prod.fst).Nodup)
    (hmatch : request.deviceKey.publicMembers = (device.toKeyPair X).publicJwk.publicMembers)
    {trustAnchors : List Bytes} {now : ℤ} (hvalid : ValidAt X request signer trustAnchors now)
    (hyear : wholeSeconds request.validUntil < year10000) {expectedDocType : Option String}
    (hexpected : ∀ t ∈ expectedDocType, t = request.docType) (disclose : List (String × String)) :
    ∃ v, verifyIssuerSignedValue X (revealedSigned disclose i) expectedDocType trustAnchors
      now = .ok v ∧ Disclosed X request disclose v := by
  obtain ⟨jwk, hjwk, hmembers⟩ := jwkFromCoseKey_coseKey hb64.decode_encode hmatch i.coseKey_eq
  have hchecked := elementsChecked_revealed hcbor i hdistinct disclose
  refine ⟨revealedMdoc disclose i jwk, verify_revealedMdoc hb64 hcbor hcose hdate hsigner i hdistinct
    hjwk hvalid hyear hexpected disclose, fun ns id json => ?_, rfl, hmembers.trans hmatch.symm, rfl,
    rfl, rfl, rfl⟩
  rw [claim_eq_some hchecked.distinct rfl]
  exact mem_pairs_revealed i disclose ns id json

def everyElement (ns : List (Namespace X)) : List (String × String) :=
  ns.flatMap fun n => n.2.map fun e => (n.1, e.identifier)

/-- Who discloses every element reveals all the namespaces, unless one is empty. -/
lemma revealedOf_everyElement {ns : List (Namespace X)} (hne : ∀ n ∈ ns, n.2 ≠ []) :
    revealedOf (everyElement ns) ns = ns := by
  have hself : ∀ n ∈ ns, disclosedOf (everyElement ns) n = n := by
    intro n hn
    have hkept : n.2.filter (fun e => (everyElement ns).contains (n.1, e.identifier)) = n.2 := by
      refine List.filter_eq_self.mpr fun e he => ?_
      rw [List.contains_iff_mem, everyElement, List.mem_flatMap]
      exact ⟨n, hn, List.mem_map.mpr ⟨e, he, rfl⟩⟩
    rw [disclosedOf, hkept]
  have hmap : ns.map (disclosedOf (everyElement ns)) = ns := by
    rw [List.map_congr_left hself, List.map_id']
  rw [revealedOf, hmap, List.filter_eq_self]
  intro n hn
  have hn' := hne n hn
  simpa using hn'

/-- **An issued mdoc is accepted** as the wallet receives it. -/
lemma verifyIssuerSigned_issued (hb64 : Base64Url X) (hcbor : CborCodec X) (hcose : CoseCodec X)
    (hdate : Rfc3339 X) (hsigner : signer.Correct X)
    (i : Issued (X := X) request (signer.toKeyPair X) issued)
    (hdistinct : ∀ n ∈ request.namespaces, (n.2.map Prod.fst).Nodup)
    (hne : ∀ n ∈ request.namespaces, n.2 ≠ []) {trustAnchors : List Bytes} {now : ℤ}
    (hvalid : ValidAt X request signer trustAnchors now)
    (hyear : wholeSeconds request.validUntil < year10000) :
    ∃ v, verifyIssuerSigned X issued trustAnchors now = .ok v ∧
      v.signed = wholeSeconds request.signed ∧ v.validUntil = wholeSeconds request.validUntil := by
  obtain ⟨jwk, hjwk⟩ := exists_jwkFromCoseKey i.coseKey_eq
  have hnonempty : ∀ n ∈ i.namespaces, n.2 ≠ [] := by
    intro n hn hnil
    have hmem : elementsOf n ∈ request.namespaces := i.elements ▸ List.mem_map_of_mem hn
    exact hne _ hmem (by simp [elementsOf, hnil])
  have hdecode := hcbor.decode_encode _ _ i.encode_eq
  have hany : ∀ t ∈ (none : Option String), t = request.docType := by simp
  have hall := verify_revealedMdoc hb64 hcbor hcose hdate hsigner i hdistinct hjwk hvalid hyear hany
    (everyElement i.namespaces)
  rw [revealedSigned, revealedOf_everyElement hnonempty] at hall
  refine ⟨revealedMdoc (everyElement i.namespaces) i jwk, ?_, rfl, rfl⟩
  rw [verifyIssuerSigned, decode, hdecode]
  exact hall

/-! ### The device signature -/

lemma deviceAuthenticationBytes_total (hcbor : CborCodec X) (sessionTranscript : Cbor)
    (docType : String) (deviceNameSpaces : Cbor) :
    ∃ bytes, deviceAuthenticationBytes X sessionTranscript docType deviceNameSpaces = .ok bytes := by
  obtain ⟨inner, hinner⟩ := hcbor.total (.array [.text "DeviceAuthentication", sessionTranscript,
    .text docType, deviceNameSpaces])
  obtain ⟨bytes, hbytes⟩ := hcbor.total (.tag tagEncodedCbor (.bytes inner))
  refine ⟨bytes, ?_⟩
  simp only [deviceAuthenticationBytes, bind_eq_ok, embed_eq_ok, encode_eq_ok]
  exact ⟨_, ⟨inner, hinner, rfl⟩, hbytes⟩

lemma signDetached_total (hsigns : device.Signs) (payload : Bytes) :
    ∃ s, signDetached X (device.toKeyPair X) payload = .ok s := by
  obtain ⟨signature, hsign⟩ := SigningKey.sign_total (X := X) hsigns
    (X.coseSigStructure (protectedHeader (device.toKeyPair X) []) payload)
  exact ⟨_, signDetached_eq_ok.mpr ⟨signature, hsign, rfl⟩⟩

lemma fromValue_signDetached (hcose : CoseCodec X) {key : KeyPair} {payload : Bytes} {s : CoseSign1}
    (hs : signDetached X key payload = .ok s) :
    ∃ value s', toValue X s = .ok value ∧ fromValue X value = .ok s' ∧ CoseSame X s s' := by
  obtain ⟨signature, -, rfl⟩ := signDetached_eq_ok.mp hs
  obtain ⟨items, s', hto, hfrom, hsame⟩ := hcose.roundTrip
    ⟨protectedHeader key [], ⟨none, []⟩, none, signature⟩ rfl rfl
    ⟨List.nodup_nil, fun p hp => absurd hp List.not_mem_nil⟩ rfl
  exact ⟨.array items, s', by simp [toValue, hto], by simp [fromValue, hfrom], hsame⟩

lemma readDocuments_deviceResponse (hcbor : CborCodec X) {docType : String}
    {revealed : List (Cbor × Cbor)} {issuerAuth deviceNameSpaces deviceSignature : Cbor}
    {response : Bytes} (h : X.cborEncode (deviceResponse docType revealed issuerAuth deviceNameSpaces
      deviceSignature) = .ok response) :
    readDocuments X response = .ok [.map [(.text "docType", .text docType),
      (.text "issuerSigned", .map [(.text "nameSpaces", .map revealed),
        (.text "issuerAuth", issuerAuth)]),
      (.text "deviceSigned", .map [(.text "nameSpaces", deviceNameSpaces),
        (.text "deviceAuth", .map [(.text "deviceSignature", deviceSignature)])])]] := by
  have hdecode := hcbor.decode_encode _ _ h
  simp only [readDocuments, decode, hdecode, bind_eq_ok, mapError_eq_ok, requireText_eq_ok,
    require_eq_ok, ensure_eq_ok, exists_unit, pure_eq_ok]
  exact ⟨_, rfl, "1.0", by simp [deviceResponse], rfl, _, by simp [deviceResponse]; rfl, rfl, by
    simp [deviceResponse], by simp [deviceResponse]⟩

/-- **An issued mdoc can be presented** by the owner of a device key, for any session. -/
lemma present_issued (hcbor : CborCodec X) (hcose : CoseCodec X) (hsigns : device.Signs)
    (i : Issued (X := X) request (signer.toKeyPair X) issued) (disclose : List (String × String))
    (sessionTranscript : Cbor) :
    ∃ response spaces bytes s value,
      present X issued disclose sessionTranscript (device.toKeyPair X) = .ok response ∧
      deviceAuthenticationBytes X sessionTranscript request.docType spaces = .ok bytes ∧
      signDetached X (device.toKeyPair X) bytes = .ok s ∧ toValue X s = .ok value ∧
      X.cborEncode (deviceResponse request.docType ((revealedOf disclose i.namespaces).map itemsOf)
        i.issuerAuth spaces value) = .ok response := by
  obtain ⟨sign1, hsign1, hsame1⟩ := fromValue_issuerAuth hcose i
  obtain ⟨empty, hempty⟩ := hcbor.total (.map [])
  obtain ⟨bytes, hbytes⟩ := deviceAuthenticationBytes_total hcbor sessionTranscript request.docType
    (.tag tagEncodedCbor (.bytes empty))
  obtain ⟨s, hs⟩ := signDetached_total (X := X) hsigns bytes
  obtain ⟨value, s', hvalue, -, -⟩ := fromValue_signDetached hcose hs
  obtain ⟨response, hresponse⟩ := hcbor.total (deviceResponse request.docType
    ((revealedOf disclose i.namespaces).map itemsOf) i.issuerAuth (.tag tagEncodedCbor (.bytes empty))
    value)
  have hpayload : sign1.payload = some i.payload := by rw [hsame1.payload, signed_payload]
  have hissuerSigned := hcbor.decode_encode _ _ i.encode_eq
  refine ⟨response, _, bytes, s, value, ?_, hbytes, hs, hvalue, hresponse⟩
  simp only [present, decode, hissuerSigned, bind_eq_ok, mapError_eq_ok, require_eq_ok, okOr_eq_ok,
    requireText_eq_ok]
  refine ⟨_, rfl, i.issuerAuth, by simp, sign1, hsign1, i.payload, hpayload, _,
    hcbor.decode_encode _ _ i.encode_payload, msoOf X request i.namespaces i.deviceKey, ?_,
    request.docType, by simp, _, embed_eq_ok.mpr ⟨empty, hempty, rfl⟩, bytes, hbytes, s, hs, value,
    hvalue, ?_⟩
  · simp [unembed, decode, hcbor.decode_encode _ _ i.encode_mso]
  · simp [reveal_eq hcbor, hresponse]

/-- **Selective disclosure is exact.** An issued mdoc, presented by the owner of its device key
for some elements, is accepted for the session it was presented in, and what is verified are
these elements with their values, and what the MSO says. -/
theorem discloses_exactly (hb64 : Base64Url X) (hcbor : CborCodec X) (hcose : CoseCodec X)
    (hdate : Rfc3339 X) (hsigner : signer.Correct X) (hdevice : device.Correct X)
    (hsigns : device.Signs) {draws : Draws}
    (hissued : issue X request (signer.toKeyPair X) draws = .ok issued)
    (hdistinct : ∀ n ∈ request.namespaces, (n.2.map Prod.fst).Nodup)
    (hmatch : request.deviceKey.publicMembers = (device.toKeyPair X).publicJwk.publicMembers)
    {trustAnchors : List Bytes} {now : ℤ} (hvalid : ValidAt X request signer trustAnchors now)
    (hyear : wholeSeconds request.validUntil < year10000) (disclose : List (String × String))
    (sessionTranscript : Cbor) :
    ∃ response v, present X issued disclose sessionTranscript (device.toKeyPair X) = .ok response ∧
      verifyDeviceResponse X response sessionTranscript trustAnchors now = .ok [v] ∧
      Disclosed X request disclose v := by
  obtain ⟨i⟩ := issue_eq_ok hissued
  obtain ⟨v, hv, hdisclosed⟩ := verify_revealed hb64 hcbor hcose hdate hsigner i hdistinct hmatch
    hvalid hyear (fun t ht => (Option.mem_some.mp ht).symm) disclose
  obtain ⟨response, spaces, bytes, s, value, hpresent, hbytes, hs, hvalue, hresponse⟩ :=
    present_issued hcbor hcose hsigns i disclose sessionTranscript
  obtain ⟨_, s', hvalue', hs', hsame⟩ := fromValue_signDetached hcose hs
  rw [hvalue, Except.ok.injEq] at hvalue'
  subst hvalue'
  refine ⟨response, v, hpresent, ?_, hdisclosed⟩
  simp only [verifyDeviceResponse, bind_eq_ok, readDocuments_deviceResponse hcbor hresponse,
    mapM_eq_ok]
  refine ⟨_, rfl, .cons ?_ .nil⟩
  simp only [verifyDocument, bind_eq_ok, requireText_eq_ok, require_eq_ok, mapError_eq_ok,
    exists_unit, pure_eq_ok]
  refine ⟨request.docType, by simp, revealedSigned disclose i, by simp [revealedSigned], v, hv,
    .map [(.text "nameSpaces", spaces), (.text "deviceAuth", .map [(.text "deviceSignature", value)])],
    by simp, spaces, by simp, .map [(.text "deviceSignature", value)], by simp, s', ?_, bytes, hbytes,
    ?_, rfl⟩
  · simp [readDeviceSignature, hs']
  · refine verifyDetached_of_sign hb64.decode_encode hdevice hs hsame ?_
    rw [hdisclosed.deviceKey, hmatch]

/-- An mdoc whose expiry cannot be read back is not accepted. -/
lemma rejected_of_unreadable (hcbor : CborCodec X) (hcose : CoseCodec X)
    (i : Issued (X := X) request (signer.toKeyPair X) issued)
    (hunreadable : X.parseRfc3339 (X.rfc3339Seconds (wholeSeconds request.validUntil)) = none)
    {disclose : List (String × String)} {spaces value : Cbor} {response : Bytes}
    (hresponse : X.cborEncode (deviceResponse request.docType
      ((revealedOf disclose i.namespaces).map itemsOf) i.issuerAuth spaces value) = .ok response)
    (sessionTranscript : Cbor) (trustAnchors : List Bytes) (now : ℤ) (vs : List VerifiedMdoc) :
    verifyDeviceResponse X response sessionTranscript trustAnchors now ≠ .ok vs := by
  intro hvs
  simp only [verifyDeviceResponse, bind_eq_ok, readDocuments_deviceResponse hcbor hresponse,
    mapM_eq_ok, Except.ok.injEq, exists_eq_left'] at hvs
  cases hvs with
  | cons hv _ =>
    simp only [verifyDocument, bind_eq_ok, requireText_eq_ok, require_eq_ok, get_cons,
      String.reduceEq, if_true, if_false, Option.some.injEq, exists_eq_left'] at hv
    obtain ⟨docType, -, v, hv, -⟩ := hv
    obtain ⟨sign1, mso, _, _, hsigned, hmso, hread, -⟩ := verifyIssuerSignedValue_eq_ok.mp hv
    have hcarries : CarriesIssuerAuth X issued (.map [(.text "nameSpaces",
        .map ((revealedOf disclose i.namespaces).map itemsOf)), (.text "issuerAuth", i.issuerAuth)]) :=
      ⟨_, _, hcbor.decode_encode _ _ i.encode_eq, by simp; rfl, by simp⟩
    have hvalidity := hread.validity
    rw [mso_of_carries hcbor hcose i hcarries hsigned hmso] at hvalidity
    simp only [readValidity, bind_eq_ok, require_eq_ok, get_msoOf_validityInfo, Option.some.injEq,
      exists_eq_left', get_cons, String.reduceEq, if_true, if_false] at hvalidity
    obtain ⟨_, -, _, -, _, huntil, -⟩ := hvalidity
    simp [parseTdate, tdate, hunreadable] at huntil

end Accepted

section Sample

def embedded (v : Cbor) : Cbor := .tag tagEncodedCbor (.bytes (CborBytes.encode v))

/-- What a P-256 key signs for a payload. -/
def toBeSigned (payload : Cbor) : Bytes :=
  sigStructure ⟨none, ⟨some (coseAlgorithm .es256), []⟩⟩ (CborBytes.encode payload)

def sampleSalts (i : ℕ) : Bytes :=
  bigEndian 32 (0x8798645b20ea200e19ffabac92624bee6aec63aceedecfb1b80077d22bfc20e9 + i)

/-- September 21, 2026, and a year later. -/
def issuedOn : ℤ := seconds 1789948800

def expiresOn : ℤ := seconds 1821484800

def sampleDates : List (ℤ × String) := [(1789948800, "2026-09-21T00:00:00Z"),
  (1821484800, "2027-09-21T00:00:00Z"), (253402300800, "+10000-01-01T00:00:00Z")]

def sampleStatus : StatusListRef := ⟨7, "https://issuer.example.com/status/mdoc"⟩

def nameDigest : Bytes :=
  bigEndian 32 0x0307b6db9495e30b25b45408a6ed5b54f81f0ef4381bb0b3f2a7bcc410e35c66

def ageDigest : Bytes :=
  bigEndian 32 0xa9c8e3d61ff7b8866cd14d03bcc6371aeb35055a58cc67e4cc5d0165ae18cef5

/-- The MSO over the elements, valid until this instant. -/
def sampleMso (validUntil : ℤ) : Cbor :=
  buildMso (pki [] [] [] sampleDates).crates mdlDoctype
    [(.text mdlNamespace, .map [(digestIdValue 0xdeadbeef, .bytes nameDigest),
      (digestIdValue 0x01234567, .bytes ageDigest)])]
    (.map [(.integer (int 1), .integer (int 2)), (.integer (int (-1)), .integer (int 1)),
      (.integer (int (-2)), .bytes (bigEndian 32 deviceX)),
      (.integer (int (-3)), .bytes (bigEndian 32 deviceY))])
    issuedOn issuedOn validUntil (some sampleStatus)

/-- The digest of the request of a verifier, and the transcript of the session. -/
def handoverDigest : Bytes :=
  bigEndian 32 0x8a7ab9fab88ba21814b90bfb826044b6abe0eb1e30b18ba589f239dc2a4aa783

def sampleTranscript : Cbor :=
  .array [.null, .null, .array [.text "OpenID4VPHandover", .bytes handoverDigest]]

def sampleTable : Table := pki
  [(CborBytes.encode (embedded (itemValue 0xdeadbeef (sampleSalts 0) "family_name"
      (.text "Lovelace"))), nameDigest),
    (CborBytes.encode (embedded (itemValue 0x01234567 (sampleSalts 1) "age_over_18" (.bool true))),
      ageDigest),
    (CborBytes.encode (.array [.text "x509_san_dns:verifier.example.com", .text "n-0S6_WzA2Mj",
      .null, .text "https://verifier.example.com/response/1"]), handoverDigest),
    (CborBytes.encode (.array [.text "x509_san_dns:verifier.example.com", .text "n-1b9fT4Qx8z",
      .null, .text "https://verifier.example.com/response/2"]),
      bigEndian 32 0xb2e081108db54b107e1de6de1d4d6be806f7c033f0fd9f543a35555a769c1c59)]
  [(toBeSigned (embedded (sampleMso expiresOn)),
      bigEndian 32 0xdf14b71e4dadae944da593f8c6d5b1e96d8f43182406c6ca6c21d9f9a06f2b22 ++
        bigEndian 32 0x2b9c0029844edbed2783dd529d895ef906d1fbb3d9964ed9f5ae0b5507d7c2ff),
    (toBeSigned (embedded (sampleMso year10000)),
      bigEndian 32 0x9fd2199c0e107b0927680e3c8ecd3f72258a2ccc6f86dcfa77944ce55683a9ed ++
        bigEndian 32 0x7dcce4211fc913cc5a67e9ac622734e5ffbf4b9e7de58849717ebdf010071bee)]
  [(toBeSigned (embedded (.array [.text "DeviceAuthentication", sampleTranscript,
      .text mdlDoctype, embedded (.map [])])),
      bigEndian 32 0xc608f42e433770089be0d065bd31e22de833636010cd384f1573da4814f88f16 ++
        bigEndian 32 0xdcd2fc9ef835a48fc893efe4c5ee588a5a5ea358fac43afdffa8381d178f3582)]
  sampleDates

def signerKey : SigningKey := sampleTable.key signerX signerY

def deviceKey : SigningKey := sampleTable.key deviceX deviceY

def sampleRequest (validUntil : ℤ) : IssueRequest where
  docType := mdlDoctype
  namespaces := [(mdlNamespace, [("family_name", .text "Lovelace"), ("age_over_18", .bool true)])]
  deviceKey := (deviceKey.toKeyPair sampleTable.crates).publicJwk
  signed := issuedOn
  validFrom := issuedOn
  validUntil := validUntil
  status := some sampleStatus
  x5chain := [signerDer]
  sorted := List.pairwise_singleton _ _

def sampleDraws : Draws := ⟨[0xdeadbeef, 0x01234567], sampleSalts⟩

lemma sampleTable_dated : sampleTable.Dated := ⟨by decide, by decide⟩

lemma sampleTable_distinct : sampleTable.Distinct := ⟨by decide, by decide⟩

lemma sample_sha256_injective : Function.Injective sampleTable.crates.sha256 :=
  extend_injective (by decide) (by decide)

def sampleNow : ℤ := seconds 1790000000

lemma wholeSeconds_issuedOn : wholeSeconds issuedOn = issuedOn := by decide

lemma sample_validAt {validUntil : ℤ} (h : sampleNow ≤ wholeSeconds validUntil) :
    ValidAt sampleTable.crates (sampleRequest validUntil) signerKey [rootDer] sampleNow := by
  have hstart : max issuedOn issuedOn ≤ sampleNow := by decide
  have hchain : ∃ leaf, validateChain sampleTable.crates [signerDer] [rootDer] issuedOn = .ok leaf ∧
      leaf.publicMembers = (signerKey.toKeyPair sampleTable.crates).publicJwk.publicMembers :=
    validateChain_pki rfl (by decide) (by decide)
  refine ⟨?_, h, validateChain_pki rfl (by decide) (by decide), ?_⟩
  · simpa [sampleRequest, wholeSeconds_issuedOn] using hstart
  · obtain ⟨leaf, hleaf, -⟩ := hchain
    exact ⟨leaf, by simpa [sampleRequest, wholeSeconds_issuedOn] using hleaf⟩

lemma sample_distinct (validUntil : ℤ) :
    ∀ n ∈ (sampleRequest validUntil).namespaces, (n.2.map Prod.fst).Nodup := by
  intro n hn
  rw [sampleRequest, List.mem_singleton] at hn
  rw [hn]
  decide

lemma sample_issued {validUntil : ℤ} (h : issuedOn < wholeSeconds validUntil) :
    ∃ issued, issue sampleTable.crates (sampleRequest validUntil)
      (signerKey.toKeyPair sampleTable.crates) sampleDraws = .ok issued := by
  refine issue_total Table.cborCodec Table.coseCodec (Table.key_signs _ _) ?_
    (coseKey_publicJwk Table.base64Url.decode_encode _) (by decide) le_rfl
  simpa [sampleRequest, wholeSeconds_issuedOn] using h

/-- Of two elements, the age is shown, and nothing else. -/
theorem age_shown : ∃ issued response v,
    issue sampleTable.crates (sampleRequest expiresOn) (signerKey.toKeyPair sampleTable.crates)
      sampleDraws = .ok issued ∧
    present sampleTable.crates issued [(mdlNamespace, "age_over_18")] sampleTranscript
      (deviceKey.toKeyPair sampleTable.crates) = .ok response ∧
    verifyDeviceResponse sampleTable.crates response sampleTranscript [rootDer] sampleNow = .ok [v] ∧
    Disclosed sampleTable.crates (sampleRequest expiresOn) [(mdlNamespace, "age_over_18")] v := by
  obtain ⟨issued, hissued⟩ := @sample_issued expiresOn (by decide)
  obtain ⟨response, v, hpresent, hv, hdisclosed⟩ := discloses_exactly Table.base64Url
    Table.cborCodec Table.coseCodec (Table.rfc3339 sampleTable_dated)
    (Table.key_correct signerX signerY) (Table.key_correct deviceX deviceY)
    (Table.key_signs deviceX deviceY) hissued (sample_distinct _) rfl (sample_validAt (by decide))
    (by decide) [(mdlNamespace, "age_over_18")] sampleTranscript
  exact ⟨issued, response, v, hissued, hpresent, hv, hdisclosed⟩

/-- An mdoc that is valid until the year 10000 is presented in vain: its expiry is written with
a year of five digits, which is no RFC 3339 date. -/
theorem far_expiry_rejected : ∃ issued response,
    issue sampleTable.crates (sampleRequest year10000) (signerKey.toKeyPair sampleTable.crates)
      sampleDraws = .ok issued ∧
    (∀ n ∈ (sampleRequest year10000).namespaces, (n.2.map Prod.fst).Nodup) ∧
    ValidAt sampleTable.crates (sampleRequest year10000) signerKey [rootDer] sampleNow ∧
    present sampleTable.crates issued [(mdlNamespace, "age_over_18")] sampleTranscript
      (deviceKey.toKeyPair sampleTable.crates) = .ok response ∧
    ∀ vs, verifyDeviceResponse sampleTable.crates response sampleTranscript [rootDer] sampleNow ≠
      .ok vs := by
  obtain ⟨issued, hissued⟩ := @sample_issued year10000 (by decide)
  obtain ⟨i⟩ := issue_eq_ok hissued
  obtain ⟨response, spaces, bytes, s, value, hpresent, -, -, -, hresponse⟩ :=
    present_issued Table.cborCodec Table.coseCodec (Table.key_signs deviceX deviceY) i
      [(mdlNamespace, "age_over_18")] sampleTranscript
  refine ⟨issued, response, hissued, sample_distinct _, sample_validAt (by decide), hpresent,
    fun vs => ?_⟩
  have hunreadable : sampleTable.crates.parseRfc3339
      (sampleTable.crates.rfc3339Seconds (wholeSeconds year10000)) = none := by
    have hread : sampleTable.readDate (sampleTable.writeDate (wholeSeconds year10000)) = none := by
      decide
    exact hread
  exact rejected_of_unreadable Table.cborCodec Table.coseCodec i hunreadable hresponse _ _ _ vs

end Sample

end Oid4vc.Presented
