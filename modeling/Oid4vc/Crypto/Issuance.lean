import Oid4vc.Crypto.Mdoc

/-!
What an issued mdoc is made of: the elements of each namespace with their digests, the MSO over
the digests, and the signature over the MSO.
-/

namespace Oid4vc.Issuance

open Oid4vc.JsonValue Oid4vc.Fallible Oid4vc.CborValue Oid4vc.External Oid4vc.Codecs Oid4vc.Keys
open Oid4vc.Cose Oid4vc.Mdoc

variable (X : Crates)

/-- An element as it is issued, with the encodings of its item, inside the tag and with it. -/
structure Entry where
  id : BitVec 32
  random : Bytes
  identifier : String
  value : Cbor
  inner : Bytes
  outer : Bytes
  encodes : X.cborEncode (itemValue id random identifier value) = .ok inner
  embeds : X.cborEncode (.tag tagEncodedCbor (.bytes inner)) = .ok outer

variable {X}

namespace Entry

/-- The item as the holder gets it. -/
def item (e : Entry X) : Cbor := .tag tagEncodedCbor (.bytes e.inner)

/-- The entry of the MSO. -/
def digest (e : Entry X) : Cbor × Cbor := (digestIdValue e.id, .bytes (X.sha256 e.outer))

def element (e : Entry X) : String × Cbor := (e.identifier, e.value)

/-- The element as a relying party sees it. -/
def claim (e : Entry X) : String × Json := (e.identifier, cborToJson X e.value)

lemma unembed_item (hcbor : CborCodec X) (e : Entry X) :
    unembed X e.item = .ok (itemValue e.id e.random e.identifier e.value) := by
  simp [unembed, item, decode, hcbor.decode_encode _ _ e.encodes]

end Entry

abbrev Namespace (X : Crates) := String × List (Entry X)

def itemsOf (n : Namespace X) : Cbor × Cbor := (.text n.1, .array (n.2.map Entry.item))

def digestsOf (n : Namespace X) : Cbor × Cbor := (.text n.1, .map (n.2.map Entry.digest))

def elementsOf (n : Namespace X) : String × List (String × Cbor) := (n.1, n.2.map Entry.element)

/-! ### The elements -/

lemma drawDigestId_fresh {used ids ids' : List (BitVec 32)} {id : BitVec 32}
    (h : drawDigestId used ids = .ok (id, ids')) : id ∉ used := by
  induction ids with
  | nil => simp [drawDigestId] at h
  | cons i ids ih =>
    rw [drawDigestId] at h
    split_ifs at h with hi
    · exact ih h
    · simp only [Except.ok.injEq, Prod.mk.injEq] at h
      rw [← h.1]
      exact hi

lemma issueItem_eq_ok {id : BitVec 32} {random : Bytes} {identifier : String} {value item : Cbor}
    {digest : Cbor × Cbor} (h : issueItem X id random identifier value = .ok (item, digest)) :
    ∃ e : Entry X, e.id = id ∧ e.element = (identifier, value) ∧ e.item = item ∧
      e.digest = digest := by
  simp only [issueItem, embed, encode, bind_eq_ok, mapError_eq_ok, pure_eq_ok] at h
  obtain ⟨_, ⟨inner, hinner, rfl⟩, outer, houter, h⟩ := h
  obtain ⟨rfl, rfl⟩ := Prod.mk.inj h
  exact ⟨⟨id, random, identifier, value, inner, outer, hinner, houter⟩, rfl, rfl, rfl, rfl⟩

/-- **The items of a namespace**: one for each element, under digest ids that differ. -/
lemma issueItems_eq_ok {elements : List (String × Cbor)} :
    ∀ {used : List (BitVec 32)} {draws draws' : Draws} {items : List Cbor}
      {digests : List (Cbor × Cbor)},
      issueItems X used elements draws = .ok (items, digests, draws') →
      ∃ es : List (Entry X), es.map Entry.element = elements ∧ es.map Entry.item = items ∧
        es.map Entry.digest = digests ∧ (es.map Entry.id).Nodup ∧ ∀ e ∈ es, e.id ∉ used := by
  induction elements with
  | nil =>
    intro used draws draws' items digests h
    simp only [issueItems, Except.ok.injEq, Prod.mk.injEq] at h
    obtain ⟨rfl, rfl, -⟩ := h
    exact ⟨[], rfl, rfl, rfl, List.nodup_nil, by simp⟩
  | cons element elements ih =>
    intro used draws draws' items digests h
    obtain ⟨identifier, value⟩ := element
    simp only [issueItems, bind_eq_ok, mapError_eq_ok, pure_eq_ok] at h
    obtain ⟨⟨id, ids⟩, hid, ⟨item, digest⟩, hitem, ⟨items', digests', rest⟩, hrest, h⟩ := h
    simp only [Prod.mk.injEq] at h
    obtain ⟨rfl, rfl, -⟩ := h
    obtain ⟨e, rfl, helement, rfl, rfl⟩ := issueItem_eq_ok hitem
    obtain ⟨es, rfl, rfl, rfl, hnodup, hfresh⟩ := ih hrest
    refine ⟨e :: es, by rw [List.map_cons, helement], rfl, rfl, ?_, ?_⟩
    · rw [List.map_cons, List.nodup_cons, List.mem_map]
      refine ⟨?_, hnodup⟩
      rintro ⟨e', he', heq⟩
      exact hfresh e' he' (heq ▸ List.mem_cons_self)
    · intro e' he'
      rcases List.mem_cons.mp he' with rfl | he'
      · exact drawDigestId_fresh hid
      · exact fun hmem => hfresh e' he' (List.mem_cons_of_mem _ hmem)

/-- **The namespaces** of the items and of the digests. -/
lemma issueNamespaces_eq_ok {namespaces : List (String × List (String × Cbor))} :
    ∀ {draws : Draws} {nameSpaces valueDigests : List (Cbor × Cbor)},
      issueNamespaces X namespaces draws = .ok (nameSpaces, valueDigests) →
      ∃ ns : List (Namespace X), ns.map elementsOf = namespaces ∧ ns.map itemsOf = nameSpaces ∧
        ns.map digestsOf = valueDigests ∧ ∀ n ∈ ns, (n.2.map Entry.id).Nodup := by
  induction namespaces with
  | nil =>
    intro draws nameSpaces valueDigests h
    simp only [issueNamespaces, Except.ok.injEq, Prod.mk.injEq] at h
    obtain ⟨rfl, rfl⟩ := h
    exact ⟨[], rfl, rfl, rfl, by simp⟩
  | cons entry namespaces ih =>
    intro draws nameSpaces valueDigests h
    obtain ⟨name, elements⟩ := entry
    simp only [issueNamespaces, bind_eq_ok, pure_eq_ok] at h
    obtain ⟨⟨items, digests, rest⟩, hitems, ⟨nameSpaces', valueDigests'⟩, hrest, h⟩ := h
    simp only [Prod.mk.injEq] at h
    obtain ⟨rfl, rfl⟩ := h
    obtain ⟨es, rfl, rfl, rfl, hnodup, -⟩ := issueItems_eq_ok hitems
    obtain ⟨ns, rfl, rfl, rfl, hns⟩ := ih hrest
    refine ⟨(name, es) :: ns, rfl, rfl, rfl, fun n hn => ?_⟩
    rcases List.mem_cons.mp hn with rfl | hn
    · exact hnodup
    · exact hns n hn

/-! ### The signed MSO -/

/-- The MSO of a request whose elements were issued so. -/
def msoOf (X : Crates) (request : IssueRequest) (ns : List (Namespace X)) (deviceKey : Cbor) : Cbor :=
  buildMso X request.docType (ns.map digestsOf) deviceKey (wholeSeconds request.signed)
    (max (wholeSeconds request.validFrom) (wholeSeconds request.signed))
    (wholeSeconds request.validUntil) request.status

/-- An mdoc as `issue` returns it: its elements, the MSO with the device key, and what was
signed. -/
structure Issued (request : IssueRequest) (signer : KeyPair) (bytes : Bytes) where
  namespaces : List (Namespace X)
  deviceKey : Cbor
  embedded : Bytes
  payload : Bytes
  sign1 : CoseSign1
  issuerAuth : Cbor
  dates : max (wholeSeconds request.validFrom) (wholeSeconds request.signed) <
    wholeSeconds request.validUntil
  elements : namespaces.map elementsOf = request.namespaces
  ids : ∀ n ∈ namespaces, (n.2.map Entry.id).Nodup
  coseKey_eq : coseKey X request.deviceKey = .ok deviceKey
  encode_mso : X.cborEncode (msoOf X request namespaces deviceKey) = .ok embedded
  encode_payload : X.cborEncode (.tag tagEncodedCbor (.bytes embedded)) = .ok payload
  sign_eq : sign X signer payload [] [(headerX5chain, x5chainValue request.x5chain)] = .ok sign1
  toValue_eq : toValue X sign1 = .ok issuerAuth
  encode_eq : X.cborEncode (.map [(.text "nameSpaces", .map (namespaces.map itemsOf)),
    (.text "issuerAuth", issuerAuth)]) = .ok bytes

/-- **What `issue` returns.** -/
theorem issue_eq_ok {request : IssueRequest} {signer : KeyPair} {draws : Draws} {bytes : Bytes}
    (h : issue X request signer draws = .ok bytes) : Nonempty (Issued (X := X) request signer bytes) := by
  simp only [issue, bind_eq_ok, ensure_eq_ok, exists_unit, mapError_eq_ok, sealMdoc, embed, encode,
    pure_eq_ok] at h
  obtain ⟨hdates, ⟨nameSpaces, valueDigests⟩, hns, deviceKey, hkey, _, ⟨embedded, hembedded, rfl⟩,
    payload, hpayload, sign1, hsign, issuerAuth, hvalue, hbytes⟩ := h
  obtain ⟨ns, helements, rfl, rfl, hids⟩ := issueNamespaces_eq_ok hns
  exact ⟨⟨ns, deviceKey, embedded, payload, sign1, issuerAuth, hdates, helements, hids, hkey,
    hembedded, hpayload, hsign, hvalue, hbytes⟩⟩

end Oid4vc.Issuance
