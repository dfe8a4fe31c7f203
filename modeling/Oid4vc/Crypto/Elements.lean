import Oid4vc.Crypto.Issuance

/-!
What the elements of an `IssuerSigned` structure must satisfy to be accepted, and the claims
they make up.
-/

namespace Oid4vc.Elements

open Oid4vc.JsonValue Oid4vc.Fallible Oid4vc.PartialMap Oid4vc.CborValue Oid4vc.External
open Oid4vc.Codecs Oid4vc.Keys Oid4vc.Cose Oid4vc.Mdoc Oid4vc.Issuance

variable (X : Crates)

/-- An item that matches a signed digest, and stands for this element. -/
structure ItemChecked (digests itemBytes : Cbor) (element : String × Json) : Prop where
  mk ::
  checked : ∃ item digestId bytes value, unembed X itemBytes = .ok item ∧
    (get item "elementIdentifier").bind Cbor.asText = some element.1 ∧
    (get item "digestID").bind Cbor.asInteger = some digestId ∧
    X.cborEncode itemBytes = .ok bytes ∧ signedDigest digests digestId = some (X.sha256 bytes) ∧
    get item "elementValue" = some value ∧ element.2 = cborToJson X value

/-- An entry of `nameSpaces` whose items match the digests of its namespace, and stand for these
elements. -/
structure NamespaceChecked (valueDigests : Cbor) (entry : Cbor × Cbor)
    (group : String × List (String × Json)) : Prop where
  name : entry.1.asText = some group.1
  checked : ∃ digests items, get valueDigests group.1 = some digests ∧
    entry.2.asArray = some items ∧ List.Forall₂ (ItemChecked X digests) items group.2

/-- The entries of `nameSpaces`, if there are any. -/
def nameSpacesOf (issuerSigned : Cbor) : List (Cbor × Cbor) :=
  ((get issuerSigned "nameSpaces").bind Cbor.asMap).getD []

/-- All elements of an `IssuerSigned` structure are checked, and stand for these. -/
structure ElementsChecked (issuerSigned valueDigests : Cbor)
    (groups : List (String × List (String × Json))) : Prop where
  map : ∀ v, get issuerSigned "nameSpaces" = some v → ∃ entries, v.asMap = some entries
  checked : List.Forall₂ (NamespaceChecked X valueDigests) (nameSpacesOf issuerSigned) groups
  distinct : ((pairs groups).map Prod.fst).Nodup

variable {X}

@[simp] lemma encode_eq_ok {v : Cbor} {bytes : Bytes} :
    encode X v = .ok bytes ↔ X.cborEncode v = .ok bytes := mapError_eq_ok

@[simp] lemma embed_eq_ok {v w : Cbor} :
    embed X v = .ok w ↔ ∃ bytes, X.cborEncode v = .ok bytes ∧ .tag tagEncodedCbor (.bytes bytes) = w := by
  simp only [embed, bind_eq_ok, encode_eq_ok, pure_eq_ok]

@[simp] lemma get_cons (k : String) (v : Cbor) (es : List (Cbor × Cbor)) (key : String) :
    get (.map ((.text k, v) :: es)) key = if k = key then some v else get (.map es) key := by
  by_cases h : k = key
  · simp [Mdoc.get, h]
  · simp [Mdoc.get, h]

@[simp] lemma get_nil (key : String) : get (.map []) key = none := rfl

@[simp] lemma require_eq_ok {map v : Cbor} {key context : String} :
    require map key context = .ok v ↔ get map key = some v := okOr_eq_ok

@[simp] lemma requireText_eq_ok {map : Cbor} {key context s : String} :
    requireText map key context = .ok s ↔ (get map key).bind Cbor.asText = some s := by
  simp [requireText, Option.bind_eq_some_iff]

/-- **The loop over the items of a namespace.** -/
lemma verifyItems_eq_ok {ns : String} {digests : Cbor} {items : List Cbor} :
    ∀ {elements result : PMap String Json},
      verifyItems X ns digests items elements = .ok result ↔
        ∃ es, List.Forall₂ (ItemChecked X digests) items es ∧ (es.map Prod.fst).Nodup ∧
          (∀ e ∈ es, elements.get e.1 = none) ∧ result = elements.insertAll es := by
  induction items with
  | nil =>
    intro elements result
    simp only [verifyItems, Except.ok.injEq, List.forall₂_nil_left_iff, exists_eq_left,
      List.map_nil, List.nodup_nil, List.not_mem_nil, false_imp_iff, implies_true, true_and,
      insertAll_nil]
    exact eq_comm
  | cons itemBytes items ih =>
    intro elements result
    simp only [verifyItems, bind_eq_ok, ensure_eq_ok, exists_unit, ih, require_eq_ok,
      requireText_eq_ok, okOr_eq_ok, encode, mapError_eq_ok, Option.isNone_iff_eq_none]
    constructor
    · rintro ⟨item, hitem, identifier, hid, _, hget, digestId, hint, bytes, hbytes, hdigest, value,
        hvalue, hnone, es, hes, hnodup, hnew, rfl⟩
      refine ⟨(identifier, cborToJson X value) :: es, .cons ⟨item, digestId, bytes, value, hitem, hid,
        by simp [hget, hint], hbytes, hdigest, hvalue, rfl⟩ hes, ?_, ?_, rfl⟩
      · rw [List.map_cons, List.nodup_cons, List.mem_map]
        refine ⟨?_, hnodup⟩
        rintro ⟨e, he, heq⟩
        have := hnew e he
        rw [heq, get_insert_self] at this
        cases this
      · intro e he
        rcases List.mem_cons.mp he with rfl | he
        · exact hnone
        · have := hnew e he
          -- what is new to the map with this element is not this element
          by_cases heq : e.1 = identifier
          · rw [heq, get_insert_self] at this
            cases this
          · rwa [get_insert_of_ne _ _ heq] at this
    · rintro ⟨es, hes, hnodup, hnew, rfl⟩
      cases hes with
      | @cons _ e _ es hitem hes =>
        obtain ⟨⟨item, digestId, bytes, value, hitem, hid, hint, hbytes, hdigest, hvalue, hjson⟩⟩ :=
          hitem
        obtain ⟨identifier, json⟩ := e
        simp only at hid hjson
        subst hjson
        rw [List.map_cons, List.nodup_cons, List.mem_map] at hnodup
        obtain ⟨v, hget, hint⟩ := Option.bind_eq_some_iff.mp hint
        refine ⟨item, hitem, identifier, hid, v, hget, digestId, hint, bytes, hbytes, hdigest,
          value, hvalue, hnew _ List.mem_cons_self, es, hes, hnodup.2, fun e he => ?_, rfl⟩
        rw [get_insert_of_ne]
        · exact hnew e (List.mem_cons_of_mem _ he)
        · exact fun heq => hnodup.1 ⟨e, he, heq⟩

lemma get_getD {claims : PMap String (PMap String Json)} {ns name : String} :
    ((claims.get ns).getD empty).get name = none ↔ claims.flat.get (ns, name) = none := by
  rw [get_flat]
  cases claims.get ns <;> simp

/-- **The loop over the namespaces**, in which a namespace may come again. -/
lemma verifyNameSpaces_eq_ok {valueDigests : Cbor} {nameSpaces : List (Cbor × Cbor)} :
    ∀ {claims result : PMap String (PMap String Json)},
      verifyNameSpaces X valueDigests nameSpaces claims = .ok result ↔
        ∃ groups, List.Forall₂ (NamespaceChecked X valueDigests) nameSpaces groups ∧
          ((pairs groups).map Prod.fst).Nodup ∧
          (∀ p ∈ pairs groups, claims.flat.get p.1 = none) ∧
          result = claims.insertGroups groups := by
  induction nameSpaces with
  | nil =>
    intro claims result
    simp only [verifyNameSpaces, Except.ok.injEq, List.forall₂_nil_left_iff, exists_eq_left, pairs,
      List.flatMap_nil, List.map_nil, List.nodup_nil, List.not_mem_nil, false_imp_iff,
      implies_true, true_and, insertGroups_nil]
    exact eq_comm
  | cons entry nameSpaces ih =>
    intro claims result
    obtain ⟨ns, items⟩ := entry
    simp only [verifyNameSpaces, bind_eq_ok, okOr_eq_ok, verifyItems_eq_ok]
    have hflat : ∀ {name : String} {es : List (String × Json)},
        (claims.insert name (((claims.get name).getD empty).insertAll es)).flat =
          claims.flat.insertAll (es.map fun e => ((name, e.1), e.2)) :=
      fun {name} {es} => flat_insertUnder claims name es
    constructor
    · rintro ⟨name, hname, digests, hdigests, items', hitems, elements, ⟨es, hes, hnodup, hnew, rfl⟩,
        hrest⟩
      -- the rest of the loop starts with the claims of this namespace in place
      obtain ⟨groups, hgroups, hdistinct, hfresh, rfl⟩ := ih.mp hrest
      rw [hflat] at hfresh
      refine ⟨(name, es) :: groups, .cons ⟨hname, digests, items', hdigests, hitems, hes⟩ hgroups, ?_,
        ?_, rfl⟩
      · rw [pairs_cons, List.map_append, List.nodup_append]
        refine ⟨nodup_group.mpr hnodup, hdistinct, fun k hk k' hk' => ?_⟩
        obtain ⟨p, hp, rfl⟩ := List.mem_map.mp hk'
        rintro rfl
        exact (get_insertAll_eq_none.mp (hfresh p hp)).1 hk
      · intro p hp
        rw [pairs_cons, List.mem_append] at hp
        rcases hp with hp | hp
        · obtain ⟨e, he, rfl⟩ := List.mem_map.mp hp
          exact get_getD.mp (hnew e he)
        · exact (get_insertAll_eq_none.mp (hfresh p hp)).2
    · rintro ⟨groups, hgroups, hdistinct, hfresh, rfl⟩
      cases hgroups with
      | @cons _ g _ groups hg hgroups =>
        obtain ⟨name, es⟩ := g
        obtain ⟨hname, digests, items', hdigests, hitems, hes⟩ := hg
        rw [pairs_cons, List.map_append, List.nodup_append] at hdistinct
        obtain ⟨hnodup, hdistinct, hdisjoint⟩ := hdistinct
        refine ⟨name, hname, digests, hdigests, items', hitems, _, ⟨es, hes, nodup_group.mp hnodup,
          fun e he => ?_, rfl⟩, ih.mpr ⟨groups, hgroups, hdistinct, fun p hp => ?_, rfl⟩⟩
        · refine get_getD.mpr (hfresh ((name, e.1), e.2) ?_)
          rw [pairs_cons]
          exact List.mem_append_left _ (List.mem_map_of_mem he)
        · -- a later element is new also to those of this namespace
          rw [hflat, get_insertAll_eq_none]
          refine ⟨fun hk => hdisjoint _ hk _ (List.mem_map_of_mem hp) rfl, hfresh p ?_⟩
          rw [pairs_cons]
          exact List.mem_append_right _ hp

/-- **What the elements must satisfy, and the claims they make up.** -/
theorem verifyElements_eq_ok {issuerSigned valueDigests : Cbor}
    {claims : PMap String (PMap String Json)} :
    verifyElements X issuerSigned valueDigests = .ok claims ↔
      ∃ groups, ElementsChecked X issuerSigned valueDigests groups ∧
        claims = empty.insertGroups groups := by
  have hempty : ∀ groups : List (String × List (String × Json)), ∀ p ∈ pairs groups,
      (empty : PMap String (PMap String Json)).flat.get p.1 = none := by
    intro groups p _
    rw [flat_empty, get_empty]
  unfold verifyElements
  cases hget : get issuerSigned "nameSpaces" with
  | none =>
    have hnone : nameSpacesOf issuerSigned = [] := by simp [nameSpacesOf, hget]
    constructor
    · rintro ⟨⟩
      refine ⟨[], ⟨fun v hv => ?_, ?_, List.nodup_nil⟩, rfl⟩
      · rw [hget] at hv
        cases hv
      · rw [hnone]
        exact .nil
    · rintro ⟨groups, ⟨-, hgroups, -⟩, rfl⟩
      rw [hnone, List.forall₂_nil_left_iff] at hgroups
      rw [hgroups]
      rfl
  | some v =>
    simp only [bind_eq_ok, okOr_eq_ok, verifyNameSpaces_eq_ok]
    constructor
    · rintro ⟨entries, hentries, groups, hgroups, hdistinct, -, rfl⟩
      have hsome : nameSpacesOf issuerSigned = entries := by simp [nameSpacesOf, hget, hentries]
      refine ⟨groups, ⟨fun w hw => ⟨entries, ?_⟩, hsome ▸ hgroups, hdistinct⟩, rfl⟩
      rw [hget, Option.some.injEq] at hw
      rw [← hw, hentries]
    · rintro ⟨groups, ⟨hmap, hgroups, hdistinct⟩, rfl⟩
      obtain ⟨entries, hentries⟩ := hmap v hget
      have hsome : nameSpacesOf issuerSigned = entries := by simp [nameSpacesOf, hget, hentries]
      rw [hsome] at hgroups
      exact ⟨entries, hentries, groups, hgroups, hdistinct, hempty groups, rfl⟩

end Oid4vc.Elements
