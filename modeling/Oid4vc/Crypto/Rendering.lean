import Oid4vc.Codecs
import Oid4vc.Crypto.Mdoc

/-!
What of a data element its rendering keeps. A map becomes an object whose members are sorted by
name: a text key is its own name, any other key goes by its JSON text. So an entry is lost
exactly when the keys of a map, different as they may be, go by one name.
-/

namespace Oid4vc.Rendering

open Oid4vc.JsonValue Oid4vc.Text Oid4vc.CborValue Oid4vc.External Oid4vc.Codecs Oid4vc.Mdoc

variable (X : Crates)

def keyName : Cbor → String
  | .text s => s
  | other => jsonText X (cborToJson X other)

/-- The member that an entry of a map becomes. -/
def rendered (e : Cbor × Cbor) : String × Json := (keyName X e.1, cborToJson X e.2)

mutual

/-- The rendering loses no entry: an array keeps its length and its items, an object has one
member for each entry of the map, with the rendering of its value, and so on inside. -/
def Kept : Cbor → Prop
  | .array items =>
    (∃ values, cborToJson X (.array items) = .arr values ∧ values.length = items.length ∧
      values = items.map (cborToJson X)) ∧ KeptItems items
  | .map entries =>
    (∃ members, cborToJson X (.map entries) = .obj members ∧
      members.Perm (entries.map (rendered X))) ∧ KeptEntries entries
  | .tag t inner => cborToJson X (.tag t inner) = cborToJson X inner ∧ Kept inner
  | _ => True

def KeptItems : List Cbor → Prop
  | [] => True
  | v :: vs => Kept v ∧ KeptItems vs

def KeptEntries : List (Cbor × Cbor) → Prop
  | [] => True
  | (_, v) :: es => Kept v ∧ KeptEntries es

end

mutual

/-- No two keys of a map go by one name, and so on inside. -/
def NamesDistinct : Cbor → Prop
  | .array items => NamesDistinctItems items
  | .map entries => (entries.map fun e => keyName X e.1).Nodup ∧ NamesDistinctEntries entries
  | .tag _ inner => NamesDistinct inner
  | _ => True

def NamesDistinctItems : List Cbor → Prop
  | [] => True
  | v :: vs => NamesDistinct v ∧ NamesDistinctItems vs

def NamesDistinctEntries : List (Cbor × Cbor) → Prop
  | [] => True
  | (_, v) :: es => NamesDistinct v ∧ NamesDistinctEntries es

end

mutual

/-- No two keys of a map are one value, and so on inside, in keys as in values. -/
def KeysDistinct : Cbor → Prop
  | .array items => KeysDistinctItems items
  | .map entries => (entries.map Prod.fst).Nodup ∧ KeysDistinctEntries entries
  | .tag _ inner => KeysDistinct inner
  | _ => True

def KeysDistinctItems : List Cbor → Prop
  | [] => True
  | v :: vs => KeysDistinct v ∧ KeysDistinctItems vs

def KeysDistinctEntries : List (Cbor × Cbor) → Prop
  | [] => True
  | (k, v) :: es => KeysDistinct k ∧ KeysDistinct v ∧ KeysDistinctEntries es

end

mutual

/-- The keys of a map are texts, and so on inside. -/
def TextKeys : Cbor → Prop
  | .array items => TextKeysItems items
  | .map entries => (∀ e ∈ entries, ∃ s, e.1 = .text s) ∧ TextKeysEntries entries
  | .tag _ inner => TextKeys inner
  | _ => True

def TextKeysItems : List Cbor → Prop
  | [] => True
  | v :: vs => TextKeys v ∧ TextKeysItems vs

def TextKeysEntries : List (Cbor × Cbor) → Prop
  | [] => True
  | (_, v) :: es => TextKeys v ∧ TextKeysEntries es

end

variable {X}

lemma entriesToJson_cons (members : List (String × Json)) (e : Cbor × Cbor)
    (es : List (Cbor × Cbor)) :
    entriesToJson X members (e :: es) = entriesToJson X (insertMember members (rendered X e)) es := by
  obtain ⟨k, v⟩ := e
  cases k <;> rfl

lemma itemsToJson_eq_map (items : List Cbor) : itemsToJson X items = items.map (cborToJson X) := by
  induction items with
  | nil => rfl
  | cons v vs ih => rw [itemsToJson, ih, List.map_cons]

/-! ### Members -/

/-- Members are sorted by name, each name once. -/
def Sorted (members : List (String × Json)) : Prop := (members.map Prod.fst).Pairwise (· < ·)

lemma sorted_nil : Sorted [] := List.Pairwise.nil

lemma sorted_insertMember {members : List (String × Json)} (h : Sorted members)
    (m : String × Json) : Sorted (insertMember members m) := by
  unfold Sorted at h ⊢
  rw [List.pairwise_map] at h ⊢
  rw [insertMember, List.pairwise_append, List.pairwise_append]
  refine ⟨⟨h.filter _, List.pairwise_singleton _ _, ?_⟩, h.filter _, ?_⟩
  · intro a ha b hb
    rw [List.mem_singleton.mp hb]
    exact of_decide_eq_true (List.mem_filter.mp ha).2
  · intro a ha b hb
    have hmb : m.1 < b.1 := of_decide_eq_true (List.mem_filter.mp hb).2
    rcases List.mem_append.mp ha with ha | ha
    · exact String.lt_trans (of_decide_eq_true (List.mem_filter.mp ha).2) hmb
    · rw [List.mem_singleton.mp ha]
      exact hmb

lemma sorted_entriesToJson {members : List (String × Json)} (h : Sorted members)
    (entries : List (Cbor × Cbor)) : Sorted (entriesToJson X members entries) := by
  induction entries generalizing members with
  | nil => exact h
  | cons e es ih =>
    rw [entriesToJson_cons]
    exact ih (sorted_insertMember h _)

lemma insertMember_perm {members : List (String × Json)} {m : String × Json}
    (h : m.1 ∉ members.map Prod.fst) : (insertMember members m).Perm (m :: members) := by
  have hsplit : (members.filter (m.1 < ·.1)) = members.filter fun n => !decide (n.1 < m.1) := by
    apply List.filter_congr
    intro n hn
    have hne : n.1 ≠ m.1 := fun heq => h (heq ▸ List.mem_map_of_mem hn)
    rw [← decide_not, decide_eq_decide]
    refine ⟨String.lt_asymm, fun hle => ?_⟩
    by_contra hlt
    exact hne (String.le_antisymm hlt hle)
  have hmiddle : insertMember members m =
      members.filter (·.1 < m.1) ++ m :: members.filter (m.1 < ·.1) := by
    rw [insertMember, List.append_assoc, List.singleton_append]
  rw [hmiddle, hsplit]
  exact List.perm_middle.trans ((List.filter_append_perm _ members).cons m)

/-- **Entries of distinct names are all kept**, with the members that were there before. -/
theorem entriesToJson_perm {members : List (String × Json)} {entries : List (Cbor × Cbor)}
    (hdistinct : (entries.map fun e => keyName X e.1).Nodup)
    (hnew : ∀ e ∈ entries, keyName X e.1 ∉ members.map Prod.fst) :
    (entriesToJson X members entries).Perm (members ++ entries.map (rendered X)) := by
  induction entries generalizing members with
  | nil =>
    rw [List.map_nil, List.append_nil]
    exact List.Perm.refl _
  | cons e es ih =>
    obtain ⟨hhead, htail⟩ := List.nodup_cons.mp hdistinct
    have hinsert := insertMember_perm (m := rendered X e) (hnew e List.mem_cons_self)
    have hnew' : ∀ e' ∈ es, keyName X e'.1 ∉ (insertMember members (rendered X e)).map Prod.fst := by
      intro e' he' hmem
      rcases List.mem_cons.mp ((hinsert.map Prod.fst).mem_iff.mp hmem) with heq | hold
      · exact hhead (List.mem_map.mpr ⟨e', he', heq⟩)
      · exact hnew e' (List.mem_cons_of_mem e he') hold
    rw [entriesToJson_cons]
    refine (ih htail hnew').trans ((hinsert.append_right _).trans ?_)
    exact List.perm_middle.symm

/-- An object has one member for each entry exactly when the names are distinct: otherwise one
of them is overwritten. -/
lemma entries_kept_iff (entries : List (Cbor × Cbor)) :
    (∃ members, cborToJson X (.map entries) = .obj members ∧
      members.Perm (entries.map (rendered X))) ↔ (entries.map fun e => keyName X e.1).Nodup := by
  have hobj : cborToJson X (.map entries) = .obj (entriesToJson X [] entries) := by rw [cborToJson]
  constructor
  · rintro ⟨members, hmembers, hperm⟩
    rw [hobj, Json.obj.injEq] at hmembers
    have hsorted : Sorted (entriesToJson X [] entries) := sorted_entriesToJson sorted_nil entries
    rw [hmembers] at hsorted
    have hnodup : (members.map Prod.fst).Nodup := by
      refine hsorted.imp fun hlt heq => ?_
      exact String.lt_irrefl _ (heq ▸ hlt)
    have hnames := (hperm.map Prod.fst).nodup_iff.mp hnodup
    rwa [List.map_map] at hnames
  · intro hdistinct
    exact ⟨_, hobj, entriesToJson_perm hdistinct fun e _ => List.not_mem_nil⟩

mutual

/-- A rendering loses no entry exactly when in no map two keys go by one name. -/
lemma kept_iff : ∀ v : Cbor, Kept X v ↔ NamesDistinct X v
  | .array items => by
    have hitems : ∃ values, cborToJson X (.array items) = .arr values ∧
        values.length = items.length ∧ values = items.map (cborToJson X) := by
      refine ⟨itemsToJson X items, by rw [cborToJson], ?_, itemsToJson_eq_map items⟩
      rw [itemsToJson_eq_map, List.length_map]
    rw [Kept, NamesDistinct, keptItems_iff items]
    exact ⟨fun h => h.2, fun h => ⟨hitems, h⟩⟩
  | .map entries => by
    rw [Kept, NamesDistinct, entries_kept_iff, keptEntries_iff entries]
  | .tag t inner => by
    rw [Kept, NamesDistinct, kept_iff inner]
    exact ⟨fun h => h.2, fun h => ⟨by rw [cborToJson], h⟩⟩
  | .integer _ => Iff.rfl
  | .bytes _ => Iff.rfl
  | .float _ => Iff.rfl
  | .text _ => Iff.rfl
  | .bool _ => Iff.rfl
  | .null => Iff.rfl

lemma keptItems_iff : ∀ items : List Cbor, KeptItems X items ↔ NamesDistinctItems X items
  | [] => Iff.rfl
  | v :: vs => by rw [KeptItems, NamesDistinctItems, kept_iff v, keptItems_iff vs]

lemma keptEntries_iff : ∀ entries : List (Cbor × Cbor),
    KeptEntries X entries ↔ NamesDistinctEntries X entries
  | [] => Iff.rfl
  | (_, v) :: es => by rw [KeptEntries, NamesDistinctEntries, kept_iff v, keptEntries_iff es]

end

lemma nodup_names {entries : List (Cbor × Cbor)} (hkeys : (entries.map Prod.fst).Nodup)
    (htext : ∀ e ∈ entries, ∃ s, e.1 = .text s) : (entries.map fun e => keyName X e.1).Nodup := by
  have hnames : (entries.map fun e => keyName X e.1) = (entries.map Prod.fst).map (keyName X) := by
    rw [List.map_map]
    rfl
  rw [hnames]
  refine List.Nodup.map_on ?_ hkeys
  intro k hk k' hk' heq
  obtain ⟨e, he, rfl⟩ := List.mem_map.mp hk
  obtain ⟨e', he', rfl⟩ := List.mem_map.mp hk'
  obtain ⟨s, hs⟩ := htext e he
  obtain ⟨s', hs'⟩ := htext e' he'
  rw [hs, hs'] at heq ⊢
  exact congrArg Cbor.text heq

mutual

lemma namesDistinct_of_textKeys : ∀ v : Cbor, KeysDistinct v → TextKeys v → NamesDistinct X v
  | .array items => fun hkeys htext => namesDistinctItems_of_textKeys items hkeys htext
  | .map entries => fun hkeys htext =>
    ⟨nodup_names hkeys.1 htext.1, namesDistinctEntries_of_textKeys entries hkeys.2 htext.2⟩
  | .tag _ inner => fun hkeys htext => namesDistinct_of_textKeys inner hkeys htext
  | .integer _ => fun _ _ => trivial
  | .bytes _ => fun _ _ => trivial
  | .float _ => fun _ _ => trivial
  | .text _ => fun _ _ => trivial
  | .bool _ => fun _ _ => trivial
  | .null => fun _ _ => trivial

lemma namesDistinctItems_of_textKeys : ∀ items : List Cbor, KeysDistinctItems items →
    TextKeysItems items → NamesDistinctItems X items
  | [] => fun _ _ => trivial
  | v :: vs => fun hkeys htext => ⟨namesDistinct_of_textKeys v hkeys.1 htext.1,
      namesDistinctItems_of_textKeys vs hkeys.2 htext.2⟩

lemma namesDistinctEntries_of_textKeys : ∀ entries : List (Cbor × Cbor),
    KeysDistinctEntries entries → TextKeysEntries entries → NamesDistinctEntries X entries
  | [] => fun _ _ => trivial
  | (_, v) :: es => fun hkeys htext => ⟨namesDistinct_of_textKeys v hkeys.2.1 htext.1,
      namesDistinctEntries_of_textKeys es hkeys.2.2 htext.2⟩

end

/-- **A rendering loses no entry** exactly when no two keys of a map go by one name; so it loses
none of a value whose maps have distinct texts as keys. -/
theorem loses_no_entry (v : Cbor) :
    (Kept X v ↔ NamesDistinct X v) ∧ (KeysDistinct v → TextKeys v → Kept X v) :=
  ⟨kept_iff v, fun hkeys htext => (kept_iff v).mpr (namesDistinct_of_textKeys v hkeys htext)⟩

/-- A list of driving privileges, as a licence has it. -/
def privileges : Cbor :=
  .array [.map [(.text "vehicle_category_code", .text "B"),
    (.text "issue_date", .tag tagFullDate (.text "2018-08-09")),
    (.text "codes", .array [.map [(.text "code", .text "01")]])]]

theorem privileges_kept : Kept codecs privileges := by
  refine (loses_no_entry privileges).2 ?_ ?_
  · simp [privileges, KeysDistinct, KeysDistinctItems, KeysDistinctEntries]
  · simp [privileges, TextKeys, TextKeysItems, TextKeysEntries]

/-- Two entries under the text `1` and the number 1, as a valid map has them. -/
def twoOnes : Cbor :=
  .map [(.text "1", .text "first"), (.integer (ofU64 1), .text "second")]

/-- **An entry is lost** although the keys differ: the number goes by the text's name. -/
theorem twoOnes_loses_entry :
    KeysDistinct twoOnes ∧ cborToJson codecs twoOnes = .obj [("1", .str "second")] ∧
      ¬ Kept codecs twoOnes := by
  have hrenamed : rendered codecs (.integer (ofU64 1), .text "second") = ("1", .str "second") := by
    have hname : keyName codecs (.integer (ofU64 1)) = "1" := by decide +kernel
    rw [rendered, hname]
    rfl
  refine ⟨?_, ?_, ?_⟩
  · simp [twoOnes, KeysDistinct, KeysDistinctEntries]
  · have hobj : cborToJson codecs twoOnes = .obj (entriesToJson codecs [] _) := rfl
    rw [hobj, entriesToJson_cons, entriesToJson_cons, hrenamed]
    rfl
  · rw [kept_iff]
    rintro ⟨hnodup, -⟩
    refine (List.nodup_cons.mp hnodup).1 (List.mem_singleton.mpr ?_)
    exact (congrArg Prod.fst hrenamed).symm

end Oid4vc.Rendering
