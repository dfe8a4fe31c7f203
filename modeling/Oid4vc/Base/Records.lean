import Oid4vc.Base.Json

/-!
Records as JSON objects: their members are read by name, whatever order they come in.
-/

namespace Oid4vc.Records

open Oid4vc.JsonValue

mutual

/-- Values that differ in no more than the order of the members of their objects, each of which has
no name twice. -/
inductive Alike : Json → Json → Prop
  | refl (v : Json) : Alike v v
  | arr {vs ws : List Json} (h : AlikeItems vs ws) : Alike (.arr vs) (.arr ws)
  | obj {ms ns ns' : List (String × Json)} (hnodup : (ms.map Prod.fst).Nodup)
    (h : AlikeMembers ms ns) (hperm : ns.Perm ns') : Alike (.obj ms) (.obj ns')

inductive AlikeItems : List Json → List Json → Prop
  | nil : AlikeItems [] []
  | cons {v w : Json} {vs ws : List Json} (h : Alike v w) (hrest : AlikeItems vs ws) :
    AlikeItems (v :: vs) (w :: ws)

inductive AlikeMembers : List (String × Json) → List (String × Json) → Prop
  | nil : AlikeMembers [] []
  | cons (name : String) {v w : Json} {ms ns : List (String × Json)} (h : Alike v w)
    (hrest : AlikeMembers ms ns) : AlikeMembers ((name, v) :: ms) ((name, w) :: ns)

end

abbrev Reader (α : Type) := Json → Option α

variable {α β : Type}

/-- A member that must be there. -/
def required (name : String) (r : Reader α) : Reader α := fun j => (j.get name).bind r

/-- A member that may be missing or null. -/
def optional (name : String) (r : Reader α) : Reader (Option α) := fun j =>
  match j.get name with
  | none => some none
  | some .null => some none
  | some v => (r v).map some

def items (r : Reader α) : Reader (List α)
  | .arr vs => vs.mapM r
  | _ => none

/-- A member that is left out when it is none. -/
def optMember (name : String) (f : α → Json) (value : Option α) : List (String × Json) :=
  (value.map fun v => (name, f v)).toList

/-- The value is read as `a`, whatever order the members of its objects come in. -/
def ReadsBack (r : Reader α) (v : Json) (a : α) : Prop := ∀ w, Alike v w → r w = some a

mutual

/-- Numbers are as a parser leaves them, and no object has a name twice. -/
inductive Readable : Json → Prop
  | plain {v : Json} (h : v.Proper) (hitems : ∀ vs, v ≠ .arr vs) (hmembers : ∀ ms, v ≠ .obj ms) :
    Readable v
  | arr {vs : List Json} (h : ReadableItems vs) : Readable (.arr vs)
  | obj {ms : List (String × Json)} (hnodup : (ms.map Prod.fst).Nodup) (h : ReadableMembers ms) :
    Readable (.obj ms)

inductive ReadableItems : List Json → Prop
  | nil : ReadableItems []
  | cons {v : Json} {vs : List Json} (h : Readable v) (hrest : ReadableItems vs) :
    ReadableItems (v :: vs)

inductive ReadableMembers : List (String × Json) → Prop
  | nil : ReadableMembers []
  | cons (name : String) {v : Json} {ms : List (String × Json)} (h : Readable v)
    (hrest : ReadableMembers ms) : ReadableMembers ((name, v) :: ms)

end

/-! ### Values that are alike -/

lemma AlikeItems.refl : ∀ vs : List Json, AlikeItems vs vs
  | [] => .nil
  | v :: vs => .cons (.refl v) (AlikeItems.refl vs)

lemma AlikeMembers.refl : ∀ ms : List (String × Json), AlikeMembers ms ms
  | [] => .nil
  | (name, v) :: ms => .cons name (.refl v) (AlikeMembers.refl ms)

lemma AlikeMembers.names {ms ns : List (String × Json)} (h : AlikeMembers ms ns) :
    ms.map Prod.fst = ns.map Prod.fst := by
  induction ms generalizing ns with
  | nil => cases h; rfl
  | cons m ms ih =>
    cases h with
    | cons name h hrest => rw [List.map_cons, List.map_cons, ih hrest]

/-- Of a name, both or neither have a member, and these are alike. -/
lemma AlikeMembers.get {ms ns : List (String × Json)} (h : AlikeMembers ms ns) (name : String) :
    ((Json.obj ms).get name = none ∧ (Json.obj ns).get name = none) ∨
      ∃ v w, (Json.obj ms).get name = some v ∧ (Json.obj ns).get name = some w ∧ Alike v w := by
  induction ms generalizing ns with
  | nil => cases h; exact Or.inl ⟨rfl, rfl⟩
  | cons m ms ih =>
    cases h with
    | @cons name' v w _ ns h hrest =>
      by_cases hname : name' = name
      · exact Or.inr ⟨v, w, by simp [Json.get, hname], by simp [Json.get, hname], h⟩
      · have hskip : ∀ (u : Json) (rest : List (String × Json)),
            (Json.obj ((name', u) :: rest)).get name = (Json.obj rest).get name := by
          intro u rest
          simp [Json.get, hname]
        rw [hskip, hskip]
        exact ih hrest

lemma get_perm {ms ns : List (String × Json)} (hnodup : (ms.map Prod.fst).Nodup)
    (hperm : ms.Perm ns) (name : String) : (Json.obj ms).get name = (Json.obj ns).get name := by
  have hnodup' : (ns.map Prod.fst).Nodup := (hperm.map Prod.fst).nodup_iff.mp hnodup
  ext v
  rw [Json.get_obj_eq_some hnodup, Json.get_obj_eq_some hnodup', hperm.mem_iff]

lemma Alike.get {v w : Json} (h : Alike v w) (name : String) :
    (v.get name = none ∧ w.get name = none) ∨
      ∃ v' w', v.get name = some v' ∧ w.get name = some w' ∧ Alike v' w' := by
  cases h with
  | refl v =>
    cases hget : v.get name with
    | none => exact Or.inl ⟨rfl, rfl⟩
    | some v' => exact Or.inr ⟨v', v', rfl, rfl, .refl v'⟩
  | arr h => exact Or.inl ⟨rfl, rfl⟩
  | @obj ms ns ns' hnodup h hperm =>
    rw [h.names] at hnodup
    rw [← get_perm hnodup hperm name]
    exact h.get name

/-! ### Readable values -/

lemma readable_str (s : String) : Readable (.str s) :=
  .plain trivial (fun _ h => by cases h) fun _ h => by cases h

lemma readableItems_map (f : α → Json) (vs : List α) (h : ∀ v ∈ vs, Readable (f v)) :
    ReadableItems (vs.map f) := by
  induction vs with
  | nil => exact .nil
  | cons v vs ih =>
    exact .cons (h v List.mem_cons_self) (ih fun w hw => h w (List.mem_cons_of_mem _ hw))

lemma readable_strings (vs : List String) : Readable (.arr (vs.map .str)) :=
  .arr (readableItems_map .str vs fun v _ => readable_str v)

lemma ReadableMembers.append {ms ns : List (String × Json)} (h : ReadableMembers ms)
    (h' : ReadableMembers ns) : ReadableMembers (ms ++ ns) := by
  induction ms with
  | nil => exact h'
  | cons m ms ih =>
    cases h with
    | cons name h hrest => exact .cons name h (ih hrest)

lemma readableMembers_one {name : String} {v : Json} (h : Readable v) :
    ReadableMembers [(name, v)] := .cons name h .nil

lemma readableMembers_optMember {name : String} {f : α → Json} {value : Option α}
    (h : ∀ v ∈ value, Readable (f v)) : ReadableMembers (optMember name f value) := by
  cases value with
  | none => exact .nil
  | some v => exact readableMembers_one (h v rfl)

lemma names_optMember (name : String) (f : α → Json) (value : Option α) :
    ((optMember name f value).map Prod.fst).Sublist [name] := by
  cases value with
  | none => exact List.nil_sublist _
  | some v => exact List.Sublist.refl _

lemma names_append {ms ns : List (String × Json)} {names names' : List String}
    (h : (ms.map Prod.fst).Sublist names) (h' : (ns.map Prod.fst).Sublist names') :
    ((ms ++ ns).map Prod.fst).Sublist (names ++ names') := by
  rw [List.map_append]
  exact h.append h'

lemma readable_obj {ms : List (String × Json)} {names : List String} (h : ReadableMembers ms)
    (hnames : (ms.map Prod.fst).Sublist names) (hnodup : names.Nodup) : Readable (.obj ms) :=
  .obj (hnodup.sublist hnames) h

/-! ### Members -/

lemma get_append (ms ns : List (String × Json)) (name : String) :
    (Json.obj (ms ++ ns)).get name = ((Json.obj ms).get name).or ((Json.obj ns).get name) := by
  simp only [Json.get, List.find?_append]
  cases ms.find? fun m => m.1 == name <;> rfl

lemma get_cons (name' name : String) (v : Json) (ms : List (String × Json)) :
    (Json.obj ((name', v) :: ms)).get name =
      if name' = name then some v else (Json.obj ms).get name := by
  by_cases h : name' = name
  · simp [Json.get, h]
  · simp [Json.get, h]

lemma get_nil (name : String) : (Json.obj []).get name = none := rfl

lemma get_optMember (name' name : String) (f : α → Json) (value : Option α) :
    (Json.obj (optMember name' f value)).get name = if name' = name then value.map f else none := by
  cases value with
  | none => simp [optMember, Json.get]
  | some v => rw [optMember, Option.map_some, Option.toList_some, get_cons, get_nil, Option.map_some]

/-! ### Reading back -/

lemma readsBack_str (s : String) : ReadsBack Json.asStr (.str s) s := by
  intro w h
  cases h
  rfl

lemma readsBack_scalar {v : Json} (hitems : ∀ vs, v ≠ .arr vs) (hmembers : ∀ ms, v ≠ .obj ms) :
    ReadsBack some v v := by
  intro w h
  cases h with
  | refl v => rfl
  | arr h => exact absurd rfl (hitems _)
  | obj hnodup h hperm => exact absurd rfl (hmembers _)

lemma readsBack_required {r : Reader α} {name : String} {j v : Json} {a : α}
    (hget : j.get name = some v) (h : ReadsBack r v a) : ReadsBack (required name r) j a := by
  intro w hw
  unfold required
  rcases hw.get name with ⟨hv, -⟩ | ⟨v', w', hv, hw', h'⟩
  · rw [hget] at hv
    cases hv
  · obtain rfl : v = v' := Option.some.inj (hget.symm.trans hv)
    rw [hw', Option.bind_some, h w' h']

lemma optional_of_get {r : Reader α} {name : String} {j v : Json} (h : j.get name = some v)
    (hnull : v ≠ .null) : optional name r j = (r v).map some := by
  unfold optional
  rw [h]
  cases v with
  | null => exact absurd rfl hnull
  | bool | num | str | arr | obj => rfl

lemma Alike.ne_null {v w : Json} (h : Alike v w) (hv : v ≠ .null) : w ≠ .null := by
  cases h with
  | refl v => exact hv
  | arr h => simp
  | obj hnodup h hperm => simp

lemma readsBack_optional {r : Reader α} (f : α → Json) {name : String} {j : Json}
    (value : Option α) (hget : j.get name = value.map f) (hnull : ∀ v ∈ value, f v ≠ .null)
    (h : ∀ v ∈ value, ReadsBack r (f v) v) : ReadsBack (optional name r) j value := by
  intro w hw
  cases value with
  | none =>
    rcases hw.get name with ⟨-, hnone⟩ | ⟨v', w', hv, -, -⟩
    · unfold optional
      rw [hnone]
    · rw [hget] at hv
      cases hv
  | some v =>
    rcases hw.get name with ⟨hnone, -⟩ | ⟨v', w', hv, hw', h'⟩
    · rw [hget] at hnone
      cases hnone
    · obtain rfl : f v = v' := Option.some.inj (hget.symm.trans hv)
      rw [optional_of_get hw' (h'.ne_null (hnull v rfl)), h v rfl w' h', Option.map_some]

lemma readsBack_optString {name : String} {j : Json} (value : Option String)
    (hget : j.get name = value.map .str) : ReadsBack (optional name Json.asStr) j value :=
  readsBack_optional .str value hget (by simp) fun v _ => readsBack_str v

lemma readsBack_items {r : Reader α} (f : α → Json) (vs : List α)
    (h : ∀ v ∈ vs, ReadsBack r (f v) v) : ReadsBack (items r) (.arr (vs.map f)) vs := by
  have hitems : ∀ {vs : List α} {ws : List Json}, (∀ v ∈ vs, ReadsBack r (f v) v) →
      AlikeItems (vs.map f) ws → ws.mapM r = some vs := by
    intro vs
    induction vs with
    | nil =>
      intro ws _ hws
      cases hws
      rfl
    | cons v vs ih =>
      intro ws h hws
      rw [List.map_cons] at hws
      cases hws with
      | @cons _ w _ ws hvw hrest =>
        rw [List.mapM_cons, h v List.mem_cons_self w hvw,
          ih (fun u hu => h u (List.mem_cons_of_mem _ hu)) hrest]
        rfl
  intro w hw
  cases hw with
  | refl => exact hitems h (AlikeItems.refl _)
  | arr hws => exact hitems h hws

lemma readsBack_strings (vs : List String) : ReadsBack (items Json.asStr) (.arr (vs.map .str)) vs :=
  readsBack_items .str vs fun v _ => readsBack_str v

lemma readsBack_bind {r : Reader α} {f : α → Reader β} {j : Json} {a : α} {b : β}
    (hr : ReadsBack r j a) (hf : ReadsBack (f a) j b) :
    ReadsBack (fun j => (r j).bind fun a => f a j) j b := by
  intro w h
  simp only [hr w h, Option.bind_some]
  exact hf w h

lemma readsBack_pure (j : Json) (a : α) : ReadsBack (fun _ => some a) j a := fun _ _ => rfl

end Oid4vc.Records
