import Mathlib.Data.List.Basic
import Mathlib.Data.List.Infix

/-!
Escaping over any alphabet: special characters are replaced by entities, one character after
the other or all at once, and the entities are read back.
-/

namespace Oid4vc.Escape

variable {α : Type*} [DecidableEq α]

/-- Every occurrence of a character replaced. -/
def replaceAll (c : α) (entity cs : List α) : List α :=
  cs.flatMap fun d => if d = c then entity else [d]

/-- One replacement after the other, each in the output of those before it. -/
def replaceEach (entities : List (α × List α)) (cs : List α) : List α :=
  entities.foldl (fun cs e => replaceAll e.1 e.2 cs) cs

/-- What a character is replaced by: its entity, if it is special. -/
def entityOf (entities : List (α × List α)) (c : α) : List α := (entities.lookup c).getD [c]

/-- All replacements in one pass. -/
def escape (entities : List (α × List α)) (cs : List α) : List α := cs.flatMap (entityOf entities)

/-- Entities read back, past so many characters that are left out. -/
def unescapeFrom (entities : List (α × List α)) : ℕ → List α → List α
  | _, [] => []
  | skip + 1, _ :: cs => unescapeFrom entities skip cs
  | 0, c :: cs =>
    match entities.find? fun e => e.2.isPrefixOf (c :: cs) with
    | some e => e.1 :: unescapeFrom entities (e.2.length - 1) cs
    | none => c :: unescapeFrom entities 0 cs

def unescape (entities : List (α × List α)) (cs : List α) : List α := unescapeFrom entities 0 cs

/-- Entities start with a marker, which is special itself and the only special character in
them, and none is the start of another. -/
structure Marked (marker : α) (entities : List (α × List α)) : Prop where
  special : (entities.lookup marker).isSome = true
  shape : ∀ e ∈ entities, ∃ tail, e.2 = marker :: tail ∧ ∀ c ∈ tail, entities.lookup c = none
  separate : ∀ e ∈ entities, ∀ e' ∈ entities, e.2 <+: e'.2 → e = e'

variable {entities : List (α × List α)} {marker : α}

lemma mem_of_lookup {c : α} {entity : List α} (h : entities.lookup c = some entity) :
    (c, entity) ∈ entities := by
  obtain ⟨l₁, l₂, rfl, -⟩ := List.lookup_eq_some_iff.mp h
  simp

lemma Marked.shape_of_lookup (h : Marked marker entities) {c : α} {entity : List α}
    (hlookup : entities.lookup c = some entity) :
    ∃ tail, entity = marker :: tail ∧ ∀ d ∈ tail, entities.lookup d = none :=
  h.shape _ (mem_of_lookup hlookup)

lemma lookup_eq_none {c : α} (h : ∀ e ∈ entities, e.1 ≠ c) : entities.lookup c = none := by
  rw [List.lookup_eq_none_iff]
  intro e he
  simpa using (h e he).symm

lemma entityOf_of_none {c : α} (h : entities.lookup c = none) : entityOf entities c = [c] := by
  rw [entityOf, h, Option.getD_none]

lemma escape_of_forall {cs : List α} (h : ∀ c ∈ cs, entities.lookup c = none) :
    escape entities cs = cs := by
  induction cs with
  | nil => rfl
  | cons c cs ih =>
    have hhead := entityOf_of_none (h c List.mem_cons_self)
    have htail := ih fun d hd => h d (List.mem_cons_of_mem c hd)
    rw [escape, List.flatMap_cons, hhead, ← escape, htail]
    rfl

lemma escape_cons (c : α) (cs : List α) :
    escape entities (c :: cs) = entityOf entities c ++ escape entities cs := List.flatMap_cons ..

/-- **Replacing one by one is replacing all at once**, in an order in which no entity holds a
character that a later replacement is of. -/
theorem replaceEach_eq_escape (h : entities.Pairwise fun e e' => e'.1 ∉ e.2) (cs : List α) :
    replaceEach entities cs = escape entities cs := by
  induction entities generalizing cs with
  | nil => exact (escape_of_forall fun c _ => rfl).symm
  | cons e es ih =>
    obtain ⟨hlater, hes⟩ := List.pairwise_cons.mp h
    -- the entity that was just put in is left as it is by the replacements after it
    have hentity : escape es e.2 = e.2 :=
      escape_of_forall fun c hc => lookup_eq_none fun e' he' heq => hlater e' he' (heq ▸ hc)
    calc replaceEach (e :: es) cs = replaceEach es (replaceAll e.1 e.2 cs) := rfl
      _ = escape es (replaceAll e.1 e.2 cs) := ih hes _
      _ = cs.flatMap fun c => escape es (if c = e.1 then e.2 else [c]) := List.flatMap_assoc
      _ = escape (e :: es) cs := by
        apply List.flatMap_congr
        intro c _
        by_cases hc : c = e.1
        · rw [if_pos hc, hentity, hc, entityOf, List.lookup_cons_self, Option.getD_some]
        · have hlookup : (e :: es).lookup c = es.lookup c := by
            rw [List.lookup_cons, beq_eq_false_iff_ne.mpr hc]
          rw [if_neg hc, escape_cons, entityOf, entityOf, hlookup]
          exact List.append_nil _

lemma eq_marker_of_mem_escape (h : Marked marker entities) {cs : List α} {c : α}
    (hc : c ∈ escape entities cs) (hspecial : entities.lookup c ≠ none) : c = marker := by
  obtain ⟨d, -, hd⟩ := List.mem_flatMap.mp hc
  cases hlookup : entities.lookup d with
  | none =>
    rw [entityOf_of_none hlookup, List.mem_singleton] at hd
    exact absurd (hd ▸ hlookup) hspecial
  | some entity =>
    obtain ⟨tail, htail, hplain⟩ := h.shape_of_lookup hlookup
    rw [entityOf, hlookup, Option.getD_some, htail, List.mem_cons] at hd
    rcases hd with rfl | hd
    · rfl
    · exact absurd (hplain c hd) hspecial

/-- **Every marker starts an entity** in what is escaped. -/
theorem entity_of_marker (h : Marked marker entities) {cs before after : List α}
    (heq : escape entities cs = before ++ marker :: after) :
    ∃ e ∈ entities, e.2 <+: marker :: after := by
  induction cs generalizing before with
  | nil => simp [escape] at heq
  | cons c cs ih =>
    rw [escape_cons] at heq
    rcases List.append_eq_append_iff.mp heq with ⟨rest, -, hrest⟩ | ⟨rest, hentity, hrest⟩
    · exact ih hrest
    · cases rest with
      | nil =>
        have hstart : escape entities cs = [] ++ marker :: after := hrest.symm
        exact ih hstart
      | cons m rest =>
        obtain ⟨rfl, hafter⟩ := List.cons.inj hrest
        cases hlookup : entities.lookup c with
        | none =>
          rw [entityOf_of_none hlookup] at hentity
          have hmem : marker ∈ [c] := hentity ▸ List.mem_append_right _ List.mem_cons_self
          have hspecial := h.special
          rw [List.mem_singleton.mp hmem, hlookup] at hspecial
          cases hspecial
        | some entity =>
          have hmem := mem_of_lookup hlookup
          obtain ⟨tail, htail, hplain⟩ := h.shape_of_lookup hlookup
          rw [entityOf, hlookup, Option.getD_some] at hentity
          cases before with
          | nil => exact ⟨_, hmem, hafter ▸ ⟨escape entities cs, by simp [hentity]⟩⟩
          | cons m' before =>
            -- a marker in the tail of an entity would not be special
            have hin : marker ∈ tail := by
              have := (List.cons.inj (htail.symm.trans hentity)).2
              rw [this]
              exact List.mem_append_right _ List.mem_cons_self
            have hspecial := h.special
            rw [hplain marker hin] at hspecial
            cases hspecial

lemma unescapeFrom_length (skipped cs : List α) :
    unescapeFrom entities skipped.length (skipped ++ cs) = unescape entities cs := by
  induction skipped with
  | nil => rfl
  | cons s skipped ih => exact ih

/-- **Escaping is lossless**: what was escaped is read back. -/
theorem unescape_escape (h : Marked marker entities) (cs : List α) :
    unescape entities (escape entities cs) = cs := by
  induction cs with
  | nil => rfl
  | cons c cs ih =>
    rw [escape_cons]
    cases hlookup : entities.lookup c with
    | none =>
      have hfind : entities.find? (fun e => e.2.isPrefixOf (c :: escape entities cs)) = none := by
        rw [List.find?_eq_none]
        intro e he hstarts
        obtain ⟨tail, htail, -⟩ := h.shape e he
        rw [htail, List.isPrefixOf_iff_prefix, List.cons_prefix_cons] at hstarts
        have hspecial := h.special
        rw [hstarts.1, hlookup] at hspecial
        cases hspecial
      rw [entityOf_of_none hlookup, List.singleton_append, unescape, unescapeFrom, hfind]
      exact congrArg (c :: ·) ih
    | some entity =>
      have hmem := mem_of_lookup hlookup
      obtain ⟨tail, htail, -⟩ := h.shape_of_lookup hlookup
      have hself : entity <+: entity ++ escape entities cs := List.prefix_append _ _
      have hfind : entities.find? (fun e => e.2.isPrefixOf (entity ++ escape entities cs)) =
          some (c, entity) := by
        obtain ⟨e, he⟩ : ∃ e, entities.find?
            (fun e => e.2.isPrefixOf (entity ++ escape entities cs)) = some e := by
          rw [← Option.isSome_iff_exists, List.find?_isSome]
          exact ⟨(c, entity), hmem, List.isPrefixOf_iff_prefix.mpr hself⟩
        have hfound := List.find?_some he
        have hfits := List.isPrefixOf_iff_prefix.mp hfound
        have hmem' := List.mem_of_find?_eq_some he
        -- of two entities at the start of one text, one is the start of the other
        rcases List.prefix_or_prefix_of_prefix hfits hself with hpre | hpre
        · rw [he, h.separate _ hmem' _ hmem hpre]
        · rw [he, h.separate _ hmem _ hmem' hpre]
      rw [entityOf, hlookup, Option.getD_some, htail, List.cons_append]
      rw [htail, List.cons_append] at hfind
      rw [unescape, unescapeFrom, hfind]
      simp only [List.length_cons, Nat.add_sub_cancel, unescapeFrom_length, ih]

end Oid4vc.Escape
