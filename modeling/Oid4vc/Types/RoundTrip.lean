import Oid4vc.Types.Credentials

/-!
The compact serialization of an SD-JWT VC, written and read back.

A key binding JWT and a disclosure differ only in their place and in their dots: the parts
after the issuer JWT are scanned up to the last one, which is empty or a key binding JWT.
-/

namespace Oid4vc.Credentials

open Oid4vc.Text

/-- A part that stands between two separators. -/
def IsPart (p : String) : Prop := p ≠ "" ∧ '~' ∉ p.toList

/-- A part with the two dots of a JWT. -/
def IsJwt (p : String) : Prop := '~' ∉ p.toList ∧ countChar '.' p = 2

/-- The parts of a presentation, none of which can be taken for another. -/
structure SdJwtVc.WellFormed (v : SdJwtVc) : Prop where
  issuerJwt : IsPart v.issuerJwt
  disclosures : ∀ d ∈ v.disclosures, IsPart d
  keyBindingJwt : ∀ kb ∈ v.keyBindingJwt, IsJwt kb

/-- The grammar `<jwt>~<d1>~...~<dn>~[<kb-jwt>]`. -/
inductive Grammatical : String → Prop
  | unbound {jwt : String} {ds : List String} (hjwt : IsPart jwt) (hds : ∀ d ∈ ds, IsPart d) :
    Grammatical (join "~" (jwt :: ds ++ [""]))
  | bound {jwt : String} {ds : List String} {kb : String} (hjwt : IsPart jwt)
    (hds : ∀ d ∈ ds, IsPart d) (hkb : IsJwt kb) : Grammatical (join "~" (jwt :: ds ++ [kb]))

lemma IsJwt.ne_empty {kb : String} (h : IsJwt kb) : kb ≠ "" := by
  rintro rfl
  have hcount := h.2
  simp [countChar] at hcount

/-! ### The last part -/

lemma parseParts_cons {d : String} {parts : List String} (hd : d ≠ "") (hparts : parts ≠ []) :
    parseParts (d :: parts) = (d :: (parseParts parts).1, (parseParts parts).2) := by
  cases parts with
  | nil => exact absurd rfl hparts
  | cons next rest =>
    rw [parseParts]
    · exact if_neg hd
    · simp

lemma parseParts_append {ds : List String} (hds : ∀ d ∈ ds, IsPart d) (last : String) :
    parseParts (ds ++ [last]) = (ds ++ (parseParts [last]).1, (parseParts [last]).2) := by
  induction ds with
  | nil => rfl
  | cons d ds ih =>
    have hd := (hds d List.mem_cons_self).1
    have hrest : ds ++ [last] ≠ [] := by simp
    have ih := ih fun e he => hds e (List.mem_cons_of_mem _ he)
    rw [List.cons_append, parseParts_cons hd hrest, ih, List.cons_append]

lemma parseParts_last {kb : Option String} (h : ∀ jwt ∈ kb, IsJwt jwt) :
    parseParts [kb.getD ""] = ([], kb) := by
  rcases kb with _ | jwt
  · rfl
  · have hjwt := h jwt rfl
    rw [Option.getD_some, parseParts, if_neg hjwt.ne_empty, if_pos hjwt.2]

lemma split_toCompact {v : SdJwtVc} (h : v.WellFormed) :
    split '~' v.toCompact = v.issuerJwt :: v.disclosures ++ [v.keyBindingJwt.getD ""] := by
  refine split_join (by simp) fun p hp => ?_
  simp only [List.cons_append, List.mem_cons, List.mem_append, List.not_mem_nil, or_false] at hp
  rcases hp with rfl | hp | rfl
  · exact h.issuerJwt.2
  · exact (h.disclosures p hp).2
  · rcases hkb : v.keyBindingJwt with _ | kb
    · simp
    · exact (h.keyBindingJwt kb hkb).1

/-- **Read back.** What was written is what is read, part by part. -/
theorem parse_of_wellFormed {v : SdJwtVc} (h : v.WellFormed) :
    SdJwtVc.parse v.toCompact = .ok v := by
  have hsplit := split_toCompact h
  rw [List.cons_append] at hsplit
  rw [SdJwtVc.parse, hsplit]
  have hparts : parseParts (v.disclosures ++ [v.keyBindingJwt.getD ""]) =
      (v.disclosures, v.keyBindingJwt) := by
    rw [parseParts_append h.disclosures, parseParts_last h.keyBindingJwt, List.append_nil]
  simp only [if_neg h.issuerJwt.1, hparts]

lemma Grammatical.exists_wellFormed {s : String} (h : Grammatical s) :
    ∃ v : SdJwtVc, v.WellFormed ∧ v.toCompact = s := by
  cases h with
  | @unbound jwt ds hjwt hds => exact ⟨⟨jwt, ds, none⟩, ⟨hjwt, hds, by simp⟩, rfl⟩
  | @bound jwt ds kb hjwt hds hkb =>
    refine ⟨⟨jwt, ds, some kb⟩, ⟨hjwt, hds, fun kb' h => ?_⟩, rfl⟩
    obtain rfl : kb = kb' := by simpa using h
    exact hkb

/-- **Round trips.** A presentation of parts that cannot be mistaken for one another is read
back from its compact form, and a text of the grammar is written back from what it parses
to. -/
theorem compact_round_trips :
    (∀ v : SdJwtVc, v.WellFormed → SdJwtVc.parse v.toCompact = .ok v) ∧
    ∀ s, Grammatical s → ∃ v, SdJwtVc.parse s = .ok v ∧ v.WellFormed ∧ v.toCompact = s := by
  refine ⟨fun v => parse_of_wellFormed, fun s hs => ?_⟩
  obtain ⟨v, hv, rfl⟩ := hs.exists_wellFormed
  exact ⟨v, parse_of_wellFormed hv, hv, rfl⟩

/-- With a disclosure that has two dots of its own before the key binding JWT. -/
theorem compact_round_trips_dotted :
    SdJwtVc.parse (SdJwtVc.toCompact ⟨"a.b.c", ["d.e.f", "g"], some "h.i.j"⟩) =
      .ok ⟨"a.b.c", ["d.e.f", "g"], some "h.i.j"⟩ ∧
    ∃ v, SdJwtVc.parse (join "~" ("a.b.c" :: ["d.e.f"] ++ [""])) = .ok v ∧ v.WellFormed ∧
      v.toCompact = join "~" ("a.b.c" :: ["d.e.f"] ++ [""]) := by
  have hpart : ∀ d ∈ ["a.b.c", "d.e.f", "g", "h.i.j"], IsPart d := by
    intro d hd
    simp only [List.mem_cons, List.not_mem_nil, or_false] at hd
    rcases hd with rfl | rfl | rfl | rfl <;> exact ⟨by decide, by decide⟩
  have hkb : IsJwt "h.i.j" := ⟨(hpart _ (by simp)).2, by decide⟩
  refine ⟨compact_round_trips.1 _ ⟨hpart _ (by simp), ?_, ?_⟩,
    compact_round_trips.2 _ (.unbound (hpart _ (by simp)) ?_)⟩
  · intro d hd
    exact hpart d (by simp only [List.mem_cons, List.not_mem_nil, or_false] at hd ⊢; tauto)
  · intro kb h
    obtain rfl : "h.i.j" = kb := by simpa using h
    exact hkb
  · intro d hd
    exact hpart d (by simp only [List.mem_cons, List.not_mem_nil, or_false] at hd ⊢; tauto)

end Oid4vc.Credentials
