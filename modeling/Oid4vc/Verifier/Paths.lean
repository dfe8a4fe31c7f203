import Oid4vc.Verifier.Dcql

/-!
How far the evaluation of a DCQL query follows the path of a claim.

It looks the first element up, and compares what it finds with the values asked for, whatever
comes after that element.
-/

namespace Oid4vc.Paths

open Oid4vc.JsonValue Oid4vc.PartialMap Oid4vc.Oid4vp Oid4vc.Dcql

/-- The value at the end of a path through nested objects. -/
def follow : Json → List String → Option Json
  | value, [] => some value
  | value, name :: names => (value.get name).bind fun member => follow member names

/-- The value at the end of a path, whose first element names a disclosed claim. -/
def reached (claims : PMap String Json) : List String → Option Json
  | [] => none
  | name :: names => (claims.get name).bind fun value => follow value names

/-- One of the values asked for, if there are any. -/
def Wanted (values : Option (List Json)) (value : Json) : Prop :=
  ∀ expected, values = some expected → ∃ v ∈ expected, v.beq value = true

/-- The path of the claim query leads to a value that is wanted. -/
def Satisfied (claims : PMap String Json) (c : ClaimQuery) : Prop :=
  ∃ value, reached claims c.path = some value ∧ Wanted c.values value

/-- The claims are what the query asks for just if every path leads to a wanted value. -/
def FollowsPaths (query : CredentialQuery) (claims : PMap String Json) : Prop :=
  evaluateCredentialQuery query claims = true ↔
    ∀ c ∈ query.claims.getD [], c.path ≠ [] → Satisfied claims c

/-- The path goes on below a value that is wanted, to one that is not, or to none. -/
def TooLenient (claims : PMap String Json) (c : ClaimQuery) : Prop :=
  ∃ first second rest top, c.path = first :: second :: rest ∧ claims.get first = some top ∧
    Wanted c.values top ∧ ∀ value, follow top (second :: rest) = some value → ¬ Wanted c.values value

/-- The path goes on below a value that is not wanted, to one that is. -/
def TooStrict (claims : PMap String Json) (c : ClaimQuery) : Prop :=
  ∃ first second rest top value, c.path = first :: second :: rest ∧ claims.get first = some top ∧
    ¬ Wanted c.values top ∧ follow top (second :: rest) = some value ∧ Wanted c.values value

/-- Neither the value of the first element nor the one at the end of the path is wanted, if there
are such values. -/
def Unsatisfied (claims : PMap String Json) (c : ClaimQuery) : Prop :=
  ∃ first rest, c.path = first :: rest ∧ ∀ top, claims.get first = some top →
    ¬ Wanted c.values top ∧ ∀ value, follow top rest = some value → ¬ Wanted c.values value

/-- What goes on below the first elements makes no difference: it does for none of the claim
queries, or one of them is unsatisfied anyway, or what is accepted of one is made up for by what
is refused of another. -/
def DepthIrrelevant (query : CredentialQuery) (claims : PMap String Json) : Prop :=
  (∀ c ∈ query.claims.getD [], ¬ TooLenient claims c ∧ ¬ TooStrict claims c) ∨
    (∃ c ∈ query.claims.getD [], Unsatisfied claims c) ∨
    ((∃ c ∈ query.claims.getD [], TooLenient claims c) ∧ ∃ c ∈ query.claims.getD [], TooStrict claims c)

variable {claims : PMap String Json} {c : ClaimQuery}

lemma evaluateClaimQuery_cons {first : String} {rest : List String} (hpath : c.path = first :: rest) :
    evaluateClaimQuery c claims = true ↔
      ∃ top, claims.get first = some top ∧ Wanted c.values top := by
  unfold evaluateClaimQuery Wanted
  simp only [hpath]
  cases hget : claims.get first with
  | none => simp
  | some top =>
    cases hvalues : c.values with
    | none => simp
    | some expected => simp

/-- What the evaluation makes of one claim query. -/
def Accepts (claims : PMap String Json) (c : ClaimQuery) : Prop :=
  c.path ≠ [] → evaluateClaimQuery c claims = true

/-- What the whole path makes of it. -/
def Asks (claims : PMap String Json) (c : ClaimQuery) : Prop :=
  c.path ≠ [] → Satisfied claims c

/-- The evaluation and the path may judge a claim query differently in two ways. -/
lemma judged (claims : PMap String Json) (c : ClaimQuery) :
    (TooLenient claims c ↔ Accepts claims c ∧ ¬ Asks claims c) ∧
      (TooStrict claims c ↔ ¬ Accepts claims c ∧ Asks claims c) ∧
      (Unsatisfied claims c ↔ ¬ Accepts claims c ∧ ¬ Asks claims c) := by
  unfold TooLenient TooStrict Unsatisfied Accepts Asks Satisfied
  cases hpath : c.path with
  | nil => simp
  | cons first rest =>
    rw [evaluateClaimQuery_cons hpath]
    cases hget : claims.get first with
    | none => simp [reached, hget]
    | some top =>
      cases rest with
      | nil => simp [reached, follow, hget]
      | cons second rest => simp [reached, hget]

/-- Two judgements of the members of a list agree on the list if they agree on every member, or
both refuse one, or each refuses one that the other accepts. -/
lemma forall_iff_forall {α : Type} (l : List α) (p q : α → Prop) :
    ((∀ a ∈ l, p a) ↔ ∀ a ∈ l, q a) ↔
      (∀ a ∈ l, ¬ (p a ∧ ¬ q a) ∧ ¬ (¬ p a ∧ q a)) ∨ (∃ a ∈ l, ¬ p a ∧ ¬ q a) ∨
        ((∃ a ∈ l, p a ∧ ¬ q a) ∧ ∃ a ∈ l, ¬ p a ∧ q a) := by
  grind

/-- **The evaluation follows whole paths** exactly when nothing below their first elements makes
a difference. -/
theorem followsPaths_iff (query : CredentialQuery) (claims : PMap String Json) :
    FollowsPaths query claims ↔ DepthIrrelevant query claims := by
  have heval : evaluateCredentialQuery query claims = true ↔
      ∀ c ∈ query.claims.getD [], Accepts claims c := by
    unfold evaluateCredentialQuery Accepts
    cases query.claims with
    | none => simp
    | some cs =>
      rw [List.all_eq_true, Option.getD_some]
      refine forall₂_congr fun c _ => ⟨fun h _ => h, fun h => ?_⟩
      by_cases hpath : c.path = []
      · rw [evaluateClaimQuery, hpath]
      · exact h hpath
  unfold FollowsPaths DepthIrrelevant
  rw [heval]
  simp only [judged]
  exact forall_iff_forall _ (Accepts claims) (Asks claims)

/-- Paths of one element, as the query builder writes them, are followed. -/
lemma depthIrrelevant_of_flat {query : CredentialQuery}
    (h : ∀ c ∈ query.claims.getD [], c.path.length ≤ 1) (claims : PMap String Json) :
    DepthIrrelevant query claims := by
  refine Or.inl fun c hc => ⟨?_, ?_⟩
  · rintro ⟨first, second, rest, top, hpath, -⟩
    have := h c hc
    simp [hpath] at this
  · rintro ⟨first, second, rest, top, value, hpath, -⟩
    have := h c hc
    simp [hpath] at this

section Locality

def localityQuery : CredentialQuery where
  id := "identity"
  format := "dc+sd-jwt"
  vct := some "urn:eudi:pid:1"
  doctype := none
  claims := some [⟨["address", "locality"], none, none, none⟩]

/-- An address without a locality. -/
def disclosedAddress : PMap String Json :=
  empty.insert "address" (.obj [("country", .str "DE")])

/-- The address satisfies the query for its locality. -/
theorem locality_not_followed : ¬ FollowsPaths localityQuery disclosedAddress := by
  intro h
  have heval : evaluateCredentialQuery localityQuery disclosedAddress = true := rfl
  have hpath : reached disclosedAddress ["address", "locality"] = none := rfl
  obtain ⟨value, hvalue, -⟩ :=
    h.mp heval ⟨["address", "locality"], none, none, none⟩ List.mem_cons_self (by simp)
  rw [hpath] at hvalue
  cases hvalue

end Locality

end Oid4vc.Paths
