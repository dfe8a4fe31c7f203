import Mathlib.Algebra.Ring.Int.Defs
import Mathlib.Algebra.Ring.Nat
import Mathlib.Tactic.Lemma

/-!
The data model of JSON as a parser leaves it: numbers are 64-bit integers or binary
floating-point, and an object is its members in the order they are kept.
-/

namespace Oid4vc.JsonValue

abbrev Byte := BitVec 8
abbrev Bytes := List Byte

/-- A 64-bit binary floating-point number, as its bits. -/
structure F64 where
  bits : BitVec 64
  deriving DecidableEq

/-- Equality of values that are not NaN: bit for bit, except that both zeros are equal. -/
def F64.beq (a b : F64) : Bool :=
  a.bits == b.bits || (a.bits <<< 1 == 0 && b.bits <<< 1 == 0)

/-- A JSON number: non-negative, negative, or with a fraction or an exponent. -/
inductive Number
  | posInt (n : BitVec 64)
  | negInt (n : BitVec 64)
  | float (f : F64)
  deriving DecidableEq

def Number.beq : Number → Number → Bool
  | .posInt a, .posInt b => a == b
  | .negInt a, .negInt b => a == b
  | .float a, .float b => a.beq b
  | _, _ => false

lemma F64.beq_comm (a b : F64) : a.beq b = b.beq a := by
  unfold F64.beq
  rw [BEq.comm (a := a.bits), Bool.and_comm]

lemma F64.beq_trans {a b c : F64} (h : a.beq b = true) (h' : b.beq c = true) :
    a.beq c = true := by
  simp only [F64.beq, Bool.or_eq_true, Bool.and_eq_true, beq_iff_eq] at *
  grind

lemma Number.beq_comm (a b : Number) : a.beq b = b.beq a := by
  cases a <;> cases b <;> simp only [Number.beq, F64.beq_comm, BEq.comm]

lemma Number.beq_trans {a b c : Number} (h : a.beq b = true) (h' : b.beq c = true) :
    a.beq c = true := by
  cases a <;> cases b <;> cases c <;> simp only [Number.beq, Bool.false_eq_true, beq_iff_eq] at *
  · exact h.trans h'
  · exact h.trans h'
  · exact F64.beq_trans h h'

inductive Json
  | null
  | bool (b : Bool)
  | num (n : Number)
  | str (s : String)
  | arr (items : List Json)
  | obj (members : List (String × Json))

namespace Json

mutual

def beq : Json → Json → Bool
  | .null, .null => true
  | .bool a, .bool b => a == b
  | .num a, .num b => a.beq b
  | .str a, .str b => a == b
  | .arr a, .arr b => beqItems a b
  | .obj a, .obj b => beqMembers a b
  | _, _ => false

def beqItems : List Json → List Json → Bool
  | [], [] => true
  | a :: as, b :: bs => beq a b && beqItems as bs
  | _, _ => false

def beqMembers : List (String × Json) → List (String × Json) → Bool
  | [], [] => true
  | (k, a) :: as, (l, b) :: bs => k == l && beq a b && beqMembers as bs
  | _, _ => false

end

mutual

/-- A value as it is kept: a negative number is negative, a number with a fraction is finite,
and the members of an object are sorted by name, each name once. -/
def Proper : Json → Prop
  | .num (.negInt n) => n.toInt < 0
  | .num (.float f) => f.bits.extractLsb' 52 11 ≠ 0x7FF
  | .arr items => ProperItems items
  | .obj members => ProperMembers members ∧ (members.map Prod.fst).Pairwise (· < ·)
  | _ => True

def ProperItems : List Json → Prop
  | [] => True
  | v :: vs => Proper v ∧ ProperItems vs

def ProperMembers : List (String × Json) → Prop
  | [] => True
  | (_, v) :: ms => Proper v ∧ ProperMembers ms

end

/-! ### Equality -/

mutual

lemma beq_comm : ∀ a b : Json, beq a b = beq b a
  | .null, b => by cases b <;> rfl
  | .bool a, b => by cases b <;> simp only [beq, BEq.comm]
  | .num a, b => by cases b <;> simp only [beq, Number.beq_comm]
  | .str a, b => by cases b <;> simp only [beq, BEq.comm]
  | .arr as, b => by cases b <;> simp only [beq, beqItems_comm as]
  | .obj as, b => by cases b <;> simp only [beq, beqMembers_comm as]

lemma beqItems_comm : ∀ as bs : List Json, beqItems as bs = beqItems bs as
  | [], bs => by cases bs <;> rfl
  | a :: as, bs => by
    cases bs with
    | nil => rfl
    | cons b bs => simp only [beqItems, beq_comm a b, beqItems_comm as bs]

lemma beqMembers_comm : ∀ as bs : List (String × Json), beqMembers as bs = beqMembers bs as
  | [], bs => by cases bs <;> rfl
  | (k, a) :: as, bs => by
    cases bs with
    | nil => rfl
    | cons b bs =>
      simp only [beqMembers, beq_comm a b.2, beqMembers_comm as bs, BEq.comm (a := k)]

end

mutual

lemma beq_trans : ∀ {a b c : Json}, beq a b = true → beq b c = true → beq a c = true
  | .null, b, c, h, h' => by
    cases b with
    | null => exact h'
    | _ => simp [beq] at h
  | .bool a, b, c, h, h' => by cases b <;> cases c <;> simp_all [beq]
  | .num a, b, c, h, h' => by
    cases b <;> cases c <;> simp only [beq, Bool.false_eq_true] at *
    exact Number.beq_trans h h'
  | .str a, b, c, h, h' => by cases b <;> cases c <;> simp_all [beq]
  | .arr as, b, c, h, h' => by
    cases b <;> cases c <;> simp only [beq, Bool.false_eq_true] at *
    exact beqItems_trans h h'
  | .obj as, b, c, h, h' => by
    cases b <;> cases c <;> simp only [beq, Bool.false_eq_true] at *
    exact beqMembers_trans h h'

lemma beqItems_trans : ∀ {as bs cs : List Json}, beqItems as bs = true → beqItems bs cs = true →
    beqItems as cs = true
  | [], bs, cs, h, h' => by cases bs <;> simp_all [beqItems]
  | a :: as, bs, cs, h, h' => by
    cases bs <;> cases cs <;>
      simp only [beqItems, Bool.false_eq_true, Bool.and_eq_true] at *
    exact ⟨beq_trans h.1 h'.1, beqItems_trans h.2 h'.2⟩

lemma beqMembers_trans : ∀ {as bs cs : List (String × Json)}, beqMembers as bs = true →
    beqMembers bs cs = true → beqMembers as cs = true
  | [], bs, cs, h, h' => by cases bs <;> simp_all [beqMembers]
  | (k, a) :: as, bs, cs, h, h' => by
    cases bs <;> cases cs <;>
      simp only [beqMembers, Bool.false_eq_true, Bool.and_eq_true, beq_iff_eq] at *
    exact ⟨⟨h.1.1.trans h'.1.1, beq_trans h.1.2 h'.1.2⟩, beqMembers_trans h.2 h'.2⟩

end

/-- The member of an object with this name. -/
def get : Json → String → Option Json
  | .obj members, name => (members.find? fun m => m.1 == name).map Prod.snd
  | _, _ => none

def asStr : Json → Option String
  | .str s => some s
  | _ => none

/-- The number as a signed 64-bit integer, if it is one. -/
def asI64 : Json → Option ℤ
  | .num (.posInt n) => if n.toNat < 2 ^ 63 then some n.toNat else none
  | .num (.negInt n) => some n.toInt
  | _ => none

def asStrings : Json → Option (List String)
  | .arr items => items.mapM asStr
  | _ => none

@[simp] lemma asStr_str (s : String) : (Json.str s).asStr = some s := rfl

lemma asStr_eq_some {j : Json} {s : String} (h : j.asStr = some s) : j = .str s := by
  cases j <;> simp [asStr] at h
  rw [h]

/-- The members of an object are its entries, if no name comes twice. -/
lemma get_obj_eq_some {members : List (String × Json)} (h : (members.map Prod.fst).Nodup)
    {name : String} {v : Json} : (obj members).get name = some v ↔ (name, v) ∈ members := by
  induction members with
  | nil => simp [get]
  | cons m ms ih =>
    obtain ⟨n, w⟩ := m
    simp only [List.map_cons, List.nodup_cons] at h
    have ih := ih h.2
    by_cases hn : n = name
    · subst hn
      have hnot : (n, v) ∉ ms := fun hv => h.1 (List.mem_map_of_mem (f := Prod.fst) hv)
      simp [get, hnot, eq_comm]
    · have hget : (obj ((n, w) :: ms)).get name = (obj ms).get name := by simp [get, hn]
      rw [hget, ih, List.mem_cons]
      simp [Ne.symm hn]

lemma properMembers_iff {members : List (String × Json)} :
    ProperMembers members ↔ ∀ m ∈ members, Proper m.2 := by
  induction members with
  | nil => simp [ProperMembers]
  | cons m ms ih => simp [ProperMembers, ih]

lemma properItems_iff {items : List Json} : ProperItems items ↔ ∀ v ∈ items, Proper v := by
  induction items with
  | nil => simp [ProperItems]
  | cons v vs ih => simp [ProperItems, ih]

lemma asI64_range {j : Json} {i : ℤ} (h : j.asI64 = some i) : -2 ^ 63 ≤ i ∧ i < 2 ^ 63 := by
  match j, h with
  | .num (.posInt n), h =>
    simp only [asI64, Option.ite_none_right_eq_some, Option.some.injEq] at h
    omega
  | .num (.negInt n), h =>
    simp only [asI64, Option.some.injEq] at h
    have h1 := BitVec.le_toInt n
    have h2 := BitVec.toInt_lt (x := n)
    simp at h1 h2
    omega

end Json

end Oid4vc.JsonValue
