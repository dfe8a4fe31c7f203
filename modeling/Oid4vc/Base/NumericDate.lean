import Oid4vc.Base.Json
import Mathlib.Algebra.Order.Field.Rat
import Mathlib.Data.Rat.Cast.Order
import Mathlib.Tactic.Linarith

/-!
The number a JSON value stands for, and a date given as a number of seconds.
-/

namespace Oid4vc.NumericDate

open Oid4vc.JsonValue

/-- The number that the bits of a binary64 stand for; none for infinities and NaN. -/
def floatValue (f : F64) : Option ℚ :=
  let negative := f.bits.getLsbD 63
  let exponent := (f.bits.extractLsb' 52 11).toNat
  let fraction := (f.bits.extractLsb' 0 52).toNat
  let magnitude : ℚ :=
    if exponent = 0 then fraction / 2 ^ 1074
    else if 1075 ≤ exponent then (2 ^ 52 + fraction) * 2 ^ (exponent - 1075)
    else (2 ^ 52 + fraction) / 2 ^ (1075 - exponent)
  if exponent = 2047 then none else some (if negative then -magnitude else magnitude)

/-- The number of seconds a JSON value stands for, if it is a number. -/
def numericDate : Json → Option ℚ
  | .num (.posInt n) => some n.toNat
  | .num (.negInt n) => some n.toInt
  | .num (.float f) => floatValue f
  | _ => none

/-- Seconds since the epoch, with their fraction. -/
def secondsOf (clock : ℤ) : ℚ := clock / 1000000000

/-- The instant is before the date, which must be a number. -/
def Before (clock : ℤ) (date : Json) : Prop := ∃ q, numericDate date = some q ∧ secondsOf clock < q

/-- The date, which must be a number, has come. -/
def NotBefore (clock : ℤ) (date : Json) : Prop :=
  ∃ q, numericDate date = some q ∧ q ≤ secondsOf clock

/-- A value that reads as a signed 64-bit integer is that number. -/
lemma numericDate_of_asI64 {j : Json} {n : ℤ} (h : j.asI64 = some n) :
    numericDate j = some (n : ℚ) := by
  match j, h with
  | .num (.posInt m), h =>
    simp only [Json.asI64, Option.ite_none_right_eq_some, Option.some.injEq] at h
    simp [numericDate, ← h.2]
  | .num (.negInt m), h =>
    simp only [Json.asI64, Option.some.injEq] at h
    simp [numericDate, ← h]

lemma secondsOf_lt_intCast {clock n : ℤ} : secondsOf clock < n ↔ clock / 1000000000 < n := by
  rw [secondsOf, div_lt_iff₀ (by norm_num), Int.ediv_lt_iff_lt_mul (by norm_num)]
  exact_mod_cast Iff.rfl

/-- **Whole seconds.** For a date in whole seconds it does not matter that the clock is read
in whole seconds. -/
theorem before_iff_of_asI64 {clock n : ℤ} {j : Json} (h : j.asI64 = some n) :
    Before clock j ↔ clock / 1000000000 < n := by
  simp [Before, numericDate_of_asI64 h, secondsOf_lt_intCast]

theorem notBefore_iff_of_asI64 {clock n : ℤ} {j : Json} (h : j.asI64 = some n) :
    NotBefore clock j ↔ n ≤ clock / 1000000000 := by
  simp only [NotBefore, numericDate_of_asI64 h, Option.some.injEq, exists_eq_left']
  rw [← not_lt, secondsOf_lt_intCast, not_lt]

end Oid4vc.NumericDate
