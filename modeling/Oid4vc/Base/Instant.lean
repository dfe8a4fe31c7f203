import Oid4vc.Base.Json
import Mathlib.Tactic.Lemma

/-!
Instants and durations, and how they are rounded to coarser units. An instant counts
nanoseconds since the epoch.
-/

namespace Oid4vc.Instant

/-- A duration of whole seconds. -/
def seconds (n : ℤ) : ℤ := n * 1000000000

/-- Whole seconds since the epoch, rounded down. -/
def timestamp (t : ℤ) : ℤ := t / 1000000000

/-- The whole seconds of a duration, rounded towards zero. -/
def numSeconds (d : ℤ) : ℤ := d.tdiv 1000000000

/-- The whole milliseconds of a duration, rounded towards zero. -/
def numMilliseconds (d : ℤ) : ℤ := d.tdiv 1000000

def startOfDay (t : ℤ) : ℤ := t / seconds 86400 * seconds 86400

/-- The number is a signed 64-bit one. -/
def Fits (n : ℤ) : Prop := -2 ^ 63 ≤ n ∧ n < 2 ^ 63

/-- A signed 64-bit result, which wraps around when it does not fit. -/
def wrapI64 (n : ℤ) : ℤ := Int.bmod n (2 ^ 64)

lemma wrapI64_of_fits {n : ℤ} (h : Fits n) : wrapI64 n = n := by
  unfold Fits at h
  unfold wrapI64
  rw [Int.bmod_def]
  split_ifs <;> omega

/-- The instants of the calendar, whose years have at most six digits. -/
def Representable (t : ℤ) : Prop := -8334601228800 ≤ timestamp t ∧ timestamp t ≤ 8210266876799

instance (t : ℤ) : Decidable (Representable t) :=
  inferInstanceAs (Decidable (_ ∧ _))

lemma numSeconds_le_iff {d : ℤ} {n : ℕ} : numSeconds d ≤ n ↔ d < seconds (n + 1) := by
  unfold numSeconds seconds
  rcases Int.le_total 0 d with hd | hd
  · rw [Int.tdiv_eq_ediv_of_nonneg hd]
    omega
  · have hneg : d.tdiv 1000000000 = -((-d) / 1000000000) := by
      rw [← Int.tdiv_eq_ediv_of_nonneg (by omega), Int.neg_tdiv, Int.neg_neg]
    rw [hneg]
    omega

lemma le_numMilliseconds_iff {d : ℤ} {n : ℕ} (hn : 0 < n) :
    (n : ℤ) ≤ numMilliseconds d ↔ n * 1000000 ≤ d := by
  unfold numMilliseconds
  rcases Int.le_total 0 d with hd | hd
  · rw [Int.tdiv_eq_ediv_of_nonneg hd]
    omega
  · have hneg : d.tdiv 1000000 = -((-d) / 1000000) := by
      rw [← Int.tdiv_eq_ediv_of_nonneg (by omega), Int.neg_tdiv, Int.neg_neg]
    rw [hneg]
    omega

lemma timestamp_mono {s t : ℤ} (h : s ≤ t) : timestamp s ≤ timestamp t := by
  unfold timestamp
  omega

lemma startOfDay_le (t : ℤ) : startOfDay t ≤ t := by
  unfold startOfDay seconds
  omega

lemma lt_startOfDay_add (t : ℤ) : t < startOfDay t + seconds 86400 := by
  unfold startOfDay seconds
  omega

lemma startOfDay_add_le {s t : ℤ} (h : startOfDay s < startOfDay t) :
    startOfDay s + seconds 86400 ≤ startOfDay t := by
  unfold startOfDay seconds at *
  omega

lemma startOfDay_nonneg {t : ℤ} (h : 0 ≤ t) : 0 ≤ startOfDay t := by
  unfold startOfDay seconds
  omega

lemma seconds_timestamp_startOfDay (t : ℤ) : seconds (timestamp (startOfDay t)) = startOfDay t := by
  unfold startOfDay seconds timestamp
  omega

end Oid4vc.Instant
