import Mathlib

namespace ClusterApi.Foundation

/-!
# Sums of 32-bit integers

Counts are 32-bit integers that wrap around.  What a computation means is read
off the integers: a sum of non-negative counts is exact as long as it fits,
and never above the true sum otherwise.  Differences of non-negative counts
are always exact.
-/

namespace FixedWidth

open List Int32

theorem toInt_min (first second : Int32) : (min first second).toInt = min first.toInt second.toInt := by
  rw [show min first second = if first ≤ second then first else second from rfl]
  split_ifs with le
  · rw [le_iff_toInt_le] at le
    omega
  · rw [le_iff_toInt_le] at le
    omega

theorem toInt_max (first second : Int32) : (max first second).toInt = max first.toInt second.toInt := by
  rw [show max first second = if first ≤ second then second else first from rfl]
  split_ifs with le
  · rw [le_iff_toInt_le] at le
    omega
  · rw [le_iff_toInt_le] at le
    omega

theorem toInt_sub_of_range {first second : Int32} (above : -2 ^ 31 ≤ first.toInt - second.toInt)
    (below : first.toInt - second.toInt < 2 ^ 31) : (first - second).toInt = first.toInt - second.toInt := by
  rw [toInt_sub, Int.bmod_eq_of_le] <;> omega

theorem toInt_sub_of_nonneg {first second : Int32} (firstNonneg : 0 ≤ first.toInt)
    (secondNonneg : 0 ≤ second.toInt) : (first - second).toInt = first.toInt - second.toInt := by
  have firstLt := first.toInt_lt
  have secondLt := second.toInt_lt
  exact toInt_sub_of_range (by omega) (by omega)

theorem toInt_add_of_range {first second : Int32} (above : -2 ^ 31 ≤ first.toInt + second.toInt)
    (below : first.toInt + second.toInt < 2 ^ 31) : (first + second).toInt = first.toInt + second.toInt := by
  rw [toInt_add, Int.bmod_eq_of_le] <;> omega

/-- Addition from left to right, wrapping around. -/
def wrappingSum (values : List Int32) : Int32 := values.foldl (· + ·) 0

theorem toInt_foldl_add (values : List Int32) (start : Int32) :
    (values.foldl (· + ·) start).toInt = (start.toInt + (values.map Int32.toInt).sum).bmod (2 ^ 32) := by
  induction values generalizing start with
  | nil =>
    have startLt := start.toInt_lt
    have leStart := start.le_toInt
    rw [foldl_nil, map_nil, sum_nil, add_zero, Int.bmod_eq_of_le] <;> omega
  | cons _ _ ih =>
    rw [foldl_cons, ih, toInt_add, map_cons, sum_cons,
      Int.bmod_add_bmod, add_assoc]

theorem toInt_wrappingSum (values : List Int32) :
    (wrappingSum values).toInt = (values.map Int32.toInt).sum.bmod (2 ^ 32) := by
  rw [wrappingSum, toInt_foldl_add, toInt_zero, zero_add]

theorem wrappingSum_perm {first second : List Int32} (perm : first.Perm second) :
    wrappingSum first = wrappingSum second := by
  rw [← toInt_inj, toInt_wrappingSum, toInt_wrappingSum, (perm.map toInt).sum_eq]

theorem toInt_wrappingSum_of_fits {values : List Int32} (nonneg : 0 ≤ (values.map Int32.toInt).sum)
    (fits : (values.map Int32.toInt).sum < 2 ^ 31) : (wrappingSum values).toInt = (values.map Int32.toInt).sum := by
  rw [toInt_wrappingSum, Int.bmod_eq_of_le] <;> omega

theorem toInt_wrappingSum_le {values : List Int32} (nonneg : 0 ≤ (values.map Int32.toInt).sum) :
    (wrappingSum values).toInt ≤ (values.map Int32.toInt).sum := by
  rw [toInt_wrappingSum, Int.bmod_def]
  split_ifs <;> omega

end FixedWidth

end ClusterApi.Foundation
