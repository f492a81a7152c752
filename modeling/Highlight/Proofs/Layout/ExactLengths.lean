import Mathlib.Data.Rat.Floor
import Highlight.Layout

/-!
Lengths measured exactly, by rational numbers. Nothing is rounded; only the numbers of rows are cut
off where rows can no longer be numbered, and a document that can be numbered does not tell the
difference.
-/

set_option autoImplicit false

namespace Highlight.Measure

instance : Measure ℚ where
  ofNat count := count
  add first second := first + second
  sub first second := first - second
  mul first second := first * second
  div first second := first / second
  max first second := Max.max first second
  isFinite _ := true
  isPositive length := 0 < length
  floor length := min maxRows ⌊length⌋₊
  ceil length := min maxRows ⌈length⌉₊

variable (first second length : ℚ) (count : Nat)

@[simp] theorem ofNat_rat : (ofNat count : ℚ) = count := rfl

@[simp] theorem add_rat : add first second = first + second := rfl

@[simp] theorem sub_rat : sub first second = first - second := rfl

@[simp] theorem mul_rat : mul first second = first * second := rfl

@[simp] theorem div_rat : div first second = first / second := rfl

@[simp] theorem max_rat : max first second = Max.max first second := rfl

@[simp] theorem isFinite_rat : isFinite length = true := rfl

@[simp] theorem isPositive_rat : isPositive length = decide (0 < length) := rfl

variable {length} {lineCount : Nat} (counted : lineCount ≤ maxRows)

include counted

theorem min_floor_rat : min (floor length) lineCount = min ⌊length⌋₊ lineCount := by
  change min (min maxRows ⌊length⌋₊) lineCount = _
  omega

theorem min_ceil_rat : min (ceil length + 1) lineCount = min (⌈length⌉₊ + 1) lineCount := by
  change min (min maxRows ⌈length⌉₊ + 1) lineCount = _
  omega

end Highlight.Measure
