import Mathlib.Data.Nat.Log
import Mathlib.Tactic.Ring

/-!
# Decimal numbers as float64

A decimal number that is read into a `float64` is rounded to 53 bits, ties to even, and a `float64`
is written with the fewest digits that read back as it, the closest of them. Both are maps on
fractions of natural numbers, the sign being left as it is. The largest finite value has no part in
this: a number beyond it is no number of Go.
-/

namespace GoLib.Float64

/-- A non-negative fraction. -/
structure Fraction where
  num : Nat
  den : Nat
  deriving DecidableEq, Repr

namespace Fraction

/-- `c * 10 ^ u`. -/
def ofDecimal (c : Nat) (u : Int) : Fraction := ⟨c * 10 ^ u.toNat, 10 ^ (-u).toNat⟩

/-- `q * 2 ^ k`. -/
def ofBinary (q : Nat) (k : Int) : Fraction := ⟨q * 2 ^ k.toNat, 2 ^ (-k).toNat⟩

/-- Two fractions of one value. -/
def same (x y : Fraction) : Bool := x.num * y.den == y.num * x.den

/-- The value in units of `10 ^ u`. -/
def inUnits (x : Fraction) (u : Int) : Fraction :=
  ⟨x.num * 10 ^ (-u).toNat, x.den * 10 ^ u.toNat⟩

/-- The whole number below. -/
def floor (x : Fraction) : Nat := x.num / x.den

/-- The closest whole number, the even one of two. -/
def round (x : Fraction) : Nat :=
  if x.den < 2 * (x.num % x.den) ∨ (2 * (x.num % x.den) = x.den ∧ x.floor % 2 = 1) then
    x.floor + 1
  else
    x.floor

end Fraction

/-! ### Reading -/

/-- The `k` with `2 ^ k ≤ x < 2 ^ (k + 1)`, for a positive `x`. -/
def log2 (x : Fraction) : Int :=
  let k : Int := x.num.log2 - x.den.log2
  if x.num * 2 ^ (-k).toNat < x.den * 2 ^ k.toNat then k - 1 else k

/-- The exponent of the last of 53 bits, no less than that of the subnormal numbers. -/
def exponent (x : Fraction) : Int := max (log2 x - 52) (-1074)

/-- The closest `float64`. -/
def nearest (x : Fraction) : Fraction :=
  let k := exponent x
  .ofBinary (Fraction.round ⟨x.num * 2 ^ (-k).toNat, x.den * 2 ^ k.toNat⟩) k

/-! ### Writing -/

/-- The multiple of `10 ^ u` that reads back as the `float64`, the closer one of two. -/
def onGrid (f : Fraction) (u : Int) : Option Nat :=
  let x := f.inUnits u
  match (nearest (.ofDecimal x.floor u)).same f, (nearest (.ofDecimal (x.floor + 1) u)).same f with
  | true, true => some x.round
  | true, false => some x.floor
  | false, true => some (x.floor + 1)
  | false, false => none

/-- The grids from that of the first digit down to one finer than all digits that tell two
numbers apart. -/
def grids (f : Fraction) : List Int :=
  let top : Int := (Nat.toDigits 10 f.floor).length
  (List.range (top + 345).toNat).map fun i : Nat => top - i

/-- The decimal `c * 10 ^ u` that the `float64` is written as. An exact whole number below `2 ^ 53`
keeps its digits; the others have the fewest that read back. -/
def written (f : Fraction) : Nat × Int :=
  if f.num % f.den = 0 ∧ f.floor < 2 ^ 53 then
    (f.floor, 0)
  else
    ((grids f).findSome? fun u => (onGrid f u).map (·, u)).getD (f.floor, 0)

/-- The decimal `m / 10 ^ e` after it was read and written. A value that is kept keeps its
spelling too. -/
def reread (m e : Nat) : Nat × Nat :=
  let x : Fraction := ⟨m, 10 ^ e⟩
  let (c, u) := written (nearest x)
  let y := Fraction.ofDecimal c u
  if y.same x then (m, e) else (y.num, (-u).toNat)

/-! ### Whole numbers below 2 ^ 53 -/

section Whole

variable {m : Nat}

lemma exponent_nonpos (h : m < 2 ^ 53) : exponent ⟨m, 1⟩ ≤ 0 := by
  have hlog : m.log2 ≤ 52 := by
    by_cases hm : m = 0
    · simp [hm]
    · have := (Nat.log2_lt hm).mpr h
      omega
  have hone : Nat.log2 1 = 0 := by decide
  simp only [exponent, log2, hone]
  split_ifs <;> omega

/-- No digit is lost: the number is the mantissa of a `float64`, shifted. -/
lemma nearest_whole (h : m < 2 ^ 53) : ∃ j, nearest ⟨m, 1⟩ = ⟨m * 2 ^ j, 2 ^ j⟩ := by
  have hexp := exponent_nonpos h
  refine ⟨(-exponent ⟨m, 1⟩).toNat, ?_⟩
  have hpos : (exponent ⟨m, 1⟩).toNat = 0 := Int.toNat_of_nonpos hexp
  simp [nearest, Fraction.ofBinary, Fraction.round, Fraction.floor, hpos, Nat.mod_one]

lemma reread_whole (h : m < 2 ^ 53) : reread m 0 = (m, 0) := by
  obtain ⟨j, hj⟩ := nearest_whole h
  have hfloor : Fraction.floor ⟨m * 2 ^ j, 2 ^ j⟩ = m :=
    Nat.mul_div_cancel m (Nat.two_pow_pos j)
  have hwritten : written ⟨m * 2 ^ j, 2 ^ j⟩ = (m, 0) := by
    rw [written, if_pos ⟨Nat.mul_mod_left m _, by rwa [hfloor]⟩, hfloor]
  simp [reread, hj, hwritten, Fraction.ofDecimal, Fraction.same]

end Whole

/-- The first whole number that no `float64` has, and one that a `float64` has but with fewer
digits. -/
example : reread (2 ^ 53 + 1) 0 = (2 ^ 53, 0) ∧ reread (2 ^ 63) 0 = (9223372036854776000, 0) := by
  decide

end GoLib.Float64
