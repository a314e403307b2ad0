/-
  The finite doubles, in exact arithmetic.

  A double is a sign and `mantissa · 2 ^ exponent`.  Every value a JSON text can denote is
  finite, so there is neither an infinity nor a NaN: an operation whose result is too large
  answers `none`.

  1. `nearest` rounds a quotient of natural numbers to the double next to it; of two that are
     equally near it takes the one with the even mantissa.
  2. `ofScientific` reads `significand · 10 ^ exponent` in rounded steps: the significand, then
     one product with (or quotient by) a power of ten that is itself rounded; exponents under
     -308 are reached by dividing by 10 ^ 308 first.  Each step rounds to nearest.  The result
     is therefore not always the double nearest to the decimal, and it is fixed by these steps.
-/

namespace FunctionCalling.Number

/-- A finite double, `± mantissa · 2 ^ exponent`. -/
structure Binary64 where
  negative : Bool
  mantissa : Nat
  exponent : Int
deriving DecidableEq, Repr

namespace Binary64

/-- The smallest exponent: that of zero and of the numbers with a short mantissa. -/
def minExponent : Int := -1074

/-- The largest exponent of a finite double. -/
def maxExponent : Int := 971

/-- Zero with a sign. -/
def zero (negative : Bool) : Binary64 :=
  ⟨negative, 0, minExponent⟩

/-- The same magnitude with the other sign. -/
def neg (x : Binary64) : Binary64 :=
  { x with negative := !x.negative }

/-! ## Rounding -/

/-- `num / (den · 2 ^ e)` as a quotient of natural numbers. -/
def scaled (num den : Nat) (e : Int) : Nat × Nat :=
  if 0 ≤ e then (num, den * Nat.pow 2 e.toNat) else (num * Nat.pow 2 (-e).toNat, den)

/-- The integer nearest to `num / den`; a half goes to the even neighbour. -/
def roundHalfEven (num den : Nat) : Nat :=
  let q := num / den
  let r := num % den
  if den < 2 * r then q + 1
  else if 2 * r = den then q + q % 2
  else q

/-- The exponent at which the quotient `num / den` has a mantissa of 53 bits, but not less than
    the smallest one. -/
def exponentFor (num den : Nat) : Int :=
  let e : Int := num.log2 - den.log2 - 52
  let (n, d) := scaled num den e
  max minExponent (if n / d < Nat.pow 2 52 then e - 1 else e)

/-- The double nearest to `± num / den`, or nothing when that is too large. -/
def nearest (negative : Bool) (num den : Nat) : Option Binary64 :=
  if num = 0 then some (zero negative) else
    let e := exponentFor num den
    let (n, d) := scaled num den e
    let m := roundHalfEven n d
    let (m, e) := if m = Nat.pow 2 53 then (Nat.pow 2 52, e + 1) else (m, e)
    if maxExponent < e then none else some ⟨negative, m, e⟩

/-- The magnitude as a quotient of natural numbers. -/
def magnitude (x : Binary64) : Nat × Nat :=
  (x.mantissa * Nat.pow 2 x.exponent.toNat, Nat.pow 2 (-x.exponent).toNat)

/-- The rounded product. -/
def mul (x y : Binary64) : Option Binary64 :=
  let (a, b) := x.magnitude
  let (c, d) := y.magnitude
  nearest (x.negative != y.negative) (a * c) (b * d)

/-- The rounded quotient, for a divisor that is not zero. -/
def div (x y : Binary64) : Option Binary64 :=
  let (a, b) := x.magnitude
  let (c, d) := y.magnitude
  nearest (x.negative != y.negative) (a * d) (b * c)

/-! ## Reading -/

/-- The double nearest to a natural number below `2 ^ 64`. -/
def ofNat (n : Nat) : Binary64 :=
  (nearest false n 1).getD (zero false)

/-- The double nearest to `10 ^ k`, for `k ≤ 308`. -/
def powerOfTen (k : Nat) : Binary64 :=
  (nearest false (Nat.pow 10 k) 1).getD (zero false)

/-- Divides by `10 ^ 308` until the exponent is at least -308 or nothing is left; `steps`
    bounds the divisions. -/
def shrink : Nat → Binary64 → Int → Binary64 × Int
  | 0, x, e => (x, e)
  | steps + 1, x, e =>
    if -308 ≤ e || x.mantissa = 0 then (x, e)
    else shrink steps ((x.div (powerOfTen 308)).getD (zero false)) (e + 308)

/-- `significand · 10 ^ exponent`, each step rounded; nothing when it is too large. -/
def ofScientific (significand : Nat) (exponent : Int) : Option Binary64 :=
  let (x, e) := shrink 4 (ofNat significand) exponent
  if x.mantissa = 0 then some (zero false)
  else if 308 < e then none
  else if 0 ≤ e then x.mul (powerOfTen e.toNat)
  else x.div (powerOfTen (-e).toNat)

example : nearest false 1 10 = some ⟨false, 7205759403792794, -56⟩ := by decide +kernel
example : ofScientific 1 400 = none := by decide +kernel
example : ofScientific 5 (-324) = some ⟨false, 1, -1074⟩ := by decide +kernel

end Binary64

end FunctionCalling.Number
