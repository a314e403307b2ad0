/-
  The shortest decimal of a double.

  Among the decimals that round to a given double, `shortest` takes one with the fewest digits,
  and of those the nearest to the double.  For 1, 2, … 17 digits it tests the double's two
  neighbours on that decimal grid, in exact arithmetic; seventeen digits always suffice.

  `Binary64.toText` writes those digits: positionally (with `.0` when there is no fraction)
  while the point falls within the first sixteen digits or at most four zeros follow it,
  otherwise with an exponent that carries its sign.
-/
import FunctionCalling.Number.Binary64

namespace FunctionCalling.Number

/-- The decimal `digits · 10 ^ exponent`. -/
structure Decimal where
  digits : Nat
  exponent : Int
deriving DecidableEq, Repr

namespace Binary64

/-! ## Which decimals round to a double -/

/-- A double as `value · 2 ^ scale` with the ends of the interval that rounds to it on the same
    scale; the ends belong to the interval exactly when `closed`. -/
structure Interval where
  low : Nat
  value : Nat
  high : Nat
  scale : Int
  closed : Bool

/-- The interval of the reals that round to a magnitude: half way to either neighbour, and a
    quarter downwards where the neighbour below has a smaller exponent. -/
def interval (x : Binary64) : Interval :=
  let m := x.mantissa
  let narrow := m = Nat.pow 2 52 ∧ minExponent < x.exponent
  ⟨4 * m - (if narrow then 1 else 2), 4 * m, 4 * m + 2, x.exponent - 2, m % 2 = 0⟩

/-- Two quotients compared: `a · 2 ^ s` against `d · 10 ^ k`. -/
def compareDecimal (a : Nat) (s : Int) (d : Decimal) : Ordering :=
  let left := a * Nat.pow 2 s.toNat * Nat.pow 10 (-d.exponent).toNat
  let right := d.digits * Nat.pow 10 d.exponent.toNat * Nat.pow 2 (-s).toNat
  compare left right

/-- Whether a decimal lies in the interval. -/
def Interval.contains (i : Interval) (d : Decimal) : Bool :=
  let low := compareDecimal i.low i.scale d
  let high := compareDecimal i.high i.scale d
  (low == .lt || (i.closed && low == .eq)) && (high == .gt || (i.closed && high == .eq))

/-- The position of the first digit: the `p` with `10 ^ p ≤ a · 2 ^ s < 10 ^ (p + 1)`, looked
    for upwards from `p`. -/
def leadingPosition (a : Nat) (s : Int) : Nat → Int → Int
  | 0, p => p
  | steps + 1, p =>
    if compareDecimal a s ⟨1, p + 1⟩ == .lt then p else leadingPosition a s steps (p + 1)

/-- The neighbour below a value on the grid of multiples of `10 ^ k`. -/
def gridBelow (a : Nat) (s : Int) (k : Int) : Nat :=
  (a * Nat.pow 2 s.toNat * Nat.pow 10 (-k).toNat) / (Nat.pow 10 k.toNat * Nat.pow 2 (-s).toNat)

/-- The better of the two neighbours on a grid, if one of them lies in the interval: the nearer
    one, and of two equally near the even one. -/
def Interval.onGrid (i : Interval) (k : Int) : Option Decimal :=
  let n := gridBelow i.value i.scale k
  let below : Decimal := ⟨n, k⟩
  let above : Decimal := ⟨n + 1, k⟩
  match i.contains below, i.contains above with
  | true, true =>
    -- twice the value against the sum of the neighbours
    match compareDecimal (2 * i.value) i.scale ⟨2 * n + 1, k⟩ with
    | .lt => some below
    | .gt => some above
    | .eq => some (if n % 2 = 0 then below else above)
  | true, false => some below
  | false, true => some above
  | false, false => none

/-- The first grid that answers, from `10 ^ k` on towards finer ones. -/
def Interval.firstGrid (i : Interval) : Nat → Int → Decimal
  | 0, k => ⟨gridBelow i.value i.scale k, k⟩
  | steps + 1, k => (i.onGrid k).getD (i.firstGrid steps (k - 1))

/-- Trailing zeros moved into the exponent. -/
def trimZeros : Nat → Decimal → Decimal
  | 0, d => d
  | steps + 1, d =>
    if d.digits ≠ 0 ∧ d.digits % 10 = 0 then trimZeros steps ⟨d.digits / 10, d.exponent + 1⟩ else d

/-- The shortest decimal of a magnitude other than zero. -/
def shortest (x : Binary64) : Decimal :=
  let i := x.interval
  let p := leadingPosition i.value i.scale 700 (-330)
  trimZeros 20 (i.firstGrid 17 p)

/-! ## Writing -/

/-- The number of zeros asked for. -/
def zeros (n : Nat) : List Char :=
  List.replicate n '0'

/-- Digits with the decimal point after the first `point` of them, `point` counted from the
    first digit and possibly negative or beyond the last. -/
def positional (digits : List Char) (point : Int) : List Char :=
  if digits.length ≤ point then digits ++ zeros (point.toNat - digits.length) ++ ['.', '0']
  else if 0 < point then digits.take point.toNat ++ '.' :: digits.drop point.toNat
  else '0' :: '.' :: zeros (-point).toNat ++ digits

/-- Digits with the point after the first and an exponent that carries its sign. -/
def exponential (digits : List Char) (point : Int) : List Char :=
  let fraction := digits.drop 1
  let sign := if 0 < point then '+' else '-'
  digits.take 1 ++ (if fraction.isEmpty then [] else '.' :: fraction)
    ++ 'e' :: sign :: Nat.toDigits 10 (point - 1).natAbs

/-- A double as text, with the fewest digits that read back. -/
def toText (x : Binary64) : String :=
  let sign := if x.negative then ['-'] else []
  let body :=
    if x.mantissa = 0 then ['0', '.', '0'] else
      let d := x.shortest
      let digits := Nat.toDigits 10 d.digits
      let point : Int := digits.length + d.exponent
      if -5 < point ∧ point ≤ 16 then positional digits point else exponential digits point
  String.ofList (sign ++ body)

example : (ofScientific 1 (-1)).map toText = some "0.1" := by decide +kernel
example : (ofScientific 18446744073709551615 0).map toText = some "1.8446744073709552e+19" := by
  decide +kernel
example : (ofScientific 15 299).map toText = some "1.5e+300" := by decide +kernel
example : (ofScientific 1 (-7)).map toText = some "1e-7" := by decide +kernel
example : (zero true).toText = "-0.0" := by decide +kernel

end Binary64

end FunctionCalling.Number
