/-!
# Double-precision numbers

A double-precision number is a finite value `± significand · 2 ^ exponent`, an infinity, or
not-a-number. A finite value is kept in the one form the format stores it: the significand is
below `2 ^ 53`, the exponent is at least `-1074`, and the significand is at least `2 ^ 52`
unless the exponent is `-1074` (the subnormal numbers and zero).

Two operations tie such numbers to decimal text:

* `Binary64.ofDecimal` rounds `digits · 10 ^ exponent` to the nearest number, a tie going to
  the even significand; beyond the largest finite number it gives an infinity;
* `Binary64.shortest` gives the fewest significant digits that read back as the same number;
  of the two candidates with that many digits, below and above, it takes the nearer, and the
  one above on a tie.

`Binary64.positional` writes a number with those digits and no exponent.
-/

namespace ScriptLex

/-- A double-precision number. -/
inductive Binary64 where
  | finite (negative : Bool) (significand : Nat) (exponent : Int)
  | infinite (negative : Bool)
  | nan
  deriving DecidableEq, Repr, Inhabited

namespace Binary64

/-- The number of binary digits of `n`; zero has none. -/
def bitLength (n : Nat) : Nat := if n = 0 then 0 else n.log2 + 1

/-- The number of decimal digits of `n`. -/
def decimalLength (n : Nat) : Nat := (toString n).length

/-- Zero with a sign. -/
def zero (negative : Bool) : Binary64 := .finite negative 0 (-1074)

/-- The quotient and remainder of `num / den` scaled by `2 ^ -e`. -/
def scaled (num den : Nat) (e : Int) : Nat × Nat :=
  let n := num * Nat.pow 2 (-e).toNat
  let d := den * Nat.pow 2 e.toNat
  (n / d, n % d)

/-- The number nearest to `num / den` (with `den > 0`), a tie going to the even significand.
The exponent is first chosen so that the quotient has 53 bits, or is `-1074` for values below
the normal range; rounding up may carry into a 54th bit, which moves the exponent by one. -/
def ofFraction (negative : Bool) (num den : Nat) : Binary64 :=
  if num = 0 then zero negative else
  let e₀ : Int := (bitLength num : Int) - bitLength den - 53
  let e₁ := if (scaled num den e₀).1 < Nat.pow 2 53 then e₀ else e₀ + 1
  let e := max e₁ (-1074)
  let (q, r) := scaled num den e
  let d := den * Nat.pow 2 e.toNat
  let q := if 2 * r > d || (2 * r == d && q % 2 == 1) then q + 1 else q
  let (q, e) := if q == Nat.pow 2 53 then (Nat.pow 2 52, e + 1) else (q, e)
  if e > 971 then .infinite negative else .finite negative q e

/-- The number nearest to `digits · 10 ^ exponent`. A value of at least `10 ^ 310` is beyond
every finite number, and one below `10 ^ -326` is nearer to zero than to the least subnormal,
so neither needs the exact quotient. -/
def ofDecimal (negative : Bool) (digits : Nat) (exponent : Int) : Binary64 :=
  if digits = 0 then zero negative
  else if exponent > 309 then .infinite negative
  else if exponent + decimalLength digits < -325 then zero negative
  else if 0 ≤ exponent then ofFraction negative (digits * Nat.pow 10 exponent.toNat) 1
  else ofFraction negative digits (Nat.pow 10 (-exponent).toNat)

/-- The exponent `k` with `10 ^ k ≤ num / den < 10 ^ (k + 1)`, for positive `num` and `den`:
the difference of the digit counts, or one less. -/
def decimalExponent (num den : Nat) : Int :=
  let k : Int := (decimalLength num : Int) - decimalLength den
  if num * Nat.pow 10 (-k).toNat ≥ den * Nat.pow 10 k.toNat then k else k - 1

/-- Drops the zeros at the end of `m · 10 ^ g`, within a number of steps. -/
def dropTrailingZeros : Nat → Nat → Int → Nat × Int
  | 0, m, g => (m, g)
  | fuel + 1, m, g =>
    if m ≠ 0 ∧ m % 10 = 0 then dropTrailingZeros fuel (m / 10) (g + 1) else (m, g)

/-- The shortest decimal `m · 10 ^ g` that reads back as the finite positive number
`q · 2 ^ e`, without trailing zeros. For `p` significant digits the candidates are the grid
points below and above the value on the grid `10 ^ (k - p + 1)`; seventeen digits always read
back. -/
def shortest (q : Nat) (e : Int) : Nat × Int :=
  let num := q * Nat.pow 2 e.toNat
  let den := Nat.pow 2 (-e).toNat
  let k := decimalExponent num den
  let target := Binary64.finite false q e
  let grid (p : Nat) : Nat × Nat × Nat × Int :=
    let g : Int := k - p + 1
    let n := num * Nat.pow 10 (-g).toNat
    let d := den * Nat.pow 10 g.toNat
    (n / d, n % d, d, g)
  let pick (p : Nat) : Option (Nat × Int) :=
    let (lo, r, d, g) := grid p
    let below := ofDecimal false lo g == target
    let above := r != 0 && ofDecimal false (lo + 1) g == target
    if below && above then some (if 2 * r < d then lo else lo + 1, g)
    else if below then some (lo, g)
    else if above then some (lo + 1, g)
    else none
  let (lo, _, _, g) := grid 17
  let (m, g) := ((List.range 17).findSome? fun i => pick (i + 1)).getD (lo, g)
  dropTrailingZeros 20 m g

/-- Digits `ds` standing for `0.ds · 10 ^ x`, written without an exponent. -/
def placePoint (ds : List Char) (x : Int) : String :=
  if x ≤ 0 then "0." ++ String.ofList (List.replicate (-x).toNat '0' ++ ds)
  else if x.toNat < ds.length then
    String.ofList (ds.take x.toNat) ++ "." ++ String.ofList (ds.drop x.toNat)
  else String.ofList (ds ++ List.replicate (x.toNat - ds.length) '0')

/-- A number in positional notation with its shortest digits: a minus sign for negative
numbers, zero included, and `inf` or `NaN` for the values that are not finite. -/
def positional : Binary64 → String
  | .nan => "NaN"
  | .infinite negative => if negative then "-inf" else "inf"
  | .finite negative q e =>
    let sign := if negative then "-" else ""
    if q = 0 then sign ++ "0"
    else
      let (m, g) := shortest q e
      let ds := (toString m).toList
      sign ++ placePoint ds (ds.length + g)

/-- A number as messages show a float: in positional notation, with `.0` added to a finite
number that shows no point. -/
def withPoint (x : Binary64) : String :=
  let s := x.positional
  match x with
  | .finite .. => if s.toList.contains '.' then s else s ++ ".0"
  | _ => s

example : (ofDecimal false 1 3).withPoint = "1000.0" := by decide +kernel
example : (ofDecimal false 1 (-7)).withPoint = "0.0000001" := by decide +kernel
example : (ofDecimal false 250 (-2)).withPoint = "2.5" := by decide +kernel
example : (ofDecimal true 0 0).withPoint = "-0.0" := by decide +kernel

end Binary64

end ScriptLex
