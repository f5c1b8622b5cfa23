/-!
# Binary floating point numbers of 64 bits

A finite magnitude is a natural number below `2 ^ 53` times a power of two not below `2 ^ -1074`.
`nearest` takes a quotient to the closest one, ties to the even neighbour. `shortest` takes one to
the fewest decimal digits that `nearest` reads back, and of those to the closest: on each decimal
grid it tests the two neighbours of the value.
-/

namespace SchemaTransfer

/-- The magnitude `mantissa * 2 ^ exponent`. -/
structure Binary64 where
  mantissa : Nat
  exponent : Int
  deriving DecidableEq

namespace Binary64

/-- The least exponent. -/
def minExponent : Int := -1074

/-- The greatest exponent. -/
def maxExponent : Int := 971

/-- The number zero. -/
def zero : Binary64 := ⟨0, minExponent⟩

/-- The numerator of the magnitude as a fraction. -/
def numerator (x : Binary64) : Nat := x.mantissa * Nat.pow 2 x.exponent.toNat

/-- The denominator of the magnitude as a fraction. -/
def denominator (x : Binary64) : Nat := Nat.pow 2 (-x.exponent).toNat

/-- A quotient rounded to the nearest natural number, ties to the even one. -/
def roundedQuotient (num den : Nat) : Nat :=
  let q := num / den
  let twice := 2 * (num % den)
  if twice < den then q else if den < twice then q + 1 else q + q % 2

/-- The exponent of the highest power of two in a quotient. -/
def magnitude (num den : Nat) : Int :=
  let e : Int := (Nat.log2 num : Int) - (Nat.log2 den : Int)
  if den * Nat.pow 2 e.toNat ≤ num * Nat.pow 2 (-e).toNat then e else e - 1

/-- The closest number to a quotient, or none when the quotient is too great. -/
def nearest (num den : Nat) : Option Binary64 :=
  if num = 0 then some zero
  else
    let e := max minExponent (magnitude num den - 52)
    let m := roundedQuotient (num * Nat.pow 2 (-e).toNat) (den * Nat.pow 2 e.toNat)
    let x : Binary64 := if m = Nat.pow 2 53 then ⟨Nat.pow 2 52, e + 1⟩ else ⟨m, e⟩
    if maxExponent < x.exponent then none else some x

/-- The decimal number `digits * 10 ^ scale`. -/
structure Shortest where
  digits : Nat
  scale : Int
  deriving DecidableEq

/-- The exponent of the highest power of ten in a quotient that is not zero. -/
def decimalMagnitude (num den : Nat) : Int :=
  if den ≤ num then ((Nat.toDigits 10 (num / den)).length : Int) - 1
  else -((Nat.toDigits 10 ((den - 1) / num)).length : Int)

/-- Four times the mantissa of each end of the interval of values that `nearest` takes to the
number, lower end first; the lower half is shorter at a power of two. -/
def ends (x : Binary64) : Nat × Nat :=
  let below := if x.mantissa = Nat.pow 2 52 ∧ x.exponent ≠ minExponent then 1 else 2
  (4 * x.mantissa - below, 4 * x.mantissa + 2)

/-- Whether a decimal number is read back as the number. The ends are, if the mantissa is even. -/
def readsBack (x : Binary64) (d : Shortest) : Bool :=
  let value := d.digits * Nat.pow 10 d.scale.toNat * Nat.pow 2 (-(x.exponent - 2)).toNat
  let unit := Nat.pow 10 (-d.scale).toNat * Nat.pow 2 (x.exponent - 2).toNat
  let (low, high) := x.ends
  if x.mantissa % 2 = 0 then low * unit ≤ value && value ≤ high * unit
  else low * unit < value && value < high * unit

/-- The neighbours of the number on the decimal grid of a scale: the one below, the one above, and
whether the one below is the closer. -/
def neighbours (x : Binary64) (scale : Int) : Shortest × Shortest × Bool :=
  let num := x.numerator * Nat.pow 10 (-scale).toNat
  let den := x.denominator * Nat.pow 10 scale.toNat
  let d := num / den
  (⟨d, scale⟩, ⟨d + 1, scale⟩, 2 * (num % den) < den || (2 * (num % den) == den && d % 2 == 0))

/-- The closest decimal number on a grid that is read back, if one is. -/
def onGrid? (x : Binary64) (scale : Int) : Option Shortest :=
  let (below, above, belowIsCloser) := x.neighbours scale
  match x.readsBack below, x.readsBack above with
  | true, true => some (if belowIsCloser then below else above)
  | true, false => some below
  | false, true => some above
  | false, false => none

/-- Tries grids from coarse to fine. -/
def shortestFrom (x : Binary64) : Nat → Int → Shortest
  | 0, scale => (x.neighbours scale).1
  | tries + 1, scale =>
    match x.onGrid? scale with
    | some d => d
    | none => shortestFrom x tries (scale - 1)

/-- The shortest decimal number that is read back. -/
def shortest (x : Binary64) : Shortest :=
  if x.mantissa = 0 then ⟨0, 0⟩
  else shortestFrom x 17 (decimalMagnitude x.numerator x.denominator)

end Binary64

end SchemaTransfer
