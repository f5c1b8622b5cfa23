import SchemaTransfer.Decimal.Notation

/-!
# Numbers of a document

A number is kept as it was written until its value is asked for. Digits are taken into a significand
of 64 bits as long as it has room; what does not fit only counts as a power of ten. A number
without point and exponent that fits 64 bits is an integer; zero with a sign and everything else
is a floating point number, the significand times or divided by the nearest power of ten.
-/

namespace SchemaTransfer

/-- A number as it was written. -/
structure NumberText where
  negative : Bool
  /-- The digits before the point. -/
  whole : List Char
  /-- The digits after the point; none when there is no point. -/
  fraction : List Char := []
  /-- The exponent: whether it is negative, and its digits. -/
  exponent : Option (Bool × List Char) := none
  deriving DecidableEq

/-- The value of a number. -/
inductive NumberValue where
  | integer (n : Int)
  | float (negative : Bool) (x : Binary64)
  /-- Greater than every floating point number. -/
  | outOfRange
  deriving DecidableEq

namespace NumberText

/-- The value of a digit. -/
def digitValue (c : Char) : Nat := c.toNat - 48

/-- The value of digits. -/
def digitsValue (ds : List Char) : Nat := ds.foldl (fun n d => 10 * n + digitValue d) 0

/-- The greatest significand. -/
def maxSignificand : Nat := Nat.pow 2 64 - 1

/-- Takes digits into a significand as long as it has room; the digits that are left. -/
def takeDigits (significand : Nat) : List Char → Nat × List Char
  | [] => (significand, [])
  | d :: ds =>
    let n := 10 * significand + digitValue d
    if n ≤ maxSignificand then takeDigits n ds else (significand, d :: ds)

/-- The nearest number to a product or quotient of two numbers. -/
def scaleBy (x : Binary64) (power : Nat) (up : Bool) : Option Binary64 :=
  (Binary64.nearest (Nat.pow 10 power) 1).bind fun p =>
    if up then
      Binary64.nearest (x.numerator * p.numerator) (x.denominator * p.denominator)
    else
      Binary64.nearest (x.numerator * p.denominator) (x.denominator * p.numerator)

/-- A number divided by a power of ten, at most `10 ^ 308` at a time. After three such steps
nothing is left. -/
def scaledDown (x : Binary64) (power : Nat) : Nat → Option Binary64
  | 0 => some Binary64.zero
  | steps + 1 =>
    if power ≤ 308 then scaleBy x power false
    else if x.mantissa = 0 then some x
    else (scaleBy x 308 false).bind fun y => scaledDown y (power - 308) steps

/-- A significand times a power of ten. -/
def scaled (significand : Nat) (power : Int) : Option Binary64 :=
  (Binary64.nearest significand 1).bind fun x =>
    if 0 ≤ power then
      if power ≤ 308 then scaleBy x power.toNat true
      else if x.mantissa = 0 then some x
      else none
    else scaledDown x (-power).toNat 4

/-- The floating point number of a significand and a power of ten. -/
def floatValue (negative : Bool) (significand : Nat) (power : Int) : NumberValue :=
  match scaled significand power with
  | some x => .float negative x
  | none => .outOfRange

/-- The value of a number without point and exponent that has its whole significand. -/
def integerValue (negative : Bool) (n : Nat) : NumberValue :=
  if negative then
    if n = 0 ∨ Nat.pow 2 63 < n then floatValue true n 0 else .integer (-n)
  else .integer n

/-- The greatest exponent that is looked at. -/
def maxExponent : Nat := 2147483647

/-- The value of a number. -/
def value (t : NumberText) : NumberValue :=
  let (n, left) := takeDigits 0 t.whole
  if left.isEmpty && t.fraction.isEmpty && t.exponent.isNone then integerValue t.negative n
  else
    let (s, unread) := takeDigits n t.fraction
    let power : Int := left.length - (t.fraction.length - unread.length : Nat)
    match t.exponent with
    | none => floatValue t.negative s power
    | some (down, ds) =>
      let e := digitsValue ds
      if maxExponent < e then
        if s ≠ 0 ∧ down = false then .outOfRange else .float t.negative .zero
      else floatValue t.negative s (if down then power - e else power + e)

/-- An integer as it is written. -/
def ofInt (n : Int) : NumberText := { negative := n < 0, whole := Nat.toDigits 10 n.natAbs }

end NumberText

end SchemaTransfer
