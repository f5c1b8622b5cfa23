import SchemaTransfer.Decimal.Binary64

/-!
# Written forms of floating point numbers

The digits of a number are the shortest that read back. A notation says between which sizes they
are written around a point; beyond, one digit stands before the point and an exponent follows. A
positional form always has a point.
-/

namespace SchemaTransfer

/-- The choices of a written form. -/
structure FloatNotation where
  /-- The number of digits before the point below or at which the form has an exponent. -/
  positionalAbove : Option Int
  /-- The number of digits before the point above which the form has an exponent. -/
  positionalUpTo : Option Int
  /-- Whether an exponent that is not negative has a sign too. -/
  signedExponent : Bool

namespace FloatNotation

/-- Positional for every size. -/
def plain : FloatNotation := ⟨none, none, false⟩

/-- Positional from `0.00001` up to sixteen digits before the point; every exponent has a sign. -/
def compact : FloatNotation := ⟨some (-5), some 16, true⟩

/-- Whether a number with so many digits before its point is written around a point. -/
def isPositional (n : FloatNotation) (before : Int) : Bool :=
  (match n.positionalAbove with | some low => low < before | none => true) &&
    (match n.positionalUpTo with | some high => before ≤ high | none => true)

/-- Zeros. -/
def zeros (n : Int) : List Char := List.replicate n.toNat '0'

/-- Digits with a point after the first `before` of them. -/
def aroundPoint (digits : List Char) (before : Int) : List Char :=
  if before ≤ 0 then ['0', '.'] ++ zeros (-before) ++ digits
  else if digits.length ≤ before then digits ++ zeros (before - digits.length) ++ ['.', '0']
  else digits.take before.toNat ++ ['.'] ++ digits.drop before.toNat

/-- The mark of an exponent with the exponent after it. -/
def exponentText (n : FloatNotation) (exponent : Int) : List Char :=
  ['e'] ++ (if n.signedExponent && 0 ≤ exponent then ['+'] else []) ++ (toString exponent).toList

/-- Digits with a point after the first and an exponent. -/
def withExponent (n : FloatNotation) (digits : List Char) (before : Int) : List Char :=
  let exponent := n.exponentText (before - 1)
  match digits with
  | [d] => d :: exponent
  | d :: rest => d :: '.' :: rest ++ exponent
  | [] => exponent

/-- The digits of a number without the zeros at its end, with the number of those zeros. -/
def significant (n : Nat) : List Char × Nat :=
  let reversed := (Nat.toDigits 10 n).reverse
  ((reversed.dropWhile (· == '0')).reverse, (reversed.takeWhile (· == '0')).length)

/-- The written form of a number. -/
def write (n : FloatNotation) (negative : Bool) (x : Binary64) : String :=
  let sign := if negative then ['-'] else []
  let body :=
    if x.mantissa = 0 then ['0', '.', '0']
    else
      let d := x.shortest
      let (digits, dropped) := significant d.digits
      let before : Int := digits.length + dropped + d.scale
      if n.isPositional before then aroundPoint digits before else n.withExponent digits before
  String.ofList (sign ++ body)

end FloatNotation

end SchemaTransfer
