import SchemaTransfer.Document.Basic
import SchemaTransfer.Text.Find

/-!
# The meaning of a bare word

A word without quotes is null, a truth value, a number or a text. Digits after a leading zero make
a text, a leading `0x`, `0o` or `0b` an integer of another base. What a word means is only asked
where no text is expected.
-/

namespace SchemaTransfer.Document.Word

/-- Whether the word is one for null. -/
def isNull (word : String) : Bool := word ∈ ["null", "Null", "NULL", "~"]

/-- The truth value that the word stands for. -/
def flag? (word : String) : Option Bool :=
  if word ∈ ["true", "True", "TRUE"] then some true
  else if word ∈ ["false", "False", "FALSE"] then some false
  else none

/-- The value of a digit of a base up to sixteen. -/
def digitOf? (base : Nat) (c : Char) : Option Nat :=
  let v :=
    if '0' ≤ c ∧ c ≤ '9' then c.toNat - 48
    else if 'a' ≤ c ∧ c ≤ 'f' then c.toNat - 87
    else if 'A' ≤ c ∧ c ≤ 'F' then c.toNat - 55
    else 16
  if v < base then some v else none

/-- The value of one or more digits. -/
def digits? (base : Nat) : List Char → Option Nat
  | [] => none
  | c :: cs =>
    (c :: cs).foldl (fun n d => n.bind fun n => (digitOf? base d).map (base * n + ·)) (some 0)

/-- Digits after an optional plus sign. -/
def unsignedDigits? (base : Nat) : List Char → Option Nat
  | '+' :: cs => digits? base cs
  | cs => digits? base cs

/-- The base that the beginning of a word announces, with the rest. -/
def announcedBase? : List Char → Option (Nat × List Char)
  | '0' :: 'x' :: rest => some (16, rest)
  | '0' :: 'o' :: rest => some (8, rest)
  | '0' :: 'b' :: rest => some (2, rest)
  | _ => none

/-- Whether a list of characters starts with a sign. -/
def startsWithSign : List Char → Bool
  | '+' :: _ => true
  | '-' :: _ => true
  | _ => false

/-- Whether the word is a zero with further digits after it. -/
def hasLeadingZero (cs : List Char) : Bool :=
  let body := match cs with
    | '-' :: rest => rest
    | '+' :: rest => rest
    | _ => cs
  match body with
  | '0' :: d :: rest => (d :: rest).all fun c => '0' ≤ c && c ≤ '9'
  | _ => false

/-- A number up to a limit. -/
def upTo (limit : Nat) (n : Option Nat) : Option Nat := n.filter (· ≤ limit)

/-- A natural number up to a limit, with an optional plus sign. -/
def natural? (limit : Nat) (word : List Char) : Option Nat :=
  let body := match word with
    | '+' :: rest => rest
    | _ => word
  let announced := (announcedBase? body).bind fun (base, rest) =>
    if startsWithSign rest then none else upTo limit (digits? base rest)
  match announced with
  | some n => some n
  | none =>
    if startsWithSign body || hasLeadingZero word then none else upTo limit (digits? 10 body)

/-- A negative number down to a limit. -/
def negative? (limit : Nat) (word : List Char) : Option Int :=
  match word with
  | '-' :: body =>
    let announced := (announcedBase? body).bind fun (base, rest) =>
      if startsWithSign rest then none else upTo limit (digits? base rest)
    match announced with
    | some n => some (-n)
    | none =>
      if hasLeadingZero word then none
      else (upTo limit (digits? 10 body)).map fun n => -n
  | _ => none

/-- The number of 64 bits without sign that the word stands for. -/
def unsigned64? (word : String) : Option Int :=
  (natural? (Nat.pow 2 64 - 1) word.toList).map Int.ofNat

/-- The number of 64 bits with a sign that the word stands for. -/
def signed64? (word : String) : Option Int :=
  match natural? (Nat.pow 2 63 - 1) word.toList with
  | some n => some n
  | none => negative? (Nat.pow 2 63) word.toList

/-- Digits at the start of a list, with the rest. -/
def spanDigits (cs : List Char) : List Char × List Char :=
  (cs.takeWhile Char.isDigit, cs.dropWhile Char.isDigit)

/-- The exponent of a decimal number, which may be missing. -/
def exponent? : List Char → Option Int
  | [] => some 0
  | c :: rest =>
    if c = 'e' ∨ c = 'E' then
      match rest with
      | '-' :: ds => (digits? 10 ds).map fun n => -n
      | ds => (unsignedDigits? 10 ds).map Int.ofNat
    else none

/-- The digits and the power of ten of a decimal number without sign. -/
def decimalParts? (cs : List Char) : Option (List Char × Int) :=
  let (whole, rest) := spanDigits cs
  let (fraction, rest) := match rest with
    | '.' :: after => spanDigits after
    | _ => ([], rest)
  if whole.isEmpty && fraction.isEmpty then none
  else (exponent? rest).map fun e => (whole ++ fraction, e - fraction.length)

/-- The nearest floating point number to digits times a power of ten. -/
def nearestDecimal? (digits : List Char) (power : Int) : Option Binary64 :=
  let digits := digits.dropWhile (· == '0')
  let n := NumberText.digitsValue digits
  if n = 0 then some .zero
  else if 400 < power + digits.length then none
  else if power + digits.length < -400 then some .zero
  else Binary64.nearest (n * Nat.pow 10 power.toNat) (Nat.pow 10 (-power).toNat)

/-- The floating point number that the word stands for. -/
inductive FloatWord where
  | finite (negative : Bool) (x : Binary64)
  | infinite (negative : Bool)
  | notANumber

/-- Reads a word as a floating point number. -/
def float? (word : String) : Option FloatWord :=
  if word ∈ [".inf", ".Inf", ".INF", "+.inf", "+.Inf", "+.INF"] then some (.infinite false)
  else if word ∈ ["-.inf", "-.Inf", "-.INF"] then some (.infinite true)
  else if word ∈ [".nan", ".NaN", ".NAN"] then some .notANumber
  else
    let (negative, body) := match word.toList with
      | '+' :: rest => (false, rest)
      | '-' :: rest => (true, rest)
      | cs => (false, cs)
    (decimalParts? body).bind fun (digits, power) =>
      (nearestDecimal? digits power).map (.finite negative)

/-- The written form of a floating point number in a message. -/
def FloatWord.text : FloatWord → String
  | .finite negative x => FloatNotation.plain.write negative x
  | .infinite false => "inf"
  | .infinite true => "-inf"
  | .notANumber => "NaN"

end SchemaTransfer.Document.Word
