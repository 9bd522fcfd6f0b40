import QuizPackage.Number.Shortest

namespace QuizPackage.Number

/-- The digits of a decimal without trailing zeros, and the exponent that goes with them. -/
def Decimal.significant (decimal : Decimal) : List Char × Int :=
  let digits := Nat.toDigits 10 decimal.digits
  let kept := (digits.reverse.dropWhile (· == '0')).reverse
  (kept, decimal.exponent + (digits.length - kept.length : Nat))

/-- A positive decimal written without an exponent. -/
def Decimal.plain (decimal : Decimal) : List Char :=
  let (digits, exponent) := decimal.significant
  let point := digits.length + exponent
  if 0 ≤ exponent then
    digits ++ List.replicate exponent.toNat '0'
  else if 0 < point then
    digits.take point.toNat ++ '.' :: digits.drop point.toNat
  else
    '0' :: '.' :: (List.replicate (-point).toNat '0' ++ digits)

def negative (number : Float) : Bool :=
  number.toBits.toNat / Nat.pow 2 63 == 1

/-- A number without a magnitude has a name instead; any other takes a sign before its digits. -/
def signed (number : Float) (digits : Magnitude → List Char) : String :=
  if number.isNaN then
    "NaN"
  else
    let body := if number.isInf then "inf".toList else digits (magnitude number)
    String.ofList (if negative number then '-' :: body else body)

/-- The shortest text that names a number, never with an exponent. -/
def display (number : Float) : String :=
  signed number fun magnitude =>
    if magnitude.units == 0 then ['0'] else (magnitude.shortest .upper).plain

/-- A quotient rounded to the nearest whole number, a half going to the even neighbour. -/
def divideRounding (dividend divisor : Nat) : Nat :=
  let quotient := dividend / divisor
  let twice := 2 * (dividend % divisor)
  if twice < divisor || (twice == divisor && quotient % 2 == 0) then quotient else quotient + 1

def onePlace (number : Float) : String :=
  signed number fun magnitude =>
    let tenths := divideRounding (10 * magnitude.units) (Nat.pow 10 magnitude.places)
    Nat.toDigits 10 (tenths / 10) ++ '.' :: Nat.toDigits 10 (tenths % 10)

def isModestWhole (number : Float) : Bool :=
  let magnitude := magnitude number
  number.isFinite && magnitude.units % Nat.pow 10 magnitude.places == 0 &&
    magnitude.units < Nat.pow 10 (15 + magnitude.places)

/-- The literal of a number in an assessment document: modest whole numbers keep one decimal
place, all others have their shortest text. -/
def literal (number : Float) : String :=
  if isModestWhole number then onePlace number else display number

/-- A positive decimal in the form used by summaries: positional from `10 ^ -5` up to `10 ^ 16`,
with a point in every positional form, and with a signed exponent outside. -/
def Decimal.summary (decimal : Decimal) : List Char :=
  let (digits, exponent) := decimal.significant
  let point := digits.length + exponent
  if 0 ≤ exponent && point ≤ 16 then
    digits ++ List.replicate exponent.toNat '0' ++ ['.', '0']
  else if -5 < point && point ≤ 16 then
    decimal.plain
  else
    let leading := digits.take 1
    let others := digits.drop 1
    let mantissa := if others.isEmpty then leading else leading ++ '.' :: others
    let sign := if 0 < point then "e+" else "e"
    mantissa ++ sign.toList ++ (toString (point - 1)).toList

/-- The number of a summary; a number without a magnitude has none. -/
def summary (number : Float) : String :=
  if number.isFinite then
    signed number fun magnitude =>
      if magnitude.units == 0 then ['0', '.', '0'] else (magnitude.shortest .even).summary
  else
    "null"

end QuizPackage.Number
