namespace QuizPackage.Number

def digitsValue (digits : List Char) : Nat :=
  digits.foldl (fun value digit => 10 * value + (digit.toNat - '0'.toNat)) 0

def infinity : Float :=
  1.0 / 0.0

/-- The number nearest to `digits × 10 ^ exponent`. Exponents far outside the range of the format
are decided by the size alone. -/
def nearest (digits : Nat) (exponent : Int) : Float :=
  let size := (Nat.toDigits 10 digits).length + exponent
  if digits == 0 || size < -400 then
    0.0
  else if 400 < size then
    infinity
  else
    Float.ofScientific digits (exponent < 0) exponent.natAbs

def readExponent? : List Char → Option Int
  | [] => some 0
  | mark :: rest =>
      if mark == 'e' || mark == 'E' then
        let (minus, digits) :=
          match rest with
          | '-' :: digits => (true, digits)
          | '+' :: digits => (false, digits)
          | digits => (false, digits)
        if digits.isEmpty || !digits.all Char.isDigit then
          none
        else if minus then
          some (-(digitsValue digits : Int))
        else
          some (digitsValue digits)
      else
        none

/-- A number without a sign: a name, or digits with an optional point and exponent. -/
def readUnsigned? (text : List Char) : Option Float :=
  let name := String.ofList (text.map Char.toLower)
  if name == "inf" || name == "infinity" then
    some infinity
  else if name == "nan" then
    some (0.0 / 0.0)
  else
    let whole := text.takeWhile Char.isDigit
    let afterWhole := text.dropWhile Char.isDigit
    let (fraction, tail) :=
      match afterWhole with
      | '.' :: rest => (rest.takeWhile Char.isDigit, rest.dropWhile Char.isDigit)
      | rest => ([], rest)
    if whole.isEmpty && fraction.isEmpty then
      none
    else
      (readExponent? tail).map fun exponent =>
        nearest (digitsValue (whole ++ fraction)) (exponent - fraction.length)

/-- The number that a text names, if it names one. -/
def read? (text : String) : Option Float :=
  match text.toList with
  | '-' :: digits => (readUnsigned? digits).map fun number => -number
  | '+' :: digits => readUnsigned? digits
  | digits => readUnsigned? digits

end QuizPackage.Number
