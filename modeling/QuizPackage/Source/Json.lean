import QuizPackage.Source.Value

/-!
# JSON sources

Reads the JSON syntax. This stands for the reader of an outside library: it takes the same texts
for the same values, and leaves out what the library says of a text that it does not take. Numbers
are scaled from their first digits by one power of ten, as far as those digits fit a machine word;
lists and tables may be nested 127 deep where they are read.
-/

namespace QuizPackage.Source.Json

def skipBlank (text : List Char) : List Char :=
  text.dropWhile fun c => c == ' ' || c == '\n' || c == '\t' || c == '\r'

def greatestWhole : Nat := Nat.pow 2 64 - 1

/-- Takes up digits as long as the number they form stays within bounds. -/
def takeDigits (significand : Nat) : List Char → Nat × List Char
  | [] => (significand, [])
  | digit :: rest =>
      let next := 10 * significand + (digit.toNat - '0'.toNat)
      if next ≤ greatestWhole then takeDigits next rest else (significand, digit :: rest)

/-- Scales a number by a power of ten. Nothing comes of a number too great for the format. Each
round divides by the greatest power there is, and two of them leave nothing of any significand. -/
def scale? (rounds : Nat) (number : Float) (exponent : Int) : Option Float :=
  if exponent.natAbs ≤ 308 then
    let power := Number.nearest 1 exponent.natAbs
    if 0 ≤ exponent then
      let scaled := number * power
      if scaled.isInf then none else some scaled
    else
      some (number / power)
  else if number == 0.0 then
    some number
  else if 0 ≤ exponent then
    none
  else
    match rounds with
    | 0 => some 0.0
    | rounds + 1 => scale? rounds (number / Number.nearest 1 308) (exponent + 308)

structure Numeral where
  minus : Bool
  whole : List Char
  fraction : Option (List Char)
  exponent : Option (Bool × List Char)

def greatestExponent : Nat := Nat.pow 2 31 - 1

/-- A number with a fraction or an exponent, or with too many digits for a whole one. -/
def Numeral.scaled? (numeral : Numeral) : Option Float :=
  let (whole, dropped) := takeDigits 0 numeral.whole
  let fraction := numeral.fraction.getD []
  let (significand, unused) := takeDigits whole fraction
  let start : Int := (dropped.length : Int) - (fraction.length - unused.length : Nat)
  let size :=
    match numeral.exponent with
    | none => scale? 3 (Number.nearest significand 0) start
    | some (minus, digits) =>
        let exponent := Number.digitsValue digits
        if greatestExponent < exponent then
          if significand == 0 || minus then some 0.0 else none
        else
          scale? 3 (Number.nearest significand 0)
            (if minus then start - exponent else start + exponent)
  size.map fun number => if numeral.minus then -number else number

def Numeral.value (numeral : Numeral) : Value :=
  let whole := Number.digitsValue numeral.whole
  let scaled :=
    match numeral.scaled? with
    | some number => .number number
    | none => .unreadable
  if numeral.fraction.isSome || numeral.exponent.isSome || greatestWhole < whole then
    scaled
  else if !numeral.minus then
    .integer whole
  else if whole == 0 || Nat.pow 2 63 < whole then
    scaled
  else
    .integer (-(whole : Int))

def digitsOf (text : List Char) : List Char × List Char :=
  (text.takeWhile Char.isDigit, text.dropWhile Char.isDigit)

/-- Reads the digits after a point, if there is one. -/
def readFraction? (text : List Char) : Option (Option (List Char) × List Char) :=
  match text with
  | '.' :: rest =>
      let (digits, rest) := digitsOf rest
      if digits.isEmpty then none else some (some digits, rest)
  | rest => some (none, rest)

/-- Reads an exponent, if there is one. -/
def readExponent? (text : List Char) : Option (Option (Bool × List Char) × List Char) :=
  match text with
  | mark :: rest =>
      if mark == 'e' || mark == 'E' then
        let (minus, rest) :=
          match rest with
          | '-' :: rest => (true, rest)
          | '+' :: rest => (false, rest)
          | rest => (false, rest)
        let (digits, rest) := digitsOf rest
        if digits.isEmpty then none else some (some (minus, digits), rest)
      else
        some (none, text)
  | [] => some (none, [])

/-- Reads a number. Its whole part has no zero in front. -/
def readNumber? (text : List Char) : Option (Value × List Char) := do
  let (minus, text) :=
    match text with
    | '-' :: rest => (true, rest)
    | rest => (false, rest)
  let (whole, text) := digitsOf text
  if whole.isEmpty || (whole.head? == some '0' && 1 < whole.length) then
    none
  let (fraction, text) ← readFraction? text
  let (exponent, text) ← readExponent? text
  return ((Numeral.mk minus whole fraction exponent).value, text)

def escaped? (c : Char) : Option Char :=
  match c with
  | '"' => some '"'
  | '\\' => some '\\'
  | '/' => some '/'
  | 'b' => some '\x08'
  | 'f' => some '\x0C'
  | 'n' => some '\n'
  | 'r' => some '\r'
  | 't' => some '\t'
  | _ => none

structure Collected where
  reversed : List Char
  /-- The first half of a character whose second half has not come yet. -/
  half : Option Nat
  /-- Whether every half has found the other. -/
  whole : Bool

/-- Adds a character, before which no half may be left over. -/
def Collected.push (collected : Collected) (c : Char) : Collected :=
  ⟨c :: collected.reversed, none, collected.whole && collected.half.isNone⟩

def Collected.pushCode (collected : Collected) (code : Nat) : Collected :=
  if 0xD800 ≤ code && code < 0xDC00 then
    ⟨collected.reversed, some code, collected.whole && collected.half.isNone⟩
  else if 0xDC00 ≤ code && code < 0xE000 then
    match collected.half with
    | some half =>
        let c := Char.ofNat (0x10000 + (half - 0xD800) * 0x400 + (code - 0xDC00))
        ⟨c :: collected.reversed, none, collected.whole⟩
    | none => ⟨collected.reversed, none, false⟩
  else
    collected.push (Char.ofNat code)

/-- The collected text, if every half has found the other. -/
def Collected.text? (collected : Collected) : Option String :=
  if collected.whole && collected.half.isNone then
    some (String.ofList collected.reversed.reverse)
  else
    none

def readText? (collected : Collected) : List Char → Option (Option String × List Char)
  | [] => none
  | '"' :: rest => some (collected.text?, rest)
  | '\\' :: 'u' :: a :: b :: c :: d :: rest =>
      match hexValue? [a, b, c, d] with
      | some code => readText? (collected.pushCode code) rest
      | none => none
  | '\\' :: mark :: rest =>
      match escaped? mark with
      | some c => readText? (collected.push c) rest
      | none => none
  | c :: rest => if c.toNat < 0x20 then none else readText? (collected.push c) rest

def depthLimit : Nat := 128

def readWord? (word : String) (value : Value) (text : List Char) : Option (Value × List Char) :=
  if word.toList.isPrefixOf text then some (value, text.drop word.length) else none

mutual

/-- Reads a value. A list or table would be nested `depth` deep; `fuel` bounds the recursion. -/
def readValue? : (fuel depth : Nat) → List Char → Option (Value × List Char)
  | 0, _, _ => none
  | fuel + 1, depth, text =>
      match skipBlank text with
      | '"' :: rest =>
          (readText? ⟨[], none, true⟩ rest).map fun (value, rest) =>
            (value.elim .unreadable .text, rest)
      | '[' :: rest =>
          match skipBlank rest with
          | ']' :: rest => some (if depthLimit ≤ depth then .unreadable else .list [], rest)
          | rest =>
              (readItems? fuel depth [] rest).map fun (items, rest) =>
                (if depthLimit ≤ depth then .unreadable else .list items, rest)
      | '\x7b' :: rest =>
          match skipBlank rest with
          | '\x7d' :: rest => some (if depthLimit ≤ depth then .unreadable else .table [], rest)
          | rest =>
              (readMembers? fuel depth true [] rest).map fun (members, rest) =>
                match members with
                | some members => (if depthLimit ≤ depth then .unreadable else .table members, rest)
                | none => (.unreadable, rest)
      | 't' :: rest => readWord? "rue" (.boolean true) rest
      | 'f' :: rest => readWord? "alse" (.boolean false) rest
      | 'n' :: rest => readWord? "ull" .null rest
      | rest => readNumber? rest

/-- Reads the items of a list, the ones before it being `reversed`. -/
def readItems? : (fuel depth : Nat) → List Value → List Char → Option (List Value × List Char)
  | 0, _, _, _ => none
  | fuel + 1, depth, reversed, text =>
      match readValue? fuel (depth + 1) text with
      | none => none
      | some (item, rest) =>
          match skipBlank rest with
          | ',' :: rest => readItems? fuel depth (item :: reversed) rest
          | ']' :: rest => some ((item :: reversed).reverse, rest)
          | _ => none

/-- Reads the members of a table, the ones before it being `reversed`. A name that is not `whole`
spoils the table. -/
def readMembers? : (fuel depth : Nat) → (whole : Bool) → List (String × Value) → List Char →
    Option (Option (List (String × Value)) × List Char)
  | 0, _, _, _, _ => none
  | fuel + 1, depth, whole, reversed, text =>
      match skipBlank text with
      | '"' :: rest =>
          match readText? ⟨[], none, true⟩ rest with
          | none => none
          | some (name, rest) =>
              match skipBlank rest with
              | ':' :: rest =>
                  match readValue? fuel (depth + 1) rest with
                  | none => none
                  | some (value, rest) =>
                      let whole := whole && name.isSome
                      let reversed := (name.getD "", value) :: reversed
                      match skipBlank rest with
                      | ',' :: rest => readMembers? fuel depth whole reversed rest
                      | '\x7d' :: rest => some (if whole then some reversed.reverse else none, rest)
                      | _ => none
              | _ => none
      | _ => none

end

def read? (source : String) : Option Value :=
  let text := source.toList
  match readValue? (2 * text.length + 1) 1 text with
  | some (value, rest) => if (skipBlank rest).isEmpty then some value else none
  | none => none

end QuizPackage.Source.Json
