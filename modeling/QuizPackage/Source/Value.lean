import QuizPackage.Number.Reading

namespace QuizPackage.Source

/-- The values that quizzes and configurations are written in, whatever their syntax. -/
inductive Value where
  | null
  | boolean (value : Bool)
  | integer (value : Int)
  | number (value : Float)
  | text (value : String)
  | list (items : List Value)
  | table (members : List (String × Value))
  | moment
  /-- A value that is written correctly but cannot be taken up: a number out of range, a text with
  half a character, or a nesting that is too deep. It does no harm where nobody asks for it. -/
  | unreadable

mutual

def Value.height : Value → Nat
  | .list items => heightOfItems items + 1
  | .table members => heightOfMembers members + 1
  | _ => 1

def heightOfItems : List Value → Nat
  | [] => 0
  | item :: rest => max item.height (heightOfItems rest)

def heightOfMembers : List (String × Value) → Nat
  | [] => 0
  | (_, value) :: rest => max value.height (heightOfMembers rest)

end

mutual

def Value.readable : Value → Bool
  | .unreadable => false
  | .list items => readableItems items
  | .table members => readableMembers members
  | _ => true

def readableItems : List Value → Bool
  | [] => true
  | item :: rest => item.readable && readableItems rest

def readableMembers : List (String × Value) → Bool
  | [] => true
  | (_, value) :: rest => value.readable && readableMembers rest

end

def wholeNumber (value : Int) : Float :=
  let size := Number.nearest value.natAbs 0
  if value < 0 then -size else size

def hexValue? (digits : List Char) : Option Nat :=
  digits.foldlM (fun value digit =>
    if digit.isDigit then
      some (16 * value + (digit.toNat - '0'.toNat))
    else if 'a' ≤ digit && digit ≤ 'f' then
      some (16 * value + (digit.toNat - 'a'.toNat + 10))
    else if 'A' ≤ digit && digit ≤ 'F' then
      some (16 * value + (digit.toNat - 'A'.toNat + 10))
    else
      none) 0

end QuizPackage.Source
