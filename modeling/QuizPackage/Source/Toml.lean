import QuizPackage.Source.TomlTable

/-!
# TOML sources

Reads the TOML syntax. This stands for the reader of an outside library, with its limits: lists and
inline tables may be nested 79 deep, and a key may have 79 parts. What the library says of a text
that it does not take is left out.
-/

namespace QuizPackage.Source.Toml

def isSpace (c : Char) : Bool :=
  c == ' ' || c == '\t'

def skipSpace (text : List Char) : List Char :=
  text.dropWhile isSpace

def isPrintable (c : Char) : Bool :=
  c == '\t' || (0x20 ≤ c.toNat && c.toNat != 0x7F)

def skipBreak? : List Char → Option (List Char)
  | '\n' :: rest => some rest
  | '\r' :: '\n' :: rest => some rest
  | _ => none

/-- Skips a comment, if there is one. -/
def skipComment : List Char → List Char
  | '#' :: rest => rest.dropWhile isPrintable
  | text => text

def skipLineEnd? (text : List Char) : Option (List Char) :=
  match skipComment (skipSpace text) with
  | [] => some []
  | rest => skipBreak? rest

def skipLines : (fuel : Nat) → List Char → List Char
  | 0, text => text
  | fuel + 1, text =>
      let rest := skipSpace text
      match skipBreak? (skipComment rest) with
      | some next => skipLines fuel next
      | none => rest

/-- The character of a code, if it is one. -/
def scalar? (digits : List Char) : Option Char :=
  (hexValue? digits).bind fun code =>
    if code < 0xD800 || (0xDFFF < code && code < 0x110000) then some (Char.ofNat code) else none

def escaped? (c : Char) : Option Char :=
  match c with
  | 'b' => some '\x08'
  | 't' => some '\t'
  | 'n' => some '\n'
  | 'f' => some '\x0C'
  | 'r' => some '\r'
  | '"' => some '"'
  | '\\' => some '\\'
  | _ => none

def readBasic? (reversed : List Char) : List Char → Option (String × List Char)
  | [] => none
  | '"' :: rest => some (String.ofList reversed.reverse, rest)
  | '\\' :: 'u' :: a :: b :: c :: d :: rest =>
      match scalar? [a, b, c, d] with
      | some scalar => readBasic? (scalar :: reversed) rest
      | none => none
  | '\\' :: 'U' :: a :: b :: c :: d :: e :: f :: g :: h :: rest =>
      match scalar? [a, b, c, d, e, f, g, h] with
      | some scalar => readBasic? (scalar :: reversed) rest
      | none => none
  | '\\' :: mark :: rest =>
      match escaped? mark with
      | some c => readBasic? (c :: reversed) rest
      | none => none
  | c :: rest => if isPrintable c then readBasic? (c :: reversed) rest else none

def readLiteral? (reversed : List Char) : List Char → Option (String × List Char)
  | [] => none
  | '\'' :: rest => some (String.ofList reversed.reverse, rest)
  | c :: rest => if isPrintable c then readLiteral? (c :: reversed) rest else none

/-- Reads the rest of a basic text over several lines. While `folding`, blanks and line breaks
after a backslash at the end of a line are passed over. Up to two quotes may stand before the three
that close the text. -/
def readLongBasic? (folding : Bool) (reversed : List Char) :
    List Char → Option (String × List Char)
  | [] => none
  | '"' :: '"' :: '"' :: '"' :: '"' :: rest =>
      some (String.ofList ('"' :: '"' :: reversed).reverse, rest)
  | '"' :: '"' :: '"' :: '"' :: rest => some (String.ofList ('"' :: reversed).reverse, rest)
  | '"' :: '"' :: '"' :: rest => some (String.ofList reversed.reverse, rest)
  | '\r' :: '\n' :: rest =>
      readLongBasic? folding (if folding then reversed else '\n' :: reversed) rest
  | '\\' :: 'u' :: a :: b :: c :: d :: rest =>
      match scalar? [a, b, c, d] with
      | some scalar => readLongBasic? false (scalar :: reversed) rest
      | none => none
  | '\\' :: 'U' :: a :: b :: c :: d :: e :: f :: g :: h :: rest =>
      match scalar? [a, b, c, d, e, f, g, h] with
      | some scalar => readLongBasic? false (scalar :: reversed) rest
      | none => none
  | '\\' :: mark :: rest =>
      match escaped? mark with
      | some c => readLongBasic? false (c :: reversed) rest
      | none =>
          if (skipBreak? (skipSpace (mark :: rest))).isSome then
            readLongBasic? true reversed (mark :: rest)
          else
            none
  | c :: rest =>
      if folding && (isSpace c || c == '\n') then
        readLongBasic? true reversed rest
      else if isPrintable c || c == '\n' then
        readLongBasic? false (c :: reversed) rest
      else
        none

def readLongLiteral? (reversed : List Char) : List Char → Option (String × List Char)
  | [] => none
  | '\'' :: '\'' :: '\'' :: '\'' :: '\'' :: rest =>
      some (String.ofList ('\'' :: '\'' :: reversed).reverse, rest)
  | '\'' :: '\'' :: '\'' :: '\'' :: rest => some (String.ofList ('\'' :: reversed).reverse, rest)
  | '\'' :: '\'' :: '\'' :: rest => some (String.ofList reversed.reverse, rest)
  | '\r' :: '\n' :: rest => readLongLiteral? ('\n' :: reversed) rest
  | c :: rest =>
      if isPrintable c || c == '\n' then readLongLiteral? (c :: reversed) rest else none

def skipFirstBreak (text : List Char) : List Char :=
  (skipBreak? text).getD text

def readText? : List Char → Option (String × List Char)
  | '"' :: '"' :: '"' :: rest => readLongBasic? false [] (skipFirstBreak rest)
  | '"' :: rest => readBasic? [] rest
  | '\'' :: '\'' :: '\'' :: rest => readLongLiteral? [] (skipFirstBreak rest)
  | '\'' :: rest => readLiteral? [] rest
  | _ => none

/-- Whether a character may stand in a key without quotes. -/
def isBare (c : Char) : Bool :=
  c.isAlphanum || c == '_' || c == '-'

def readKeyPart? (text : List Char) : Option (String × List Char) :=
  match text with
  | '"' :: rest => readBasic? [] rest
  | '\'' :: rest => readLiteral? [] rest
  | _ =>
      let name := text.takeWhile isBare
      if name.isEmpty then none else some (String.ofList name, text.dropWhile isBare)

/-- The number of parts that a key must stay below, and of nested values too. -/
def depthLimit : Nat := 80

/-- Reads the parts of a key, the ones before it being `reversed`. The key is split into the path
to its table and its last part. -/
def readKey? : (fuel : Nat) → List String → List Char →
    Option (List String × String × List Char)
  | 0, _, _ => none
  | fuel + 1, reversed, text =>
      match readKeyPart? (skipSpace text) with
      | none => none
      | some (part, rest) =>
          match skipSpace rest with
          | '.' :: rest => readKey? fuel (part :: reversed) rest
          | rest => some (reversed.reverse, part, rest)

def readDigits? (isDigit : Char → Bool) (reversed : List Char) :
    List Char → Option (List Char × List Char)
  | '_' :: c :: rest =>
      if !reversed.isEmpty && isDigit c then
        readDigits? isDigit (c :: reversed) rest
      else
        none
  | c :: rest =>
      if isDigit c then
        readDigits? isDigit (c :: reversed) rest
      else if c == '_' || reversed.isEmpty then
        none
      else
        some (reversed.reverse, c :: rest)
  | [] => if reversed.isEmpty then none else some (reversed.reverse, [])

/-- Reads a sign, if there is one, and tells whether it is a minus. -/
def readSign : List Char → Option Bool × List Char
  | '+' :: rest => (some false, rest)
  | '-' :: rest => (some true, rest)
  | text => (none, text)

/-- Reads decimal digits without a zero in front. -/
def readWhole? (text : List Char) : Option (List Char × List Char) :=
  match text with
  | '0' :: rest => some (['0'], rest)
  | _ => readDigits? Char.isDigit [] text

/-- Reads the exponent of a number, if there is one. -/
def readExponent? (text : List Char) : Option (Option Int × List Char) :=
  match text with
  | mark :: rest =>
      if mark == 'e' || mark == 'E' then
        let (sign, rest) := readSign rest
        (readDigits? Char.isDigit [] rest).map fun (digits, rest) =>
          let size : Int := Number.digitsValue digits
          (some (if sign == some true then -size else size), rest)
      else
        some (none, text)
  | [] => some (none, [])

def withSign (minus : Bool) (number : Float) : Float :=
  if minus then -number else number

def wholeLimit : Nat := Nat.pow 2 63

/-- Reads a decimal number. A whole number fits sixty-four bits, and no number is above the
greatest one. -/
def readDecimal? (text : List Char) : Option (Value × List Char) := do
  let (sign, text) := readSign text
  let minus := sign == some true
  let (whole, text) ← readWhole? text
  let (fraction, text) ←
    match text with
    | '.' :: rest =>
        (readDigits? Char.isDigit [] rest).map fun (digits, rest) => (some digits, rest)
    | rest => some (none, rest)
  let (exponent, text) ← readExponent? text
  if fraction.isNone && exponent.isNone then
    let size : Int := Number.digitsValue whole
    let value := if minus then -size else size
    if value < -(wholeLimit : Int) || (wholeLimit : Int) ≤ value then
      none
    return (.integer value, text)
  else
    let digits := fraction.getD []
    let number := withSign minus
      (Number.nearest (Number.digitsValue (whole ++ digits)) (exponent.getD 0 - digits.length))
    if number == Number.infinity then
      none
    return (.number number, text)

/-- Reads a whole number in another base, whose mark is already read. -/
def readBased? (base : Nat) (isDigit : Char → Bool) (text : List Char) :
    Option (Value × List Char) := do
  let (digits, text) ← readDigits? isDigit [] text
  let value := digits.foldl (fun value digit => base * value + ((hexValue? [digit]).getD 0)) 0
  if wholeLimit ≤ value then
    none
  return (.integer value, text)

def isHexDigit (c : Char) : Bool :=
  (hexValue? [c]).isSome

def readNumber? (text : List Char) : Option (Value × List Char) :=
  match text with
  | '0' :: 'x' :: rest => readBased? 16 isHexDigit rest
  | '0' :: 'o' :: rest => readBased? 8 (fun c => '0' ≤ c && c ≤ '7') rest
  | '0' :: 'b' :: rest => readBased? 2 (fun c => c == '0' || c == '1') rest
  | _ =>
      let (sign, rest) := readSign text
      let minus := sign == some true
      match rest with
      | 'i' :: 'n' :: 'f' :: rest => some (.number (withSign minus Number.infinity), rest)
      | 'n' :: 'a' :: 'n' :: rest => some (.number (withSign minus (0.0 / 0.0)), rest)
      | _ => readDecimal? text

def readField? (count least greatest : Nat) (text : List Char) : Option (Nat × List Char) :=
  let digits := text.take count
  let value := Number.digitsValue digits
  if digits.length == count && digits.all Char.isDigit && least ≤ value && value ≤ greatest then
    some (value, text.drop count)
  else
    none

def skipOneOf? (marks : List Char) : List Char → Option (List Char)
  | c :: rest => if marks.contains c then some rest else none
  | [] => none

def daysIn (year month : Nat) : Nat :=
  if month == 2 then
    if year % 4 == 0 && (year % 100 != 0 || year % 400 == 0) then 29 else 28
  else if month == 4 || month == 6 || month == 9 || month == 11 then
    30
  else
    31

def skipDate? (text : List Char) : Option (List Char) := do
  let (year, text) ← readField? 4 0 9999 text
  let text ← skipOneOf? ['-'] text
  let (month, text) ← readField? 2 1 12 text
  let text ← skipOneOf? ['-'] text
  let (_, text) ← readField? 2 1 (daysIn year month) text
  return text

def skipTime? (text : List Char) : Option (List Char) := do
  let (_, text) ← readField? 2 0 23 text
  let text ← skipOneOf? [':'] text
  let (_, text) ← readField? 2 0 59 text
  let text ← skipOneOf? [':'] text
  let (_, text) ← readField? 2 0 60 text
  match text with
  | '.' :: c :: rest => if c.isDigit then return rest.dropWhile Char.isDigit else return text
  | _ => return text

def skipOffset? (text : List Char) : Option (List Char) :=
  match text with
  | [] => none
  | mark :: rest =>
      if mark == 'Z' || mark == 'z' then
        some rest
      else if mark == '+' || mark == '-' then do
        let (_, rest) ← readField? 2 0 23 rest
        let rest ← skipOneOf? [':'] rest
        let (_, rest) ← readField? 2 0 59 rest
        return rest
      else
        none

def readMoment? (text : List Char) : Option (Value × List Char) :=
  match skipDate? text with
  | some rest =>
      let timed := (skipOneOf? ['T', 't', ' '] rest).bind skipTime?
      match timed with
      | some rest => some (.moment, (skipOffset? rest).getD rest)
      | none => some (.moment, rest)
  | none => (skipTime? text).map fun rest => (.moment, rest)

def readWord? (word : String) (value : Value) (text : List Char) : Option (Value × List Char) :=
  if word.toList.isPrefixOf text then some (value, text.drop word.length) else none

mutual

/-- Reads a value. Below it, `depth` further lists and tables may be nested; `fuel` bounds the
recursion. -/
def readValue? : (fuel depth : Nat) → List Char → Option (Value × List Char)
  | 0, _, _ => none
  | fuel + 1, depth, text =>
      match text with
      | '"' :: _ => (readText? text).map fun (value, rest) => (.text value, rest)
      | '\'' :: _ => (readText? text).map fun (value, rest) => (.text value, rest)
      | '[' :: rest =>
          match depth with
          | 0 => none
          | depth + 1 =>
              match skipLines fuel rest with
              | ']' :: rest => some (.list [], rest)
              | rest =>
                  (readItems? fuel depth [] rest).map fun (items, rest) => (.list items, rest)
      | '\x7b' :: rest =>
          match depth with
          | 0 => none
          | depth + 1 =>
              match skipSpace rest with
              | '\x7d' :: rest => some (.table [], rest)
              | rest =>
                  (readMembers? fuel depth [] rest).map fun (entries, rest) =>
                    (.table (finishedEntries entries), rest)
      | 't' :: rest => readWord? "rue" (.boolean true) rest
      | 'f' :: rest => readWord? "alse" (.boolean false) rest
      | _ =>
          match readMoment? text with
          | some moment => some moment
          | none => readNumber? text

/-- Reads the items of a list, the ones before it being `reversed`. -/
def readItems? : (fuel depth : Nat) → List Value → List Char → Option (List Value × List Char)
  | 0, _, _, _ => none
  | fuel + 1, depth, reversed, text =>
      match readValue? fuel depth (skipLines fuel text) with
      | none => none
      | some (item, rest) =>
          match skipLines fuel rest with
          | ']' :: rest => some ((item :: reversed).reverse, rest)
          | ',' :: rest =>
              match skipLines fuel rest with
              | ']' :: rest => some ((item :: reversed).reverse, rest)
              | rest => readItems? fuel depth (item :: reversed) rest
          | _ => none

/-- Reads the members of an inline table and adds them to the entries before them. -/
def readMembers? : (fuel depth : Nat) → Entries → List Char → Option (Entries × List Char)
  | 0, _, _, _ => none
  | fuel + 1, depth, entries, text =>
      match readKey? fuel [] text with
      | none => none
      | some (path, key, rest) =>
          match rest with
          | '=' :: rest =>
              match readValue? fuel depth (skipSpace rest) with
              | none => none
              | some (value, rest) =>
                  if depthLimit ≤ path.length + 1 then
                    none
                  else
                    match addValue path key value entries with
                    | none => none
                    | some entries =>
                        match skipSpace rest with
                        | ',' :: rest => readMembers? fuel depth entries rest
                        | '\x7d' :: rest => some (entries, rest)
                        | _ => none
          | _ => none

end

def readHeader? (closing : List Char) (text : List Char) :
    Option (List String × String × List Char) := do
  let (path, key, text) ← readKey? (text.length + 1) [] text
  if depthLimit ≤ path.length + 1 then
    none
  if closing.isPrefixOf text then
    let text ← skipLineEnd? (text.drop closing.length)
    return (path, key, text)
  else
    none

def readPair? (text : List Char) : Option (List String × String × Value × List Char) := do
  let (path, key, text) ← readKey? (text.length + 1) [] text
  if depthLimit ≤ path.length + 1 then
    none
  let text ← skipOneOf? ['='] text
  let (value, text) ← readValue? (2 * text.length + 2) (depthLimit - 1) (skipSpace text)
  let text ← skipLineEnd? text
  return (path, key, value, text)

def readLines? : (fuel : Nat) → Document → List Char → Option Document
  | 0, _, _ => none
  | fuel + 1, document, text =>
      match skipSpace text with
      | [] => some document
      | '#' :: rest =>
          match skipLineEnd? ('#' :: rest) with
          | some rest => readLines? fuel document rest
          | none => none
      | '[' :: '[' :: rest =>
          match readHeader? [']', ']'] rest with
          | some (path, key, rest) =>
              match document.startElement path key with
              | some document => readLines? fuel document rest
              | none => none
          | none => none
      | '[' :: rest =>
          match readHeader? [']'] rest with
          | some (path, key, rest) =>
              match document.startTable path key with
              | some document => readLines? fuel document rest
              | none => none
          | none => none
      | c :: rest =>
          match skipBreak? (c :: rest) with
          | some rest => readLines? fuel document rest
          | none =>
              match readPair? (c :: rest) with
              | some (path, key, value, rest) =>
                  match document.add path key value with
                  | some document => readLines? fuel document rest
                  | none => none
              | none => none

def read? (source : String) : Option Value := do
  let text :=
    match source.toList with
    | '\ufeff' :: rest => rest
    | text => text
  let document ← readLines? (text.length + 1) .empty text
  let root ← document.settled
  return .table (finishedEntries root)

end QuizPackage.Source.Toml
