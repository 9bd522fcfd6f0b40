import QuizPackage.Data

namespace QuizPackage.Data

def jsonChar (c : Char) : List Char :=
  if c == '"' || c == '\\' then
    ['\\', c]
  else if c == '\n' then
    ['\\', 'n']
  else if c == '\r' then
    ['\\', 'r']
  else if c == '\t' then
    ['\\', 't']
  else if c.toNat == 0x08 then
    ['\\', 'b']
  else if c.toNat == 0x0C then
    ['\\', 'f']
  else if c.toNat < 0x20 then
    ['\\', 'u', '0', '0', Nat.digitChar (c.toNat / 16), Nat.digitChar (c.toNat % 16)]
  else
    [c]

def jsonText (text : String) : String :=
  String.ofList ('"' :: text.toList.flatMap jsonChar ++ ['"'])

def jsonBreak (depth : Nat) : String :=
  String.ofList ('\n' :: List.replicate (2 * depth) ' ')

/-- Values between brackets, on lines of their own. Brackets around nothing stay on one line. -/
def jsonLines (opening closing : String) (depth : Nat) (values : List String) : String :=
  match values with
  | [] => opening ++ closing
  | values =>
      let separator := "," ++ jsonBreak (depth + 1)
      opening ++ jsonBreak (depth + 1) ++ separator.intercalate values ++ jsonBreak depth ++ closing

mutual

/-- Data in JSON as an outside library writes it, with every value on a line of its own. -/
def json (depth : Nat) : Data → String
  | .absent => "null"
  | .truth true => "true"
  | .truth false => "false"
  | .count number => toString number
  | .measure number => Number.summary number
  | .text value => jsonText value
  | .list values => jsonLines "[" "]" depth (jsonValues (depth + 1) values)
  | .record fields => jsonLines "\x7b" "\x7d" depth (jsonFields (depth + 1) fields)

def jsonValues (depth : Nat) : List Data → List String
  | [] => []
  | value :: rest => value.json depth :: jsonValues depth rest

def jsonFields (depth : Nat) : List (String × Data) → List String
  | [] => []
  | (name, value) :: rest => (jsonText name ++ ": " ++ value.json depth) :: jsonFields depth rest

end

end QuizPackage.Data
