import QuizPackage.Text.Invisible

namespace QuizPackage.Text

def quotedChar (c : Char) : List Char :=
  if c == '"' || c == '\\' then
    ['\\', c]
  else if c == '\n' then
    ['\\', 'n']
  else if c == '\t' then
    ['\\', 't']
  else if c == '\r' then
    ['\\', 'r']
  else if c.toNat == 0 then
    ['\\', '0']
  else if isInvisible c then
    ['\\', 'u', '{'] ++ Nat.toDigits 16 c.toNat ++ ['}']
  else
    [c]

/-- A text between double quotes, in which quotes, backslashes and invisible characters are written
as escapes. -/
def quoted (text : String) : String :=
  String.ofList ('"' :: text.toList.flatMap quotedChar ++ ['"'])

end QuizPackage.Text
