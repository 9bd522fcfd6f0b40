import QuizPackage.Text.CaseTable

namespace QuizPackage.Text

/-- The small letter of a capital; any other character is left alone. -/
def lowerChar (c : Char) : Char :=
  if c.toNat < 0x80 then
    c.toLower
  else
    match caseRuns.find? fun run => run.holds c.toNat with
    | some run => Char.ofNat (c.toNat + run.offset).toNat
    | none => c

/-- Whether the first character that is not passed over is a letter with case. -/
def startsCased (text : List Char) : Bool :=
  match text.dropWhile fun c => inRanges caseIgnorableRanges c with
  | [] => false
  | c :: _ => inRanges casedRanges c

/-- The lower-case form of `text`, where `before` holds the characters in front of it, nearest
first. -/
def lowerAfter (before : List Char) : List Char → List Char
  | [] => []
  | c :: rest =>
      let small :=
        if c == 'Σ' then
          [if startsCased before && !startsCased rest then 'ς' else 'σ']
        else if c == 'İ' then
          ['i', '\u0307']
        else
          [lowerChar c]
      small ++ lowerAfter (c :: before) rest

def lower (text : String) : String :=
  String.ofList (lowerAfter [] text.toList)

end QuizPackage.Text
