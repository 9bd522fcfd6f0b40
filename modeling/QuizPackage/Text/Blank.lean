namespace QuizPackage.Text

/-- The characters with the White_Space property. -/
def isBlank (c : Char) : Bool :=
  let code := c.toNat
  (0x09 ≤ code && code ≤ 0x0D) || code == 0x20 || code == 0x85 || code == 0xA0 ||
    code == 0x1680 || (0x2000 ≤ code && code ≤ 0x200A) || code == 0x2028 || code == 0x2029 ||
    code == 0x202F || code == 0x205F || code == 0x3000

/-- A list of characters without the blank ones at its two ends. -/
def trimChars (text : List Char) : List Char :=
  (((text.dropWhile isBlank).reverse).dropWhile isBlank).reverse

/-- A text without the blank characters at its two ends. -/
def trim (text : String) : String :=
  String.ofList (trimChars text.toList)

/-- Whether nothing is left of a text once it is trimmed. -/
def blank (text : String) : Bool :=
  text.toList.all isBlank

/-- The body that is given and is not blank. -/
def present? (body : Option String) : Option String :=
  body.filter fun text => !blank text

end QuizPackage.Text
