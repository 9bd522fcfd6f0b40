namespace QuizPackage.Path

def splitSlash : List Char → List (List Char)
  | [] => [[]]
  | c :: rest =>
      if c == '/' then
        [] :: splitSlash rest
      else
        match splitSlash rest with
        | [] => [[c]]
        | part :: parts => (c :: part) :: parts

def parts (path : String) : List String :=
  (splitSlash path.toList).map String.ofList

def greatestSize : Nat := 4095

def greatestNameSize : Nat := 255

/-- Whether a path can lead anywhere: neither it nor a name in it is too long, and it holds no null
character. -/
def isUsable (path : String) : Bool :=
  path.utf8ByteSize ≤ greatestSize && (parts path).all (·.utf8ByteSize ≤ greatestNameSize) &&
    !path.toList.contains '\x00'

def isAbsolute (path : String) : Bool :=
  path.toList.head? == some '/'

/-- The names that lead along a path; empty parts and single dots lead nowhere. -/
def steps (path : String) : List String :=
  (parts path).filter fun part => part != "" && part != "."

/-- The last name of a path, unless the path leads to a parent or nowhere. -/
def fileName? (path : String) : Option String :=
  (steps path).getLast?.filter (· != "..")

/-- A name cut at its last dot. A dot in front of the name does not count. -/
def splitName (name : String) : String × Option String :=
  let reversed := name.toList.reverse
  let after := reversed.takeWhile (· != '.')
  let before := (reversed.dropWhile (· != '.')).drop 1
  if before.isEmpty then
    (name, none)
  else
    (String.ofList before.reverse, some (String.ofList after.reverse))

def extension? (path : String) : Option String :=
  (fileName? path).bind fun name => (splitName name).2

/-- The last name without its extension. -/
def fileStem? (path : String) : Option String :=
  (fileName? path).map fun name => (splitName name).1

def join (base path : String) : String :=
  if isAbsolute path || base == "" then
    path
  else if base.toList.getLast? == some '/' then
    base ++ path
  else
    base ++ "/" ++ path

/-- The characters of a path without the slashes, and the single dots after slashes, at its end.
A path of slashes alone keeps the first. -/
def trimEnd : List Char → List Char
  | '.' :: '/' :: rest => trimEnd ('/' :: rest)
  | '/' :: c :: rest => trimEnd (c :: rest)
  | reversed => reversed

def parent (path : String) : String :=
  let reversed := trimEnd path.toList.reverse
  let directory := reversed.dropWhile (· != '/')
  String.ofList (trimEnd directory).reverse

end QuizPackage.Path
