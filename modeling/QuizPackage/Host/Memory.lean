import QuizPackage.Host
import QuizPackage.Path

namespace QuizPackage

abbrev Place := List String

inductive FileNode where
  | directory
  | file (content : ByteArray)

/-- A host in memory. The root is always a directory. -/
structure Memory where
  workingDirectory : Place
  nodes : List (Place × FileNode)
  /-- The variables, each as its name, an equals sign and its value. -/
  settings : List String
  token : String
  printed : String

/-- What is at a place, if anything is. -/
def Memory.node? (memory : Memory) : Place → Option FileNode
  | [] => some .directory
  | place => memory.nodes.lookup place

def Memory.isDirectory (memory : Memory) (place : Place) : Bool :=
  match memory.node? place with
  | some .directory => true
  | _ => false

/-- Where a part of a path leads from a place. -/
def Place.step (place : Place) (part : String) : Place :=
  if part == "" || part == "." then place
  else if part == ".." then place.dropLast
  else place ++ [part]

/-- Where the parts of a path lead from a place; all but the last place must be directories. -/
def Memory.follow? (memory : Memory) (place : Place) : List String → Option Place
  | [] => some place
  | part :: rest =>
      if memory.isDirectory place then memory.follow? (place.step part) rest else none

/-- Where a path starts. -/
def Memory.start (memory : Memory) (path : String) : Place :=
  if Path.isAbsolute path then [] else memory.workingDirectory

/-- Where a path leads. The empty path leads nowhere. -/
def Memory.place? (memory : Memory) (path : String) : Option Place :=
  if path != "" && Path.isUsable path then
    memory.follow? (memory.start path) (Path.parts path)
  else
    none

/-- What is at the end of a path, if anything is. -/
def Memory.at? (memory : Memory) (path : String) : Option FileNode :=
  (memory.place? path).bind memory.node?

def nameIn? (directory place : Place) : Option String :=
  if place.dropLast == directory then place.getLast? else none

def Memory.namesIn (memory : Memory) (directory : Place) : List String :=
  memory.nodes.filterMap fun (place, _) => nameIn? directory place

def Memory.put (memory : Memory) (place : Place) (node : FileNode) : Memory :=
  { memory with nodes := (place, node) :: memory.nodes.filter fun (other, _) => other != place }

/-- Makes the directories along the parts of a path that are missing, unless a file is in the
way. -/
def Memory.makeAlong? (memory : Memory) (place : Place) : List String → Option Memory
  | [] => some memory
  | part :: rest =>
      let next := place.step part
      match memory.node? next with
      | some .directory => memory.makeAlong? next rest
      | some (.file _) => none
      | none => (memory.put next .directory).makeAlong? next rest

def Memory.makeDirectory? (memory : Memory) (path : String) : Option Memory :=
  if Path.isUsable path then
    memory.makeAlong? (memory.start path) (Path.parts path)
  else
    none

/-- Writes a file into a directory that is there, unless a directory of its name is there too. -/
def Memory.writeFile? (memory : Memory) (path : String) (content : ByteArray) : Option Memory := do
  let place ← memory.place? path
  if memory.isDirectory place then none else return memory.put place (.file content)

def Memory.content? (memory : Memory) (path : String) : Option ByteArray :=
  match memory.at? path with
  | some (.file content) => some content
  | _ => none

def Memory.leadsToDirectory (memory : Memory) (path : String) : Bool :=
  match memory.at? path with
  | some .directory => true
  | _ => false

def Memory.names? (memory : Memory) (path : String) : Option (List String) :=
  ((memory.place? path).filter memory.isDirectory).map memory.namesIn

/-- The value of a variable, if it is set. -/
def Memory.setting? (memory : Memory) (name : String) : Option String :=
  let mark := name.toList ++ ['=']
  let found := memory.settings.find? fun setting => mark.isPrefixOf setting.toList
  if name == "" then
    none
  else
    found.map fun setting => String.ofList (setting.toList.drop mark.length)

/-- Asks a question, which changes nothing. -/
def Memory.ask {α : Type} (question : Memory → α) : StateM Memory α := fun memory =>
  (question memory, memory)

/-- Makes a change if it is possible, and tells whether it was. -/
def Memory.attempt (change : Memory → Option Memory) : StateM Memory Bool := fun memory =>
  match change memory with
  | some memory => (true, memory)
  | none => (false, memory)

instance : Host (StateM Memory) where
  content? path := Memory.ask (·.content? path)
  names? path := Memory.ask (·.names? path)
  present path := Memory.ask fun memory => (memory.at? path).isSome
  directory path := Memory.ask (·.leadsToDirectory path)
  makeDirectory path := Memory.attempt (·.makeDirectory? path)
  writeFile path content := Memory.attempt (·.writeFile? path content)
  setting? name := Memory.ask (·.setting? name)
  freshToken := Memory.ask Memory.token
  print text := modify fun memory => { memory with printed := memory.printed ++ text }

end QuizPackage
