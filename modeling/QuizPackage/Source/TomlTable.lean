import QuizPackage.Source.Value

/-!
# Tables under construction

The tables of a TOML document while its lines are read. Headers and dotted keys add to tables that
are already there; which additions are allowed depends on how each table came to be. An outside
library decides this, and its rules are followed here.
-/

namespace QuizPackage.Source.Toml

inductive Node where
  | value (value : Value)
  /-- A table. It is `implied` if no header or value of its own has defined it yet, and `dotted` if
  dotted keys made it. -/
  | table (implied dotted : Bool) (entries : List (String × Node))
  | tables (elements : List (List (String × Node)))

abbrev Entries := List (String × Node)

mutual

def Node.finished : Node → Value
  | .value value => value
  | .table _ _ entries => .table (finishedEntries entries)
  | .tables elements => .list (finishedElements elements)

def finishedEntries : List (String × Node) → List (String × Value)
  | [] => []
  | (key, node) :: rest => (key, node.finished) :: finishedEntries rest

def finishedElements : List (List (String × Node)) → List Value
  | [] => []
  | entries :: rest => .table (finishedEntries entries) :: finishedElements rest

end

/-- Puts a node in the place of the one that a key leads to, or at the end. -/
def putEntry (key : String) (node : Node) : Entries → Entries
  | [] => [(key, node)]
  | (name, old) :: rest =>
      if name == key then (key, node) :: rest else (name, old) :: putEntry key node rest

/-- Changes the table that a path leads to, making the tables on the way that are missing. `dotted`
tells whether the path belongs to a dotted key or to a header. The change is told whether dotted
keys made the table. -/
def changeAt {α : Type} (dotted : Bool) (change : Bool → Entries → Option (Entries × α)) :
    (path : List String) → (isDotted : Bool) → Entries → Option (Entries × α)
  | [], isDotted, entries => change isDotted entries
  | key :: path, _, entries =>
      match entries.lookup key with
      | none =>
          (changeAt dotted change path dotted []).map fun (inner, result) =>
            (entries ++ [(key, .table true dotted inner)], result)
      | some (.value _) => none
      | some (.table implied isDotted inner) =>
          if dotted && !implied then
            none
          else
            (changeAt dotted change path isDotted inner).map fun (inner, result) =>
              (putEntry key (.table implied isDotted inner) entries, result)
      | some (.tables elements) =>
          match elements.getLast? with
          | none => none
          | some inner =>
              (changeAt dotted change path false inner).map fun (inner, result) =>
                (putEntry key (.tables (elements.dropLast ++ [inner])) entries, result)

/-- Adds a value under a dotted key. The last table on the way must be one made by dotted keys,
unless the key has no dots; and no key is set twice. -/
def addValue (path : List String) (key : String) (value : Value) (entries : Entries) :
    Option Entries :=
  let change := fun (isDotted : Bool) (inner : Entries) =>
    if isDotted == path.isEmpty || (inner.lookup key).isSome then
      none
    else
      some (inner ++ [(key, .value value)], ())
  (changeAt true change path false entries).map Prod.fst

/-- A document of which some lines are read. -/
structure Document where
  root : Entries
  current : Entries
  header : Option (List String × String)
  repeated : Bool

/-- A document of which nothing is read. -/
def Document.empty : Document := ⟨[], [], none, false⟩

/-- The root of a document in which the entries below the last header have found their place. -/
def Document.settled (document : Document) : Option Entries :=
  match document.header with
  | none => some document.current
  | some (path, key) =>
      let change := fun (_ : Bool) (entries : Entries) =>
        if document.repeated then
          match entries.lookup key with
          | none => some (entries ++ [(key, .tables [document.current])], ())
          | some (.tables elements) =>
              some (putEntry key (.tables (elements ++ [document.current])) entries, ())
          | some _ => none
        else
          some (entries ++ [(key, .table false false document.current)], ())
      (changeAt false change path false document.root).map Prod.fst

/-- Starts the table of a header. A table that is only implied so far is taken up again. -/
def Document.startTable (path : List String) (key : String) (document : Document) :
    Option Document := do
  let root ← document.settled
  let change := fun (_ : Bool) (entries : Entries) =>
    match entries.lookup key with
    | none => some (entries, [])
    | some (.table true false inner) => some (entries.filter (·.1 != key), inner)
    | some _ => none
  let (root, current) ← changeAt false change path false root
  return ⟨root, current, some (path, key), false⟩

def Document.startElement (path : List String) (key : String) (document : Document) :
    Option Document := do
  let root ← document.settled
  let change := fun (_ : Bool) (entries : Entries) =>
    match entries.lookup key with
    | none => some (entries, ())
    | some (.tables _) => some (entries, ())
    | some _ => none
  let (root, _) ← changeAt false change path false root
  return ⟨root, [], some (path, key), true⟩

def Document.add (path : List String) (key : String) (value : Value) (document : Document) :
    Option Document :=
  (addValue path key value document.current).map fun current => { document with current }

end QuizPackage.Source.Toml
