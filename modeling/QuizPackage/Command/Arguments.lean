import QuizPackage.Format

/-!
# Arguments

What the arguments of the program ask for, by the rules of an outside library. Options have long
names; the value of an option follows in the next argument or after an equals sign. What the library
says of wrong arguments is left out.
-/

namespace QuizPackage.Command

structure BuildRequest where
  quiz : String
  format : Option Format
  output : Option String
  assets : Option String
  strict : Bool
  shuffle : Bool
  suffix : Option String
  json : Bool
  configuration : Option String
deriving DecidableEq, Repr

inductive Request where
  | build (request : BuildRequest)
  | validate (quiz : String) (assets : Option String)
  | prepare
  | version
  | help
deriving DecidableEq, Repr

/-- An option: its name, and which values it takes if it takes one. -/
structure Parameter where
  name : String
  accepts : Option (String → Bool)

def namesFormat (text : String) : Bool :=
  match Format.read text with
  | .ok _ => true
  | .error _ => false

def Parameter.switch (name : String) : Parameter :=
  ⟨name, none⟩

/-- An option that takes a path, which is never empty. -/
def Parameter.path (name : String) : Parameter :=
  ⟨name, some (· != "")⟩

def buildParameters : List Parameter := [
  .path "quiz",
  ⟨"format", some namesFormat⟩,
  .path "output",
  .path "assets",
  .switch "strict",
  .switch "shuffle",
  ⟨"namespace", some fun _ => true⟩,
  .switch "json",
  .path "config"]

def validateParameters : List Parameter := [.path "quiz", .path "assets"]

def cutAtEquals (text : List Char) : List Char × Option (List Char) :=
  match text.dropWhile (· != '=') with
  | [] => (text, none)
  | _ :: value => (text.takeWhile (· != '='), some value)

inductive Argument where
  | finish
  | help
  | named (name : String) (value : Option String)
  | other
deriving DecidableEq, Repr

def Argument.ofText (text : String) : Argument :=
  if text == "--" then
    .finish
  else if text == "--help" then
    .help
  else
    match text.toList with
    | '-' :: '-' :: rest =>
        let (name, value) := cutAtEquals rest
        .named (String.ofList name) (value.map String.ofList)
    | '-' :: 'h' :: _ => .help
    | _ => .other

/-- Whether an argument may be the value of the option before it. Arguments that start with a hyphen
are options, but a single hyphen is none. -/
def isValue (text : String) : Bool :=
  text == "-" || text.toList.head? != some '-'

abbrev Given := List (String × String)

inductive Scanned where
  | given (options : Given)
  | help

/-- Reads options. They fail if one is unknown, comes twice, or lacks a proper value. -/
def scan? (parameters : List Parameter) (given : Given) : List String → Option Scanned
  | [] => some (.given given)
  | text :: rest =>
      match Argument.ofText text with
      | .finish => if rest.isEmpty then some (.given given) else none
      | .help => some .help
      | .other => none
      | .named name attached =>
          match parameters.find? fun parameter => parameter.name == name with
          | none => none
          | some parameter =>
              if (given.lookup name).isSome then
                none
              else
                match parameter.accepts, attached, rest with
                | none, none, rest => scan? parameters ((name, "") :: given) rest
                | some accepts, some value, rest =>
                    if accepts value then scan? parameters ((name, value) :: given) rest else none
                | some accepts, none, value :: rest =>
                    if isValue value && accepts value then
                      scan? parameters ((name, value) :: given) rest
                    else
                      none
                | _, _, _ => none

def requestOf? (parameters : List Parameter) (request? : Given → Option Request)
    (arguments : List String) : Option Request :=
  match scan? parameters [] arguments with
  | none => none
  | some .help => some .help
  | some (.given options) => request? options

def Given.has (given : Given) (name : String) : Bool :=
  (given.lookup name).isSome

/-- The request to build a package; it needs a quiz. -/
def buildRequest? (given : Given) : Option Request :=
  (given.lookup "quiz").map fun quiz =>
    .build {
      quiz := quiz
      format := (given.lookup "format").bind fun text => (Format.read text).toOption
      output := given.lookup "output"
      assets := given.lookup "assets"
      strict := Given.has given "strict"
      shuffle := Given.has given "shuffle"
      suffix := given.lookup "namespace"
      json := Given.has given "json"
      configuration := given.lookup "config" }

/-- The request to validate; it needs a quiz. -/
def validateRequest? (given : Given) : Option Request :=
  (given.lookup "quiz").map fun quiz => .validate quiz (given.lookup "assets")

/-- What is asked for after `help`: nothing more, or the name of a command. -/
def helpRequest? : List String → Option Request
  | [] => some .help
  | [name] => if ["build", "validate", "init", "help"].contains name then some .help else none
  | _ => none

/-- What arguments ask for, if they ask for anything. -/
def Request.ofArguments? : List String → Option Request
  | [] => none
  | "build" :: rest => requestOf? buildParameters buildRequest? rest
  | "validate" :: rest => requestOf? validateParameters validateRequest? rest
  | "init" :: rest => requestOf? [] (fun _ => some .prepare) rest
  | "help" :: rest => helpRequest? rest
  | first :: _ =>
      if first == "--version" || "-V".toList.isPrefixOf first.toList then some .version
      else if first == "--help" || "-h".toList.isPrefixOf first.toList then some .help
      else none

end QuizPackage.Command
