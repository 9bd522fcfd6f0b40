import QuizPackage.Command.Expansion
import QuizPackage.Command.Fault
import QuizPackage.Source.Toml

namespace QuizPackage.Command

/-- What the program does unless told otherwise. -/
structure Configuration where
  format : Format
  outputDirectory : String
  strict : Bool
  assetsDirectory : Option String
  shuffle : Bool
deriving DecidableEq, Repr

/-- The directory that packages are written to when nothing is configured. -/
def standardOutputDirectory : String := "./qtipack-out"

/-- What the program does when nothing is configured. -/
def Configuration.standard : Configuration :=
  ⟨.standard, standardOutputDirectory, false, none, false⟩

def namedFormat? (name : String) : Option Format :=
  [Format.qti21, Format.qti30].find? fun format => format.name == name

/-- Takes a format: a name, or a table that holds nothing but an empty value under the name. -/
def takeFormat? : Source.Value → Option Format
  | .text name => namedFormat? name
  | .table [(name, .table [])] => namedFormat? name
  | .table [(name, .list [])] => namedFormat? name
  | _ => none

def configurationFields : List String :=
  ["default_format", "output_dir", "strict_identifiers", "assets_dir", "shuffle_choices"]

/-- Takes a configuration. Fields that are missing keep to the standard. -/
def Configuration.take? (value : Source.Value) : Option Configuration := do
  let standard := Configuration.standard
  let fields ← Source.fields? .toml configurationFields value
  return {
    format := ← Source.withDefault? standard.format takeFormat? "default_format" fields
    outputDirectory :=
      ← Source.withDefault? standard.outputDirectory Source.text? "output_dir" fields
    strict := ← Source.withDefault? standard.strict Source.boolean? "strict_identifiers" fields
    assetsDirectory := ← Source.optional? Source.text? "assets_dir" fields
    shuffle := ← Source.withDefault? standard.shuffle Source.boolean? "shuffle_choices" fields }

def Configuration.read? (source : String) : Option Configuration :=
  (Source.Toml.read? source).bind Configuration.take?

def configurationFile : String := "qtipack.toml"

def outputVariable : String := "QTIPACK_OUTPUT_DIR"

variable {m : Type → Type} [Monad m] [Host m]

/-- The configuration file in the home directory, if there is one. -/
def homeConfigurationFile? : ExceptT Fault m (Option String) := do
  match ← Host.setting? "HOME" with
  | none => return none
  | some home =>
      let path := [".config", "qtipack", "config.toml"].foldl Path.join home
      if ← Host.present path then return some path else return none

/-- The configuration file to read: the one asked for, which must be there, or else the one in the
working directory, or else the one in the home directory. -/
def configurationFile? (asked : Option String) : ExceptT Fault m (Option String) := do
  match asked with
  | some path =>
      if ← Host.present path then return some path
      else throw (.missingConfiguration path)
  | none =>
      if ← Host.present configurationFile then return some configurationFile
      else homeConfigurationFile?

def loadConfigurationFile (path : String) : ExceptT Fault m Configuration := do
  match (← Host.content? path).bind String.fromUTF8? with
  | none => throw (.unreadableConfiguration path)
  | some source =>
      match Configuration.read? source with
      | none => throw (.malformedConfiguration path)
      | some configuration => return configuration

/-- The format that a variable chooses, if it is set. -/
def chosenFormat? : ExceptT Fault m (Option Format) := do
  match ← Host.setting? formatVariable with
  | none => return none
  | some text =>
      match Format.read text with
      | .ok format => return some format
      | .error spelling => throw (.unknownFormat spelling)

/-- Expands a setting by the variables of the host. -/
def expandSetting (text : String) : ExceptT Fault m String := do
  match ← expand Host.setting? text with
  | none => throw (.endlessReferences text)
  | some expanded => return expanded

def loadConfiguration (asked : Option String) : ExceptT Fault m Configuration := do
  let configuration ←
    match ← configurationFile? asked with
    | none => pure .standard
    | some path => loadConfigurationFile path
  let format := (← chosenFormat?).getD configuration.format
  let output := (← Host.setting? outputVariable).getD configuration.outputDirectory
  return { configuration with
    format := format
    outputDirectory := ← expandSetting output
    assetsDirectory := ← configuration.assetsDirectory.mapM expandSetting }

end QuizPackage.Command
