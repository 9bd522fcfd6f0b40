import QuizPackage.Path
import QuizPackage.Source.Draft
import QuizPackage.Source.Json
import QuizPackage.Source.Toml

namespace QuizPackage.Source

inductive EntryFault where
  | unknownKind (kind : String)
  | nestedGroup
  | memberNotQuestion (member : Nat)
  | inMember (member : Nat) (fault : EntryFault)
deriving DecidableEq, Repr

inductive ReadFault where
  | unreadableFile (path : String)
  | malformed (grammar : Grammar) (path : String)
  | invalidEntry (path : String) (entry : Nat) (fault : EntryFault)
deriving DecidableEq, Repr

def EntryFault.message : EntryFault → String
  | .unknownKind kind => s!"unknown question kind: {kind}"
  | .nestedGroup => "groups cannot be nested"
  | .memberNotQuestion member => s!"group question {member + 1} is not a question"
  | .inMember member fault => s!"group question {member + 1}: {fault.message}"

def ReadFault.message : ReadFault → String
  | .unreadableFile path => s!"failed to read quiz file: {path}"
  | .malformed grammar path => s!"failed to parse {grammar.name}: {path}"
  | .invalidEntry path entry fault =>
      s!"{path}: invalid {(Location.top entry).describe}: {fault.message}"

/-- The label of a choice that is given none: a letter, and from the twenty-seventh choice on the
number of alphabets before it. -/
def choiceLabel (index : Nat) : String :=
  let letter := Char.ofNat ('a'.toNat + index % 26)
  if index < 26 then
    String.singleton letter
  else
    s!"{letter}{index / 26}"

def DraftChoice.choice (draft : DraftChoice) (index : Nat) : Choice :=
  ⟨draft.label.getD (choiceLabel index), draft.text, draft.correct, draft.feedback⟩

def DraftEntry.choiceList (draft : DraftEntry) : List Choice :=
  draft.choices.zipIdx.map fun (choice, index) => choice.choice index

def DraftEntry.questionKind (draft : DraftEntry) : Except EntryFault QuestionKind :=
  match draft.kind with
  | "single_choice" | "multiple_choice" => .ok (.singleChoice draft.choiceList)
  | "multiple_answer" | "multiple_answers" => .ok (.multipleAnswer draft.choiceList)
  | "true_false" =>
      match draft.answer with
      | some truth => .ok (.statement truth)
      | none => .ok (.trueFalse draft.choiceList)
  | "short_answer" | "fill_in_the_blank" => .ok (.shortAnswer draft.answers)
  | "numerical" => .ok (.numerical draft.numeric)
  | "essay" => .ok .essay
  | "file_upload" => .ok .fileUpload
  | kind => .error (.unknownKind kind)

def DraftEntry.toQuestion (draft : DraftEntry) : Except EntryFault Question :=
  match draft.questionKind with
  | .error fault => .error fault
  | .ok kind =>
      .ok ⟨draft.title, draft.prompt, draft.points.getD 1.0, kind, draft.feedback, draft.assets⟩

def DraftEntry.toMember (draft : DraftEntry) (index : Nat) : Except EntryFault Question :=
  if draft.kind == "group" then
    .error (.inMember index .nestedGroup)
  else if draft.kind == "text" then
    .error (.memberNotQuestion index)
  else
    match draft.toQuestion with
    | .error fault => .error (.inMember index fault)
    | .ok question => .ok question

def toMembers (index : Nat) : List DraftEntry → Except EntryFault (List Question)
  | [] => .ok []
  | draft :: rest =>
      match draft.toMember index with
      | .error fault => .error fault
      | .ok question =>
          match toMembers (index + 1) rest with
          | .error fault => .error fault
          | .ok questions => .ok (question :: questions)

def DraftEntry.toEntry (draft : DraftEntry) : Except EntryFault Entry :=
  if draft.kind == "group" then
    match toMembers 0 draft.questions with
    | .error fault => .error fault
    | .ok questions => .ok (.group ⟨draft.title, draft.pick.getD 1, questions⟩)
  else if draft.kind == "text" then
    .ok (.text ⟨draft.title, draft.text, draft.assets⟩)
  else
    match draft.toQuestion with
    | .error fault => .error fault
    | .ok question => .ok (.question question)

def toEntries (index : Nat) : List DraftEntry → Except (Nat × EntryFault) (List Entry)
  | [] => .ok []
  | draft :: rest =>
      match draft.toEntry with
      | .error fault => .error (index, fault)
      | .ok entry =>
          match toEntries (index + 1) rest with
          | .error fault => .error fault
          | .ok entries => .ok (entry :: entries)

/-- The quiz that a draft stands for; `path` labels its faults. -/
def DraftQuiz.toQuiz (draft : DraftQuiz) (path : String) : Except ReadFault Quiz :=
  match toEntries 0 draft.entries with
  | .error (index, fault) => .error (.invalidEntry path index fault)
  | .ok entries => .ok ⟨draft.title, draft.description, entries⟩

def Grammar.ofPath (path : String) : Grammar :=
  if Path.extension? path == some "json" then .json else .toml

def Grammar.read? (grammar : Grammar) (source : String) : Option Value :=
  match grammar with
  | .json => Json.read? source
  | .toml => Toml.read? source

def readQuiz (path source : String) : Except ReadFault Quiz :=
  let grammar := Grammar.ofPath path
  match (grammar.read? source).bind (DraftQuiz.take? grammar) with
  | none => .error (.malformed grammar path)
  | some draft => draft.toQuiz path

end QuizPackage.Source
