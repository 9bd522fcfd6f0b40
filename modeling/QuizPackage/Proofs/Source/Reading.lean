import QuizPackage.Source.Reading
import Mathlib.Data.List.Forall2

namespace QuizPackage.Source

/-- The names that sources give to the kinds of questions, with what each makes of an entry. -/
def questionForms : List (String × (DraftEntry → QuestionKind)) :=
  [("single_choice", fun draft => .singleChoice draft.choiceList),
    ("multiple_choice", fun draft => .singleChoice draft.choiceList),
    ("multiple_answer", fun draft => .multipleAnswer draft.choiceList),
    ("multiple_answers", fun draft => .multipleAnswer draft.choiceList),
    ("true_false", fun draft =>
      (draft.answer.map .statement).getD (.trueFalse draft.choiceList)),
    ("short_answer", fun draft => .shortAnswer draft.answers),
    ("fill_in_the_blank", fun draft => .shortAnswer draft.answers),
    ("numerical", fun draft => .numerical draft.numeric),
    ("essay", fun _ => .essay),
    ("file_upload", fun _ => .fileUpload)]

/-- An entry that is a question of a known kind. -/
def DraftEntry.IsQuestion (draft : DraftEntry) : Prop :=
  draft.kind ∈ questionForms.map Prod.fst

/-- An entry that reads at the top level of a quiz. -/
inductive DraftEntry.IsProper (draft : DraftEntry) : Prop
  | text (called : draft.kind = "text")
  | question (known : draft.IsQuestion)
  | group (called : draft.kind = "group") (known : ∀ member ∈ draft.questions, member.IsQuestion)

/-- A question has the fields of an entry, and its kind goes by the name that the entry gives. One
point is given for it unless the entry says otherwise. -/
structure DraftEntry.Poses (draft : DraftEntry) (question : Question) : Prop where
  title : question.title = draft.title
  prompt : question.prompt = draft.prompt
  points : question.points = draft.points.getD 1.0
  kind : (questionForms.lookup draft.kind).map (fun form => form draft) = some question.kind
  feedback : question.feedback = draft.feedback
  assets : question.assets = draft.assets

/-- What an entry of a draft reads as. A group has the questions of its members in their order, and
picks one unless the entry says otherwise. -/
inductive DraftEntry.ReadsAs (draft : DraftEntry) : Entry → Prop
  | text (called : draft.kind = "text") :
      ReadsAs draft (.text ⟨draft.title, draft.text, draft.assets⟩)
  | question {single : Question} (poses : draft.Poses single) : ReadsAs draft (.question single)
  | group {questions : List Question} (called : draft.kind = "group")
      (pose : List.Forall₂ DraftEntry.Poses draft.questions questions) :
      ReadsAs draft (.group ⟨draft.title, draft.pick.getD 1, questions⟩)

/-- What is said of a member of a group that is no question of a known kind. -/
def DraftEntry.memberComplaint (draft : DraftEntry) : String :=
  if draft.kind = "group" then ": groups cannot be nested"
  else if draft.kind = "text" then " is not a question"
  else ": unknown question kind: " ++ draft.kind

/-- What is said of an entry that does not read. Of a group, its first member that is no question of
a known kind is named, counting from one. -/
inductive DraftEntry.Complaint (draft : DraftEntry) : String → Prop
  | unknownKind (called : draft.kind ≠ "group") :
      Complaint draft ("unknown question kind: " ++ draft.kind)
  | member {front back : List DraftEntry} {member : DraftEntry} (called : draft.kind = "group")
      (split : draft.questions = front ++ member :: back)
      (known : ∀ earlier ∈ front, earlier.IsQuestion) (unknown : ¬member.IsQuestion) :
      Complaint draft
        ("group question " ++ toString (front.length + 1) ++ member.memberComplaint)

variable {draft : DraftEntry} {question : Question} {entry : Entry}

theorem DraftEntry.isQuestion_iff :
    draft.IsQuestion ↔ (questionForms.lookup draft.kind).isSome = true := by
  rw [List.lookup_isSome_iff, DraftEntry.IsQuestion, List.mem_map]
  exact exists_congr fun form => and_congr_right fun _ => by rw [beq_iff_eq, eq_comm]

theorem DraftEntry.IsQuestion.kind_ne (known : draft.IsQuestion) :
    draft.kind ≠ "group" ∧ draft.kind ≠ "text" := by
  have unnamed : "group" ∉ questionForms.map Prod.fst ∧ "text" ∉ questionForms.map Prod.fst := by
    decide
  exact ⟨fun called => unnamed.1 (called ▸ known), fun called => unnamed.2 (called ▸ known)⟩

/-- The name of a kind decides what is made of an entry. -/
theorem DraftEntry.questionKind_eq (draft : DraftEntry) :
    draft.questionKind =
      match questionForms.lookup draft.kind with
      | some form => .ok (form draft)
      | none => .error (.unknownKind draft.kind) := by
  unfold DraftEntry.questionKind
  split
  case h_5 called =>
    rw [called]
    change _ = Except.ok
      ((draft.answer.map QuestionKind.statement).getD (QuestionKind.trueFalse draft.choiceList))
    cases draft.answer <;> rfl
  case h_11 =>
    have unknown : questionForms.lookup draft.kind = none := by
      simp_all [questionForms, List.lookup_eq_none_iff]
    rw [unknown]
  all_goals
    rename_i called
    rw [called]
    rfl

theorem DraftEntry.toQuestion_cases (draft : DraftEntry) :
    (∃ question, draft.toQuestion = .ok question ∧ draft.Poses question) ∨
      (draft.toQuestion = .error (.unknownKind draft.kind) ∧ ¬draft.IsQuestion) := by
  rw [DraftEntry.isQuestion_iff, DraftEntry.toQuestion, draft.questionKind_eq]
  cases known : questionForms.lookup draft.kind with
  | none => exact .inr ⟨rfl, by simp⟩
  | some form =>
      refine .inl ⟨_, rfl, ?_⟩
      exact ⟨rfl, rfl, rfl, by rw [known]; rfl, rfl, rfl⟩

theorem DraftEntry.Poses.isQuestion (poses : draft.Poses question) : draft.IsQuestion := by
  obtain ⟨form, known, _⟩ := Option.map_eq_some_iff.mp poses.kind
  rw [DraftEntry.isQuestion_iff, known]
  rfl

section

variable {α β ε : Type}

/-- Reads the values of a list one after the other, each with its index, up to the first that does
not read. -/
def readEach (read : Nat → α → Except ε β) (index : Nat) : List α → Except ε (List β)
  | [] => .ok []
  | value :: rest =>
      match read index value with
      | .error fault => .error fault
      | .ok result =>
          match readEach read (index + 1) rest with
          | .error fault => .error fault
          | .ok results => .ok (result :: results)

/-- Either all values read, or those before some value do and that value is to blame. -/
theorem readEach_cases {read : Nat → α → Except ε β} {values : List α} {index : Nat}
    {reads : α → β → Prop} {fails : Nat → α → ε → Prop}
    (each : ∀ index value, (∃ result, read index value = .ok result ∧ reads value result) ∨
      (∃ fault, read index value = .error fault ∧ fails index value fault)) :
    (∃ results, readEach read index values = .ok results ∧ List.Forall₂ reads values results) ∨
      (∃ front value back fault, values = front ++ value :: back ∧
        (∀ earlier ∈ front, ∃ result, reads earlier result) ∧
        readEach read index values = .error fault ∧ fails (index + front.length) value fault) := by
  induction values generalizing index with
  | nil => exact .inl ⟨[], rfl, .nil⟩
  | cons value rest ih =>
      rw [readEach]
      rcases each index value with ⟨result, read_ok, reads_it⟩ | ⟨fault, failed, blamed⟩
      · rw [read_ok]
        rcases @ih (index + 1) with
          ⟨results, all, read_all⟩ | ⟨front, later, back, fault, split, before, failed, blamed⟩
        · exact .inl ⟨result :: results, by rw [all], .cons reads_it read_all⟩
        · refine .inr ⟨value :: front, later, back, fault, by rw [split]; rfl, ?_,
            by rw [failed], ?_⟩
          · exact List.forall_mem_cons.mpr ⟨⟨result, reads_it⟩, before⟩
          · rwa [List.length_cons, Nat.add_comm front.length, ← Nat.add_assoc]
      · rw [failed]
        exact .inr ⟨[], value, rest, fault, rfl, by simp, rfl, blamed⟩

end

theorem toMembers_eq (index : Nat) (drafts : List DraftEntry) :
    toMembers index drafts = readEach (fun index draft => draft.toMember index) index drafts := by
  induction drafts generalizing index with
  | nil => rfl
  | cons draft rest ih =>
      rw [toMembers, readEach, ih]
      cases draft.toMember index with
      | error fault => rfl
      | ok question =>
          generalize readEach _ (index + 1) rest = others
          cases others <;> rfl

theorem toEntries_eq (index : Nat) (drafts : List DraftEntry) :
    toEntries index drafts =
      readEach (fun index draft => draft.toEntry.mapError fun fault => (index, fault)) index
        drafts := by
  induction drafts generalizing index with
  | nil => rfl
  | cons draft rest ih =>
      rw [toEntries, readEach, ih]
      cases draft.toEntry with
      | error fault => rfl
      | ok entry =>
          generalize readEach _ (index + 1) rest = others
          cases others <;> rfl

theorem EntryFault.inMember_message (index : Nat) (fault : EntryFault) :
    (EntryFault.inMember index fault).message =
      "group question " ++ toString (index + 1) ++ (": " ++ fault.message) :=
  String.append_assoc

theorem ReadFault.invalidEntry_message (path : String) (index : Nat) (fault : EntryFault) :
    (ReadFault.invalidEntry path index fault).message =
      path ++ ": invalid entry " ++ toString (index + 1) ++ ": " ++ fault.message := by
  have joined : path ++ ": invalid " ++ "entry " = path ++ ": invalid entry " :=
    String.append_assoc
  change path ++ ": invalid " ++ ("entry " ++ toString (index + 1)) ++ ": " ++ fault.message = _
  rw [← String.append_assoc, joined]

/-- A member of a group is a question of a known kind, or what is said of it tells why not. -/
theorem DraftEntry.toMember_cases (index : Nat) (draft : DraftEntry) :
    (∃ question, draft.toMember index = .ok question ∧ draft.Poses question) ∨
      (∃ fault, draft.toMember index = .error fault ∧ ¬draft.IsQuestion ∧
        fault.message = "group question " ++ toString (index + 1) ++ draft.memberComplaint) := by
  by_cases isGroup : draft.kind = "group"
  · have failed : draft.toMember index = .error (.inMember index .nestedGroup) := by
      rw [DraftEntry.toMember, isGroup]
      rfl
    have said : draft.memberComplaint = ": groups cannot be nested" := if_pos isGroup
    refine .inr ⟨_, failed, fun known => known.kind_ne.1 isGroup, ?_⟩
    rw [said, EntryFault.inMember_message]
    rfl
  by_cases isText : draft.kind = "text"
  · have failed : draft.toMember index = .error (.memberNotQuestion index) := by
      rw [DraftEntry.toMember, isText]
      rfl
    have said : draft.memberComplaint = " is not a question" :=
      (if_neg isGroup).trans (if_pos isText)
    refine .inr ⟨_, failed, fun known => known.kind_ne.2 isText, ?_⟩
    rw [said]
    rfl
  · have asked : draft.toMember index = draft.toQuestion.mapError (.inMember index) := by
      rw [DraftEntry.toMember, if_neg (by simpa using isGroup), if_neg (by simpa using isText)]
      cases draft.toQuestion <;> rfl
    have said : draft.memberComplaint = ": unknown question kind: " ++ draft.kind :=
      (if_neg isGroup).trans (if_neg isText)
    rw [asked]
    rcases draft.toQuestion_cases with ⟨question, read, poses⟩ | ⟨failed, unknown⟩
    · exact .inl ⟨question, by rw [read]; rfl, poses⟩
    · refine .inr ⟨.inMember index (.unknownKind draft.kind), by rw [failed]; rfl, unknown, ?_⟩
      rw [said, EntryFault.inMember_message]
      exact congrArg _ String.append_assoc.symm

/-- An entry reads, or what is said of it tells why not. -/
theorem DraftEntry.toEntry_cases (draft : DraftEntry) :
    (∃ entry, draft.toEntry = .ok entry ∧ draft.ReadsAs entry) ∨
      (∃ fault, draft.toEntry = .error fault ∧ ¬draft.IsProper ∧
        draft.Complaint fault.message) := by
  by_cases isGroup : draft.kind = "group"
  · have grouped : draft.toEntry = (toMembers 0 draft.questions).map fun questions =>
        .group ⟨draft.title, draft.pick.getD 1, questions⟩ := by
      rw [DraftEntry.toEntry, if_pos (by simpa using isGroup)]
      cases toMembers 0 draft.questions <;> rfl
    rw [grouped, toMembers_eq]
    rcases readEach_cases DraftEntry.toMember_cases with
      ⟨questions, read, pose⟩ | ⟨front, member, back, fault, split, before, failed, unknown, said⟩
    · exact .inl ⟨_, by rw [read]; rfl, .group isGroup pose⟩
    · refine .inr ⟨fault, by rw [failed]; rfl, ?_, ?_⟩
      · rintro (isText | known | ⟨_, known⟩)
        · simp [isGroup] at isText
        · exact known.kind_ne.1 isGroup
        · exact unknown (known member (by simp [split]))
      · rw [said, Nat.zero_add]
        exact .member isGroup split (fun earlier inside =>
          (before earlier inside).elim fun _ poses => poses.isQuestion) unknown
  by_cases isText : draft.kind = "text"
  · refine .inl ⟨_, ?_, .text isText⟩
    rw [DraftEntry.toEntry, if_neg (by simpa using isGroup), if_pos (by simpa using isText)]
  · have asked : draft.toEntry = draft.toQuestion.map .question := by
      rw [DraftEntry.toEntry, if_neg (by simpa using isGroup), if_neg (by simpa using isText)]
      cases draft.toQuestion <;> rfl
    rw [asked]
    rcases draft.toQuestion_cases with ⟨question, read, poses⟩ | ⟨failed, unknown⟩
    · exact .inl ⟨_, by rw [read]; rfl, .question poses⟩
    · refine .inr ⟨.unknownKind draft.kind, by rw [failed]; rfl, ?_, .unknownKind isGroup⟩
      rintro (isText' | known | ⟨isGroup', _⟩)
      · exact isText isText'
      · exact unknown known
      · exact isGroup isGroup'

theorem DraftEntry.ReadsAs.isProper (reads : draft.ReadsAs entry) : draft.IsProper := by
  cases reads with
  | text called => exact .text called
  | question poses => exact .question poses.isQuestion
  | group called pose =>
      have known := pose.imp fun _ _ poses => And.intro poses.isQuestion poses
      exact .group called ((List.forall₂_and_left _ _).mp known).1

theorem DraftQuiz.toQuiz_cases (draft : DraftQuiz) (path : String) :
    (∃ quiz, draft.toQuiz path = .ok quiz ∧ quiz.title = draft.title ∧
      quiz.description = draft.description ∧
      List.Forall₂ DraftEntry.ReadsAs draft.entries quiz.entries) ∨
    (∃ front entry back fault reason, draft.entries = front ++ entry :: back ∧
      (∀ earlier ∈ front, earlier.IsProper) ∧ ¬entry.IsProper ∧ entry.Complaint reason ∧
      draft.toQuiz path = .error fault ∧
      fault.message =
        path ++ ": invalid entry " ++ toString (front.length + 1) ++ ": " ++ reason) := by
  have each (index : Nat) (entry : DraftEntry) :
      (∃ result, entry.toEntry.mapError (fun fault => (index, fault)) = .ok result ∧
        entry.ReadsAs result) ∨
      (∃ fault, entry.toEntry.mapError (fun fault => (index, fault)) = .error fault ∧
        fault.1 = index ∧ ¬entry.IsProper ∧ entry.Complaint fault.2.message) := by
    rcases entry.toEntry_cases with ⟨result, read, reads⟩ | ⟨fault, failed, improper, complaint⟩
    · exact .inl ⟨result, by rw [read]; rfl, reads⟩
    · exact .inr ⟨(index, fault), by rw [failed]; rfl, rfl, improper, complaint⟩
  rw [DraftQuiz.toQuiz, toEntries_eq]
  rcases readEach_cases each with ⟨entries, read, reads⟩ |
    ⟨front, entry, back, ⟨index, fault⟩, split, before, failed, rfl, improper, complaint⟩
  · exact .inl ⟨_, by rw [read], rfl, rfl, reads⟩
  · refine .inr ⟨front, entry, back, _, _, split, fun earlier inside => ?_, improper, complaint,
      by rw [failed], ?_⟩
    · obtain ⟨result, reads⟩ := before earlier inside
      exact reads.isProper
    · rw [ReadFault.invalidEntry_message, Nat.zero_add]

/-- A draft reads as a quiz exactly if each of its entries is a region of text, a question of a
known kind, or a group of such questions, and the quiz then has these entries in their order.
Otherwise the first other entry is named, and in a group its first other member. -/
theorem quiz_reads_iff_entries_are_proper (draft : DraftQuiz) (path : String) :
    ((∃ quiz, draft.toQuiz path = .ok quiz) ↔ ∀ entry ∈ draft.entries, entry.IsProper) ∧
    (∀ quiz, draft.toQuiz path = .ok quiz → quiz.title = draft.title ∧
      quiz.description = draft.description ∧
      List.Forall₂ DraftEntry.ReadsAs draft.entries quiz.entries) ∧
    (∀ fault, draft.toQuiz path = .error fault → ∃ front entry back reason,
      draft.entries = front ++ entry :: back ∧ (∀ earlier ∈ front, earlier.IsProper) ∧
      ¬entry.IsProper ∧ entry.Complaint reason ∧
      fault.message =
        path ++ ": invalid entry " ++ toString (front.length + 1) ++ ": " ++ reason) := by
  rcases draft.toQuiz_cases path with ⟨quiz, read, title, description, reads⟩ |
    ⟨front, entry, back, fault, reason, split, before, improper, complaint, failed, said⟩
  · rw [read]
    have proper := reads.imp fun _ _ reads => And.intro reads.isProper reads
    refine ⟨iff_of_true ⟨quiz, rfl⟩ ((List.forall₂_and_left _ _).mp proper).1, ?_, ?_⟩
    · rintro _ ⟨⟩
      exact ⟨title, description, reads⟩
    · rintro _ ⟨⟩
  · rw [failed]
    refine ⟨iff_of_false ?_ fun proper => improper (proper entry (by simp [split])), ?_, ?_⟩
    · rintro ⟨_, ⟨⟩⟩
    · rintro _ ⟨⟩
    · rintro _ ⟨⟩
      exact ⟨front, entry, back, reason, split, before, improper, complaint, said⟩

/-- The draft that a source is decoded to, if it keeps to the grammar that its path tells. -/
def draft? (path source : String) : Option DraftQuiz :=
  ((Grammar.ofPath path).read? source).bind (DraftQuiz.take? (Grammar.ofPath path))

theorem readQuiz_eq_toQuiz {path source : String} {draft : DraftQuiz}
    (decoded : draft? path source = some draft) : readQuiz path source = draft.toQuiz path := by
  rw [draft?] at decoded
  simp [readQuiz, decoded]

/-- A group inside a group, behind an entry and a member that read. -/
def nestedTour : String :=
  "\x7b\"quiz\": \x7b\"title\": \"Tour\"\x7d, " ++
    "\"entries\": [\x7b\"kind\": \"text\", \"text\": \"Go.\"\x7d, " ++
    "\x7b\"kind\": \"group\", " ++
    "\"questions\": [\x7b\"kind\": \"essay\"\x7d, \x7b\"kind\": \"group\"\x7d]\x7d]\x7d"

theorem nestedTour_names_second_member :
    ∃ draft fault, draft? "tour.json" nestedTour = some draft ∧
      readQuiz "tour.json" nestedTour = .error fault ∧
      fault.message = "tour.json: invalid entry 2: group question 2: groups cannot be nested" ∧
      ∃ front entry back, draft.entries = front ++ entry :: back ∧ ¬entry.IsProper := by
  have read : (draft? "tour.json" nestedTour).map (fun draft =>
      ((draft.toQuiz "tour.json").mapError ReadFault.message).map fun _ => ()) =
      some (.error "tour.json: invalid entry 2: group question 2: groups cannot be nested") := by
    decide +kernel
  obtain ⟨draft, decoded, said⟩ := Option.map_eq_some_iff.mp read
  obtain ⟨_, _, blamed⟩ := quiz_reads_iff_entries_are_proper draft "tour.json"
  rw [readQuiz_eq_toQuiz decoded]
  cases ran : draft.toQuiz "tour.json" with
  | ok quiz =>
      rw [ran] at said
      cases said
  | error fault =>
      rw [ran] at said
      obtain ⟨front, entry, back, _, split, _, improper, _⟩ := blamed fault ran
      exact ⟨draft, fault, decoded, rfl, Except.error.inj said, front, entry, back, split,
        improper⟩

end QuizPackage.Source
