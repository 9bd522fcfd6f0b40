import Mathlib.Data.List.DropRight
import QuizPackage.Proofs.Package.Acceptance

namespace QuizPackage

namespace Text

/-- A word stands in a text where no identifier character is before it or after it. -/
def HasWord (text word : String) : Prop :=
  ∃ front back : List Char, text.toList = front ++ word.toList ++ back ∧
    (∀ c ∈ front.getLast?, isIdentifierChar c = false) ∧
    ∀ c ∈ back.head?, isIdentifierChar c = false

variable {text word : String}

/-- Whether a word may end beside a character, or where none is. -/
def isEdge (beside : Option Char) : Bool :=
  beside.all fun c => !isIdentifierChar c

theorem isEdge_iff {beside : Option Char} :
    isEdge beside = true ↔ ∀ c ∈ beside, isIdentifierChar c = false := by
  cases beside <;> simp [isEdge]

/-- Whether a word stands in what follows in a text after a character. -/
def hasWordAfter (word : List Char) (before : Option Char) : List Char → Bool
  | [] => word.isEmpty && isEdge before
  | c :: rest =>
      isEdge before && word.isPrefixOf (c :: rest) &&
          isEdge ((c :: rest).drop word.length).head? ||
        hasWordAfter word (some c) rest

theorem hasWordAfter_iff {word text : List Char} {before : Option Char} :
    hasWordAfter word before text = true ↔ ∃ front back, text = front ++ word ++ back ∧
      (∀ c ∈ front.getLast?.or before, isIdentifierChar c = false) ∧
      ∀ c ∈ back.head?, isIdentifierChar c = false := by
  induction text generalizing before with
  | nil =>
      rw [hasWordAfter, Bool.and_eq_true, isEdge_iff, List.isEmpty_iff]
      constructor
      · rintro ⟨rfl, outside⟩
        exact ⟨[], [], rfl, outside, by simp⟩
      · rintro ⟨front, back, parted, outside, _⟩
        obtain ⟨rest, rfl⟩ := List.append_eq_nil_iff.mp parted.symm
        obtain ⟨rfl, rfl⟩ := List.append_eq_nil_iff.mp rest
        exact ⟨rfl, outside⟩
  | cons c rest ih =>
      rw [hasWordAfter, Bool.or_eq_true, Bool.and_eq_true, Bool.and_eq_true, isEdge_iff, isEdge_iff,
        List.isPrefixOf_iff_prefix, ih]
      have last (front : List Char) :
          (c :: front).getLast?.or before = front.getLast?.or (some c) := by
        rw [List.getLast?_cons]
        cases front.getLast? <;> rfl
      constructor
      · rintro (⟨⟨outside, back, parted⟩, after⟩ | ⟨front, back, rfl, outside, after⟩)
        · refine ⟨[], back, parted.symm, outside, ?_⟩
          rwa [← parted, List.drop_left] at after
        · rw [← last] at outside
          exact ⟨c :: front, back, rfl, outside, after⟩
      · rintro ⟨front, back, parted, outside, after⟩
        cases front with
        | nil =>
            rw [parted]
            exact .inl ⟨⟨outside, List.prefix_append _ _⟩, by rwa [List.nil_append, List.drop_left]⟩
        | cons first front =>
            obtain ⟨rfl, rfl⟩ := List.cons.inj parted
            rw [last] at outside
            exact .inr ⟨front, back, rfl, outside, after⟩

instance : Decidable (HasWord text word) :=
  decidable_of_iff (hasWordAfter word.toList none text.toList = true) <| by
    rw [hasWordAfter_iff, HasWord]
    simp

example : HasWord "to map_2" "map_2" ∧ ¬HasWord "to map_2" "map" := by decide

theorem HasWord.contains (held : HasWord text word) : contains text word = true := by
  obtain ⟨front, back, parted, _, _⟩ := held
  exact contains_iff_inside.mpr ⟨front, back, parted.symm⟩

/-- What stands in quotes is a word. -/
theorem HasWord.of_quoted (quoted : Text.contains text ("\"" ++ word ++ "\"") = true) :
    HasWord text word := by
  obtain ⟨front, back, parted⟩ := contains_iff_inside.mp quoted
  have outside : isIdentifierChar '"' = false := by decide
  refine ⟨front ++ ['"'], '"' :: back, ?_, ?_, ?_⟩
  · rw [← parted]
    simp [String.toList_append]
  · simpa using outside
  · simpa using outside

/-- An occurrence of identifier characters lies in a word, which reaches as far as these go on. -/
theorem contains_iff_in_word {name : String} (plain : IsPlain name) :
    Text.contains text name = true ↔
      ∃ word, IsPlain word ∧ HasWord text word ∧ Text.contains word name = true := by
  constructor
  · intro held
    obtain ⟨front, back, parted⟩ := contains_iff_inside.mp held
    let before := front.rtakeWhile isIdentifierChar
    let after := back.takeWhile isIdentifierChar
    have word : (String.ofList (before ++ name.toList ++ after)).toList =
        before ++ name.toList ++ after := String.toList_ofList
    refine ⟨String.ofList (before ++ name.toList ++ after), ?_, ?_, ?_⟩
    · intro c member
      rw [word, List.mem_append, List.mem_append] at member
      rcases member with (member | member) | member
      · exact List.mem_rtakeWhile_imp member
      · exact plain c member
      · exact List.mem_takeWhile_imp member
    · refine ⟨front.rdropWhile isIdentifierChar, back.dropWhile isIdentifierChar, ?_, ?_, ?_⟩
      · calc
          text.toList = front ++ name.toList ++ back := parted.symm
          _ = (front.rdropWhile isIdentifierChar ++ before) ++ name.toList ++
                (after ++ back.dropWhile isIdentifierChar) := by
              rw [List.rdropWhile_append_rtakeWhile, List.takeWhile_append_dropWhile]
          _ = _ := by
              rw [word]
              simp only [List.append_assoc]
      · intro c last
        obtain ⟨nonempty, rfl⟩ := List.mem_getLast?_eq_getLast last
        exact Bool.eq_false_iff.mpr (List.rdropWhile_last_not isIdentifierChar front nonempty)
      · intro c first
        have stops := List.head?_dropWhile_not isIdentifierChar back
        rwa [Option.mem_def.mp first] at stops
    · exact contains_iff_inside.mpr ⟨before, after, word.symm⟩
  · rintro ⟨word, _, held, inside⟩
    exact contains_trans held.contains inside

end Text

variable {quiz : Quiz} {assets : AssetMap} {options : Options} {planned : Plan} {shuffle : Bool}
  {registry : Registry} {document : Document} {fault : IntegrityFault}

theorem Document.fault?_eq_some
    (issued : ∀ name ∈ document.references, registry.isIssuedFor document.identifier name = true)
    (faulty : document.fault? registry = some fault) :
    ∃ name ∈ document.references, Text.contains document.body name.text = false ∧
      fault = .notWritten document.path name document.kind := by
  obtain ⟨name, member, found⟩ := List.exists_of_findSome?_eq_some faulty
  rw [issued name member] at found
  cases written : Text.contains document.body name.text with
  | true =>
      rw [written] at found
      cases found
  | false =>
      rw [written] at found
      exact ⟨name, member, written, (Option.some.inj found).symm⟩

/-- The package that is written for a plan can only have a fault in that a reference of a document
is missing from its body. -/
theorem Plan.BuiltFrom.fault?_eq_some (built : planned.BuiltFrom quiz assets shuffle)
    {writer : Writer} (faulty : (writer.package planned quiz assets).fault? planned = some fault) :
    ∃ document ∈ (writer.package planned quiz assets).documents, ∃ name ∈ document.references,
      Text.contains document.body name.text = false ∧
      fault = .notWritten document.path name document.kind := by
  have distinct : repeatedPath? [] (writer.package planned quiz assets).paths = none :=
    repeatedPath?_eq_none_iff.mpr ⟨(built.paths writer).2, fun _ _ => List.not_mem_nil⟩
  cases found : (writer.package planned quiz assets).documents.findSome?
      (Document.fault? planned.registry) with
  | none =>
      have whole := built.intact_of_written writer fun document member name refers =>
        (Document.fault?_eq_none_iff.mp (List.findSome?_eq_none_iff.mp found document member)
          name refers).2
      rw [Package.fault?_eq_none_iff.mpr whole] at faulty
      cases faulty
  | some first =>
      obtain ⟨document, member, missing⟩ := List.exists_of_findSome?_eq_some found
      rw [Package.fault?, distinct, found] at faulty
      cases faulty
      obtain ⟨name, refers, absent, notWritten⟩ :=
        Document.fault?_eq_some (fun _ => built.document_issued member) missing
      exact ⟨document, member, name, refers, absent, notWritten⟩

theorem generate_of_plan (writer : Writer) (made : plan options quiz assets = .ok planned) :
    generate writer options quiz assets =
      (checkIntegrity (writer.package planned quiz assets) planned).map
        fun _ => writer.package planned quiz assets := by
  rw [generate, made]
  rfl

theorem generate_ok_iff (writer : Writer) (made : plan options quiz assets = .ok planned) :
    generate writer options quiz assets = .ok (writer.package planned quiz assets) ↔
      ∀ document ∈ (writer.package planned quiz assets).documents,
        ∀ name ∈ document.references, Text.contains document.body name.text = true := by
  rw [generate_of_plan writer made]
  constructor
  · intro generated
    cases checked : checkIntegrity (writer.package planned quiz assets) planned with
    | error problem =>
        rw [checked] at generated
        cases generated
    | ok _ => exact (checkIntegrity_eq_ok_iff.mp checked).written
  · intro written
    rw [checkIntegrity_of_intact ((plan_ok made).intact_of_written writer written)]
    rfl

theorem generate_format (format : Format) (made : plan options quiz assets = .ok planned) :
    generate format.writer options quiz assets =
      .ok (format.writer.package planned quiz assets) :=
  (generate_ok_iff _ made).mpr ((plan_ok made).intact format).written

/-- A document without one of its references is rejected, unless the reference is a part of a
longer word of the body. Both formats write every reference as a word. -/
theorem generate_finds_references_in_words (writer : Writer)
    (made : plan options quiz assets = .ok planned) :
    (generate writer options quiz assets = .ok (writer.package planned quiz assets) ↔
      ∀ document ∈ (writer.package planned quiz assets).documents, ∀ name ∈ document.references,
        Text.HasWord document.body name.text ∨ ∃ word, word ≠ name.text ∧ IsPlain word ∧
          Text.HasWord document.body word ∧ name.text.toList <:+: word.toList) ∧
    (∀ problem, generate writer options quiz assets = .error problem →
      ∃ document ∈ (writer.package planned quiz assets).documents,
        ∃ name ∈ document.references,
          problem = .integrity (.notWritten document.path name document.kind) ∧
          ∀ word, IsPlain word → Text.HasWord document.body word →
            ¬name.text.toList <:+: word.toList) ∧
    (∀ format : Format, writer = format.writer →
      ∀ document ∈ (writer.package planned quiz assets).documents,
        ∀ name ∈ document.references, Text.HasWord document.body name.text) := by
  have built := plan_ok made
  have plain {document : Document} {name : Identifier}
      (member : document ∈ (writer.package planned quiz assets).documents)
      (refers : name ∈ document.references) : IsPlain name.text :=
    built.sound.isIssuedFor_plain (built.document_issued member refers)
  refine ⟨(generate_ok_iff writer made).trans (forall₄_congr fun document member name refers => ?_),
    ?_, ?_⟩
  · rw [Text.contains_iff_in_word (plain member refers)]
    constructor
    · rintro ⟨word, shaped, held, inside⟩
      by_cases same : word = name.text
      · exact .inl (same ▸ held)
      · exact .inr ⟨word, same, shaped, held, Text.contains_iff_inside.mp inside⟩
    · rintro (held | ⟨word, _, shaped, held, inside⟩)
      · exact ⟨name.text, plain member refers, held, Text.contains_self _⟩
      · exact ⟨word, shaped, held, Text.contains_iff_inside.mpr inside⟩
  · intro problem refused
    rw [generate_of_plan writer made, checkIntegrity] at refused
    cases faulty : (writer.package planned quiz assets).fault? planned with
    | none =>
        rw [faulty] at refused
        cases refused
    | some fault =>
        rw [faulty] at refused
        cases refused
        obtain ⟨document, member, name, refers, absent, rfl⟩ := built.fault?_eq_some faulty
        refine ⟨document, member, name, refers, rfl, fun word shaped held inside => ?_⟩
        rw [(Text.contains_iff_in_word (plain member refers)).mpr
          ⟨word, shaped, held, Text.contains_iff_inside.mpr inside⟩] at absent
        cases absent
  · rintro format rfl document member name refers
    exact .of_quoted (built.document_quoted member refers)

theorem trip_test_holds_map_as_word :
    ∃ planned, plan ⟨false, "", false⟩ trip [] = .ok planned ∧
      ∃ document ∈ (Format.qti30.writer.package planned trip []).documents,
        document.path = "tests/trip.xml" ∧ Text.HasWord document.body "map" := by
  obtain ⟨planned, made, identifier, items, _⟩ := trip_planned
  obtain ⟨_, _, formatted⟩ := generate_finds_references_in_words Format.qti30.writer made
  have refers : ⟨"map"⟩ ∈ planned.test.references := by
    rw [Test.references, Text.mem_ascending, items]
    exact List.mem_append_right _ (List.mem_singleton_self _)
  have member := (Package.mem_documentsOf.mp
    (Format.qti30.writer.testDocument_mem planned trip [])).1
  refine ⟨planned, made, _, member, ?_, formatted .qti30 rfl _ member _ refers⟩
  rw [Writer.testDocument, identifier]
  rfl

def quotedNames (names : List Identifier) : String :=
  String.join (names.map fun name => "\"" ++ name.text ++ "\"")

/-- A writer of the references alone, which leaves one out of the test. -/
def listingWithout (omitted : Identifier) : Writer where
  format := .qti21
  item := fun item => quotedNames item.references
  test := fun test => quotedNames (test.references.filter fun name => name != omitted)
  manifest := fun manifest => quotedNames manifest.references

theorem quotedNames_contains {names : List Identifier} {name : Identifier} (member : name ∈ names) :
    Text.contains (quotedNames names) name.text = true :=
  Text.contains_join (List.mem_map_of_mem member)
    (Text.contains_append_left (Text.contains_append_right (Text.contains_self _)))

/-- A reference can be left out of the test if another one there contains it. -/
theorem listingWithout_written {omitted kept : Identifier} (member : kept ∈ planned.test.references)
    (other : kept ≠ omitted) (inside : Text.contains kept.text omitted.text = true) :
    ∀ document ∈ ((listingWithout omitted).package planned quiz assets).documents,
      ∀ name ∈ document.references, Text.contains document.body name.text = true := by
  intro document held name refers
  rcases Writer.mem_documents held with rfl | rfl | ⟨item, _, rfl⟩
  · exact quotedNames_contains refers
  · have stays {single : Identifier} (listed : single ∈ planned.test.references)
        (spared : single ≠ omitted) :
        Text.contains ((listingWithout omitted).test planned.test) single.text = true :=
      quotedNames_contains (List.mem_filter.mpr ⟨listed, by simp [spared]⟩)
    by_cases same : name = omitted
    · subst same
      exact Text.contains_trans (stays member other) inside
    · exact stays refers same
  · exact quotedNames_contains refers

def detour : Quiz :=
  ⟨"Detour", "", [
    .text ⟨some "Map", "<p>Turn left.</p>", []⟩,
    .text ⟨some "Map", "<p>Turn right.</p>", []⟩]⟩

theorem detour_planned :
    ∃ planned, plan ⟨false, "", false⟩ detour [] = .ok planned ∧
      planned.test.references =
        [⟨"SCORE"⟩, ⟨"detour"⟩, ⟨"main_section"⟩, ⟨"map"⟩, ⟨"map_2"⟩, ⟨"part"⟩] := by
  have computed : (plan ⟨false, "", false⟩ detour []).toOption.map
      (fun planned => planned.test.references) =
        some [⟨"SCORE"⟩, ⟨"detour"⟩, ⟨"main_section"⟩, ⟨"map"⟩, ⟨"map_2"⟩, ⟨"part"⟩] := by
    decide +kernel
  exact plan_observed _ computed

/-- The first item is left out of the test, but the name of the second contains its name. -/
theorem dropped_map_is_accepted_inside_map_2 :
    ∃ planned, plan ⟨false, "", false⟩ detour [] = .ok planned ∧
      generate (listingWithout ⟨"map"⟩) ⟨false, "", false⟩ detour [] =
        .ok ((listingWithout ⟨"map"⟩).package planned detour []) ∧
      ∃ document ∈ ((listingWithout ⟨"map"⟩).package planned detour []).documents,
        ⟨"map"⟩ ∈ document.references ∧
        document.body = "\"SCORE\"\"detour\"\"main_section\"\"map_2\"\"part\"" ∧
        ¬Text.HasWord document.body "map" := by
  obtain ⟨planned, made, references⟩ := detour_planned
  have named : ⟨"map"⟩ ∈ planned.test.references := by simp [references]
  have longer : ⟨"map_2"⟩ ∈ planned.test.references := by simp [references]
  have generated := (generate_ok_iff (listingWithout ⟨"map"⟩) made).mpr
    (listingWithout_written longer (by decide) (by decide))
  have member := (Package.mem_documentsOf.mp
    ((listingWithout ⟨"map"⟩).testDocument_mem planned detour [])).1
  have body : (listingWithout ⟨"map"⟩).test planned.test =
      "\"SCORE\"\"detour\"\"main_section\"\"map_2\"\"part\"" := by
    change quotedNames (planned.test.references.filter fun name => name != ⟨"map"⟩) = _
    rw [references]
    decide
  refine ⟨planned, made, generated, _, member, named, body, ?_⟩
  change ¬Text.HasWord ((listingWithout ⟨"map"⟩).test planned.test) "map"
  rw [body]
  decide +kernel

end QuizPackage
