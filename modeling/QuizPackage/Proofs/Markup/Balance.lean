import QuizPackage.Proofs.Markup.Reading

/-!
# Balanced markup

A text is balanced if every end tag closes the element that was opened last, and every element is
closed. The tags of a text are read letter by letter: quoted values, comments and other asides hold
no tags. Where a text ends between tags, what follows it is read as if it stood alone; so balanced
texts can be put into each other.
-/

namespace QuizPackage

namespace Markup

variable {c : Char} {text rest : List Char} {tags : List Tag}

inductive Tag where
  | opening (name : List Char)
  | closing (name : List Char)
  /-- Of an element without content. -/
  | single
deriving DecidableEq

def endsTagName (c : Char) : Bool :=
  [' ', '\t', '\n', '\r'].contains c

/-- The tag with some letters between its angle brackets. -/
def Tag.ofLetters : List Char → Tag
  | '/' :: name => .closing (name.takeWhile fun c => !endsTagName c)
  | letters =>
      if letters.getLast? = some '/' then .single
      else .opening (letters.takeWhile fun c => !endsTagName c)

/-- Where reading stands: between tags, within a tag after some letters, within a quoted value of a
tag, or within an aside, which ends where its closing letters are read. -/
inductive Stand where
  | content
  | tag (letters : List Char)
  | quoted (quote : Char) (letters : List Char)
  | aside (closing letters : List Char)

/-- Comments, sections of plain characters and instructions, each with what ends it. -/
def asides : List (List Char × List Char) := [
  ("!--".toList, "-->".toList),
  ("![CDATA[".toList, "]]>".toList),
  ("?".toList, "?>".toList)]

/-- Where reading stands within angle brackets after some letters. -/
def Stand.within (letters : List Char) : Stand :=
  match asides.lookup letters with
  | some closing => .aside closing []
  | none => .tag letters

/-- The tags of a text from some point on, unless it ends or a tag starts within a tag. -/
def tagsFrom : Stand → List Char → Option (List Tag)
  | .content, [] => some []
  | .content, c :: rest => tagsFrom (if c = '<' then .tag [] else .content) rest
  | .tag _, [] => none
  | .tag letters, c :: rest =>
      if c = '>' then (tagsFrom .content rest).map (Tag.ofLetters letters :: ·)
      else if c = '<' then none
      else if c = '"' ∨ c = '\'' then tagsFrom (.quoted c (letters ++ [c])) rest
      else tagsFrom (.within (letters ++ [c])) rest
  | .quoted _ _, [] => none
  | .quoted quote letters, c :: rest =>
      tagsFrom (if c = quote then .tag (letters ++ [c]) else .quoted quote (letters ++ [c])) rest
  | .aside _ _, [] => none
  | .aside closing letters, c :: rest =>
      tagsFrom (if closing.isSuffixOf (letters ++ [c]) then .content
        else .aside closing (letters ++ [c])) rest

/-- The elements that are open after some tags, the one opened last in front. -/
def openAfter : List (List Char) → List Tag → Option (List (List Char))
  | opened, [] => some opened
  | opened, .opening name :: rest => openAfter (name :: opened) rest
  | opened, .single :: rest => openAfter opened rest
  | [], .closing _ :: _ => none
  | last :: opened, .closing name :: rest =>
      if name = last then openAfter opened rest else none

/-- Every end tag of a text closes the element opened last, and in the end all are closed. -/
def Balanced (text : String) : Prop :=
  (tagsFrom .content text.toList).bind (openAfter []) = some []

instance (text : String) : Decidable (Balanced text) :=
  inferInstanceAs (Decidable (_ = _))

example : Balanced "<p class='a>b'>x<br/><!-- <i> --></p >" := by decide

example : ¬ Balanced "<b><i>x</b></i>" := by decide

theorem tagsFrom_append {stand : Stand} (read : tagsFrom stand text = some tags) :
    tagsFrom stand (text ++ rest) = (tagsFrom .content rest).map (tags ++ ·) := by
  induction text generalizing stand tags with
  | nil =>
      cases stand with
      | content =>
          cases read
          simp
      | tag | quoted | aside => cases read
  | cons c others ih =>
      cases stand with
      | content | quoted | aside =>
          rw [tagsFrom] at read
          rw [List.cons_append, tagsFrom, ih read]
      | tag letters =>
          rw [tagsFrom] at read
          rw [List.cons_append, tagsFrom]
          split at read
          · rename_i ends
            obtain ⟨later, readLater, rfl⟩ := Option.map_eq_some_iff.mp read
            rw [if_pos ends, ih readLater, Option.map_map]
            rfl
          · rename_i inside
            rw [if_neg inside]
            split at read
            · cases read
            · rename_i plain
              rw [if_neg plain]
              split at read
              · rename_i quote
                rw [if_pos quote, ih read]
              · rename_i unquoted
                rw [if_neg unquoted, ih read]

theorem openAfter_append (opened : List (List Char)) (first second : List Tag) :
    openAfter opened (first ++ second) = (openAfter opened first).bind (openAfter · second) := by
  induction first generalizing opened with
  | nil => rfl
  | cons tag others ih =>
      cases tag with
      | opening name => exact ih _
      | single => exact ih _
      | closing name =>
          cases opened with
          | nil => rfl
          | cons last below =>
              rw [List.cons_append, openAfter, openAfter]
              split
              · exact ih below
              · rfl

/-- Elements that were open before stay open below. -/
theorem openAfter_below {opened left : List (List Char)} (below : List (List Char))
    (matched : openAfter opened tags = some left) :
    openAfter (opened ++ below) tags = some (left ++ below) := by
  induction tags generalizing opened with
  | nil =>
      cases matched
      rfl
  | cons tag others ih =>
      cases tag with
      | opening name => exact ih matched
      | single =>
          rw [openAfter] at matched ⊢
          exact ih matched
      | closing name =>
          cases opened with
          | nil => cases matched
          | cons last opened =>
              rw [openAfter] at matched
              rw [List.cons_append, openAfter]
              split at matched
              · rename_i closes
                rw [if_pos closes]
                exact ih matched
              · cases matched

/-- Wherever a text stands between tags, it has some tags of its own, and after them the same
elements are open as before. -/
def Stands (text : List Char) : Prop :=
  ∃ tags, (∀ rest, tagsFrom .content (text ++ rest) = (tagsFrom .content rest).map (tags ++ ·)) ∧
    ∀ opened, openAfter opened tags = some opened

theorem balanced_iff_stands (text : String) : Balanced text ↔ Stands text.toList := by
  constructor
  · intro balanced
    obtain ⟨tags, read, matched⟩ := Option.bind_eq_some_iff.mp balanced
    exact ⟨tags, fun rest => tagsFrom_append read, fun opened => openAfter_below opened matched⟩
  · rintro ⟨tags, read, matched⟩
    have alone := read []
    rw [List.append_nil] at alone
    simp [Balanced, alone, tagsFrom, matched]

theorem Stands.nil : Stands [] :=
  ⟨[], fun rest => by simp, fun _ => rfl⟩

theorem Stands.append {first second : List Char} (front : Stands first) (back : Stands second) :
    Stands (first ++ second) := by
  obtain ⟨tags, read, matched⟩ := front
  obtain ⟨later, readLater, matchedLater⟩ := back
  refine ⟨tags ++ later, fun rest => ?_, fun opened => ?_⟩
  · rw [List.append_assoc, read, readLater, Option.map_map]
    simp [Function.comp_def]
  · rw [openAfter_append, matched, Option.bind_some, matchedLater]

theorem Stands.of_plain (plain : '<' ∉ text) : Stands text := by
  induction text with
  | nil => exact .nil
  | cons letter others ih =>
      rw [List.mem_cons, not_or] at plain
      obtain ⟨tags, read, matched⟩ := ih plain.2
      exact ⟨tags, fun rest => by
        rw [List.cons_append, tagsFrom, if_neg (Ne.symm plain.1), read], matched⟩

/-- An attribute as it is written, with its value in double quotes. -/
def attributeText (single : String × String) : String :=
  " " ++ single.1 ++ "=\"" ++ single.2 ++ "\""

/-- What stands between the angle brackets of a start tag. -/
def tagText (name : String) (attributes : List (String × String)) : String :=
  name ++ String.join (attributes.map attributeText)

/-- The names of a tag are names, and the values of its attributes hold no double quote. -/
structure Orderly (name : String) (attributes : List (String × String)) : Prop where
  named : isName name.toList = true
  attributesNamed : ∀ single ∈ attributes, isName single.1.toList = true
  valuesPlain : ∀ single ∈ attributes, '"' ∉ single.2.toList

/-- Whether letters start like a name or like an end tag. -/
def startsTag (letters : List Char) : Bool :=
  letters.head?.any fun c => c.isAlpha || c == '/'

theorem startsTag_append {letters : List Char} (starts : startsTag letters = true)
    (others : List Char) : startsTag (letters ++ others) = true := by
  cases letters with
  | nil => cases starts
  | cons first later => exact starts

/-- No aside starts like that. -/
theorem Stand.within_of_startsTag {letters : List Char} (starts : startsTag letters = true) :
    Stand.within letters = .tag letters := by
  have apart : ∀ entry ∈ asides, startsTag entry.1 = false := by decide
  have other : asides.lookup letters = none := by
    refine List.lookup_eq_none_iff.mpr fun entry member => ?_
    rw [bne_iff_ne]
    rintro rfl
    exact Bool.noConfusion (starts.symm.trans (apart entry member))
  rw [Stand.within, other]

theorem exists_alpha_of_isName {letters : List Char} (named : isName letters = true) :
    ∃ first later, letters = first :: later ∧ first.isAlpha = true := by
  cases letters with
  | nil => cases named
  | cons first later => exact ⟨first, later, rfl, ((Bool.and_eq_true _ _).mp named).1⟩

theorem startsTag_of_isName {letters : List Char} (named : isName letters = true) :
    startsTag letters = true := by
  obtain ⟨first, later, rfl, alpha⟩ := exists_alpha_of_isName named
  simp [startsTag, alpha]

/-- A tag that starts with a name is no end tag. -/
theorem Tag.ofLetters_of_isName {letters : List Char} (named : isName letters = true)
    (others : List Char) :
    Tag.ofLetters (letters ++ others) =
      if (letters ++ others).getLast? = some '/' then .single
      else .opening ((letters ++ others).takeWhile fun c => !endsTagName c) := by
  obtain ⟨first, later, rfl, alpha⟩ := exists_alpha_of_isName named
  have other : first ≠ '/' := by
    rintro rfl
    exact absurd alpha (by decide)
  rw [List.cons_append, Tag.ofLetters]
  intro name same
  exact other (List.cons.inj same).1

/-- Whether a character means something between angle brackets. -/
def isTagMark (c : Char) : Bool :=
  ['<', '>', '"', '\''].contains c

theorem isTagMark_of_isNameChar (named : isNameChar c = true) : isTagMark c = false :=
  not_contains_of_isNameChar (by decide) named

theorem tagsFrom_letters {read letters : List Char} (starts : startsTag (read ++ letters) = true)
    (plain : ∀ letter ∈ letters, isTagMark letter = false) :
    tagsFrom (.tag read) (letters ++ rest) = tagsFrom (.tag (read ++ letters)) rest := by
  induction letters generalizing read with
  | nil => simp
  | cons letter others ih =>
      have mark := plain letter List.mem_cons_self
      simp only [isTagMark, List.contains_cons, List.contains_nil, Bool.or_false, Bool.or_eq_false_iff,
        beq_eq_false_iff_ne] at mark
      have along : (read ++ [letter]) ++ others = read ++ letter :: others := by simp
      have begun : startsTag (read ++ [letter]) = true := by
        cases read with
        | nil => exact starts
        | cons first later => exact starts
      rw [List.cons_append, tagsFrom, if_neg mark.2.1, if_neg mark.1,
        if_neg (not_or.mpr mark.2.2), Stand.within_of_startsTag begun,
        ih (along ▸ starts) fun other member => plain other (.tail _ member), along]

theorem tagsFrom_value {value : List Char} (plain : '"' ∉ value) (read : List Char) :
    tagsFrom (.quoted '"' read) (value ++ '"' :: rest) =
      tagsFrom (.tag (read ++ value ++ ['"'])) rest := by
  induction value generalizing read with
  | nil => rw [List.nil_append, tagsFrom, if_pos rfl, List.append_nil]
  | cons letter others ih =>
      rw [List.mem_cons, not_or] at plain
      rw [List.cons_append, tagsFrom, if_neg (Ne.symm plain.1), ih plain.2]
      simp

theorem toList_attributeText (single : String × String) :
    (attributeText single).toList =
      (' ' :: single.1.toList ++ ['=']) ++ '"' :: (single.2.toList ++ ['"']) := by
  simp [attributeText]

theorem tagsFrom_attribute {single : String × String} (named : isName single.1.toList = true)
    (plain : '"' ∉ single.2.toList) {read : List Char} (starts : startsTag read = true) :
    tagsFrom (.tag read) ((attributeText single).toList ++ rest) =
      tagsFrom (.tag (read ++ (attributeText single).toList)) rest := by
  have letters : ∀ letter ∈ ' ' :: single.1.toList ++ ['='], isTagMark letter = false := by
    intro letter member
    rcases List.mem_append.mp member with member | member
    · rcases List.mem_cons.mp member with rfl | member
      · rfl
      · exact isTagMark_of_isNameChar (isNameChar_of_isName named letter member)
    · rw [List.mem_singleton.mp member]
      rfl
  have split : (attributeText single).toList ++ rest =
      (' ' :: single.1.toList ++ ['=']) ++ '"' :: (single.2.toList ++ '"' :: rest) := by
    simp [attributeText]
  rw [split, tagsFrom_letters (startsTag_append starts _) letters, tagsFrom, if_neg (by decide),
    if_neg (by decide), if_pos (.inl rfl), tagsFrom_value plain, toList_attributeText]
  simp

theorem Orderly.tagsFrom {name : String} {attributes : List (String × String)}
    (orderly : Orderly name attributes) :
    tagsFrom .content ('<' :: ((tagText name attributes).toList ++ rest)) =
      tagsFrom (.tag (tagText name attributes).toList) rest := by
  obtain ⟨named, attributesNamed, valuesPlain⟩ := orderly
  have starts : startsTag name.toList = true := startsTag_of_isName named
  have letters : ∀ letter ∈ name.toList, isTagMark letter = false := fun letter member =>
    isTagMark_of_isNameChar (isNameChar_of_isName named letter member)
  -- After the name, the attributes are read one by one.
  have attributesRead (read : List Char) (begun : startsTag read = true) :
      Markup.tagsFrom (.tag read) ((String.join (attributes.map attributeText)).toList ++ rest) =
        Markup.tagsFrom (.tag (read ++ (String.join (attributes.map attributeText)).toList))
          rest := by
    induction attributes generalizing read with
    | nil => simp
    | cons single others ih =>
        rw [List.map_cons, String.join_cons, String.toList_append, List.append_assoc,
          tagsFrom_attribute (attributesNamed single List.mem_cons_self)
            (valuesPlain single List.mem_cons_self) begun,
          ih (fun other member => attributesNamed other (.tail _ member))
            (fun other member => valuesPlain other (.tail _ member)) _ (startsTag_append begun _),
          List.append_assoc]
  rw [Markup.tagsFrom, if_pos rfl, tagText, String.toList_append, List.append_assoc,
    tagsFrom_letters starts letters, List.nil_append, attributesRead _ starts]

theorem endsTagName_of_isNameChar (named : isNameChar c = true) : endsTagName c = false :=
  not_contains_of_isNameChar (by decide) named

theorem takeWhile_name {letters : List Char} (named : isName letters = true)
    (others : List Char) :
    (letters ++ others).takeWhile (fun c => !endsTagName c) =
      letters ++ others.takeWhile fun c => !endsTagName c := by
  refine List.takeWhile_append_of_pos fun letter member => ?_
  rw [endsTagName_of_isNameChar (isNameChar_of_isName named letter member)]
  rfl

/-- The name of a tag ends at its first blank. -/
theorem Orderly.takeWhile_tagText {name : String} {attributes : List (String × String)}
    (orderly : Orderly name attributes) :
    (tagText name attributes).toList.takeWhile (fun c => !endsTagName c) = name.toList := by
  rw [tagText, String.toList_append, takeWhile_name orderly.named]
  cases attributes with
  | nil => simp
  | cons single others =>
      rw [List.map_cons, String.join_cons, String.toList_append, toList_attributeText]
      simp [endsTagName]

theorem Orderly.getLast?_tagText {name : String} {attributes : List (String × String)}
    (orderly : Orderly name attributes) :
    (tagText name attributes).toList.getLast? ≠ some '/' := by
  rcases List.eq_nil_or_concat attributes with rfl | ⟨others, single, rfl⟩
  · intro last
    have member : '/' ∈ name.toList := by
      simpa [tagText] using List.mem_of_getLast? last
    exact absurd (isNameChar_of_isName orderly.named _ member) (by decide)
  · have ended : (tagText name (others.concat single)).toList =
        (name ++ String.join (others.map attributeText) ++ " " ++ single.1 ++ "=\"" ++
          single.2).toList ++ ['"'] := by
      simp [tagText, attributeText]
    rw [ended, List.getLast?_concat]
    decide

theorem Orderly.ofLetters {name : String} {attributes : List (String × String)}
    (orderly : Orderly name attributes) :
    Tag.ofLetters (tagText name attributes).toList = .opening name.toList := by
  have last := orderly.getLast?_tagText
  have taken := orderly.takeWhile_tagText
  rw [tagText, String.toList_append] at last taken ⊢
  rw [Tag.ofLetters_of_isName orderly.named, if_neg last, taken]

theorem tagsFrom_endTag {name : List Char} (named : isName name = true) :
    tagsFrom .content ('<' :: '/' :: (name ++ '>' :: rest)) =
      (tagsFrom .content rest).map (.closing name :: ·) := by
  have letters : ∀ letter ∈ '/' :: name, isTagMark letter = false :=
    List.forall_mem_cons.mpr ⟨rfl, fun letter member =>
      isTagMark_of_isNameChar (isNameChar_of_isName named letter member)⟩
  have whole : name.takeWhile (fun c => !endsTagName c) = name := by
    simpa using takeWhile_name named []
  rw [tagsFrom, if_pos rfl, ← List.cons_append, tagsFrom_letters rfl letters, List.nil_append,
    tagsFrom, if_pos rfl, Tag.ofLetters, whole]

/-- An element without content leaves open what was open before. -/
theorem Orderly.stands_single {name : String} {attributes : List (String × String)}
    (orderly : Orderly name attributes) :
    Stands ('<' :: ((tagText name attributes).toList ++ ['/', '>'])) := by
  have slash : ∀ letter ∈ ['/'], isTagMark letter = false := List.forall_mem_singleton.mpr rfl
  have starts : startsTag ((tagText name attributes).toList ++ ['/']) = true := by
    rw [tagText, String.toList_append]
    exact startsTag_append (startsTag_append (startsTag_of_isName orderly.named) _) _
  have single : Tag.ofLetters ((tagText name attributes).toList ++ ['/']) = .single := by
    rw [tagText, String.toList_append, List.append_assoc, Tag.ofLetters_of_isName orderly.named,
      ← List.append_assoc, if_pos List.getLast?_concat]
  refine ⟨[.single], fun rest => ?_, fun _ => rfl⟩
  have split : '<' :: ((tagText name attributes).toList ++ ['/', '>']) ++ rest =
      '<' :: ((tagText name attributes).toList ++ (['/'] ++ '>' :: rest)) := by
    simp
  rw [split, orderly.tagsFrom, tagsFrom_letters starts slash, Markup.tagsFrom, if_pos rfl, single]
  rfl

/-- An element closes itself after content that closes all it opens. -/
theorem Orderly.stands_element {name : String} {attributes : List (String × String)}
    (orderly : Orderly name attributes) {inner : List Char} (inside : Stands inner) :
    Stands ('<' :: ((tagText name attributes).toList ++ '>' :: (inner ++
      '<' :: '/' :: (name.toList ++ ['>'])))) := by
  obtain ⟨tags, read, matched⟩ := inside
  refine ⟨.opening name.toList :: tags ++ [.closing name.toList], fun rest => ?_, fun opened => ?_⟩
  · have split : '<' :: ((tagText name attributes).toList ++ '>' :: (inner ++
        '<' :: '/' :: (name.toList ++ ['>']))) ++ rest =
        '<' :: ((tagText name attributes).toList ++ '>' :: (inner ++
          '<' :: '/' :: (name.toList ++ '>' :: rest))) := by
      simp
    rw [split, orderly.tagsFrom, Markup.tagsFrom, if_pos rfl, orderly.ofLetters, read,
      tagsFrom_endTag orderly.named, Option.map_map, Option.map_map]
    simp [Function.comp_def]
  · rw [List.cons_append, openAfter, openAfter_append, matched, Option.bind_some, openAfter,
      if_pos rfl, openAfter]

end Markup

end QuizPackage
