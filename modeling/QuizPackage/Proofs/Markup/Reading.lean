import QuizPackage.Markup.Tree
import QuizPackage.Proofs.Markup.Escaping

/-!
# Trees can be read back

What a legible tree is written as tells the tree, whatever follows it. Names end at a mark, values
at a quote and texts at a tag. A block ends where its end tag stands, which is indented less than
its children. Fragments are left out, since their markup may be anything.
-/

namespace QuizPackage

namespace Text

variable {c d : Char} {first second rest more : List Char}

/-- Letters up to a mark are told from what follows. -/
theorem append_mark_inj (stops : Char → Bool)
    (plainFirst : ∀ letter ∈ first, stops letter = false)
    (plainSecond : ∀ letter ∈ second, stops letter = false) (firstStops : stops c = true)
    (secondStops : stops d = true) (same : first ++ c :: rest = second ++ d :: more) :
    first = second ∧ c = d ∧ rest = more := by
  induction first generalizing second with
  | nil =>
      cases second with
      | nil => simpa using same
      | cons letter tail =>
          obtain ⟨rfl, -⟩ := List.cons.inj same
          simp [plainSecond c List.mem_cons_self] at firstStops
  | cons letter tail ih =>
      cases second with
      | nil =>
          obtain ⟨rfl, -⟩ := List.cons.inj same
          simp [plainFirst letter List.mem_cons_self] at secondStops
      | cons other others =>
          obtain ⟨rfl, tails⟩ := List.cons.inj same
          obtain ⟨rfl, marks⟩ := ih (fun letter member => plainFirst letter (.tail _ member))
            (fun letter member => plainSecond letter (.tail _ member)) tails
          exact ⟨rfl, marks⟩

theorem append_stop_inj (inFirst : c ∉ first) (inSecond : c ∉ second)
    (same : first ++ c :: rest = second ++ c :: more) : first = second ∧ rest = more := by
  have plain {letters : List Char} (absent : c ∉ letters) :
      ∀ letter ∈ letters, (letter == c) = false :=
    fun letter member => beq_false_of_ne fun equal => absent (equal ▸ member)
  obtain ⟨equal, -, tails⟩ := append_mark_inj (· == c) (plain inFirst) (plain inSecond)
    (beq_self_eq_true c) (beq_self_eq_true c) same
  exact ⟨equal, tails⟩

end Text

namespace Markup

open Text

variable {format : Format} {c d : Char} {rest more : List Char}

/-- The marks that end a name. -/
def isMark (c : Char) : Bool :=
  [' ', '=', '/', '>'].contains c

def isNameChar (c : Char) : Bool :=
  c.isAlphanum || c == ':' || c == '-'

/-- Whether letters are a name: letters, digits, colons and hyphens that start with a letter. -/
def isName (letters : List Char) : Bool :=
  letters.head?.any Char.isAlpha && letters.all isNameChar

theorem isName_ofList (letters : List Char) :
    isName (String.ofList letters).toList = isName letters := by
  rw [String.toList_ofList]

theorem ElementName.isName_spelling (name : ElementName) (format : Format) :
    isName (name.spelling.in format).toList = true := by
  cases format <;> cases name <;> exact (isName_ofList _).trans rfl

theorem AttributeName.isName_spelling (name : AttributeName) (format : Format) :
    isName (name.spelling.in format).toList = true := by
  cases format <;> cases name <;> exact (isName_ofList _).trans rfl

theorem isNameChar_of_isName {letters : List Char} (named : isName letters = true) :
    ∀ letter ∈ letters, isNameChar letter = true :=
  List.all_eq_true.mp ((Bool.and_eq_true _ _).mp named).2

/-- A character of a name is none of the marks that stand in no name. -/
theorem not_contains_of_isNameChar {marks : List Char}
    (others : marks.all (fun mark => !isNameChar mark) = true) (named : isNameChar c = true) :
    marks.contains c = false := by
  rw [List.contains_eq_mem, decide_eq_false_iff_not]
  intro member
  have other := List.all_eq_true.mp others c member
  rw [named] at other
  cases other

theorem isMark_of_isNameChar (named : isNameChar c = true) : isMark c = false :=
  not_contains_of_isNameChar (by decide) named

theorem ElementName.isMark_spelling (name : ElementName) (format : Format) :
    ∀ letter ∈ (name.spelling.in format).toList, isMark letter = false :=
  fun letter member =>
    isMark_of_isNameChar (isNameChar_of_isName (name.isName_spelling format) letter member)

theorem AttributeName.isMark_spelling (name : AttributeName) (format : Format) :
    ∀ letter ∈ (name.spelling.in format).toList, isMark letter = false :=
  fun letter member =>
    isMark_of_isNameChar (isNameChar_of_isName (name.isName_spelling format) letter member)

theorem ElementName.ctorIdx_lt (name : ElementName) : name.ctorIdx < 63 := by
  cases name <;> decide

theorem AttributeName.ctorIdx_lt (name : AttributeName) : name.ctorIdx < 36 := by
  cases name <;> decide

/-- Numbered names are spelled differently if each is spelled unlike all before it. -/
theorem injective_of_apart {Name : Type} {number : Name → Nat} {named : Nat → Name}
    {spell : Name → String} (bound : Nat) (back : ∀ name, named (number name) = name)
    (below : ∀ name, number name < bound)
    (apart : ∀ i < bound, ∀ j < i, spell (named i) ≠ spell (named j)) :
    Function.Injective spell := by
  intro first second same
  rw [← back first, ← back second] at same
  rcases Nat.lt_trichotomy (number first) (number second) with before | equal | after
  · exact absurd same.symm (apart _ (below second) _ before)
  · rw [← back first, equal, back second]
  · exact absurd same (apart _ (below first) _ after)

theorem ElementName.spelling_injective (format : Format) :
    Function.Injective fun name : ElementName => name.spelling.in format := by
  refine injective_of_apart 63 ElementName.ofNat_ctorIdx ElementName.ctorIdx_lt ?_
  cases format <;> decide +kernel

theorem AttributeName.spelling_injective (format : Format) :
    Function.Injective fun name : AttributeName => name.spelling.in format := by
  refine injective_of_apart 36 AttributeName.ofNat_ctorIdx AttributeName.ctorIdx_lt ?_
  cases format <;> decide +kernel

theorem flag_injective : Function.Injective flag := by
  intro first second
  cases first <;> cases second <;> decide

theorem Attribute.toList_render (single : Attribute) :
    (single.render format).toList =
      ' ' :: ((single.name.spelling.in format).toList ++
        '=' :: '"' :: ((escapeAttribute single.value).toList ++ ['"'])) := by
  simp [Attribute.render]

theorem Attribute.render_inj {first second : Attribute}
    (same : (first.render format).toList ++ rest = (second.render format).toList ++ more) :
    first = second ∧ rest = more := by
  simp only [Attribute.toList_render, List.cons_append, List.append_assoc, List.cons.injEq,
    true_and] at same
  obtain ⟨names, -, quoted⟩ := append_mark_inj isMark (first.name.isMark_spelling format)
    (second.name.isMark_spelling format) rfl rfl same
  obtain ⟨values, rests⟩ := append_stop_inj (quote_not_mem_escapeAttribute _)
    (quote_not_mem_escapeAttribute _) (List.cons.inj quoted).2
  have sameName := AttributeName.spelling_injective format (String.toList_inj.mp names)
  have sameValue := escapeAttribute_injective (String.toList_inj.mp values)
  exact ⟨by cases first; cases second; simp_all, rests⟩

def renderAttributes (format : Format) (attributes : List Attribute) : List Char :=
  attributes.flatMap fun single => (single.render format).toList

theorem toList_renderTag (name : ElementName) (attributes : List Attribute) :
    (renderTag format name attributes).toList =
      (name.spelling.in format).toList ++ renderAttributes format attributes := by
  rw [renderTag, String.toList_append]
  congr 1
  induction attributes with
  | nil => rfl
  | cons first rest ih =>
      rw [List.map_cons, String.join_cons, String.toList_append, ih]
      rfl

/-- The marks that end a tag. -/
def endsTag (c : Char) : Bool :=
  c == '/' || c == '>'

theorem isMark_of_endsTag (ends : endsTag c = true) : isMark c = true := by
  rcases (Bool.or_eq_true _ _).mp ends with slash | close
  · rw [eq_of_beq slash]
    rfl
  · rw [eq_of_beq close]
    rfl

/-- After a name stands a mark: a blank before an attribute, or the end of the tag. -/
theorem exists_mark (ends : endsTag c = true) (attributes : List Attribute) (rest : List Char) :
    ∃ mark tail, renderAttributes format attributes ++ c :: rest = mark :: tail ∧
      isMark mark = true := by
  cases attributes with
  | nil => exact ⟨c, rest, rfl, isMark_of_endsTag ends⟩
  | cons first others =>
      rw [renderAttributes, List.flatMap_cons, Attribute.toList_render]
      exact ⟨' ', _, rfl, rfl⟩

theorem renderAttributes_inj {first second : List Attribute} (firstEnds : endsTag c = true)
    (secondEnds : endsTag d = true)
    (same : renderAttributes format first ++ c :: rest =
      renderAttributes format second ++ d :: more) :
    first = second ∧ c = d ∧ rest = more := by
  have step {single : Attribute} {attributes : List Attribute} {tail : List Char} :
      renderAttributes format (single :: attributes) ++ tail =
        (single.render format).toList ++ (renderAttributes format attributes ++ tail) := by
    simp [renderAttributes]
  induction first generalizing second with
  | nil =>
      cases second with
      | nil => simpa [renderAttributes] using same
      | cons other others =>
          rw [step, Attribute.toList_render] at same
          obtain ⟨rfl, -⟩ := List.cons.inj same
          cases firstEnds
  | cons single attributes ih =>
      cases second with
      | nil =>
          rw [step, Attribute.toList_render] at same
          obtain ⟨rfl, -⟩ := List.cons.inj same
          cases secondEnds
      | cons other others =>
          rw [step, step] at same
          obtain ⟨rfl, tails⟩ := Attribute.render_inj same
          obtain ⟨rfl, marks⟩ := ih tails
          exact ⟨rfl, marks⟩

theorem renderTag_inj {first second : ElementName} {attributes others : List Attribute}
    (firstEnds : endsTag c = true) (secondEnds : endsTag d = true)
    (same : (renderTag format first attributes).toList ++ c :: rest =
      (renderTag format second others).toList ++ d :: more) :
    first = second ∧ attributes = others ∧ c = d ∧ rest = more := by
  rw [toList_renderTag, toList_renderTag, List.append_assoc, List.append_assoc] at same
  obtain ⟨firstMark, firstTail, firstEqual, firstIs⟩ := exists_mark firstEnds attributes rest
  obtain ⟨secondMark, secondTail, secondEqual, secondIs⟩ := exists_mark secondEnds others more
  have cut := same
  rw [firstEqual, secondEqual] at cut
  obtain ⟨names, -, -⟩ := append_mark_inj isMark (first.isMark_spelling format)
    (second.isMark_spelling format) firstIs secondIs cut
  obtain rfl := ElementName.spelling_injective format (String.toList_inj.mp names)
  exact ⟨rfl, renderAttributes_inj firstEnds secondEnds (List.append_cancel_left same)⟩

/-- Whether an element holds text; every other element holds elements only. -/
def ElementName.holdsText : ElementName → Bool
  | .value | .baseValue | .heading | .schema | .schemaVersion | .recordFormat | .recordString
  | .interactionType => true
  | _ => false

/-- An element within a line that holds nothing, one text or one element. -/
inductive Inline.Legible : Inline → Prop where
  | empty (name : ElementName) (attributes : List Attribute) :
      Legible (.element name attributes [])
  | text {name : ElementName} (holds : name.holdsText = true) (attributes : List Attribute)
      (value : String) : Legible (.element name attributes [.text value])
  | nested {name : ElementName} (bare : name.holdsText = false) (attributes : List Attribute)
      {content : Inline} (inner : content.Legible) : Legible (.element name attributes [content])

inductive Block.Legible : Block → Prop where
  | line {content : Inline} (inner : content.Legible) : Legible (.line content)
  | element {name : ElementName} (bare : name.holdsText = false) (attributes : List Attribute)
      {children : List Block} (inner : ∀ child ∈ children, child.Legible) :
      Legible (.element name attributes children)

theorem Block.Legible.empty (name : ElementName) (attributes : List Attribute) :
    (Block.empty name attributes).Legible :=
  .line (.empty name attributes)

theorem Block.Legible.text {name : ElementName} (holds : name.holdsText = true)
    (attributes : List Attribute) (value : String) : (Block.text name attributes value).Legible :=
  .line (.text holds attributes value)

theorem startTag_inj {first second : ElementName} {attributes others : List Attribute}
    (same : '<' :: ((renderTag format first attributes).toList ++ '>' :: rest) =
      '<' :: ((renderTag format second others).toList ++ '>' :: more)) :
    first = second ∧ attributes = others ∧ rest = more := by
  obtain ⟨names, values, -, tails⟩ := renderTag_inj rfl rfl (List.cons.inj same).2
  exact ⟨names, values, tails⟩

theorem emptyTag_ne_startTag {first second : ElementName} {attributes others : List Attribute} :
    '<' :: ((renderTag format first attributes).toList ++ '/' :: rest) ≠
      '<' :: ((renderTag format second others).toList ++ '>' :: more) := by
  intro same
  obtain ⟨-, -, marks, -⟩ := renderTag_inj rfl rfl (List.cons.inj same).2
  cases marks

theorem textTag_ne_bareTag {first second : ElementName} {attributes others : List Attribute}
    (holds : first.holdsText = true) (bare : second.holdsText = false) :
    '<' :: ((renderTag format first attributes).toList ++ '>' :: rest) ≠
      '<' :: ((renderTag format second others).toList ++ '>' :: more) := by
  intro same
  obtain ⟨rfl, -, -⟩ := startTag_inj same
  exact Bool.noConfusion (holds.symm.trans bare)

namespace Inline

theorem toList_render_empty (name : ElementName) (attributes : List Attribute) :
    ((Inline.element name attributes []).render format).toList ++ rest =
      '<' :: ((renderTag format name attributes).toList ++ '/' :: '>' :: rest) := by
  simp [Inline.render]

theorem toList_render_single (name : ElementName) (attributes : List Attribute)
    (content : Inline) :
    ((Inline.element name attributes [content]).render format).toList ++ rest =
      '<' :: ((renderTag format name attributes).toList ++
        '>' :: ((content.render format).toList ++
          '<' :: '/' :: ((name.spelling.in format).toList ++ '>' :: rest))) := by
  simp [Inline.render, renderInlines, renderStart, renderEnd]

theorem Legible.exists_less {content : Inline} (legible : content.Legible) (format : Format)
    (rest : List Char) :
    ∃ tail, (content.render format).toList ++ rest = '<' :: tail := by
  cases legible with
  | empty name attributes => exact ⟨_, toList_render_empty name attributes⟩
  | text holds attributes value => exact ⟨_, toList_render_single _ attributes _⟩
  | nested bare attributes inner => exact ⟨_, toList_render_single _ attributes _⟩

/-- A line is not the start tag of a block: nothing, a text or a tag follows its first tag. -/
theorem Legible.render_ne_start {content : Inline} (legible : content.Legible) {name : ElementName}
    (bare : name.holdsText = false) (attributes : List Attribute) :
    (content.render format).toList ++ rest ≠
      '<' :: ((renderTag format name attributes).toList ++ '>' :: '\n' :: more) := by
  cases legible with
  | empty other others =>
      rw [toList_render_empty]
      exact emptyTag_ne_startTag
  | text holds others value =>
      rw [toList_render_single]
      exact textTag_ne_bareTag holds bare
  | nested other others inner =>
      rw [toList_render_single]
      intro same
      obtain ⟨-, -, tails⟩ := startTag_inj same
      obtain ⟨tail, starts⟩ := inner.exists_less format _
      rw [starts] at tails
      cases tails

theorem Legible.render_inj {first second : Inline} (legible : first.Legible)
    (other : second.Legible)
    (same : (first.render format).toList ++ rest = (second.render format).toList ++ more) :
    first = second ∧ rest = more := by
  induction legible generalizing second rest more with
  | empty name attributes =>
      rw [toList_render_empty] at same
      cases other with
      | empty =>
          rw [toList_render_empty] at same
          obtain ⟨rfl, rfl, -, tails⟩ := renderTag_inj rfl rfl (List.cons.inj same).2
          exact ⟨rfl, (List.cons.inj tails).2⟩
      | text | nested =>
          rw [toList_render_single] at same
          exact absurd same emptyTag_ne_startTag
  | text holds attributes value =>
      rw [toList_render_single] at same
      cases other with
      | empty =>
          rw [toList_render_empty] at same
          exact absurd same.symm emptyTag_ne_startTag
      | text =>
          rw [toList_render_single] at same
          obtain ⟨rfl, rfl, tails⟩ := startTag_inj same
          obtain ⟨values, ends⟩ := append_stop_inj (less_not_mem_escape _) (less_not_mem_escape _)
            tails
          obtain rfl := escape_injective (String.toList_inj.mp values)
          simpa using ends
      | nested bare =>
          rw [toList_render_single] at same
          exact absurd same (textTag_ne_bareTag holds bare)
  | nested bare attributes inner ih =>
      rw [toList_render_single] at same
      cases other with
      | empty =>
          rw [toList_render_empty] at same
          exact absurd same.symm emptyTag_ne_startTag
      | text holds =>
          rw [toList_render_single] at same
          exact absurd same.symm (textTag_ne_bareTag holds bare)
      | nested _ _ otherInner =>
          rw [toList_render_single] at same
          obtain ⟨rfl, rfl, tails⟩ := startTag_inj same
          obtain ⟨rfl, ends⟩ := ih otherInner tails
          simpa using ends

end Inline

theorem toList_render_line (content : Inline) (depth : Nat) :
    ((Block.line content).render format depth).toList ++ rest =
      (indent depth).toList ++ ((content.render format).toList ++ '\n' :: rest) := by
  simp [Block.render]

theorem toList_render_element (name : ElementName) (attributes : List Attribute)
    (children : List Block) (depth : Nat) :
    ((Block.element name attributes children).render format depth).toList ++ rest =
      (indent depth).toList ++ '<' :: ((renderTag format name attributes).toList ++
        '>' :: '\n' :: ((renderBlocks format (depth + 1) children).toList ++
          ((indent depth).toList ++
            '<' :: '/' :: ((name.spelling.in format).toList ++ '>' :: '\n' :: rest)))) := by
  simp [Block.render, renderStart, renderEnd]

/-- Below a level, every line starts with a blank more than that level has. -/
theorem toList_indent_succ (depth : Nat) :
    (indent (depth + 1)).toList = (indent depth).toList ++ [' ', ' '] := by
  simp [indent, Nat.mul_add, List.replicate_add]

theorem Block.exists_indent (block : Block) (format : Format) (depth : Nat) :
    ∃ tail, (block.render format depth).toList = (indent depth).toList ++ tail := by
  cases block <;> simp [Block.render]

/-- A block is told from what it is written as, at every level and whatever follows it. -/
def Block.Told (format : Format) (first : Block) : Prop :=
  ∀ (depth : Nat) (second : Block) (rest more : List Char), second.Legible →
    (first.render format depth).toList ++ rest = (second.render format depth).toList ++ more →
    first = second ∧ rest = more

/-- No block starts like the end tag of the element around it. -/
theorem Block.render_ne_end (block : Block) (depth : Nat) :
    (block.render format (depth + 1)).toList ++ rest ≠ (indent depth).toList ++ '<' :: more := by
  intro same
  obtain ⟨tail, starts⟩ := block.exists_indent format (depth + 1)
  rw [starts, toList_indent_succ, List.append_assoc, List.append_assoc] at same
  cases List.append_cancel_left same

/-- The blocks of an element are told together: they end where its end tag stands. -/
theorem renderBlocks_inj {first second : List Block} (told : ∀ block ∈ first, block.Told format)
    (legible : ∀ block ∈ second, block.Legible) (depth : Nat)
    (same : (renderBlocks format (depth + 1) first).toList ++
        ((indent depth).toList ++ '<' :: rest) =
      (renderBlocks format (depth + 1) second).toList ++
        ((indent depth).toList ++ '<' :: more)) :
    first = second ∧ rest = more := by
  -- If one list ended first, the end tag of the one would start like a child of the other.
  induction first generalizing second with
  | nil =>
      cases second with
      | nil => simpa [renderBlocks] using same
      | cons block blocks =>
          simp only [renderBlocks, String.toList_append, String.toList_empty, List.nil_append,
            List.append_assoc] at same
          exact absurd same.symm (block.render_ne_end depth)
  | cons block blocks ih =>
      cases second with
      | nil =>
          simp only [renderBlocks, String.toList_append, String.toList_empty, List.nil_append,
            List.append_assoc] at same
          exact absurd same (block.render_ne_end depth)
      | cons other others =>
          simp only [renderBlocks, String.toList_append, List.append_assoc] at same
          obtain ⟨rfl, tails⟩ := told block List.mem_cons_self _ _ _ _
            (legible other List.mem_cons_self) same
          obtain ⟨rfl, rests⟩ := ih (fun block member => told block (.tail _ member))
            (fun block member => legible block (.tail _ member)) tails
          exact ⟨rfl, rests⟩

theorem Block.Legible.told {first : Block} (legible : first.Legible) : first.Told format := by
  induction legible with
  | line inner =>
      intro depth second rest more other same
      rw [toList_render_line] at same
      cases other with
      | line otherInner =>
          rw [toList_render_line] at same
          obtain ⟨rfl, tails⟩ := inner.render_inj otherInner (List.append_cancel_left same)
          exact ⟨rfl, (List.cons.inj tails).2⟩
      | element bare attributes =>
          rw [toList_render_element] at same
          exact absurd (List.append_cancel_left same) (inner.render_ne_start bare attributes)
  | element bare attributes inner ih =>
      intro depth second rest more other same
      rw [toList_render_element] at same
      cases other with
      | line otherInner =>
          rw [toList_render_line] at same
          exact absurd (List.append_cancel_left same).symm
            (otherInner.render_ne_start bare attributes)
      | element otherBare others otherInner =>
          rw [toList_render_element] at same
          obtain ⟨rfl, rfl, tails⟩ := startTag_inj (List.append_cancel_left same)
          obtain ⟨rfl, ends⟩ := renderBlocks_inj ih otherInner depth (List.cons.inj tails).2
          simpa using ends

theorem renderBlocks_append (format : Format) (depth : Nat) (first second : List Block) :
    renderBlocks format depth (first ++ second) =
      renderBlocks format depth first ++ renderBlocks format depth second := by
  induction first with
  | nil => simp [renderBlocks]
  | cons block rest ih => rw [List.cons_append, renderBlocks, renderBlocks, ih, String.append_assoc]

/-- Legible blocks below the same tag are the same if they are written alike. -/
theorem renderBlocks_injective {first second : List Block}
    (firstLegible : ∀ block ∈ first, block.Legible)
    (secondLegible : ∀ block ∈ second, block.Legible) (depth : Nat)
    (same : renderBlocks format (depth + 1) first = renderBlocks format (depth + 1) second) :
    first = second := by
  have ended := congrArg (fun text => text.toList ++ ((indent depth).toList ++ '<' :: [])) same
  exact (renderBlocks_inj (fun block member => (firstLegible block member).told) secondLegible
    depth ended).1

/-- A legible document is told from what it is written as. -/
theorem renderDocument_inj {first second : Block} (firstLegible : first.Legible)
    (secondLegible : second.Legible)
    (same : renderDocument format first = renderDocument format second) : first = second := by
  have letters := congrArg String.toList same
  rw [renderDocument, renderDocument, String.toList_append, String.toList_append] at letters
  have roots := congrArg (· ++ []) (List.append_cancel_left letters)
  exact (firstLegible.told 0 second [] [] secondLegible roots).1

end Markup

end QuizPackage
