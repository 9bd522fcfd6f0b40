import QuizPackage.Proofs.Identifier.Registry
import QuizPackage.Proofs.Markup.Reading

/-!
# Markup in another spelling

A written text is cut into the names in its tags and all other characters, and a table of names
says how to spell it anew: each name is replaced by its entry, and nothing else changes. A legible
tree is cut into the same signs in either format, where a sign is a name of the vocabulary or a
character. So the text of a legible tree in one format is its text in the other spelled anew.
-/

namespace QuizPackage

namespace Markup

variable {format : Format} {c : Char} {rest : List Char}

/-- Where a text is cut: between tags, within a tag after some letters of a name, or within the
quotes of a value. -/
inductive Spot where
  | content
  | tag (name : List Char)
  | quoted

inductive Token where
  | name (spelling : String)
  | char (c : Char)
deriving DecidableEq

def Token.letters : Token → List Char
  | .name spelling => spelling.toList
  | .char c => [c]

def endsName (c : Char) : Bool :=
  isMark c || c == '"'

def nameTokens : List Char → List Token
  | [] => []
  | first :: rest => [.name (String.ofList (first :: rest))]

def Spot.afterMark (c : Char) : Spot :=
  if c = '>' then .content else if c = '"' then .quoted else .tag []

def tokensFrom : Spot → List Char → List Token
  | .content, [] => []
  | .content, c :: rest => .char c :: tokensFrom (if c = '<' then .tag [] else .content) rest
  | .tag name, [] => nameTokens name
  | .tag name, c :: rest =>
      if endsName c then nameTokens name ++ .char c :: tokensFrom (.afterMark c) rest
      else tokensFrom (.tag (name ++ [c])) rest
  | .quoted, [] => []
  | .quoted, c :: rest => .char c :: tokensFrom (if c = '"' then .tag [] else .quoted) rest

/-- The names in the tags of a text and all its other characters, in their order. -/
def tokens (text : String) : List Token :=
  tokensFrom .content text.toList

def Spot.pending : Spot → List Char
  | .tag name => name
  | .content | .quoted => []

@[simp]
theorem Spot.pending_content : Spot.content.pending = [] := rfl

@[simp]
theorem Spot.pending_tag (name : List Char) : (Spot.tag name).pending = name := rfl

@[simp]
theorem Spot.pending_quoted : Spot.quoted.pending = [] := rfl

@[simp]
theorem Spot.pending_afterMark (c : Char) : (Spot.afterMark c).pending = [] := by
  unfold Spot.afterMark
  split
  · rfl
  · split <;> rfl

@[simp]
theorem nameTokens_letters (name : List Char) : (nameTokens name).flatMap Token.letters = name := by
  cases name <;> simp [nameTokens, Token.letters]

theorem tokensFrom_letters (spot : Spot) (text : List Char) :
    (tokensFrom spot text).flatMap Token.letters = spot.pending ++ text := by
  induction text generalizing spot with
  | nil => cases spot <;> simp [tokensFrom]
  | cons c rest ih =>
      cases spot with
      | content =>
          by_cases opens : c = '<' <;> simp [tokensFrom, Token.letters, ih, opens]
      | tag name =>
          by_cases ends : endsName c = true <;> simp [tokensFrom, Token.letters, ih, ends]
      | quoted =>
          by_cases closes : c = '"' <;> simp [tokensFrom, Token.letters, ih, closes]

/-- Nothing of a text is lost where it is cut. -/
theorem tokens_letters (text : String) : (tokens text).flatMap Token.letters = text.toList :=
  tokensFrom_letters .content text.toList

/-- A token in another spelling, if a table has one for it. -/
def Token.respelled? (table : List (String × String)) : Token → Option Token
  | .name spelling => (table.lookup spelling).map .name
  | .char c => some (.char c)

/-- A text with each name in its tags replaced by its entry in a table, if all of them have one. -/
def respelled? (table : List (String × String)) (text : String) : Option String :=
  ((tokens text).mapM (Token.respelled? table)).map fun changed =>
    String.ofList (changed.flatMap Token.letters)

def elementNames : List ElementName :=
  (List.range 63).map ElementName.ofNat

def attributeNames : List AttributeName :=
  (List.range 36).map AttributeName.ofNat

def Spelling.entry (spelling : Spelling) : String × String :=
  (spelling.qti21, spelling.qti30)

/-- The name of every element and attribute, as one format spells it and as the other does. -/
def spellings : List (String × String) :=
  (elementNames.map fun name => name.spelling.entry) ++
    attributeNames.map fun name => name.spelling.entry

theorem ElementName.mem_elementNames (name : ElementName) : name ∈ elementNames :=
  List.mem_map.mpr
    ⟨name.ctorIdx, List.mem_range.mpr name.ctorIdx_lt, ElementName.ofNat_ctorIdx name⟩

theorem AttributeName.mem_attributeNames (name : AttributeName) : name ∈ attributeNames :=
  List.mem_map.mpr
    ⟨name.ctorIdx, List.mem_range.mpr name.ctorIdx_lt, AttributeName.ofNat_ctorIdx name⟩

/-- No element is spelled like an attribute. -/
theorem elementNames_ne_attributeNames (format : Format) :
    ∀ name ∈ elementNames, ∀ other ∈ attributeNames,
      name.spelling.in format ≠ other.spelling.in format := by
  cases format <;> decide +kernel

theorem spelled_nodup (format : Format) :
    ((elementNames.map fun name => name.spelling.in format) ++
      attributeNames.map fun name => name.spelling.in format).Nodup := by
  have elements : elementNames.Nodup := by decide +kernel
  have attributes : attributeNames.Nodup := by decide +kernel
  refine List.nodup_append.mpr ⟨elements.map (ElementName.spelling_injective format),
    attributes.map (AttributeName.spelling_injective format), ?_⟩
  refine List.forall_mem_map.mpr fun name member => List.forall_mem_map.mpr fun other listed => ?_
  exact elementNames_ne_attributeNames format name member other listed

/-- No two names are spelled alike in either format. -/
theorem spellings_distinct :
    (spellings.map Prod.fst).Nodup ∧ (spellings.map Prod.snd).Nodup := by
  rw [spellings, List.map_append, List.map_append, List.map_map, List.map_map, List.map_map,
    List.map_map]
  exact ⟨spelled_nodup .qti21, spelled_nodup .qti30⟩

theorem ElementName.lookup_spelling (name : ElementName) :
    spellings.lookup (name.spelling.in .qti21) = some (name.spelling.in .qti30) :=
  (lookup_eq_some_iff_mem spellings_distinct.1).mpr
    (List.mem_append_left _ (List.mem_map.mpr ⟨name, name.mem_elementNames, rfl⟩))

theorem AttributeName.lookup_spelling (name : AttributeName) :
    spellings.lookup (name.spelling.in .qti21) = some (name.spelling.in .qti30) :=
  (lookup_eq_some_iff_mem spellings_distinct.1).mpr
    (List.mem_append_right _ (List.mem_map.mpr ⟨name, name.mem_attributeNames, rfl⟩))

/-- A name of the vocabulary or another character. -/
inductive Sign where
  | elementName (name : ElementName)
  | attributeName (name : AttributeName)
  | char (c : Char)

def Sign.token (format : Format) : Sign → Token
  | .elementName name => .name (name.spelling.in format)
  | .attributeName name => .name (name.spelling.in format)
  | .char c => .char c

theorem Sign.respelled?_token (sign : Sign) :
    (sign.token .qti21).respelled? spellings = some (sign.token .qti30) := by
  cases sign with
  | elementName name => simp [Sign.token, Token.respelled?, name.lookup_spelling]
  | attributeName name => simp [Sign.token, Token.respelled?, name.lookup_spelling]
  | char c => rfl

/-- A text is cut into signs wherever it stands between tags. -/
def CutsInto (format : Format) (text : String) (signs : List Sign) : Prop :=
  ∀ rest, tokensFrom .content (text.toList ++ rest) =
    signs.map (Sign.token format) ++ tokensFrom .content rest

theorem CutsInto.tokens {text : String} {signs : List Sign} (cuts : CutsInto format text signs) :
    tokens text = signs.map (Sign.token format) := by
  simpa [tokensFrom, Markup.tokens] using cuts []

/-- Texts that are cut into the same signs are each other's text in another spelling. -/
theorem respelled?_of_cuts {text other : String} {signs : List Sign}
    (cuts : CutsInto .qti21 text signs) (otherCuts : CutsInto .qti30 other signs) :
    respelled? spellings text = some other := by
  have changed : (signs.map (Sign.token .qti21)).mapM (Token.respelled? spellings) =
      some (signs.map (Sign.token .qti30)) := by
    clear cuts otherCuts
    induction signs with
    | nil => rfl
    | cons sign rest ih => simp [sign.respelled?_token, ih]
  have kept := tokens_letters other
  rw [otherCuts.tokens] at kept
  rw [respelled?, cuts.tokens, changed, Option.map_some, kept, String.ofList_toList]

theorem endsName_of_isNameChar (named : isNameChar c = true) : endsName c = false := by
  have quote : c ≠ '"' := by
    rintro rfl
    exact absurd named (by decide)
  simp [endsName, isMark_of_isNameChar named, quote]

/-- The letters of a name are held back until a mark ends it. -/
theorem tokensFrom_name {letters : List Char}
    (named : ∀ letter ∈ letters, isNameChar letter = true) (read : List Char) :
    tokensFrom (.tag read) (letters ++ rest) = tokensFrom (.tag (read ++ letters)) rest := by
  induction letters generalizing read with
  | nil => simp
  | cons letter others ih =>
      have plain := endsName_of_isNameChar (named letter List.mem_cons_self)
      rw [List.cons_append, tokensFrom, if_neg (by simp [plain]),
        ih fun other member => named other (.tail _ member), List.append_assoc,
        List.singleton_append]

theorem tokensFrom_mark (ends : endsName c = true) (name : List Char) :
    tokensFrom (.tag name) (c :: rest) =
      nameTokens name ++ .char c :: tokensFrom (.afterMark c) rest := by
  rw [tokensFrom, if_pos ends]

theorem tokensFrom_quoted {letters : List Char} (plain : '"' ∉ letters) :
    tokensFrom .quoted (letters ++ rest) = letters.map .char ++ tokensFrom .quoted rest := by
  induction letters with
  | nil => rfl
  | cons letter others ih =>
      rw [List.mem_cons, not_or] at plain
      rw [List.cons_append, tokensFrom, if_neg (Ne.symm plain.1), ih plain.2]
      rfl

theorem tokensFrom_content {letters : List Char} (plain : '<' ∉ letters) :
    tokensFrom .content (letters ++ rest) = letters.map .char ++ tokensFrom .content rest := by
  induction letters with
  | nil => rfl
  | cons letter others ih =>
      rw [List.mem_cons, not_or] at plain
      rw [List.cons_append, tokensFrom, if_neg (Ne.symm plain.1), ih plain.2]
      rfl

theorem nameTokens_of_isName {letters : List Char} (named : isName letters = true) :
    nameTokens letters = [.name (String.ofList letters)] := by
  cases letters with
  | nil => cases named
  | cons first others => rfl

def Attribute.signs (single : Attribute) : List Sign :=
  .char ' ' :: .attributeName single.name :: .char '=' :: .char '"' ::
    ((escapeAttribute single.value).toList.map .char ++ [.char '"'])

/-- The signs of a start tag. -/
def tagSigns (name : ElementName) (attributes : List Attribute) : List Sign :=
  .elementName name :: attributes.flatMap Attribute.signs

/-- A name is cut off by the mark after it: by the blank before an attribute or by the end of the
tag. -/
theorem tokensFrom_attributes (ends : endsTag c = true) (attributes : List Attribute)
    (name : List Char) :
    tokensFrom (.tag name) (renderAttributes format attributes ++ c :: rest) =
      nameTokens name ++ (attributes.flatMap Attribute.signs).map (Sign.token format) ++
        .char c :: tokensFrom (.afterMark c) rest := by
  have mark : endsName c = true := by
    rw [endsName, isMark_of_endsTag ends, Bool.true_or]
  induction attributes generalizing name with
  | nil => simp [renderAttributes, tokensFrom_mark mark]
  | cons first others ih =>
      have split : renderAttributes format (first :: others) ++ c :: rest =
          ' ' :: ((first.name.spelling.in format).toList ++ '=' :: '"' ::
            ((escapeAttribute first.value).toList ++ '"' ::
              (renderAttributes format others ++ c :: rest))) := by
        simp [renderAttributes, Attribute.toList_render]
      have named := first.name.isName_spelling format
      rw [split, tokensFrom_mark (by decide), Spot.afterMark, if_neg (by decide),
        if_neg (by decide), tokensFrom_name (isNameChar_of_isName named), List.nil_append,
        tokensFrom_mark (by decide), Spot.afterMark, if_neg (by decide), if_neg (by decide),
        tokensFrom_mark (by decide), Spot.afterMark, if_neg (by decide), if_pos rfl,
        tokensFrom_quoted (quote_not_mem_escapeAttribute _), tokensFrom, if_pos rfl, ih,
        nameTokens_of_isName named]
      simp [Attribute.signs, Sign.token, nameTokens, Function.comp_def]

theorem tokensFrom_tag (ends : endsTag c = true) (name : ElementName)
    (attributes : List Attribute) :
    tokensFrom .content ('<' :: ((renderTag format name attributes).toList ++ c :: rest)) =
      .char '<' :: (tagSigns name attributes).map (Sign.token format) ++
        .char c :: tokensFrom (.afterMark c) rest := by
  have named := name.isName_spelling format
  rw [tokensFrom, if_pos rfl, toList_renderTag, List.append_assoc,
    tokensFrom_name (isNameChar_of_isName named), List.nil_append, tokensFrom_attributes ends,
    nameTokens_of_isName named]
  simp [tagSigns, Sign.token]

theorem tokensFrom_endTag (name : ElementName) :
    tokensFrom .content ('<' :: '/' :: ((name.spelling.in format).toList ++ '>' :: rest)) =
      [Sign.char '<', .char '/', .elementName name, .char '>'].map (Sign.token format) ++
        tokensFrom .content rest := by
  have named := name.isName_spelling format
  rw [tokensFrom, if_pos rfl, tokensFrom_mark (by decide), Spot.afterMark, if_neg (by decide),
    if_neg (by decide), tokensFrom_name (isNameChar_of_isName named), List.nil_append,
    tokensFrom_mark (by decide), Spot.afterMark, if_pos rfl, nameTokens_of_isName named]
  simp [nameTokens, Sign.token]

theorem Inline.Legible.cuts {content : Inline} (legible : content.Legible) :
    ∃ signs, ∀ format, CutsInto format (content.render format) signs := by
  induction legible with
  | empty name attributes =>
      refine ⟨.char '<' :: tagSigns name attributes ++ [.char '/', .char '>'],
        fun format rest => ?_⟩
      rw [toList_render_empty, tokensFrom_tag (by decide), Spot.afterMark, if_neg (by decide),
        if_neg (by decide), tokensFrom_mark (by decide), Spot.afterMark, if_pos rfl]
      simp [nameTokens, Sign.token]
  | @text name holds attributes value =>
      refine ⟨.char '<' :: tagSigns name attributes ++ .char '>' ::
        (escape value).toList.map .char ++ [.char '<', .char '/', .elementName name, .char '>'],
        fun format rest => ?_⟩
      have written : ((Inline.text value).render format) = escape value := by rw [Inline.render]
      rw [toList_render_single, tokensFrom_tag (by decide), Spot.afterMark, if_pos rfl, written,
        tokensFrom_content (less_not_mem_escape value), tokensFrom_endTag]
      simp [Sign.token, Function.comp_def]
  | @nested name bare attributes content inner ih =>
      obtain ⟨signs, cuts⟩ := ih
      refine ⟨.char '<' :: tagSigns name attributes ++ .char '>' ::
        signs ++ [.char '<', .char '/', .elementName name, .char '>'], fun format rest => ?_⟩
      rw [toList_render_single, tokensFrom_tag (by decide), Spot.afterMark, if_pos rfl,
        cuts format, tokensFrom_endTag]
      simp [Sign.token]

theorem less_not_mem_indent (depth : Nat) : '<' ∉ (indent depth).toList := by
  simp [indent]

theorem exists_cuts_blocks {blocks : List Block} {depth : Nat}
    (each : ∀ block ∈ blocks, ∃ signs, ∀ format, CutsInto format (block.render format depth) signs) :
    ∃ signs, ∀ format, CutsInto format (renderBlocks format depth blocks) signs := by
  induction blocks with
  | nil => exact ⟨[], fun format rest => by simp [renderBlocks]⟩
  | cons first others ih =>
      obtain ⟨firstSigns, firstCuts⟩ := each first List.mem_cons_self
      obtain ⟨otherSigns, otherCuts⟩ := ih fun block member => each block (.tail _ member)
      refine ⟨firstSigns ++ otherSigns, fun format rest => ?_⟩
      rw [renderBlocks, String.toList_append, List.append_assoc, firstCuts format,
        otherCuts format, List.map_append, List.append_assoc]

/-- A legible block is cut into the same signs in either format. -/
theorem Block.Legible.cuts {block : Block} (legible : block.Legible) (depth : Nat) :
    ∃ signs, ∀ format, CutsInto format (block.render format depth) signs := by
  induction legible generalizing depth with
  | line inner =>
      obtain ⟨signs, cuts⟩ := inner.cuts
      refine ⟨(indent depth).toList.map .char ++ signs ++ [.char '\n'], fun format rest => ?_⟩
      rw [toList_render_line, tokensFrom_content (less_not_mem_indent depth), cuts format,
        tokensFrom, if_neg (by decide)]
      simp [Sign.token, Function.comp_def]
  | @element name bare attributes children inner ih =>
      obtain ⟨signs, cuts⟩ := exists_cuts_blocks fun child member => ih child member (depth + 1)
      refine ⟨(indent depth).toList.map .char ++ .char '<' :: tagSigns name attributes ++
        .char '>' :: .char '\n' :: signs ++ (indent depth).toList.map .char ++
        [.char '<', .char '/', .elementName name, .char '>', .char '\n'], fun format rest => ?_⟩
      rw [toList_render_element, tokensFrom_content (less_not_mem_indent depth),
        tokensFrom_tag (by decide), Spot.afterMark, if_pos rfl, tokensFrom, if_neg (by decide),
        cuts format, tokensFrom_content (less_not_mem_indent depth), tokensFrom_endTag,
        tokensFrom, if_neg (by decide)]
      simp [Sign.token, Function.comp_def]

/-- The text of legible blocks in one format is their text in the other, spelled anew. -/
theorem respelled?_renderBlocks {blocks : List Block} (legible : ∀ block ∈ blocks, block.Legible)
    (depth : Nat) :
    respelled? spellings (renderBlocks .qti21 depth blocks) =
      some (renderBlocks .qti30 depth blocks) := by
  obtain ⟨signs, cuts⟩ := exists_cuts_blocks fun block member => (legible block member).cuts depth
  exact respelled?_of_cuts (cuts .qti21) (cuts .qti30)

end Markup

end QuizPackage
