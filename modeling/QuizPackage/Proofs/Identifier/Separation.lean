import QuizPackage.Proofs.Identifier.History
import QuizPackage.Proofs.Identifier.Sanitizing

/-!
# Suffixes that keep registries apart

An identifier is a base, an underscore and the suffix of its registry, and underscores stand in
bases and in suffixes as well. So registries with different suffixes can issue the same identifier:
exactly if one suffix ends in the other, after an underscore and a text that a base could end in.
-/

namespace QuizPackage

/-- A suffix comes after a whole text and an underscore in another. -/
def IsTailOf (suffix other : String) : Prop :=
  ∃ front, other = front ++ "_" ++ suffix ∧ EndsWhole front

/-- Neither of two suffixes is a tail of the other. -/
def SuffixesPart (first second : String) : Prop :=
  ¬IsTailOf first second ∧ ¬IsTailOf second first

/-- No identifier that one registry has issued was issued by the other. -/
def Registry.ApartFrom (registry other : Registry) : Prop :=
  ∀ identifier, registry.contains identifier = true → other.contains identifier = false

def Registry.WholeBases (registry : Registry) : Prop :=
  ∀ base ∈ registry.bases, EndsWhole base

variable {registry before after other : Registry} {permitted : Entity → Prop}
  {base suffix ending first second front : String} {strict otherStrict : Bool}
  {identifier : Identifier}

theorem Registry.ApartFrom.not_shared (apart : registry.ApartFrom other)
    (issued : registry.contains identifier = true) : other.contains identifier ≠ true :=
  Bool.eq_false_iff.mp (apart identifier issued)

theorem Registry.nextBase_endsWhole (registry : Registry) (kind : IdentifierKind)
    (hint : Option String) : EndsWhole (registry.nextBase kind hint) :=
  (endsWhole_baseFor kind hint).firstFree registry.bases

/-- A call takes at most one base, the next one for its kind and its hint. -/
theorem Registry.answer_bases (registry : Registry) (request : Request) :
    (registry.answer request).2.bases = registry.bases ∨
      ∃ kind hint,
        (registry.answer request).2.bases = registry.nextBase kind hint :: registry.bases := by
  cases request with
  | issue kind hint => exact .inr ⟨kind, hint, rfl⟩
  | issueFor entity kind hint =>
      simp only [Registry.answer]
      rcases issueFor_cases entity kind hint registry with
        ⟨_, _, result⟩ | ⟨_, _, _, _, result⟩ | ⟨_, _, result⟩
      · exact .inl (by rw [result])
      · exact .inl (by rw [result])
      · rw [result]
        exact .inr ⟨kind, hint, rfl⟩
  | issueVariable owner name => exact .inl rfl

theorem Registry.WholeBases.answer (whole : registry.WholeBases) (request : Request) :
    (registry.answer request).2.WholeBases := by
  unfold Registry.WholeBases
  rcases registry.answer_bases request with same | ⟨kind, hint, added⟩
  · rwa [same]
  · rw [added]
    exact List.forall_mem_cons.mpr ⟨registry.nextBase_endsWhole kind hint, whole⟩

theorem Registry.Reaches.wholeBases (reaches : before.Reaches permitted after)
    (whole : before.WholeBases) : after.WholeBases := by
  induction reaches with
  | refl => exact whole
  | tail _ call ih =>
      obtain ⟨request, _, rfl⟩ := call
      exact ih.answer request

theorem Registry.empty_wholeBases (suffix : String) (strict : Bool) :
    (Registry.empty suffix strict).WholeBases := by
  simp [Registry.WholeBases, Registry.empty]

theorem EndsWhole.of_append {text : String} (whole : EndsWhole (text ++ front))
    (filled : front ≠ "") : EndsWhole front := by
  obtain ⟨last, ending, plain⟩ := whole
  have letters : front.toList ≠ [] := by simpa using filled
  refine ⟨last, ?_, plain⟩
  rwa [String.toList_append, List.getLast?_append_of_ne_nil _ letters] at ending

/-- If a text is cut at two lines, what comes after the later one is a tail of what comes after the
earlier one. -/
theorem isTailOf_of_longer {otherBase : String} {between : List Char}
    (otherWhole : EndsWhole otherBase) (differ : suffix ≠ ending)
    (longer : otherBase.toList = base.toList ++ between)
    (rest : '_' :: suffix.toList = between ++ '_' :: ending.toList) : IsTailOf ending suffix := by
  rcases List.cons_eq_append_iff.mp rest with ⟨_, same⟩ | ⟨front, rfl, remains⟩
  · exact (differ (String.toList_inj.mp (List.cons.inj same).2.symm)).elim
  · have parts : otherBase = base ++ "_" ++ String.ofList front := by
      rw [← String.toList_inj, longer]
      simp
    rw [parts] at otherWhole
    have filled : String.ofList front ≠ "" := by
      intro nothing
      rw [nothing, String.append_empty] at otherWhole
      exact not_endsWhole_line base otherWhole
    refine ⟨String.ofList front, ?_, otherWhole.of_append filled⟩
    rw [← String.toList_inj, remains]
    simp

theorem isTailOf_of_append_eq {otherBase : String} (whole : EndsWhole base)
    (otherWhole : EndsWhole otherBase) (differ : suffix ≠ ending)
    (equal : base ++ "_" ++ suffix = otherBase ++ "_" ++ ending) :
    IsTailOf suffix ending ∨ IsTailOf ending suffix := by
  have cut : base.toList ++ '_' :: suffix.toList = otherBase.toList ++ '_' :: ending.toList := by
    simpa using congrArg String.toList equal
  rcases List.append_eq_append_iff.mp cut with ⟨between, longer, rest⟩ | ⟨between, longer, rest⟩
  · exact .inr (isTailOf_of_longer otherWhole differ longer rest)
  · exact .inl (isTailOf_of_longer whole differ.symm longer rest)

theorem IsTailOf.length_lt (isTail : IsTailOf suffix ending) : suffix.length < ending.length := by
  obtain ⟨front, rfl, _⟩ := isTail
  have line : "_".length = 1 := rfl
  rw [String.length_append, String.length_append, line]
  omega

/-- Suffixes of one length part. -/
theorem suffixesPart_of_length_eq (even : suffix.length = ending.length) :
    SuffixesPart suffix ending :=
  ⟨fun isTail => Nat.ne_of_lt isTail.length_lt even,
    fun isTail => Nat.ne_of_lt isTail.length_lt even.symm⟩

theorem Registry.identifier_of_suffix (registry : Registry) (filled : registry.suffix ≠ "")
    (base : String) :
    registry.identifier base = ⟨base ++ "_" ++ registry.suffix⟩ := by
  simp [Registry.identifier, filled]

theorem Registry.identifier_empty (named : sanitize suffix ≠ "") (strict : Bool) (base : String) :
    (Registry.empty suffix strict).identifier base = ⟨base ++ "_" ++ sanitize suffix⟩ :=
  (Registry.empty suffix strict).identifier_of_suffix named base

/-- Registries that have issued an identifier in common have a suffix that ends in the other. -/
theorem Registry.Sound.isTailOf_of_shared (sound : registry.Sound) (otherSound : other.Sound)
    (whole : registry.WholeBases) (otherWhole : other.WholeBases)
    (filled : registry.suffix ≠ "") (otherFilled : other.suffix ≠ "")
    (differ : registry.suffix ≠ other.suffix) (issued : registry.contains identifier = true)
    (shared : other.contains identifier = true) :
    IsTailOf registry.suffix other.suffix ∨ IsTailOf other.suffix registry.suffix := by
  obtain ⟨base, taken, rfl⟩ := sound.exists_base issued
  obtain ⟨otherBase, otherTaken, equal⟩ := otherSound.exists_base shared
  rw [registry.identifier_of_suffix filled, other.identifier_of_suffix otherFilled] at equal
  exact isTailOf_of_append_eq (whole base taken) (otherWhole otherBase otherTaken) differ
    (Identifier.mk.inj equal)

/-- Registries with two suffixes stay apart, whatever is asked of them, unless one suffix ends in
the other. -/
theorem Registry.Reaches.apartFrom (named : sanitize first ≠ "") (otherNamed : sanitize second ≠ "")
    (differ : sanitize first ≠ sanitize second)
    (reaches : (Registry.empty first strict).Reaches permitted registry)
    (otherReaches : (Registry.empty second otherStrict).Reaches permitted other)
    (part : SuffixesPart (sanitize first) (sanitize second)) : registry.ApartFrom other := by
  intro identifier issued
  by_contra shared
  rw [Bool.not_eq_false] at shared
  have suffix : registry.suffix = sanitize first := reaches.grows.suffix
  have otherSuffix : other.suffix = sanitize second := otherReaches.grows.suffix
  rw [← suffix, ← otherSuffix] at differ part
  have tail := (reaches.sound (Registry.empty_sound first strict)).isTailOf_of_shared
    (otherReaches.sound (Registry.empty_sound second otherStrict))
    (reaches.wholeBases (Registry.empty_wholeBases first strict))
    (otherReaches.wholeBases (Registry.empty_wholeBases second otherStrict))
    (suffix ▸ named) (otherSuffix ▸ otherNamed) differ issued shared
  exact tail.elim part.1 part.2

/-- A hint that a suffix completes to an identifier of the suffix that has the text before it. -/
def hintBefore (front : String) : String :=
  "x_" ++ front

theorem length_hintBefore (front : String) : (hintBefore front).length = 2 + front.length := by
  rw [hintBefore, String.length_append]
  rfl

theorem isSanitized_hintBefore (sanitized : IsSanitized ending) (filled : suffix ≠ "")
    (parts : ending = front ++ "_" ++ suffix) (whole : EndsWhole front) :
    IsSanitized (hintBefore front) where
  collapsed := by
    have collapsed := sanitized.collapsed
    rw [parts, String.append_assoc, String.toList_append] at collapsed
    rw [hintBefore, String.toList_append]
    exact .cons rfl (by decide) (.cons rfl (by decide) (collapsed.of_append.anywhere _))
  short := by
    have short := sanitized.short
    have more : suffix.length ≠ 0 := fun nothing => filled (String.length_eq_zero_iff.mp nothing)
    rw [parts, String.length_append, String.length_append, show "_".length = 1 from rfl] at short
    rw [length_hintBefore]
    omega
  whole := whole.append _

theorem isSanitized_x : IsSanitized "x" :=
  ⟨.cons rfl (by decide) (.nil _), by decide, ⟨'x', rfl, rfl⟩⟩

theorem baseFor_hintBefore (sanitized : IsSanitized (hintBefore front)) (kind : IdentifierKind) :
    baseFor kind (some (hintBefore front)) = hintBefore front :=
  sanitized.baseFor_eq kind ⟨'x', by simp [hintBefore, String.toList_append], rfl⟩

theorem baseFor_x (kind : IdentifierKind) : baseFor kind (some "x") = "x" :=
  isSanitized_x.baseFor_eq kind ⟨'x', rfl, rfl⟩

/-- The one suffix completes the hint as the other completes the letter. -/
theorem hintBefore_completed (parts : ending = front ++ "_" ++ suffix) :
    hintBefore front ++ "_" ++ suffix = "x" ++ "_" ++ ending := by
  rw [parts, hintBefore, ← String.append_assoc, ← String.append_assoc]
  rfl

theorem contains_first_issued (named : sanitize suffix ≠ "") (strict : Bool)
    (kind : IdentifierKind) (hint : Option String) :
    ((Registry.empty suffix strict).serve [.issue kind hint]).2.contains
      ⟨baseFor kind hint ++ "_" ++ sanitize suffix⟩ = true := by
  have fresh : (Registry.empty suffix strict).nextBase kind hint = baseFor kind hint :=
    firstFree_of_free List.not_mem_nil
  rw [Registry.contains_iff, Registry.serve, Registry.answer, Registry.issue_eq, fresh,
    Registry.identifier_empty named]
  exact List.mem_cons_self

/-- Registries with suffixes of which one ends in the other issue an identifier in common when they
are asked for it. -/
theorem calls_share_of_isTailOf (named : sanitize first ≠ "") (otherNamed : sanitize second ≠ "")
    (isTail : IsTailOf (sanitize first) (sanitize second)) (strict otherStrict : Bool) :
    ∃ request other identifier,
      ((Registry.empty first strict).serve [request]).2.contains identifier = true ∧
      ((Registry.empty second otherStrict).serve [other]).2.contains identifier = true := by
  obtain ⟨front, parts, whole⟩ := isTail
  have sanitized := isSanitized_hintBefore (isSanitized_sanitize otherNamed) named parts whole
  have issued := contains_first_issued named strict .item (some (hintBefore front))
  have again := contains_first_issued otherNamed otherStrict .item (some "x")
  rw [baseFor_hintBefore sanitized, hintBefore_completed parts] at issued
  rw [baseFor_x] at again
  exact ⟨_, _, _, issued, again⟩

end QuizPackage
