import QuizPackage.Command.Expansion
import QuizPackage.Host.Memory
import Mathlib.Data.List.TakeWhile
import Mathlib.Logic.Relation
import Mathlib.Order.WellFounded

/-!
# When an expansion ends

The rounds of an expansion search a text from its start again and again. They do the same as reading
it once: a reference is replaced where it closes, and its value is read in its place, behind what
stands before the reference. What is read already never changes, unless a later brace closes a
reference in it. So the rounds go on for ever only if the values do not come to an end: one
reference is met while the value of another is read, and so on without end.
-/

namespace QuizPackage.Command

/-- A reference in a text, with what stands before it. -/
structure Reference where
  before : List Char
  name : List Char

/-- Somewhere in a text a reference opens, and later it is closed. -/
def HoldsReference (text : List Char) : Prop :=
  ∃ before inside after, text = before ++ '$' :: '{' :: (inside ++ '}' :: after)

/-- The value of a variable, which is empty if the variable is not set. -/
def valueOf (value? : String → Option String) (name : List Char) : List Char :=
  ((value? (String.ofList name)).getD "").toList

/-- One round leads from a text to another: the value of its first reference stands in its place. -/
inductive Round (value? : String → Option String) : List Char → List Char → Prop
  | replaced {text before name after : List Char}
      (found : firstReference? text = some (before, name, after)) :
      Round value? text (before ++ (valueOf value? name ++ after))

/-- After so many rounds an expansion has come to its end: the text holds no reference, and no
further round changes it. -/
def Settles (value? : String → Option String) (text : List Char) (rounds : Nat)
    (out : List Char) : Prop :=
  ¬HoldsReference out ∧ ∀ more, rounds ≤ more → expandWithin (m := Id) value? more text = some out

/-- A text is read to its end behind what is read already, and both become one text without
references. -/
inductive Reads (value? : String → Option String) : List Char → List Char → List Char → Prop
  | done (front : List Char) : Reads value? front [] front
  | next {front rest out : List Char} {c : Char} (unclosed : firstReference? (front ++ [c]) = none)
      (later : Reads value? (front ++ [c]) rest out) : Reads value? front (c :: rest) out
  | replaced {front rest before name middle out : List Char} {c : Char}
      (closed : firstReference? (front ++ [c]) = some (before, name, []))
      (value : Reads value? before (valueOf value? name) middle)
      (later : Reads value? middle rest out) : Reads value? front (c :: rest) out

/-- A reference closes in a text that is read behind what is read already. All that close before it
are replaced by then. -/
inductive Meets (value? : String → Option String) : List Char → List Char → Reference → Prop
  | here {front rest before name : List Char} {c : Char}
      (closed : firstReference? (front ++ [c]) = some (before, name, [])) :
      Meets value? front (c :: rest) ⟨before, name⟩
  | next {front rest : List Char} {c : Char} {reference : Reference}
      (unclosed : firstReference? (front ++ [c]) = none)
      (later : Meets value? (front ++ [c]) rest reference) :
      Meets value? front (c :: rest) reference
  | past {front rest before name middle : List Char} {c : Char} {reference : Reference}
      (closed : firstReference? (front ++ [c]) = some (before, name, []))
      (value : Reads value? before (valueOf value? name) middle)
      (later : Meets value? middle rest reference) : Meets value? front (c :: rest) reference

/-- While the value of the first reference is read in its place, the second is met. -/
def Brings (value? : String → Option String) (second first : Reference) : Prop :=
  Meets value? first.before (valueOf value? first.name) second

variable {value? : String → Option String} {c : Char} {reference : Reference}
  {text front rest before name after out next : List Char}

theorem firstReference?_eq (found : firstReference? text = some (before, name, after)) :
    text = before ++ '$' :: '{' :: (name ++ '}' :: after) := by
  fun_induction firstReference? text generalizing before with
  | case1 => cases found
  | case2 => cases found
  | case3 inside close behind closed =>
      cases found
      have stop := List.head_dropWhile_not (· != '}') (l := inside) (by simp [closed])
      simp only [closed, List.head_cons, bne_eq_false_iff_eq] at stop
      subst stop
      rw [List.nil_append, ← closed, List.takeWhile_append_dropWhile]
  | case4 c rest other ih =>
      obtain ⟨⟨front, _⟩, later, equal⟩ := Option.map_eq_some_iff.mp found
      cases equal
      rw [ih later]
      rfl

theorem firstReference?_append (found : firstReference? text = some (before, name, after))
    (rest : List Char) : firstReference? (text ++ rest) = some (before, name, after ++ rest) := by
  fun_induction firstReference? text generalizing before with
  | case1 => cases found
  | case2 => cases found
  | case3 inside close behind closed =>
      cases found
      have cut : (inside.takeWhile (· != '}')).length ≠ inside.length := by
        intro whole
        have lengths := congrArg List.length (inside.takeWhile_append_dropWhile (p := (· != '}')))
        rw [closed, List.length_append, whole, List.length_cons] at lengths
        omega
      simp [firstReference?, List.dropWhile_append, List.takeWhile_append, closed, cut]
  | case4 c inside other ih =>
      obtain ⟨⟨front, _⟩, later, equal⟩ := Option.map_eq_some_iff.mp found
      cases equal
      have apart : ∀ more, c = '$' → inside ++ rest = '{' :: more → False := by
        rintro more rfl opened
        cases inside with
        | nil => cases later
        | cons first inside =>
            obtain ⟨rfl, -⟩ := List.cons.inj opened
            exact other inside rfl rfl
      rw [List.cons_append, firstReference?, ih later]
      · rfl
      · exact apart

theorem holdsReference_cons :
    HoldsReference (c :: rest) ↔
      (c = '$' ∧ ∃ inside after, rest = '{' :: (inside ++ '}' :: after)) ∨ HoldsReference rest := by
  constructor
  · rintro ⟨before, inside, after, equal⟩
    cases before with
    | nil =>
        obtain ⟨rfl, rfl⟩ := List.cons.inj equal
        exact .inl ⟨rfl, inside, after, rfl⟩
    | cons first before =>
        obtain ⟨-, rfl⟩ := List.cons.inj equal
        exact .inr ⟨before, inside, after, rfl⟩
  · rintro (⟨rfl, inside, after, rfl⟩ | ⟨before, inside, after, rfl⟩)
    · exact ⟨[], inside, after, rfl⟩
    · exact ⟨c :: before, inside, after, rfl⟩

theorem firstReference?_eq_none_iff : firstReference? text = none ↔ ¬HoldsReference text := by
  constructor
  · intro absent
    fun_induction firstReference? text with
    | case1 => simp [HoldsReference]
    | case2 rest unclosed =>
        rintro ⟨before, inside, after, equal⟩
        have within : '}' ∈ '$' :: '{' :: rest := by simp [equal]
        have held : '}' ∈ rest := by simpa using within
        simpa using List.dropWhile_eq_nil_iff.mp unclosed '}' held
    | case3 => cases absent
    | case4 c rest other ih =>
        rw [holdsReference_cons, not_or]
        refine ⟨?_, ih (Option.map_eq_none_iff.mp absent)⟩
        rintro ⟨rfl, inside, after, rfl⟩
        exact other _ rfl rfl
  · intro absent
    rw [Option.eq_none_iff_forall_ne_some]
    rintro ⟨before, name, after⟩ found
    exact absent ⟨before, name, after, firstReference?_eq found⟩

/-- Nothing before the first reference is one, also when it stands alone. -/
theorem firstReference?_before (found : firstReference? text = some (before, name, after)) :
    firstReference? before = none := by
  fun_induction firstReference? text generalizing before with
  | case1 => cases found
  | case2 => cases found
  | case3 =>
      cases found
      rfl
  | case4 c rest other ih =>
      obtain ⟨⟨front, _⟩, later, equal⟩ := Option.map_eq_some_iff.mp found
      cases equal
      rw [firstReference?_eq_none_iff, holdsReference_cons, not_or]
      refine ⟨?_, firstReference?_eq_none_iff.mp (ih later)⟩
      rintro ⟨rfl, inside, behind, rfl⟩
      exact other _ rfl (firstReference?_eq later)

/-- A reference that the next letter closes ends with this letter. -/
theorem firstReference?_closes (unclosed : firstReference? front = none)
    (closed : firstReference? (front ++ [c]) = some (before, name, after)) : after = [] := by
  rcases List.eq_nil_or_concat after with rfl | ⟨after, last, rfl⟩
  · rfl
  · have equal := firstReference?_eq closed
    rw [List.concat_eq_append] at equal
    have parts : front ++ [c] = (before ++ '$' :: '{' :: (name ++ '}' :: after)) ++ [last] := by
      simpa using equal
    have held := (List.append_inj' parts rfl).1
    exact absurd ⟨before, name, after, held⟩ (firstReference?_eq_none_iff.mp unclosed)

theorem Round.holdsReference (round : Round value? text next) : HoldsReference text := by
  obtain ⟨found⟩ := round
  exact ⟨_, _, _, firstReference?_eq found⟩

theorem expandFirst?_eq (value? : String → Option String) (text : List Char) :
    expandFirst? (m := Id) value? text = (firstReference? text).map fun (before, name, after) =>
      before ++ (valueOf value? name ++ after) := by
  unfold expandFirst?
  cases firstReference? text with
  | none => rfl
  | some parts => exact congrArg some (List.append_assoc _ _ _)

theorem round_of_expandFirst? (leads : Id.run (expandFirst? value? text) = some next) :
    Round value? text next := by
  rw [expandFirst?_eq, Id.run] at leads
  obtain ⟨⟨before, name, after⟩, found, rfl⟩ := Option.map_eq_some_iff.mp leads
  exact .replaced found

theorem expandWithin_succ (value? : String → Option String) (rounds : Nat) (text : List Char) :
    expandWithin (m := Id) value? (rounds + 1) text =
      match firstReference? text with
      | none => some text
      | some (before, name, after) =>
          expandWithin (m := Id) value? rounds (before ++ (valueOf value? name ++ after)) := by
  change (match expandFirst? (m := Id) value? text with
    | none => some text
    | some expanded => expandWithin (m := Id) value? rounds expanded) = _
  rw [expandFirst?_eq]
  cases firstReference? text <;> rfl

theorem expandWithin_of_none (absent : firstReference? text = none) (rounds : Nat) :
    expandWithin (m := Id) value? (rounds + 1) text = some text := by
  rw [expandWithin_succ, absent]

theorem expandWithin_of_round (round : Round value? text next) (rounds : Nat) :
    expandWithin (m := Id) value? (rounds + 1) text =
      expandWithin (m := Id) value? rounds next := by
  obtain ⟨found⟩ := round
  rw [expandWithin_succ, found]

theorem settles_of_none (absent : firstReference? text = none) (rounds : Nat) :
    Settles value? text (rounds + 1) text := by
  refine ⟨firstReference?_eq_none_iff.mp absent, fun more enough => ?_⟩
  obtain ⟨more, rfl⟩ := Nat.exists_eq_add_of_le' (Nat.le_of_add_left_le enough)
  exact expandWithin_of_none absent more

theorem Settles.head {rounds : Nat} (round : Round value? text next)
    (settles : Settles value? next rounds out) : Settles value? text (rounds + 1) out := by
  refine ⟨settles.1, fun more enough => ?_⟩
  obtain ⟨more, rfl⟩ := Nat.exists_eq_add_of_le' enough
  rw [← Nat.add_assoc, expandWithin_of_round round]
  exact settles.2 _ (by omega)

/-- What an expansion results in is no longer a matter of the number of rounds. -/
theorem settles_of_expandWithin {rounds : Nat}
    (ran : expandWithin (m := Id) value? rounds text = some out) :
    Settles value? text rounds out := by
  induction rounds generalizing text with
  | zero => cases ran
  | succ rounds ih =>
      rw [expandWithin_succ] at ran
      cases found : firstReference? text with
      | none =>
          rw [found] at ran
          obtain rfl : text = out := Option.some.inj ran
          exact settles_of_none found rounds
      | some parts =>
          rw [found] at ran
          exact (ih ran).head (.replaced found)

/-- Rounds that lead to a text without references settle the expansion. -/
theorem settles_of_rounds (led : Relation.ReflTransGen (Round value?) text out)
    (absent : firstReference? out = none) : ∃ rounds, Settles value? text rounds out := by
  induction led using Relation.ReflTransGen.head_induction_on with
  | refl => exact ⟨1, settles_of_none absent 0⟩
  | head round _ ih =>
      obtain ⟨rounds, settles⟩ := ih
      exact ⟨rounds + 1, settles.head round⟩

theorem Reads.free (reads : Reads value? front text out) (free : firstReference? front = none) :
    firstReference? out = none := by
  induction reads with
  | done => exact free
  | next unclosed _ ih => exact ih unclosed
  | replaced closed _ _ ofValue ofRest => exact ofRest (ofValue (firstReference?_before closed))

/-- Rounds replace what reading replaces, whatever follows. -/
theorem Reads.rounds (reads : Reads value? front text out) (rest : List Char) :
    Relation.ReflTransGen (Round value?) (front ++ (text ++ rest)) (out ++ rest) := by
  induction reads generalizing rest with
  | done => exact .refl
  | next _ _ ih => simpa using ih rest
  | @replaced front text before name middle out c closed _ _ ofValue ofRest =>
      have found := firstReference?_append closed (text ++ rest)
      rw [List.append_assoc] at found
      exact .head (.replaced found) ((ofValue (text ++ rest)).trans (ofRest rest))

theorem Reads.meets (reads : Reads value? front text out)
    (later : Meets value? out rest reference) : Meets value? front (text ++ rest) reference := by
  induction reads with
  | done => exact later
  | next unclosed _ ih => exact .next unclosed (ih later)
  | replaced closed value _ _ ofRest => exact .past closed value (ofRest later)

theorem Meets.append (meets : Meets value? front text reference) (rest : List Char) :
    Meets value? front (text ++ rest) reference := by
  induction meets with
  | here closed => exact .here closed
  | next unclosed _ ih => exact .next unclosed ih
  | past closed value _ ih => exact .past closed value ih

/-- A text is read to its end if the value of every reference that it meets is. -/
theorem exists_reads (free : firstReference? front = none)
    (values : ∀ reference, Meets value? front text reference →
      firstReference? reference.before = none →
      ∃ out, Reads value? reference.before (valueOf value? reference.name) out) :
    ∃ out, Reads value? front text out := by
  induction text generalizing front with
  | nil => exact ⟨front, .done front⟩
  | cons c text ih =>
      cases closed : firstReference? (front ++ [c]) with
      | none =>
          obtain ⟨out, reads⟩ := ih closed fun reference meets =>
            values reference (.next closed meets)
          exact ⟨out, .next closed reads⟩
      | some parts =>
          obtain ⟨before, name, after⟩ := parts
          obtain rfl := firstReference?_closes free closed
          have plain := firstReference?_before closed
          obtain ⟨middle, value⟩ := values ⟨before, name⟩ (.here closed) plain
          obtain ⟨out, reads⟩ := ih (value.free plain) fun reference meets =>
            values reference (.past closed value meets)
          exact ⟨out, .replaced closed value reads⟩

theorem exists_reads_of_acc (ends : Acc (Brings value?) reference)
    (free : firstReference? reference.before = none) :
    ∃ out, Reads value? reference.before (valueOf value? reference.name) out := by
  induction ends with
  | intro reference _ ih => exact exists_reads free ih

/-- A text in which a reference without end is met has a round, and so has what the round leads to:
either the value of that reference stands in it now, or the reference is still to come. -/
theorem Meets.exists_round (meets : Meets value? front text reference)
    (endless : ¬Acc (Brings value?) reference) :
    ∃ before rest other, Round value? (front ++ text) (before ++ rest) ∧
      Meets value? before rest other ∧ ¬Acc (Brings value?) other := by
  induction meets with
  | @here front rest before name c closed =>
      have found := firstReference?_append closed rest
      rw [List.append_assoc] at found
      obtain ⟨other, still, brought⟩ := exists_not_acc_lt_of_not_acc endless
      exact ⟨before, _, other, .replaced found, brought.append rest, still⟩
  | next _ _ ih => simpa using ih endless
  | @past front rest before name middle c reference closed value later =>
      have found := firstReference?_append closed rest
      rw [List.append_assoc] at found
      exact ⟨before, _, reference, .replaced found, value.meets later, endless⟩

/-- However many rounds there are, they do not get to an end. -/
theorem Meets.expandWithin_eq_none (meets : Meets value? front text reference)
    (endless : ¬Acc (Brings value?) reference) (rounds : Nat) :
    expandWithin (m := Id) value? rounds (front ++ text) = none := by
  induction rounds generalizing front text reference with
  | zero => rfl
  | succ rounds ih =>
      obtain ⟨before, rest, other, round, later, still⟩ := meets.exists_round endless
      rw [expandWithin_of_round round]
      exact ih later still

theorem settles_iff_acc : (∃ rounds out, Settles value? text rounds out) ↔
    ∀ reference, Meets value? [] text reference → Acc (Brings value?) reference := by
  constructor
  · rintro ⟨rounds, out, _, settled⟩ reference meets
    by_contra endless
    have lasting := meets.expandWithin_eq_none endless rounds
    rw [List.nil_append, settled rounds le_rfl] at lasting
    cases lasting
  · intro ends
    have nothing : firstReference? [] = none := rfl
    obtain ⟨out, reads⟩ := exists_reads nothing fun reference meets =>
      exists_reads_of_acc (ends reference meets)
    have led := reads.rounds []
    rw [List.nil_append, List.append_nil, List.append_nil] at led
    obtain ⟨rounds, settled⟩ := settles_of_rounds led (reads.free nothing)
    exact ⟨rounds, out, settled⟩

theorem expand_eq (value? : String → Option String) (text : String) :
    expand (m := Id) value? text =
      (expandWithin (m := Id) value? greatestRounds text.toList).map String.ofList :=
  rfl

/-- An expansion results in a text if its rounds get there before they are given up. -/
theorem expand_eq_some_iff {text out : String} :
    expand (m := Id) value? text = some out ↔
      ∃ rounds ≤ greatestRounds, Settles value? text.toList rounds out.toList := by
  rw [expand_eq, Option.map_eq_some_iff]
  constructor
  · rintro ⟨letters, settled, rfl⟩
    exact ⟨greatestRounds, le_rfl, String.toList_ofList ▸ settles_of_expandWithin settled⟩
  · rintro ⟨rounds, enough, settles⟩
    exact ⟨out.toList, settles.2 greatestRounds enough, String.ofList_toList⟩

/-- An expansion comes to an end, with no reference left, exactly if no endless chain of references
starts in its text, each of which is met while the value of the one before is read. It results in
what its rounds come to. -/
theorem expansion_settles_iff_no_endless_chain (value? : String → Option String) (text : String) :
    ((∃ rounds out, Settles value? text.toList rounds out) ↔
      ¬∃ chain : Nat → Reference, Meets value? [] text.toList (chain 0) ∧
        ∀ link, Brings value? (chain (link + 1)) (chain link)) ∧
    ∀ out, expand (m := Id) value? text = some out ↔
      ∃ rounds ≤ greatestRounds, Settles value? text.toList rounds out.toList := by
  refine ⟨?_, fun out => expand_eq_some_iff⟩
  rw [settles_iff_acc]
  constructor
  · rintro ends ⟨chain, met, brings⟩
    exact not_acc_iff_exists_descending_chain.mpr ⟨chain, rfl, brings⟩ (ends (chain 0) met)
  · intro none reference met
    by_contra endless
    obtain ⟨chain, rfl, brings⟩ := not_acc_iff_exists_descending_chain.mp endless
    exact none ⟨chain, met, brings⟩

def shelterPath : String := "./$\x7bSHELTER\x7d"

/-- A host where one variable names a place in the harbour, and another one tells where that is. -/
def sheltering : Memory :=
  ⟨[], [], ["HARBOUR=cove", "SHELTER=$\x7bHARBOUR\x7d/out"], "", ""⟩

theorem shelter_settles_in_cove :
    (¬∃ chain : Nat → Reference,
      Meets sheltering.setting? [] shelterPath.toList (chain 0) ∧
        ∀ link, Brings sheltering.setting? (chain (link + 1)) (chain link)) ∧
      expand (m := Id) sheltering.setting? shelterPath = some "./cove/out" := by
  have outer : Round sheltering.setting? shelterPath.toList "./$\x7bHARBOUR\x7d/out".toList :=
    round_of_expandFirst? (by decide +kernel)
  have inner : Round sheltering.setting? "./$\x7bHARBOUR\x7d/out".toList "./cove/out".toList :=
    round_of_expandFirst? (by decide +kernel)
  have absent : firstReference? "./cove/out".toList = none := by decide +kernel
  have settles := ((settles_of_none absent 0).head inner).head outer
  have ends := expansion_settles_iff_no_endless_chain sheltering.setting? shelterPath
  exact ⟨ends.1.mp ⟨_, _, settles⟩, (ends.2 "./cove/out").mpr ⟨_, by decide, settles⟩⟩

theorem expandWithin_of_fixed (round : Round value? text text) (rounds : Nat) :
    expandWithin (m := Id) value? rounds text = none := by
  induction rounds with
  | zero => rfl
  | succ rounds ih => rw [expandWithin_of_round round, ih]

/-- A host in memory expands a text as its variables alone tell, and stays as it is. -/
theorem expandWithin_inMemory (memory : Memory) (rounds : Nat) (text : List Char) :
    expandWithin (m := StateM Memory) Host.setting? rounds text memory =
      (expandWithin (m := Id) memory.setting? rounds text, memory) := by
  induction rounds generalizing text with
  | zero => rfl
  | succ rounds ih =>
      rw [expandWithin_succ, expandWithin, expandFirst?]
      cases firstReference? text with
      | none => rfl
      | some parts =>
          obtain ⟨before, name, after⟩ := parts
          dsimp only
          rw [← List.append_assoc]
          exact ih (before ++ valueOf memory.setting? name ++ after)

theorem expand_inMemory (memory : Memory) (text : String) :
    expand (m := StateM Memory) Host.setting? text memory =
      (expand (m := Id) memory.setting? text, memory) := by
  have same := expandWithin_inMemory memory greatestRounds text.toList
  exact congrArg (fun ran => (ran.1.map String.ofList, ran.2)) same

def echoReference : String := "$\x7bECHO\x7d"

/-- A host with a variable whose value is a reference to itself. -/
def echoing : Memory :=
  ⟨[], [], ["ECHO=" ++ echoReference], "", ""⟩

theorem echo_round : Round echoing.setting? echoReference.toList echoReference.toList :=
  round_of_expandFirst? (by decide +kernel)

/-- A reference to a variable that refers to itself is expanded for ever, so that no number of
rounds has a result. -/
theorem echo_never_settles :
    (¬∃ rounds out, Settles echoing.setting? echoReference.toList rounds out) ∧
      (∀ rounds, expandWithin (m := StateM Memory) Host.setting? rounds echoReference.toList
        echoing = (none, echoing)) ∧
      expand (m := StateM Memory) Host.setting? echoReference echoing = (none, echoing) ∧
      HoldsReference echoReference.toList := by
  have lasting (rounds : Nat) : expandWithin (m := StateM Memory) Host.setting? rounds
      echoReference.toList echoing = (none, echoing) := by
    rw [expandWithin_inMemory, expandWithin_of_fixed echo_round]
  refine ⟨?_, lasting, ?_, echo_round.holdsReference⟩
  · rintro ⟨rounds, out, _, settled⟩
    have given := settled rounds le_rfl
    rw [expandWithin_of_fixed echo_round] at given
    cases given
  · rw [expand_inMemory, expand_eq, expandWithin_of_fixed echo_round, Option.map_none]

theorem firstReference?_dollars (found : firstReference? text = some (before, name, after)) :
    before.count '$' < text.count '$' := by
  rw [firstReference?_eq found, List.count_append, List.count_cons_self]
  omega

theorem count_append_letter (other : '$' ≠ c) : (front ++ [c]).count '$' = front.count '$' := by
  simp [List.count_append, Ne.symm other]

/-- A letter that closes a reference takes the dollar of this reference away. -/
theorem firstReference?_dollars_of_letter (other : '$' ≠ c)
    (closed : firstReference? (front ++ [c]) = some (before, name, after)) :
    before.count '$' < front.count '$' :=
  (firstReference?_dollars closed).trans_eq (count_append_letter other)

theorem Reads.dollars (reads : Reads value? front text out)
    (plain : ∀ name, '$' ∉ valueOf value? name) (none : '$' ∉ text) :
    out.count '$' ≤ front.count '$' := by
  induction reads with
  | done => exact le_rfl
  | next _ _ ih =>
      obtain ⟨other, rest⟩ := List.ne_and_not_mem_of_not_mem_cons none
      exact (ih rest).trans_eq (count_append_letter other)
  | replaced closed _ _ ofValue ofRest =>
      obtain ⟨other, rest⟩ := List.ne_and_not_mem_of_not_mem_cons none
      have fewer := firstReference?_dollars_of_letter other closed
      exact ((ofRest rest).trans (ofValue (plain _))).trans fewer.le

/-- A reference takes its dollar from what is read already, where the text brings none. -/
theorem Meets.dollars (meets : Meets value? front text reference)
    (plain : ∀ name, '$' ∉ valueOf value? name) (none : '$' ∉ text) :
    reference.before.count '$' < front.count '$' := by
  induction meets with
  | here closed =>
      obtain ⟨other, -⟩ := List.ne_and_not_mem_of_not_mem_cons none
      exact firstReference?_dollars_of_letter other closed
  | next _ _ ih =>
      obtain ⟨other, rest⟩ := List.ne_and_not_mem_of_not_mem_cons none
      exact (ih rest).trans_eq (count_append_letter other)
  | past closed value _ ih =>
      obtain ⟨other, rest⟩ := List.ne_and_not_mem_of_not_mem_cons none
      have fewer := firstReference?_dollars_of_letter other closed
      exact ((ih rest).trans_le (value.dollars plain (plain _))).trans fewer

/-- Where no value holds a dollar, every expansion comes to an end. -/
theorem expansion_settles_of_plain_values (plain : ∀ name, '$' ∉ valueOf value? name)
    (text : String) : ∃ rounds out, Settles value? text.toList rounds out := by
  have ends : WellFounded (Brings value?) :=
    Subrelation.wf (fun brings => brings.dollars plain (plain _))
      (InvImage.wf (fun reference : Reference => reference.before.count '$') Nat.lt_wfRel.wf)
  exact settles_iff_acc.mpr fun reference _ => ends.apply reference

end QuizPackage.Command
