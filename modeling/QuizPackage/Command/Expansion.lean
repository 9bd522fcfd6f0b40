/-!
# Expansion

References to variables, such as `${HOME}`, inside a text are replaced by the values of the
variables. A value may bring new references with it, which are replaced in turn.
-/

namespace QuizPackage.Command

/-- What stands before the first reference in a text, the name in it, and what stands after. A
reference that is never closed is none. -/
def firstReference? : List Char → Option (List Char × List Char × List Char)
  | [] => none
  | '$' :: '{' :: rest =>
      match rest.dropWhile (· != '}') with
      | [] => none
      | _ :: after => some ([], rest.takeWhile (· != '}'), after)
  | c :: rest =>
      (firstReference? rest).map fun (before, name, after) => (c :: before, name, after)

variable {m : Type → Type} [Monad m]

/-- Replaces the first reference in a text, if there is any. A variable that is not set has an empty
value. -/
def expandFirst? (value? : String → m (Option String)) (text : List Char) :
    m (Option (List Char)) := do
  match firstReference? text with
  | none => return none
  | some (before, name, after) =>
      let value := (← value? (String.ofList name)).getD ""
      return some (before ++ value.toList ++ after)

/-- Replaces references until none is left. There is no result where so many rounds do not get to
that end. -/
def expandWithin (value? : String → m (Option String)) :
    (rounds : Nat) → List Char → m (Option (List Char))
  | 0, _ => return none
  | rounds + 1, text => do
      match ← expandFirst? value? text with
      | none => return some text
      | some expanded => expandWithin value? rounds expanded

/-- The number of rounds after which an expansion is given up. A chain of variables that each name
the one before twice takes a number of rounds that doubles with every link. -/
def greatestRounds : Nat := Nat.pow 2 40

def expand (value? : String → m (Option String)) (text : String) : m (Option String) :=
  Option.map String.ofList <$> expandWithin value? greatestRounds text.toList

end QuizPackage.Command
