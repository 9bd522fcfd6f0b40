namespace QuizPackage

/-- The position of a top-level entry, or of a member of a group; both count from zero. -/
structure Location where
  entry : Nat
  member : Option Nat
deriving DecidableEq, Repr

def Location.top (entry : Nat) : Location := ⟨entry, none⟩

def Location.inGroup (entry member : Nat) : Location := ⟨entry, some member⟩

def Location.describe (location : Location) : String :=
  match location.member with
  | some member => s!"entry {location.entry + 1}, group question {member + 1}"
  | none => s!"entry {location.entry + 1}"

/-- A location as an ordinal such as `3` or `3.2`, counted from one. -/
def Location.ordinal (location : Location) : String :=
  match location.member with
  | some member => s!"{location.entry + 1}.{member + 1}"
  | none => s!"{location.entry + 1}"

end QuizPackage
