namespace QuizPackage.Text

structure CodeRange where
  first : Nat
  last : Nat

def inRanges (ranges : Array CodeRange) (c : Char) : Bool :=
  ranges.any fun range => range.first ≤ c.toNat && c.toNat ≤ range.last

end QuizPackage.Text
