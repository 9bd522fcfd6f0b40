/-!
# Shortest decimals

The decimal with the fewest digits that still names one given floating-point number. All arithmetic
is exact: a finite binary number has finitely many decimal places, so it and its distance to its
neighbours are whole numbers of one decimal unit.
-/

namespace QuizPackage.Number

/-- The number `digits × 10 ^ exponent`. -/
structure Decimal where
  digits : Nat
  exponent : Int
deriving DecidableEq, Repr

/-- A finite number without its sign, counted in units of `10 ^ -places`. -/
structure Magnitude where
  units : Nat
  gap : Nat
  places : Nat
  takesHalves : Bool
  /-- The next number below is only half a gap away. -/
  narrowBelow : Bool
deriving DecidableEq, Repr

def magnitude (number : Float) : Magnitude :=
  let bits := number.toBits.toNat
  let field := bits / Nat.pow 2 52 % Nat.pow 2 11
  let fraction := bits % Nat.pow 2 52
  let significand := if field == 0 then fraction else Nat.pow 2 52 + fraction
  let scale := if field == 0 then 1 else field
  let takesHalves := significand % 2 == 0
  let narrowBelow := fraction == 0 && 1 < field
  if 1075 ≤ scale then
    let gap := Nat.pow 2 (scale - 1075)
    ⟨significand * gap, gap, 0, takesHalves, narrowBelow⟩
  else
    let places := 1075 - scale
    let gap := Nat.pow 5 places
    ⟨significand * gap, gap, places, takesHalves, narrowBelow⟩

def Magnitude.nearest (magnitude : Magnitude) (units : Nat) : Bool :=
  let below := if magnitude.narrowBelow then magnitude.gap else 2 * magnitude.gap
  let lower := 4 * magnitude.units - below
  let upper := 4 * magnitude.units + 2 * magnitude.gap
  if magnitude.takesHalves then
    lower ≤ 4 * units && 4 * units ≤ upper
  else
    lower < 4 * units && 4 * units < upper

inductive Tie where
  | upper
  /-- The one whose last digit is even. -/
  | even
deriving DecidableEq, Repr

def Tie.takesLower (tie : Tie) (lower : Nat) : Bool :=
  match tie with
  | .upper => false
  | .even => lower % 2 == 0

/-- The decimal on the grid of `10 ^ coarse` units that names the magnitude, if there is one. Of
two such neighbours the closer is taken. -/
def Magnitude.onGrid? (tie : Tie) (magnitude : Magnitude) (coarse : Nat) : Option Decimal :=
  let step := Nat.pow 10 coarse
  let lower := magnitude.units / step
  let exponent := (coarse : Int) - magnitude.places
  match magnitude.nearest (lower * step), magnitude.nearest ((lower + 1) * step) with
  | true, true =>
      let middle := (2 * lower + 1) * step
      if 2 * magnitude.units < middle ||
          (2 * magnitude.units == middle && tie.takesLower lower) then
        some ⟨lower, exponent⟩
      else
        some ⟨lower + 1, exponent⟩
  | true, false => some ⟨lower, exponent⟩
  | false, true => some ⟨lower + 1, exponent⟩
  | false, false => none

/-- The first decimal found from the coarsest grid to the finest, on which the magnitude itself
lies. -/
def Magnitude.shortest (tie : Tie) (magnitude : Magnitude) : Decimal :=
  let width := (Nat.toDigits 10 magnitude.units).length
  let grids := (List.range width).reverse
  match grids.findSome? (magnitude.onGrid? tie) with
  | some decimal => decimal
  | none => ⟨magnitude.units, -(magnitude.places : Int)⟩

end QuizPackage.Number
