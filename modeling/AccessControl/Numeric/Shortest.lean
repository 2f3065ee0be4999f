import AccessControl.Numeric.Double
/-!
# The shortest decimal of a double

Among the decimals that read back as a given double, the one with the fewest digits is chosen, and
of those the nearest to the double.  A decimal reads back when it lies between the midpoints to the
two neighbouring doubles, the midpoints included when the coefficient is even.
-/

namespace AccessControl

-- Powers are those of the core library, also where other libraries bring their own.
attribute [local instance (high)] instPowNat

/-- The decimal number `digits * 10 ^ exponent`. -/
structure Decimal where
  /-- The integer that the power of ten scales. -/
  digits : Nat
  /-- The exponent of the power of ten. -/
  exponent : Int
  deriving DecidableEq

/-- Compares `a * 10 ^ i` with `b * 2 ^ j`. -/
def compareScaled (a : Nat) (i : Int) (b : Nat) (j : Int) : Ordering :=
  compare (a * 10 ^ i.toNat * 2 ^ (-j).toNat) (b * 2 ^ j.toNat * 10 ^ (-i).toNat)

/-- How many decimal digits a natural number has. -/
def decimalLength (n : Nat) : Nat := (Nat.toDigits 10 n).length

/-- Moves the zeros at the end of the digits into the exponent. -/
def Decimal.strip (d : Decimal) : Decimal :=
  if d.digits ≠ 0 ∧ d.digits % 10 = 0 then Decimal.strip ⟨d.digits / 10, d.exponent + 1⟩ else d
termination_by d.digits
decreasing_by omega

namespace Double

/-- Whether the gap to the double below is half the gap to the double above. -/
def narrowBelow (x : Double) : Bool := x.coefficient = 2 ^ (52 : Nat) ∧ -1074 < x.exponent

/-- Whether a decimal is rounded to the magnitude of the double. -/
def readsBack (x : Double) (d : Decimal) : Bool :=
  let low := if x.narrowBelow then 4 * x.coefficient - 1 else 4 * x.coefficient - 2
  let high := 4 * x.coefficient + 2
  let inclusive := x.coefficient % 2 = 0
  let below := compareScaled d.digits d.exponent low (x.exponent - 2)
  let above := compareScaled d.digits d.exponent high (x.exponent - 2)
  (below = .gt ∨ (inclusive ∧ below = .eq)) ∧ (above = .lt ∨ (inclusive ∧ above = .eq))

/-- The power of ten of the leading digit of a double that is not zero. -/
def leadingExponent (x : Double) : Int :=
  let (num, den) := x.quotient
  if den ≤ num then decimalLength (num / den) - 1
  else -(decimalLength ((den - 1) / num) : Int)

/-- The nearer of the two decimals around the double on a grid of one power of ten, among those that
read back; of two that are equally near, the one with the even last digit. -/
def selectOn (x : Double) (grid : Int) : Option Decimal :=
  let (num, den) := x.quotient
  let d := num * 10 ^ (-grid).toNat / (den * 10 ^ grid.toNat)
  let low : Decimal := ⟨d, grid⟩
  let high : Decimal := ⟨d + 1, grid⟩
  match x.readsBack low, x.readsBack high with
  | false, false => none
  | true, false => some low
  | false, true => some high
  | true, true =>
    match compareScaled (2 * d + 1) grid (2 * x.coefficient) x.exponent with
    | .gt => some low
    | .lt => some high
    | .eq => some (if d % 2 = 0 then low else high)

/-- The first grid, from the coarsest on, that has a decimal that reads back. -/
def select (x : Double) : Option Decimal :=
  (List.range 17).findSome? fun (n : Nat) => x.selectOn (x.leadingExponent - n)

/-- The magnitude of the double written out in full. -/
def exactDecimal (x : Double) : Decimal :=
  if 0 ≤ x.exponent then ⟨x.coefficient * 2 ^ x.exponent.toNat, 0⟩
  else ⟨x.coefficient * 5 ^ (-x.exponent).toNat, x.exponent⟩

/-- The shortest decimal that reads back as the magnitude of a double that is not zero. -/
def shortest (x : Double) : Decimal := (x.select.getD x.exactDecimal).strip

end Double

end AccessControl
