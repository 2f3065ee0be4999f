import AccessControl.Numeric.Rounding
/-!
# Binary numbers of double precision

A finite double is a sign, a coefficient below `2 ^ 53` and a power of two, in the one form in
which the coefficient is as large as the exponent range allows.  Its meaning is the rational
number `Double.toRat`; everything else (reading a decimal, adding, comparing) is said through it
and through rounding a rational to the nearest double, ties to the even coefficient.

* `Double.ofQuotient?` : the double nearest to a quotient, unless it is out of range.
* `Double.nearest` : the same for any rational, held at the largest double beyond the range.
* `Double.toRat_truncate_add_fraction` : a double is its integer part plus its fraction.
-/

namespace AccessControl

-- Powers are those of the core library, also where other libraries bring their own.
attribute [local instance (high)] instPowNat

/-- A finite binary number of double precision: `(-1)^negative * coefficient * 2^exponent`. -/
structure Double where
  /-- Whether the sign bit is set; zero has a sign too. -/
  negative : Bool
  /-- The integer that the power of two scales. -/
  coefficient : Nat
  /-- The exponent of the power of two. -/
  exponent : Int
  coefficient_lt : coefficient < 2 ^ (53 : Nat)
  le_exponent : -1074 ≤ exponent
  exponent_le : exponent ≤ 971
  /-- A coefficient with spare high bits occurs only at the least exponent. -/
  normal : 2 ^ (52 : Nat) ≤ coefficient ∨ exponent = -1074
  deriving DecidableEq

namespace Double

/-- The double with the given parts, when they are in range and in the one permitted form. -/
def ofParts? (negative : Bool) (coefficient : Nat) (exponent : Int) : Option Double :=
  if h : coefficient < 2 ^ (53 : Nat) ∧ -1074 ≤ exponent ∧ exponent ≤ 971 ∧
      (2 ^ (52 : Nat) ≤ coefficient ∨ exponent = -1074) then
    some ⟨negative, coefficient, exponent, h.1, h.2.1, h.2.2.1, h.2.2.2⟩
  else none

/-- Zero, with the given sign. -/
def zero (negative : Bool) : Double :=
  ⟨negative, 0, -1074, by decide, by decide, by decide, by decide⟩

/-- The double of the given sign farthest from zero. -/
def largest (negative : Bool) : Double :=
  ⟨negative, 2 ^ (53 : Nat) - 1, 971, by decide, by decide, by decide, by decide⟩

instance : Inhabited Double := ⟨zero false⟩

/-! ### Meaning -/

/-- The natural numbers whose quotient is the magnitude `coefficient * 2 ^ exponent`. -/
def quotient (x : Double) : Nat × Nat :=
  (x.coefficient * 2 ^ x.exponent.toNat, 2 ^ (-x.exponent).toNat)

/-- The rational number that a double stands for. -/
def toRat (x : Double) : Rat :=
  let magnitude : Rat := x.coefficient * 2 ^ x.exponent
  if x.negative then -magnitude else magnitude

/-- Whether the double is a zero of either sign. -/
def isZero (x : Double) : Bool := x.coefficient = 0

/-- Whether two doubles stand for the same number: the two zeros do. -/
def equiv (x y : Double) : Bool := x = y || (x.isZero && y.isZero)

/-! ### Rounding -/

/-- The exponent at which a positive quotient has a coefficient of 53 bits, or the least exponent
where that one lies below it. -/
def exponentOf (num den : Nat) : Int :=
  let k : Int := (num.log2 : Int) - (den.log2 : Int)
  let low := if den * 2 ^ k.toNat ≤ num * 2 ^ (-k).toNat then k - 52 else k - 53
  max low (-1074)

/-- The double of the given sign nearest to `num / den`, ties to the even coefficient; none where
the quotient rounds beyond the largest double. -/
def ofQuotient? (negative : Bool) (num den : Nat) : Option Double :=
  if num = 0 then some (zero negative)
  else
    let e := exponentOf num den
    let c := roundHalfEven (num * 2 ^ (-e).toNat) (den * 2 ^ e.toNat)
    if c = 2 ^ (53 : Nat) then ofParts? negative (2 ^ (52 : Nat)) (e + 1)
    else ofParts? negative c e

/-- The double nearest to a rational number, held at the largest double beyond the range. -/
def nearest (q : Rat) : Double :=
  let negative := decide (q < 0)
  (ofQuotient? negative q.num.natAbs q.den).getD (largest negative)

/-- The double nearest to an integer of at most 64 bits. -/
def ofInt (n : Int) : Double := nearest n

/-- The double nearest to `digits * 10 ^ exponent`; none where it rounds beyond the largest.  Powers
of ten that put the number beyond `10 ^ 400`, or below `2 ^ (-1100)`, decide without being computed:
`digits` is below two to its number of bits, and ten is above two to the third. -/
def ofDecimal? (negative : Bool) (digits : Nat) (exponent : Int) : Option Double :=
  let bits : Int := (digits.log2 : Int) + 1
  if digits = 0 then some (zero negative)
  else if exponent > 400 then none
  else if bits + 3 * exponent < -1100 then some (zero negative)
  else ofQuotient? negative (digits * 10 ^ exponent.toNat) (10 ^ (-exponent).toNat)

/-! ### Parts of the number -/

/-- The integer part: the fraction is cut off towards zero. -/
def truncate (x : Double) : Int :=
  let q := x.quotient.1 / x.quotient.2
  if x.negative then -(q : Int) else q

/-- What truncation cuts off, with the sign of the number. -/
def fraction (x : Double) : Rat := x.toRat - x.truncate

theorem toRat_truncate_add_fraction (x : Double) : (x.truncate : Rat) + x.fraction = x.toRat := by
  simp only [fraction]
  grind

/-- The nearest natural number to a number that is not negative, halves upwards; zero for a negative
one. -/
def roundToNat (x : Double) : Nat :=
  if x.negative then 0 else roundHalfUp x.quotient.1 x.quotient.2

/-! ### Interchange form -/

/-- The 64 bits of the interchange form: sign, biased exponent, trailing coefficient. -/
def bits (x : Double) : Nat :=
  (if x.negative then 2 ^ (63 : Nat) else 0) +
    if 2 ^ (52 : Nat) ≤ x.coefficient then
      (x.exponent + 1075).toNat * 2 ^ (52 : Nat) + (x.coefficient - 2 ^ (52 : Nat))
    else x.coefficient

end Double

end AccessControl
