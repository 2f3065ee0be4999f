import AccessControl.Json.Basic
import AccessControl.Numeric.Shortest
/-!
# The text of wire values

A value is written without blanks, members in their order.  A double is written with the fewest
digits that read back, positionally from `1e-5` up to `1e16` and with an exponent beyond; it
always shows that it is no integer, by a decimal or by an exponent.  In strings only the quote,
the backslash and control characters are escaped.
-/

namespace AccessControl

/-! ### Numbers -/

/-- The least exponent of the leading digit at which a double is written positionally. -/
def leastPositional : Int := -5

/-- The greatest exponent of the leading digit at which a double is written positionally. -/
def greatestPositional : Int := 15

/-- The digits of a decimal with the decimal point in its place, at least one digit on each side. -/
def Decimal.positional (d : Decimal) : List Char :=
  let ds := Nat.toDigits 10 d.digits
  if 0 ≤ d.exponent then ds ++ List.replicate d.exponent.toNat '0' ++ ['.', '0']
  else
    let places := (-d.exponent).toNat
    let padded := List.replicate (places + 1 - ds.length) '0' ++ ds
    padded.take (padded.length - places) ++ '.' :: padded.drop (padded.length - places)

/-- The digits of a decimal with the point after the first one, then the exponent of that digit with
its sign. -/
def Decimal.scientific (d : Decimal) : List Char :=
  let ds := Nat.toDigits 10 d.digits
  let leading : Int := d.exponent + ds.length - 1
  let point := if ds.length ≤ 1 then ds else ds.take 1 ++ '.' :: ds.drop 1
  point ++ ['e', if leading < 0 then '-' else '+'] ++ Nat.toDigits 10 leading.natAbs

/-- The magnitude of a double, as it is written. -/
def Double.magnitudeText (x : Double) : List Char :=
  if x.isZero then ['0', '.', '0']
  else
    let d := x.shortest
    let leading : Int := d.exponent + decimalLength d.digits - 1
    if leastPositional ≤ leading ∧ leading ≤ greatestPositional then d.positional else d.scientific

/-- The text of a double. -/
def Double.text (x : Double) : String :=
  String.ofList (if x.negative then '-' :: x.magnitudeText else x.magnitudeText)

/-- The text of a wire number. -/
def Number.text : Number → String
  | .int n => toString n.1
  | .double x => x.text

namespace Json

/-! ### Strings -/

/-- A digit of a number below sixteen, letters in lower case. -/
def lowerHexDigit (n : Nat) : Char := if n < 10 then Char.ofNat (48 + n) else Char.ofNat (87 + n)

/-- How one character is written in a string. -/
def escape (c : Char) : List Char :=
  match c with
  | '"' => ['\\', '"']
  | '\\' => ['\\', '\\']
  | '\x08' => ['\\', 'b']
  | '\x0c' => ['\\', 'f']
  | '\n' => ['\\', 'n']
  | '\r' => ['\\', 'r']
  | '\t' => ['\\', 't']
  | c =>
    if c.toNat < 32 then
      ['\\', 'u', '0', '0', lowerHexDigit (c.toNat / 16), lowerHexDigit (c.toNat % 16)]
    else [c]

/-- A text as a string literal. -/
def stringText (s : String) : String :=
  String.ofList ('"' :: s.toList.flatMap escape ++ ['"'])

/-! ### Values -/

mutual

/-- The text of a value. -/
def text : Json → String
  | null => "null"
  | bool b => if b then "true" else "false"
  | number n => n.text
  | string s => stringText s
  | array items => "[" ++ ",".intercalate (itemTexts items) ++ "]"
  | object members => "\x7b" ++ ",".intercalate (memberTexts members) ++ "\x7d"

/-- The texts of the items of an array. -/
def itemTexts : List Json → List String
  | [] => []
  | x :: rest => x.text :: itemTexts rest

/-- The texts of the members of an object. -/
def memberTexts : List (String × Json) → List String
  | [] => []
  | (k, v) :: rest => (stringText k ++ ":" ++ v.text) :: memberTexts rest

end

end Json

end AccessControl
