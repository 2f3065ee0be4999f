import AccessControl.Json.Basic
import AccessControl.Text.Octets
/-!
# Words of wire text

The text of a value is read character by character into words: brackets, commas and colons, strings
with their escapes resolved, numbers and the three names.  The reader is a state machine, so reading
is a fold over the characters and ends with the text.

* `Number.ofChars?` : the value of a number's text, by its grammar.
* `Json.tokens?` : the words of a text, or none if some part of it is no word.
-/

namespace AccessControl

-- Powers are those of the core library, also where other libraries bring their own.
attribute [local instance (high)] instPowNat

/-! ### Numbers -/

/-- The number that a list of decimal digits stands for. -/
def digitsValue (ds : List Char) : Nat := ds.foldl (fun n c => 10 * n + (c.toNat - 48)) 0

/-- The value of an exponent's text after its `e`, where one sign may lead the digits. -/
def exponentValue? : List Char → Option Int
  | '-' :: ds => if ds ≠ [] ∧ ds.all Char.isDigit then some (-(digitsValue ds : Int)) else none
  | '+' :: ds => if ds ≠ [] ∧ ds.all Char.isDigit then some (digitsValue ds : Int) else none
  | ds => if ds ≠ [] ∧ ds.all Char.isDigit then some (digitsValue ds : Int) else none

namespace Number

/-- A whole number, held as an integer when a word holds it and as the nearest double otherwise; a
negative zero is a double. -/
def ofWhole? (negative : Bool) (n : Nat) : Option Number :=
  if negative ∧ n = 0 then some (.double (.zero true))
  else
    let i : Int := if negative then -(n : Int) else n
    if h : -2 ^ (63 : Nat) ≤ i ∧ i < 2 ^ (64 : Nat) then some (.int ⟨i, h⟩)
    else (Double.ofQuotient? negative n 1).map .double

/-- The value of an unsigned number's text: digits without a leading zero, then possibly a point
with digits and an exponent, either of which makes it a double. -/
def ofUnsigned? (negative : Bool) (cs : List Char) : Option Number :=
  let whole := cs.takeWhile Char.isDigit
  let rest := cs.dropWhile Char.isDigit
  if whole = [] ∨ (whole.head? = some '0' ∧ whole.length ≠ 1) then none
  else
    let fraction := match rest with
      | '.' :: fs => some (fs.takeWhile Char.isDigit, fs.dropWhile Char.isDigit)
      | _ => none
    let places := match fraction with
      | some (ds, _) => ds
      | none => []
    let tail := match fraction with
      | some (_, t) => t
      | none => rest
    if fraction.isSome ∧ places = [] then none
    else
      let mantissa := digitsValue (whole ++ places)
      match tail with
      | [] =>
        if fraction.isSome then
          (Double.ofDecimal? negative mantissa (-(places.length : Int))).map .double
        else ofWhole? negative mantissa
      | e :: es =>
        if e = 'e' ∨ e = 'E' then do
          let exponent ← exponentValue? es
          (Double.ofDecimal? negative mantissa (exponent - places.length)).map .double
        else none

/-- The value of a number's text. -/
def ofChars? : List Char → Option Number
  | '-' :: cs => ofUnsigned? true cs
  | cs => ofUnsigned? false cs

end Number

namespace Json

/-! ### Words -/

/-- A word of wire text. -/
inductive Token where
  | openArray
  | closeArray
  | openObject
  | closeObject
  | comma
  | colon
  | string (s : String)
  | scalar (v : Json)

/-- Where in a word the reader is; what was read of it is kept in reverse. -/
inductive Scan where
  /-- Between words. -/
  | between
  /-- In a number or a name. -/
  | bare (read : List Char)
  /-- In a string. -/
  | string (read : List Char)
  /-- After a backslash in a string. -/
  | escape (read : List Char)
  /-- In the four digits of an escape, after some of them. -/
  | digits (read : List Char) (high : Option Nat) (count : Nat) (value : Nat)
  /-- After the first half of a pair of escapes, then after the backslash of the second. -/
  | pair (read : List Char) (high : Nat) (backslash : Bool)

/-- The word that a run of characters outside a string is. -/
def bareToken? (cs : List Char) : Option Token :=
  if cs = ['n', 'u', 'l', 'l'] then some (.scalar .null)
  else if cs = ['t', 'r', 'u', 'e'] then some (.scalar (.bool true))
  else if cs = ['f', 'a', 'l', 's', 'e'] then some (.scalar (.bool false))
  else (Number.ofChars? cs).map fun n => .scalar (.number n)

/-- What a character outside strings does once the word before it has ended. -/
def startWord (tokens : List Token) (c : Char) : Option (Scan × List Token) :=
  match c with
  | '[' => some (.between, .openArray :: tokens)
  | ']' => some (.between, .closeArray :: tokens)
  | '\x7b' => some (.between, .openObject :: tokens)
  | '\x7d' => some (.between, .closeObject :: tokens)
  | ',' => some (.between, .comma :: tokens)
  | ':' => some (.between, .colon :: tokens)
  | '"' => some (.string [], tokens)
  | ' ' | '\t' | '\n' | '\r' => some (.between, tokens)
  | c => some (.bare [c], tokens)

/-- Whether a character belongs to a number or a name. -/
def isBare (c : Char) : Bool :=
  c.isAlphanum || c == '-' || c == '+' || c == '.'

/-- What the fourth digit of an escape completes: a character, the first half of a pair, or its
second half. -/
def endDigits (read : List Char) (high : Option Nat) (value : Nat) : Option Scan :=
  match high with
  | some h =>
    if 0xDC00 ≤ value ∧ value < 0xE000 then
      some (.string (Char.ofNat (0x10000 + (h - 0xD800) * 0x400 + (value - 0xDC00)) :: read))
    else none
  | none =>
    if 0xD800 ≤ value ∧ value < 0xDC00 then some (.pair read value false)
    else if 0xDC00 ≤ value ∧ value < 0xE000 then none
    else some (.string (Char.ofNat value :: read))

/-- The effect of one character on the reader and on the words read so far, which are in reverse. -/
def scanStep : Scan × List Token → Char → Option (Scan × List Token)
  | (.between, tokens), c => startWord tokens c
  | (.bare read, tokens), c =>
    if isBare c then some (.bare (c :: read), tokens)
    else do startWord ((← bareToken? read.reverse) :: tokens) c
  | (.string read, tokens), c =>
    if c = '"' then some (.between, .string (String.ofList read.reverse) :: tokens)
    else if c = '\\' then some (.escape read, tokens)
    else if c.toNat < 32 then none
    else some (.string (c :: read), tokens)
  | (.escape read, tokens), c =>
    match c with
    | '"' => some (.string ('"' :: read), tokens)
    | '\\' => some (.string ('\\' :: read), tokens)
    | '/' => some (.string ('/' :: read), tokens)
    | 'b' => some (.string ('\x08' :: read), tokens)
    | 'f' => some (.string ('\x0c' :: read), tokens)
    | 'n' => some (.string ('\n' :: read), tokens)
    | 'r' => some (.string ('\r' :: read), tokens)
    | 't' => some (.string ('\t' :: read), tokens)
    | 'u' => some (.digits read none 0 0, tokens)
    | _ => none
  | (.digits read high count value, tokens), c => do
    let value := 16 * value + (← hexValue? c)
    if count < 3 then some (.digits read high (count + 1) value, tokens)
    else return (← endDigits read high value, tokens)
  | (.pair read high backslash, tokens), c =>
    match backslash, c with
    | false, '\\' => some (.pair read high true, tokens)
    | true, 'u' => some (.digits read (some high) 0 0, tokens)
    | _, _ => none

/-- The words of a text, or none if some part of it is no word. -/
def tokens? (cs : List Char) : Option (List Token) := do
  match ← cs.foldlM scanStep (.between, []) with
  | (.between, tokens) => some tokens.reverse
  | (.bare read, tokens) => return ((← bareToken? read.reverse) :: tokens).reverse
  | _ => none

end Json

end AccessControl
