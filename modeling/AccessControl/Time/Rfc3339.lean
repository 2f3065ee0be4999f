import AccessControl.Text.Octets
import AccessControl.Time.Calendar
import AccessControl.Time.Instant
/-!
# Dates with times in the internet format

A date and time such as `2021-03-04T05:06:07.5+01:00` is read octet by octet from the left, and the
first thing that is wrong decides what is reported.  Digits of the fraction beyond the ninth do not
count, and a sixtieth second is the leap second after the fifty-ninth.

* `Rfc3339.parse` : the instant that a text denotes, or what is wrong with the text.
-/

namespace AccessControl.Rfc3339

-- Powers are those of the core library, also where other libraries bring their own.
attribute [local instance (high)] instPowNat

/-- What is wrong with a date and time. -/
inductive Fault where
  /-- An octet that cannot stand where it stands. -/
  | invalid
  /-- A number outside its range. -/
  | outOfRange
  /-- The text ends too early. -/
  | tooShort
  /-- The text goes on after its end. -/
  | tooLong
  deriving DecidableEq

/-- What is wrong in words. -/
def Fault.message : Fault → String
  | invalid => "input contains invalid characters"
  | outOfRange => "input is out of range"
  | tooShort => "premature end of input"
  | tooLong => "trailing input"

/-- A reader of the octets that are left. -/
abbrev Reader (α : Type) := StateT (List UInt8) (Except Fault) α

/-! ### Single octets -/

/-- Whether an octet is a decimal digit. -/
def isDigit (o : UInt8) : Bool := 48 ≤ o && o ≤ 57

/-- The value of a decimal digit. -/
def digitValue (o : UInt8) : Nat := o.toNat - 48

/-- The next octet, which must satisfy a condition. -/
def octet (p : UInt8 → Bool) : Reader UInt8 := fun left =>
  match left with
  | [] => .error .tooShort
  | o :: rest => if p o then .ok (o, rest) else .error .invalid

/-- A number of the given count of digits. -/
def number : Nat → Nat → Reader Nat
  | 0, value => return value
  | n + 1, value => do number n (10 * value + digitValue (← octet isDigit))

/-- Checks a condition on numbers that were read. -/
def inRange (p : Bool) : Reader Unit := if p then return else throw .outOfRange

/-! ### Parts -/

/-- The days from the start of the epoch to the date. -/
def date : Reader Int := do
  let year ← number 4 0
  let _ ← octet (· == 45)
  let month ← number 2 0
  let _ ← octet (· == 45)
  let day ← number 2 0
  inRange (isDate year month day)
  return dayNumber year month day

/-- The nanoseconds of the digits of a fraction. -/
def nanosOfDigits (ds : List UInt8) : Nat :=
  let kept := ds.take 9
  kept.foldl (fun n d => 10 * n + digitValue d) 0 * 10 ^ (9 - kept.length)

/-- The nanoseconds of a fraction of a second, if one is there. -/
def fraction : Reader Nat := fun left =>
  match left with
  | 46 :: rest =>
    match rest with
    | [] => .error .tooShort
    | o :: _ =>
      if isDigit o then
        .ok (nanosOfDigits (rest.takeWhile isDigit), rest.dropWhile isDigit)
      else .error .invalid
  | left => .ok (0, left)

/-- The seconds and nanoseconds from midnight to the time of day. -/
def timeOfDay : Reader (Nat × Nat) := do
  let hour ← number 2 0
  let _ ← octet (· == 58)
  let minute ← number 2 0
  let _ ← octet (· == 58)
  let second ← number 2 0
  let nanos ← fraction
  let (second, nanos) := if second = 60 then (59, nanos + 10 ^ (9 : Nat)) else (second, nanos)
  inRange (hour < 24 && minute < 60 && second < 60)
  return (3600 * hour + 60 * minute + second, nanos)

/-- The sign of an offset, as an ASCII sign or as the octets of the minus sign. -/
def sign : Reader Int := fun left =>
  match left with
  | [] => .error .tooShort
  | 43 :: rest => .ok (1, rest)
  | 45 :: rest => .ok (-1, rest)
  | 0xE2 :: 0x88 :: 0x92 :: rest => .ok (-1, rest)
  | _ => .error .invalid

/-- Two digits, which must both be there before either is looked at. -/
def pair (check : UInt8 → Bool) : Reader Nat := fun left =>
  match left with
  | a :: b :: rest =>
    if isDigit a && isDigit b then
      if check a then .ok (10 * digitValue a + digitValue b, rest) else .error .outOfRange
    else .error .invalid
  | _ => .error .tooShort

/-- The seconds by which local time is ahead. -/
def offset : Reader Int := fun left =>
  match left with
  | 90 :: rest | 122 :: rest => .ok (0, rest)
  | left => go left
where
  /-- An offset in hours and minutes. -/
  go : Reader Int := do
    let s ← sign
    let hours ← pair fun _ => true
    let _ ← octet (· == 58)
    let minutes ← pair (· ≤ 53)
    return s * (3600 * hours + 60 * minutes : Nat)

/-- Nothing is left. -/
def finish : Reader Unit := fun left =>
  match left with
  | [] => .ok ((), [])
  | _ => .error .tooLong

/-! ### The whole -/

/-- The octet between the date and the time: a letter T of either case or a space. -/
def isSeparator (o : UInt8) : Bool := o == 84 || o == 116 || o == 32

/-- A date, a time of day and an offset. -/
def dateTime : Reader Instant := do
  let day ← date
  let _ ← octet isSeparator
  let (second, nanos) ← timeOfDay
  let ahead ← offset
  finish
  inRange (ahead.natAbs < 86400)
  return ⟨86400 * day + second - ahead, nanos⟩

/-- The instant that a text denotes.  A text that cannot hold a date and a time is too short,
whatever it holds. -/
def parse (s : String) : Except Fault Instant :=
  let left := octets s.toList
  if left.length < 19 then .error .tooShort else (dateTime left).map Prod.fst

end AccessControl.Rfc3339
