import AccessControl.Numeric.Double
import AccessControl.Ordered.Entries
/-!
# Wire values

What the server sends and receives is a JSON value.  Integers and doubles are different numbers, the
members of an object keep their order, and a key that is written twice has its last value at its
first place (`Json.entries`).

* `Json.equiv` : sameness of values, blind to the order of members and to the sign of zero.
* `Json.truthy` : whether a value counts as set.
-/

namespace AccessControl

-- Powers are those of the core library, also where other libraries bring their own.
attribute [local instance (high)] instPowNat

/-- An integer that a wire number can hold: a signed or an unsigned word of 64 bits. -/
abbrev WordInt := { n : Int // -2 ^ (63 : Nat) ≤ n ∧ n < 2 ^ (64 : Nat) }

/-- A wire number. -/
inductive Number where
  | int (n : WordInt)
  | double (x : Double)
  deriving DecidableEq

namespace Number

/-- Whether two wire numbers are the same: an integer and a double never are. -/
def equiv : Number → Number → Bool
  | int a, int b => a = b
  | double x, double y => x.equiv y
  | _, _ => false

/-- The double nearest to a wire number. -/
def toDouble : Number → Double
  | int n => Double.ofInt n
  | double x => x

/-- Whether a wire number is zero. -/
def isZero : Number → Bool
  | int n => n.1 = 0
  | double x => x.isZero

end Number

/-- A wire value. -/
inductive Json where
  | null
  | bool (b : Bool)
  | number (n : Number)
  | string (s : String)
  | array (items : List Json)
  | object (members : List (String × Json))
  deriving Inhabited

namespace Json

/-- The members of an object by key: of a key that is written twice the last value counts, at the
first place. -/
def entries (members : List (String × Json)) : Entries Json := Entries.ofList members

/-- The object with the given members. -/
def ofEntries (m : Entries Json) : Json := .object m.toList

@[simp] theorem entries_toList (m : Entries Json) : entries m.toList = m :=
  Entries.ofList_toList m

/-! ### Sameness -/

mutual

/-- Whether two values are the same: the order of members and the sign of zero do not count. -/
def equiv : Json → Json → Bool
  | null, null => true
  | bool a, bool b => a == b
  | number a, number b => a.equiv b
  | string a, string b => a == b
  | array xs, array ys => equivItems xs ys
  | object xs, object ys => xs.length == ys.length && equivMembers xs ys
  | _, _ => false

/-- Whether two lists hold the same values in the same order. -/
def equivItems : List Json → List Json → Bool
  | [], [] => true
  | x :: xs, y :: ys => equiv x y && equivItems xs ys
  | _, _ => false

/-- Whether every member of the first list has the same value in the second. -/
def equivMembers : List (String × Json) → List (String × Json) → Bool
  | [], _ => true
  | (k, v) :: rest, ys =>
    (match ys.lookup k with
      | some w => equiv v w
      | none => false) && equivMembers rest ys

end

/-- Whether two objects have the same members, in any order. -/
def equivEntries (xs ys : Entries Json) : Bool :=
  xs.toList.length == ys.toList.length && equivMembers xs.toList ys.toList

/-! ### Views -/

/-- Whether a value counts as set: null, false, zero and what is empty do not. -/
def truthy : Json → Bool
  | null => false
  | bool b => b
  | number n => !n.isZero
  | string s => s ≠ ""
  | array items => !items.isEmpty
  | object members => !members.isEmpty

/-- Whether a value is null. -/
def isNull : Json → Bool
  | null => true
  | _ => false

/-- The text of a string value. -/
def string? : Json → Option String
  | string s => some s
  | _ => none

/-- The items of an array value. -/
def array? : Json → Option (List Json)
  | array items => some items
  | _ => none

/-- The word for the kind of a value. -/
def kind : Json → String
  | null => "null"
  | bool _ => "bool"
  | number _ => "number"
  | string _ => "string"
  | array _ => "array"
  | object _ => "object"

end Json

end AccessControl
