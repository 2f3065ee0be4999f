import AccessControl.Json.Printer
import AccessControl.Ordered.Set
import AccessControl.Text.Quoted
/-!
# Decoding wire values

A decoder takes a wire value to a value of some type or says how the two do not match.  Nothing is
coerced: a number is no text, a double is no integer.  A list is decoded item by item and fails with
its first item that fails.

* `Decoder.list_eq_ok_iff` : a list decodes iff each of its items does.
-/

namespace AccessControl

-- Powers are those of the core library, also where other libraries bring their own.
attribute [local instance (high)] instPowNat

/-- How a wire value fails to match what was expected. -/
inductive Mismatch where
  /-- A value of another kind. -/
  | kind (found : Json) (expected : String)
  /-- An integer outside the range of the expected type. -/
  | range (found : WordInt) (expected : String)
  /-- A text that is none of the permitted ones. -/
  | choice (found : String) (permitted : List String)
  /-- An object that should have had the chosen name as its only key. -/
  | singleKey
  /-- An object without a key that it must have. -/
  | missing (key : String)
  /-- A list with fewer items than it must have. -/
  | tooShort (found : Nat) (expected : String)
  /-- A list with more items than it may have. -/
  | tooLong (found : Nat)

namespace Mismatch

/-- A wire value in the words of a mismatch. -/
def describe : Json → String
  | .null => "null"
  | .bool b => "boolean `" ++ (if b then "true" else "false") ++ "`"
  | .number (.int n) => "integer `" ++ toString n.1 ++ "`"
  | .number (.double x) => "floating point `" ++ x.text ++ "`"
  | .string s => "string " ++ Quoted.encode s
  | .array _ => "sequence"
  | .object _ => "map"

/-- What a mismatch is in words. -/
def message : Mismatch → String
  | kind found expected => "invalid type: " ++ describe found ++ ", expected " ++ expected
  | range found expected =>
    "invalid value: integer `" ++ toString found.1 ++ "`, expected " ++ expected
  | choice found permitted =>
    "unknown variant `" ++ found ++ "`, expected " ++
      " or ".intercalate (permitted.map fun s => "`" ++ s ++ "`")
  | singleKey => "invalid value: map, expected map with a single key"
  | missing key => "missing field `" ++ key ++ "`"
  | tooShort found expected => "invalid length " ++ toString found ++ ", expected " ++ expected
  | tooLong found =>
    "invalid length " ++ toString found ++ ", expected fewer elements in array"

end Mismatch

/-- A reading of wire values as values of a type. -/
abbrev Decoder (α : Type) := Json → Except Mismatch α

namespace Decoder

/-- Any value, as it is. -/
def json : Decoder Json := .ok

/-- A truth value. -/
def bool : Decoder Bool
  | .bool b => .ok b
  | v => .error (.kind v "a boolean")

/-- A text. -/
def string : Decoder String
  | .string s => .ok s
  | v => .error (.kind v "a string")

/-- A text, or nothing for null. -/
def optionalString : Decoder (Option String)
  | .null => .ok none
  | v => (string v).map some

/-- An integer between two bounds, under the name of its type. -/
def integer (low high : Int) (type : String) : Decoder Int
  | .number (.int n) => if low ≤ n.1 ∧ n.1 ≤ high then .ok n.1 else .error (.range n type)
  | v => .error (.kind v type)

/-- A signed word of 64 bits. -/
def int64 : Decoder Int := integer (-2 ^ (63 : Nat)) (2 ^ (63 : Nat) - 1) "i64"

/-- An octet. -/
def octet : Decoder Nat := fun v => (integer 0 255 "u8" v).map Int.toNat

/-- A list of what another decoder reads. -/
def list {α : Type} (item : Decoder α) : Decoder (List α)
  | .array items => items.mapM item
  | v => .error (.kind v "a sequence")

/-- A set of what another decoder reads, in any order and with repetitions. -/
def set {α : Type} [Ord α] [Std.TransOrd α] (item : Decoder α) : Decoder (SortedSet α) :=
  fun v => (list item v).map SortedSet.ofList

/-- One of some named alternatives, by its name. -/
def pick {α : Type} (alternatives : List (String × α)) (name : String) : Except Mismatch α :=
  match alternatives.lookup name with
  | some a => .ok a
  | none => .error (.choice name (alternatives.map Prod.fst))

/-- One of some named alternatives: its name as a text, or an object with the name as its only key
and null under it. -/
def choice {α : Type} (alternatives : List (String × α)) : Decoder α
  | .string name => pick alternatives name
  | .object members =>
    match (Json.entries members).toList with
    | [(name, v)] => do
      let a ← pick alternatives name
      match v with
      | .null => .ok a
      | v => .error (.kind v "unit")
    | _ => .error .singleKey
  | v => .error (.kind v "string or map")

/-! ### Lists -/

theorem mapM_eq_ok_iff {α β ε : Type} {f : α → Except ε β} {xs : List α} {ys : List β} :
    xs.mapM f = .ok ys ↔ xs.map f = ys.map .ok := by
  induction xs generalizing ys with
  | nil =>
    rw [List.mapM_nil]
    constructor
    · intro h; cases h; rfl
    · intro h; cases ys with
      | nil => rfl
      | cons y _ => simp at h
  | cons x rest ih =>
    rw [List.mapM_cons]
    constructor
    · intro h
      cases hx : f x with
      | error e => rw [hx] at h; cases h
      | ok y =>
        cases hr : rest.mapM f with
        | error e => rw [hx, hr] at h; cases h
        | ok zs => rw [hx, hr] at h; cases h; simp [hx, ih.1 hr]
    · intro h
      cases ys with
      | nil => simp at h
      | cons y zs =>
        simp only [List.map_cons, List.cons.injEq] at h
        rw [h.1, ih.2 h.2]; rfl

/-- A list decodes to the decodings of its items, and only if each of them decodes. -/
theorem list_eq_ok_iff {α : Type} {item : Decoder α} {v : Json} {xs : List α} :
    list item v = .ok xs ↔ ∃ items, v = .array items ∧ items.map item = xs.map .ok := by
  cases v <;> simp [list, mapM_eq_ok_iff]

end Decoder

end AccessControl
