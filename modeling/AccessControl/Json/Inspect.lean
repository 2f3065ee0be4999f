import AccessControl.Json.Printer
import AccessControl.Text.Quoted
/-!
# Wire values in diagnostics

The diagnostic form of a value names the kind of every value in it, as in
`Object {"k": Array [Number(1), String("x")]}`, and quotes texts as messages do.
-/

namespace AccessControl.Json

mutual

/-- The diagnostic form of a value. -/
def inspect : Json → String
  | null => "Null"
  | bool b => "Bool(" ++ (if b then "true" else "false") ++ ")"
  | number n => "Number(" ++ n.text ++ ")"
  | string s => "String(" ++ Quoted.encode s ++ ")"
  | array items => "Array [" ++ ", ".intercalate (inspectItems items) ++ "]"
  | object members => "Object \x7b" ++ ", ".intercalate (inspectMembers members) ++ "\x7d"

/-- The diagnostic forms of the items of an array. -/
def inspectItems : List Json → List String
  | [] => []
  | x :: rest => x.inspect :: inspectItems rest

/-- The diagnostic forms of the members of an object. -/
def inspectMembers : List (String × Json) → List String
  | [] => []
  | (k, v) :: rest => (Quoted.encode k ++ ": " ++ v.inspect) :: inspectMembers rest

end

end AccessControl.Json
