import AccessControl.Json.Printer
import AccessControl.Text.Form
/-!
# Wire values in form bodies

The members of an object are sent as the pairs of a form.  A string is sent as it is, null as
nothing, an array as its items with commas between them, and anything else as its text.
-/

namespace AccessControl

namespace Json

mutual

/-- A value as the value of a form's pair. -/
def formText : Json → String
  | null => ""
  | string s => s
  | array items => ",".intercalate (formTexts items)
  | bool b => (Json.bool b).text
  | number n => (Json.number n).text
  | object members => (Json.object members).text

/-- The items of an array as values of a form's pairs. -/
def formTexts : List Json → List String
  | [] => []
  | x :: rest => x.formText :: formTexts rest

end

theorem formTexts_eq_map (items : List Json) : formTexts items = items.map formText := by
  induction items with
  | nil => rfl
  | cons x rest ih => rw [formTexts, ih, List.map_cons]

end Json

/-- The pairs of a form by which members are sent, in their order. -/
def formPairs (members : Entries Json) : List (String × String) :=
  members.toList.map fun e => (e.1, e.2.formText)

/-- The form body by which members are sent. -/
def formBody (members : Entries Json) : String := Form.encode (formPairs members)

end AccessControl
