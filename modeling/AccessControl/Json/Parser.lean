import AccessControl.Json.Token
/-!
# Reading wire text

The words of a text are put together to one value.  The reader keeps the arrays and objects that are
still open on a stack, so reading is a fold over the words.  A key that is written twice keeps its
first place and takes its last value.
-/

namespace AccessControl.Json

/-- An array or object that is still open. -/
inductive Frame where
  /-- The items read so far, in reverse. -/
  | array (items : List Json)
  /-- The members read so far, and the key whose value is being read. -/
  | object (members : Entries Json) (key : String)

/-- What may come next. -/
inductive Expect where
  /-- A value. -/
  | value
  /-- A value, or the end of the array just opened. -/
  | firstItem
  /-- A key, or the end of the object just opened. -/
  | firstKey
  /-- A key of the object with these members. -/
  | key (members : Entries Json)
  /-- The colon after a key of the object with these members. -/
  | colon (members : Entries Json) (key : String)
  /-- A comma or a closing bracket after a value. -/
  | after (v : Json)

/-- The effect of one word on what is open and on what may come next. -/
def parseStep : List Frame × Expect → Token → Option (List Frame × Expect)
  | (stack, .value), t => startValue stack t
  | (stack, .firstItem), t =>
    match t with
    | .closeArray => some (stack.tail, .after (.array []))
    | t => startValue stack t
  | (stack, .firstKey), t =>
    match t with
    | .closeObject => some (stack, .after (.object []))
    | .string k => some (stack, .colon ∅ k)
    | _ => none
  | (stack, .key members), t =>
    match t with
    | .string k => some (stack, .colon members k)
    | _ => none
  | (stack, .colon members k), t =>
    match t with
    | .colon => some (.object members k :: stack, .value)
    | _ => none
  | (.array items :: stack, .after v), t =>
    match t with
    | .comma => some (.array (v :: items) :: stack, .value)
    | .closeArray => some (stack, .after (.array (v :: items).reverse))
    | _ => none
  | (.object members k :: stack, .after v), t =>
    match t with
    | .comma => some (stack, .key (members.insert k v))
    | .closeObject => some (stack, .after (.ofEntries (members.insert k v)))
    | _ => none
  | ([], .after _), _ => none
where
  /-- The effect of a word where a value starts. -/
  startValue (stack : List Frame) : Token → Option (List Frame × Expect)
    | .openArray => some (.array [] :: stack, .firstItem)
    | .openObject => some (stack, .firstKey)
    | .string s => some (stack, .after (.string s))
    | .scalar v => some (stack, .after v)
    | _ => none

/-- The value that some words form. -/
def ofTokens? (tokens : List Token) : Option Json := do
  match ← tokens.foldlM parseStep ([], .value) with
  | ([], .after v) => some v
  | _ => none

/-- The value of a text. -/
def parse? (s : String) : Option Json := do ofTokens? (← tokens? s.toList)

end AccessControl.Json
