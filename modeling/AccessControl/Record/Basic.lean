import AccessControl.Json.Decoder
import AccessControl.Json.Inspect
import AccessControl.Record.Schema
/-!
# Wire records

A record holds the members of an entity's wire form as they came, and reads its attributes through
a schema.  It remembers which keys were written on this side: when the record is sent, a value that
does not count as set is left out unless it was written.

* `Record.stored?_eq_of_present?_eq` : an attribute depends only on the values under its keys.
-/

namespace AccessControl

/-- Why a wire record cannot be read. -/
inductive RecordFault where
  /-- The wire form is neither an object nor an array. -/
  | shape (entity : String) (found : Json)
  /-- The positional form has more items than positions. -/
  | tooManyPositions (entity : String) (expected actual : Nat)
  /-- An attribute that must have a value has none. -/
  | missing (entity attr : String)
  /-- The value of an attribute does not decode. -/
  | invalid (entity attr : String) (mismatch : Mismatch)

/-- What is wrong with a record in words. -/
def RecordFault.message : RecordFault → String
  | shape entity found => "expected " ++ entity ++ " as an object or array, got " ++ found.kind
  | tooManyPositions entity expected actual =>
    "too many positional values for " ++ entity ++ ": expected at most " ++ toString expected ++
      ", got " ++ toString actual
  | missing entity attr => "missing field " ++ attr ++ " in " ++ entity
  | invalid entity attr mismatch =>
    "field " ++ attr ++ " in " ++ entity ++ " has an unexpected type: " ++ mismatch.message

/-- The wire form of an entity, with the keys that were written on this side. -/
structure Record (s : Schema) where
  /-- The members as they came or were written. -/
  raw : Entries Json
  /-- The keys that were written on this side. -/
  written : SortedSet String

namespace Record

variable {s : Schema}

/-- A record with no members. -/
def empty : Record s := ⟨∅, ∅⟩

instance : Inhabited (Record s) := ⟨empty⟩

/-! ### Writing -/

/-- The record in which an attribute has a value written on this side. -/
def set (r : Record s) (attr : String) (v : Json) : Record s where
  raw := r.raw.insert (s.writeKey attr) v
  written := r.written.insert (s.writeKey attr)

/-- The record without the value and the mark under an attribute's key. -/
def remove (r : Record s) (attr : String) : Record s where
  raw := r.raw.erase (s.writeKey attr)
  written := r.written.erase (s.writeKey attr)

/-! ### Building -/

/-- The record of members received; none of them counts as written on this side. -/
def received (raw : Entries Json) : Record s := ⟨raw, ∅⟩

/-- The record of attributes with their values, all of them written on this side. -/
def ofAttributes (attrs : List (String × Json)) : Record s :=
  attrs.foldl (fun r e => r.set e.1 e.2) empty

/-- The members that the items of the positional form stand for, each under the key of its position.
Of two positions with the same key the later one gives the value. -/
def positional (s : Schema) (items : List Json) : Entries Json :=
  Entries.ofList ((s.positions.zip items).map fun e => (s.writeKey e.1, e.2))

/-- The record of a received value: an object with the members, or an array with the values of the
positions. -/
def ofJson? : Json → Except RecordFault (Record s)
  | .object members => .ok (received (Json.entries members))
  | .array items =>
    if s.positions.length < items.length then
      .error (.tooManyPositions s.entity s.positions.length items.length)
    else .ok (received (positional s items))
  | v => .error (.shape s.entity v)

/-! ### Reading -/

/-- The value that the members give an attribute: the first under its keys that is not null. -/
def stored? (r : Record s) (attr : String) : Option Json :=
  (s.readKeys attr).findSome? fun k => (r.raw.get? k).filter fun v => !v.isNull

/-- The value of an attribute, else what the schema lets it fall back to. -/
def get? (r : Record s) (attr : String) : Option Json :=
  (r.stored? attr).or (s.fallback? attr)

/-- The text that the members give an attribute. -/
def text? (r : Record s) (attr : String) : Option String := (r.stored? attr).bind Json.string?

/-- The decoded value of an attribute, if it has one. -/
def read? {α : Type} (decoder : Decoder α) (r : Record s) (attr : String) :
    Except RecordFault (Option α) :=
  match r.get? attr with
  | none => .ok none
  | some v =>
    match decoder v with
    | .ok a => .ok (some a)
    | .error e => .error (.invalid s.entity attr e)

/-- The decoded value of an attribute that must have one. -/
def require {α : Type} (decoder : Decoder α) (r : Record s) (attr : String) :
    Except RecordFault α := do
  match ← r.read? decoder attr with
  | some a => .ok a
  | none => .error (.missing s.entity attr)

/-- Whether there is a value, null included, where an attribute is written. -/
def contains (r : Record s) (attr : String) : Bool := r.raw.contains (s.writeKey attr)

/-! ### Sending -/

/-- The members that are sent: those that count as set, and those written on this side. -/
def outgoing (r : Record s) : Entries Json :=
  r.raw.filter fun k v => v.truthy || decide (k ∈ r.written)

/-- Whether two records have the same members; what was written on this side does not count. -/
def equiv (r r' : Record s) : Bool := Json.equivEntries r.raw r'.raw

/-- The diagnostic form of a record. -/
def inspect (r : Record s) : String :=
  s.entity ++ " \x7b raw: \x7b" ++ ", ".intercalate (Json.inspectMembers r.raw.toList) ++
    "\x7d \x7d"

/-! ### What an attribute depends on -/

/-- The value under a key that is not null. -/
def present? (r : Record s) (k : String) : Option Json := (r.raw.get? k).filter fun v => !v.isNull

theorem stored?_eq (r : Record s) (attr : String) :
    r.stored? attr = (s.readKeys attr).findSome? r.present? := rfl

/-- An attribute depends only on the values other than null under its keys. -/
theorem stored?_eq_of_present?_eq {r r' : Record s} {attr : String}
    (h : ∀ k ∈ s.readKeys attr, r.present? k = r'.present? k) :
    r.stored? attr = r'.stored? attr := by
  rw [stored?_eq, stored?_eq]
  generalize s.readKeys attr = ks at h
  induction ks with
  | nil => rfl
  | cons k rest ih =>
    rw [List.findSome?_cons, List.findSome?_cons, h k List.mem_cons_self,
      ih fun k hk => h k (List.mem_cons_of_mem _ hk)]

end Record

end AccessControl
