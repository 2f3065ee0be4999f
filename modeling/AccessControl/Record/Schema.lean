import AccessControl.Json.Basic
/-!
# Schemas of wire records

A schema says how the attributes of an entity are found in its wire form: which keys stand for which
attribute, what an attribute falls back to when no key gives it a value, and which attributes the
items of the positional form stand for.

* `Schema.head?_readKeys` : an attribute is looked for first where it is written.
-/

namespace AccessControl

/-- How the attributes of an entity are laid out on the wire. -/
structure Schema where
  /-- The entity's name in messages. -/
  entity : String
  /-- Wire keys, each with the attribute that it stands for.  The first key of an attribute is the
  one under which it is written. -/
  aliases : List (String × String) := []
  /-- Attributes, each with its value where the wire gives none.  The first entry of an attribute
  counts. -/
  fallbacks : List (String × Json) := []
  /-- The attributes of the positional form, in order. -/
  positions : List String := []

namespace Schema

/-- The key under which an attribute is written. -/
def writeKey (s : Schema) (attr : String) : String :=
  match s.aliases.find? fun e => e.2 = attr with
  | some e => e.1
  | none => attr

/-- The keys under which an attribute is looked for, in order: its aliases, then its own name. -/
def readKeys (s : Schema) (attr : String) : List String :=
  (s.aliases.filter fun e => e.2 = attr).map Prod.fst ++ [attr]

/-- The value of an attribute where the wire gives none; a null counts as none. -/
def fallback? (s : Schema) (attr : String) : Option Json :=
  (s.fallbacks.lookup attr).filter fun v => !v.isNull

/-- An attribute is looked for first where it is written. -/
theorem head?_readKeys (s : Schema) (attr : String) :
    (s.readKeys attr).head? = some (s.writeKey attr) := by
  rw [readKeys, writeKey, ← List.head?_filter]
  cases s.aliases.filter fun e => e.2 = attr <;> rfl

theorem mem_readKeys {s : Schema} {attr k : String} :
    k ∈ s.readKeys attr ↔ (k, attr) ∈ s.aliases ∨ k = attr := by
  simp [readKeys]

theorem exists_readKeys_eq_cons (s : Schema) (attr : String) :
    ∃ rest, s.readKeys attr = s.writeKey attr :: rest :=
  List.head?_eq_some_iff.1 (s.head?_readKeys attr)

end Schema

end AccessControl
