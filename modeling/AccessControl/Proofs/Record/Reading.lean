import AccessControl.Proofs.Success
import AccessControl.Record.Basic
/-!
# Reading the attributes of a record

An attribute is read under its keys one after the other; a key that is absent or null is passed
over, and the first other value decides.

* `firstPresent?_cons_of_not_absent`, `firstPresent?_cons_of_absent` : what one more key does.
* `Record.stored?_of_get?_writeKey` : the key under which an attribute is written decides.
* `Record.read?_eq_some_iff`, `Record.read?_eq_none_iff`, `Record.require_eq_ok_iff` : what a
  successful reading says about the members; `Record.read?_eq_error_iff` : what a failed one says.
* `Record.firstPresent?_of_read?_string`, `Record.exists_itemsUnder?_of_read?_list` : a text and a
  list are read from what is under their keys.
-/

namespace AccessControl

/-- The first value other than null under some keys. -/
def firstPresent? (m : Entries Json) (keys : List String) : Option Json :=
  keys.findSome? fun k => (m.get? k).filter fun v => !v.isNull

/-- The items of the array under some keys; none where there is nothing but null.  There is no
answer where the value is no array. -/
def itemsUnder? (m : Entries Json) (keys : List String) : Option (List Json) :=
  ((firstPresent? m keys).getD (.array [])).array?

/-- A key under which there is nothing or null. -/
def Absent (m : Entries Json) (k : String) : Prop := m.get? k = none ∨ m.get? k = some .null

section FirstPresent

variable {m : Entries Json} {k : String} {v : Json}

theorem Json.isNull_eq_false_iff : v.isNull = false ↔ v ≠ .null := by
  cases v <;> simp [Json.isNull]

theorem firstPresent?_cons_of_ne_null (h : m.get? k = some v) (hv : v ≠ .null)
    (keys : List String) : firstPresent? m (k :: keys) = some v := by
  have hnull := Json.isNull_eq_false_iff.2 hv
  rw [firstPresent?, List.findSome?_cons, h, Option.filter_some_pos (by simp [hnull])]

/-- A key that is absent or null is passed over. -/
theorem firstPresent?_cons_of_absent (h : Absent m k) (keys : List String) :
    firstPresent? m (k :: keys) = firstPresent? m keys := by
  rw [firstPresent?, List.findSome?_cons]
  rcases h with h | h <;> rw [h] <;> rfl

/-- A key that is neither absent nor null decides. -/
theorem firstPresent?_cons_of_not_absent (h : ¬ Absent m k) (keys : List String) :
    firstPresent? m (k :: keys) = m.get? k := by
  rw [Absent, not_or] at h
  obtain ⟨v, hv⟩ := Option.ne_none_iff_exists'.1 h.1
  have hnull : v ≠ .null := fun e => h.2 (hv.trans (congrArg some e))
  rw [firstPresent?_cons_of_ne_null hv hnull, hv]

theorem firstPresent?_eq_some {keys : List String} (h : firstPresent? m keys = some v) :
    v ≠ .null ∧ ∃ k ∈ keys, m.get? k = some v := by
  obtain ⟨k, hk, hget⟩ := List.exists_of_findSome?_eq_some h
  obtain ⟨hget, hnull⟩ := Option.filter_eq_some_iff.1 hget
  exact ⟨Json.isNull_eq_false_iff.1 (by simpa using hnull), k, hk, hget⟩

theorem firstPresent?_concat_of_mem {keys : List String} (h : k ∈ keys) :
    firstPresent? m (keys ++ [k]) = firstPresent? m keys := by
  rw [firstPresent?, firstPresent?, List.findSome?_append]
  cases hfirst : keys.findSome? fun k => (m.get? k).filter fun v => !v.isNull with
  | none =>
    rw [List.findSome?_eq_none_iff] at hfirst
    rw [List.findSome?_singleton, hfirst k h, Option.none_or]
  | some v => rw [Option.some_or]

end FirstPresent

namespace Record

variable {s : Schema} {r : Record s} {attr : String} {α : Type} {decoder : Decoder α} {a : α}

theorem stored?_eq_firstPresent? (r : Record s) (attr : String) :
    r.stored? attr = firstPresent? r.raw (s.readKeys attr) := rfl

/-- A value other than null where an attribute is written is the attribute's value, whatever its
other keys hold. -/
theorem stored?_of_get?_writeKey {v : Json} (h : r.raw.get? (s.writeKey attr) = some v)
    (hv : v ≠ .null) : r.stored? attr = some v := by
  obtain ⟨rest, hkeys⟩ := s.exists_readKeys_eq_cons attr
  rw [stored?_eq_firstPresent?, hkeys, firstPresent?_cons_of_ne_null h hv]

/-- An attribute reads as a value iff what it resolves to decodes to it. -/
theorem read?_eq_some_iff :
    r.read? decoder attr = .ok (some a) ↔ ∃ v, r.get? attr = some v ∧ decoder v = .ok a := by
  unfold read?
  cases r.get? attr with
  | none => simp
  | some v => cases hv : decoder v <;> simp [hv]

/-- An attribute reads as nothing iff it resolves to nothing. -/
theorem read?_eq_none_iff : r.read? decoder attr = .ok none ↔ r.get? attr = none := by
  unfold read?
  cases r.get? attr with
  | none => simp
  | some v => cases hv : decoder v <;> simp [hv]

/-- An attribute does not read iff it resolves to a value that does not decode. -/
theorem read?_eq_error_iff {fault : RecordFault} :
    r.read? decoder attr = .error fault ↔
      ∃ v m, r.get? attr = some v ∧ decoder v = .error m ∧ fault = .invalid s.entity attr m := by
  unfold read?
  cases r.get? attr with
  | none => simp
  | some v => cases hv : decoder v <;> simp [hv, eq_comm]

/-- An attribute that must have a value is read iff it reads as one. -/
theorem require_eq_ok_iff :
    r.require decoder attr = .ok a ↔ r.read? decoder attr = .ok (some a) := by
  rw [require, bind_eq_ok_iff]
  constructor
  · rintro ⟨_ | a', hread, h⟩
    · cases h
    · cases h
      exact hread
  · exact fun h => ⟨some a, h, rfl⟩

theorem get?_eq_firstPresent? (hfallback : s.fallback? attr = none) :
    r.get? attr = firstPresent? r.raw (s.readKeys attr) := by
  rw [get?, hfallback, Option.or_none, stored?_eq_firstPresent?]

theorem read?_string_eq_ok_iff {text? : Option String} :
    r.read? .string attr = .ok text? ↔ r.get? attr = text?.map .string := by
  cases text? with
  | none => exact read?_eq_none_iff
  | some text =>
    rw [read?_eq_some_iff, Option.map_some]
    constructor
    · rintro ⟨v, hv, htext⟩
      rw [hv]
      cases v <;> cases htext
      rfl
    · exact fun h => ⟨_, h, rfl⟩

/-- A text is read from a string value, if there is no other value to fall back to. -/
theorem firstPresent?_of_read?_string (hfallback : s.fallback? attr = none)
    {text? : Option String} (h : r.read? .string attr = .ok text?) :
    firstPresent? r.raw (s.readKeys attr) = text?.map .string := by
  rw [← get?_eq_firstPresent? hfallback, read?_string_eq_ok_iff.1 h]

/-! ### Lists -/

variable {item : Decoder α}

theorem itemsUnder?_readKeys (hfallback : (s.fallback? attr).getD (.array []) = .array []) :
    itemsUnder? r.raw (s.readKeys attr) = ((r.get? attr).getD (.array [])).array? := by
  rw [itemsUnder?, get?, stored?_eq_firstPresent?]
  cases firstPresent? r.raw (s.readKeys attr) with
  | none => rw [Option.none_or, hfallback, Option.getD_none]
  | some v => rfl

/-- A list is read from the items under its keys. -/
theorem exists_itemsUnder?_of_read?_list
    (hfallback : (s.fallback? attr).getD (.array []) = .array []) {as? : Option (List α)}
    (h : r.read? (.list item) attr = .ok as?) :
    ∃ items, itemsUnder? r.raw (s.readKeys attr) = some items ∧
      items.mapM item = .ok (as?.getD []) := by
  rw [itemsUnder?_readKeys hfallback]
  cases as? with
  | none =>
    rw [read?_eq_none_iff.1 h]
    exact ⟨[], rfl, rfl⟩
  | some as =>
    -- what decodes to a list can only be an array
    obtain ⟨v, hv, hlist⟩ := read?_eq_some_iff.1 h
    obtain ⟨items, rfl, hitems⟩ := Decoder.list_eq_ok_iff.1 hlist
    exact ⟨items, by rw [hv]; rfl, Decoder.mapM_eq_ok_iff.2 hitems⟩

theorem read?_set [Ord α] [Std.TransOrd α] (r : Record s) (attr : String) :
    r.read? (.set item) attr = (r.read? (.list item) attr).map (Option.map SortedSet.ofList) := by
  unfold read?
  cases r.get? attr with
  | none => rfl
  | some v =>
    simp only [Decoder.set]
    cases Decoder.list item v <;> rfl

end Record

theorem Decoder.mapM_string_eq_ok_iff {items : List Json} {texts : List String} :
    items.mapM Decoder.string = .ok texts ↔ items = texts.map .string := by
  rw [mapM_eq_ok_iff]
  constructor
  · intro h
    induction items generalizing texts with
    | nil => cases texts <;> simp_all
    | cons v rest ih =>
      cases texts with
      | nil => cases h
      | cons text texts =>
        obtain ⟨hv, hrest⟩ := List.cons.inj h
        rw [List.map_cons, ← ih hrest]
        cases v <;> cases hv
        rfl
  · rintro rfl
    rw [List.map_map]
    rfl

end AccessControl
