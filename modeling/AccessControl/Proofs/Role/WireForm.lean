import AccessControl.Proofs.Record.Reading
import AccessControl.Proofs.Role.List
import AccessControl.Role.Wire
/-!
# The wire forms of a role

A role arrives in its string form, as an object that names it, or as an array of its name and
bucket.  These are all the values that are taken for the role, and a role arrives in some of them
iff it has a name.

* `Role.ofJson_eq_ok_iff` : a value is decoded to a role iff it is a wire form of it.
* `Role.exists_wireForm_iff` : the roles that have a wire form are those with a name.
-/

namespace AccessControl.Role

/-- The members of an object name a role. -/
structure NamedBy (r : Role) (m : Entries Json) : Prop where
  name_ne_empty : r.name ≠ ""
  name : firstPresent? m ["role", "name"] = some (.string r.name)
  /-- A bucket that is null or left out is no bucket. -/
  bucket : firstPresent? m ["bucket", "bucket_name"] = r.bucket.map .string

/-- The values that stand for a role. -/
inductive WireForm (r : Role) : Json → Prop where
  /-- The string form, if it reads back. -/
  | text (h : parse r.encode = .ok r) : WireForm r (.string r.encode)
  | object {members : List (String × Json)} (h : NamedBy r (Json.entries members)) :
    WireForm r (.object members)
  /-- The name alone, of a role without a bucket. -/
  | name (hname : r.name ≠ "") (hbucket : r.bucket = none) : WireForm r (.array [.string r.name])
  /-- The name and the bucket, which is null where there is none. -/
  | pair (hname : r.name ≠ "") :
    WireForm r (.array [.string r.name, (r.bucket.map .string).getD .null])

variable {r : Role} {v : Json}

/-! ### Records -/

theorem namedBy_iff {m : Entries Json} :
    NamedBy r m ↔ r.name ≠ "" ∧ firstPresent? m ["role", "name"] = some (.string r.name) ∧
      firstPresent? m ["bucket", "bucket_name"] = r.bucket.map .string :=
  ⟨fun ⟨hne, hname, hbucket⟩ => ⟨hne, hname, hbucket⟩,
    fun ⟨hne, hname, hbucket⟩ => ⟨hne, hname, hbucket⟩⟩

theorem ofRecord_eq_ok_iff_reads {rec : Record schema} :
    ofRecord rec = .ok r ↔ rec.require .string "name" = .ok r.name ∧ r.name ≠ "" ∧
      rec.read? .string "bucket" = .ok r.bucket := by
  rw [ofRecord, bind_eq_ok_iff]
  simp only [mapError_eq_ok_iff]
  constructor
  · rintro ⟨name, hrequire, h⟩
    by_cases hne : name = ""
    · rw [if_pos hne] at h
      cases h
    · rw [if_neg hne] at h
      simp only [bind_eq_ok_iff, mapError_eq_ok_iff, pure_eq_ok_iff] at h
      obtain ⟨bucket, hread, rfl⟩ := h
      exact ⟨hrequire, hne, hread⟩
  · rintro ⟨hrequire, hne, hread⟩
    refine ⟨r.name, hrequire, ?_⟩
    rw [if_neg hne, hread]
    rfl

theorem get?_name (rec : Record schema) :
    rec.get? "name" = firstPresent? rec.raw ["role", "name"] := by
  have hkeys : schema.readKeys "name" = ["role", "name"] := by decide
  rw [Record.get?_eq_firstPresent? rfl, hkeys]

theorem get?_bucket (rec : Record schema) :
    rec.get? "bucket" = firstPresent? rec.raw ["bucket", "bucket_name"] := by
  have hkeys : schema.readKeys "bucket" = ["bucket", "bucket_name"] ++ ["bucket"] := by decide
  rw [Record.get?_eq_firstPresent? rfl, hkeys, firstPresent?_concat_of_mem (by simp)]

theorem ofRecord_eq_ok_iff {rec : Record schema} : ofRecord rec = .ok r ↔ NamedBy r rec.raw := by
  rw [ofRecord_eq_ok_iff_reads, Record.require_eq_ok_iff, Record.read?_string_eq_ok_iff,
    Record.read?_string_eq_ok_iff, get?_name, get?_bucket, namedBy_iff]
  exact and_left_comm

/-! ### Positions -/

/-- The item at a position, if there is one other than null. -/
def presentItem? (items : List Json) (i : Nat) : Option Json := items[i]?.filter fun v => !v.isNull

theorem firstPresent?_positional_name {items : List Json} (h : items.length ≤ 2) :
    firstPresent? (Record.positional schema items) ["role", "name"] = presentItem? items 0 := by
  match items with
  | [] => rfl
  | [v] | [v, _] => cases v <;> rfl
  | _ :: _ :: _ :: _ => simp at h

theorem firstPresent?_positional_bucket {items : List Json} (h : items.length ≤ 2) :
    firstPresent? (Record.positional schema items) ["bucket", "bucket_name"] =
      presentItem? items 1 := by
  match items with
  | [] | [_] => rfl
  | [_, w] => cases w <;> rfl
  | _ :: _ :: _ :: _ => simp at h

/-- An item that is passed over if it is null stands for a text that may be missing. -/
theorem filter_isNull_eq_iff {v : Json} {text? : Option String} :
    ((some v).filter fun v => !v.isNull) = text?.map .string ↔
      v = (text?.map .string).getD .null := by
  cases v <;> cases text? <;> simp [Json.isNull, Option.filter]

theorem namedBy_positional_iff {items : List Json} (h : items.length ≤ 2) :
    NamedBy r (Record.positional schema items) ↔ WireForm r (.array items) := by
  have hname : ∀ {v : Json}, ((some v).filter fun v => !v.isNull) = (some r.name).map .string ↔
      v = .string r.name := filter_isNull_eq_iff
  rw [namedBy_iff, firstPresent?_positional_name h, firstPresent?_positional_bucket h]
  match items with
  | [] => exact ⟨fun ⟨_, hn, _⟩ => absurd hn nofun, nofun⟩
  | [v] =>
    constructor
    · rintro ⟨hne, hn, hb⟩
      obtain rfl := hname.1 hn
      exact .name hne (Option.map_eq_none_iff.1 hb.symm)
    · rintro ⟨⟩
      rename_i hne hnone
      exact ⟨hne, rfl, by rw [hnone]; rfl⟩
  | [v, w] =>
    constructor
    · rintro ⟨hne, hn, hb⟩
      obtain rfl := hname.1 hn
      obtain rfl := filter_isNull_eq_iff.1 hb
      exact .pair hne
    · rintro ⟨⟩
      rename_i hne
      exact ⟨hne, rfl, filter_isNull_eq_iff.2 rfl⟩
  | _ :: _ :: _ :: _ => simp at h

/-! ### Decoding -/

theorem ofJson_array_of_le {items : List Json} (h : items.length ≤ 2) :
    ofJson (.array items) = ofRecord (.received (Record.positional schema items)) := by
  have hlength : ¬ schema.positions.length < items.length := not_lt.2 h
  simp only [ofJson, Record.ofJson?, if_neg hlength]
  rfl

theorem ofJson_array_of_lt {items : List Json} (h : 2 < items.length) :
    ofJson (.array items) = .error (.record (.tooManyPositions "role" 2 items.length)) := by
  have hlength : schema.positions.length < items.length := h
  simp only [ofJson, Record.ofJson?, if_pos hlength]
  rfl

/-- **A value is decoded to a role iff it is a wire form of it.** -/
theorem ofJson_eq_ok_iff : ofJson v = .ok r ↔ WireForm r v := by
  cases v with
  | string s =>
    rw [ofJson, mapError_eq_ok_iff]
    constructor
    · intro h
      obtain rfl := encode_of_parse h
      exact .text h
    · intro h
      cases h
      assumption
  | object members =>
    have hrecord : ofJson (.object members) = ofRecord (.received (Json.entries members)) := rfl
    rw [hrecord, ofRecord_eq_ok_iff]
    exact ⟨.object, fun h => by cases h; assumption⟩
  | array items =>
    by_cases h : items.length ≤ 2
    · rw [ofJson_array_of_le h, ofRecord_eq_ok_iff]
      exact namedBy_positional_iff h
    · rw [ofJson_array_of_lt (by omega)]
      refine ⟨nofun, fun hform => ?_⟩
      cases hform <;> simp at h
  | _ => exact ⟨nofun, nofun⟩

/-- The roles that have a wire form are those with a name. -/
theorem exists_wireForm_iff : (∃ v, WireForm r v) ↔ r.name ≠ "" := by
  constructor
  · rintro ⟨v, h⟩
    cases h with
    | text h => exact name_ne_empty_of_parse h
    | object h => exact h.name_ne_empty
    | name hname => exact hname
    | pair hname => exact hname
  · exact fun hname => ⟨_, .pair hname⟩

end AccessControl.Role
