import AccessControl.Group
import AccessControl.Proofs.Record.Reading
/-!
# Payloads of groups

Two members of an object decide whether it is decoded as a group, and to which name and roles.  All
other members are kept as they came.

* `Group.ofJson_object_eq_ok_iff` : what a payload says that is decoded to a group.
* `Group.get?_kept` : the members that are kept.
* `Group.rolesOfJson_cases` : the roles come from a list or are refused.
-/

namespace AccessControl.Group

variable {members members' : List (String × Json)} {v : Json} {g : Group} {k name : String}

/-- All members but two are kept. -/
theorem get?_kept {m : Entries Json} (hid : k ≠ "id") (hroles : k ≠ "roles") :
    ((m.erase "id").erase "roles").get? k = m.get? k := by
  rw [Entries.get?_erase, if_neg hroles, Entries.get?_erase, if_neg hid]

theorem nameOfJson_eq_ok_iff {id? : Option Json} :
    nameOfJson id? = .ok name ↔ id? = some (.string name) := by
  match id? with
  | none => exact ⟨nofun, nofun⟩
  | some (.string s) => simp [nameOfJson]
  | some .null | some (.bool _) | some (.number _) | some (.array _) | some (.object _) =>
    exact ⟨nofun, nofun⟩

theorem ofJson_object_of_name (h : nameOfJson ((Json.entries members).get? "id") = .ok name) :
    ofJson (.object members) = (rolesOfJson ((Json.entries members).get? "roles")).map fun roles =>
      ⟨name, .received (((Json.entries members).erase "id").erase "roles"), roles⟩ := by
  rw [ofJson, h]
  cases rolesOfJson ((Json.entries members).get? "roles") <;> rfl

/-- A group is decoded from the members for its name and its roles, and holds all others. -/
theorem ofJson_object_eq_ok_iff :
    ofJson (.object members) = .ok g ↔
      nameOfJson ((Json.entries members).get? "id") = .ok g.name ∧
        rolesOfJson ((Json.entries members).get? "roles") = .ok g.roles ∧
        g.record = .received (((Json.entries members).erase "id").erase "roles") := by
  constructor
  · intro h
    obtain ⟨name, hname, hrest⟩ := bind_eq_ok_iff.1 h
    obtain ⟨roles, hroles, hg⟩ := bind_eq_ok_iff.1 hrest
    cases hg
    exact ⟨hname, hroles, rfl⟩
  · rintro ⟨hname, hroles, hrecord⟩
    rw [ofJson_object_of_name hname, hroles, ← hrecord]
    rfl

theorem exists_members_of_ofJson (h : ofJson v = .ok g) :
    ∃ members, v = .object members ∧
      ∀ k, k ≠ "id" → k ≠ "roles" → g.record.raw.get? k = (Json.entries members).get? k := by
  cases v with
  | object members =>
    obtain ⟨-, -, hrecord⟩ := ofJson_object_eq_ok_iff.1 h
    refine ⟨members, rfl, fun k hid hroles => ?_⟩
    rw [hrecord]
    exact get?_kept hid hroles
  | _ => cases h

theorem exists_ofJson_of_get?_eq (h : ofJson (.object members) = .ok g)
    (hid : (Json.entries members').get? "id" = (Json.entries members).get? "id")
    (hroles : (Json.entries members').get? "roles" = (Json.entries members).get? "roles") :
    ∃ g', ofJson (.object members') = .ok g' ∧ g'.name = g.name ∧ g'.roles = g.roles := by
  obtain ⟨hname, hitems, -⟩ := ofJson_object_eq_ok_iff.1 h
  refine ⟨⟨g.name, .received (((Json.entries members').erase "id").erase "roles"), g.roles⟩,
    ofJson_object_eq_ok_iff.2 ⟨?_, ?_, rfl⟩, rfl, rfl⟩
  · rw [hid, hname]
  · rw [hroles, hitems]

/-- The roles of a group are decoded as the list of their wire values, and from nothing else. -/
theorem rolesOfJson_cases (m : Entries Json) :
    (∃ items, itemsUnder? m ["roles"] = some items ∧
      rolesOfJson (m.get? "roles") = (items.mapM Role.ofJson).map SortedSet.ofList) ∨
    itemsUnder? m ["roles"] = none ∧ ∃ fault, rolesOfJson (m.get? "roles") = .error fault := by
  rw [itemsUnder?, firstPresent?, List.findSome?_singleton]
  cases m.get? "roles" with
  | none => exact .inl ⟨[], rfl, rfl⟩
  | some v =>
    cases v with
    | null => exact .inl ⟨[], rfl, rfl⟩
    | array items => exact .inl ⟨items, rfl, rfl⟩
    | _ => exact .inr ⟨rfl, _, rfl⟩

end AccessControl.Group
