import AccessControl.Proofs.Call.Sending
import AccessControl.Proofs.Ordered.Entries
import AccessControl.Proofs.Record.Reading
import AccessControl.Proofs.Record.Writing
import Mathlib.Data.List.Induction
import Mathlib.Data.List.Nodup
/-!
# Users and the edits that made them

A user that was built here is known by its history, the list of its edits: what was set last, what
was ever set, and in which order.  What the wire record of the user holds is a function of the
history.

* `Tracks.apply` : an edit keeps a user in step with its history.
* `tracks_applyAll` : every user that is built by edits is in step with them.
* `Tracks.username_eq`, `Tracks.password?_eq`, `Tracks.groups_eq`, `Tracks.roles_eq` : what a user
  in step answers.
-/

namespace AccessControl.User

/-! ### What a history leaves behind -/

/-- A property with a key of its own in the wire record; the roles are kept apart. -/
inductive Property where
  | displayName
  | password
  | groups
  deriving DecidableEq

namespace Property

/-- The attribute of a property. -/
def attr : Property → String
  | displayName => "display_name"
  | password => "password"
  | groups => "groups"

/-- The key of a property on the wire. -/
def key : Property → String
  | displayName => "name"
  | password => "password"
  | groups => "groups"

theorem writeKey_attr (p : Property) : userSchema.writeKey p.attr = p.key := by
  cases p <;> decide

theorem key_injective {p q : Property} (h : p.key = q.key) : p = q := by
  revert h
  cases p <;> cases q <;> decide

theorem key_ne_id (p : Property) : p.key ≠ "id" := by
  cases p <;> decide

theorem key_ne_roles (p : Property) : p.key ≠ "roles" := by
  cases p <;> decide

end Property

namespace Edit

/-- The property that an edit sets; an edit of the roles sets none. -/
def property? : Edit → Option Property
  | displayName _ => some .displayName
  | password _ => some .password
  | groups _ | addGroup _ => some .groups
  | roles _ | addRole _ => none

/-- The name for display that an edit sets. -/
def displayName? : Edit → Option String
  | displayName name => some name
  | _ => none

/-- The password that an edit sets. -/
def password? : Edit → Option String
  | password text => some text
  | _ => none

/-- Whether an edit sets or adds roles. -/
def isRoles : Edit → Bool
  | roles _ | addRole _ => true
  | _ => false

/-- The groups after an edit. -/
def onGroups (s : SortedSet String) : Edit → SortedSet String
  | groups names => .ofList names
  | addGroup name => s.insert name
  | _ => s

/-- The roles after an edit. -/
def onRoles (s : SortedSet Role) : Edit → SortedSet Role
  | roles items => .ofList items
  | addRole role => s.insert role
  | _ => s

end Edit

/-- The name for display that was set last. -/
def lastDisplayName? (edits : List Edit) : Option String :=
  (edits.filterMap Edit.displayName?).getLast?

/-- The password that was set last. -/
def lastPassword? (edits : List Edit) : Option String :=
  (edits.filterMap Edit.password?).getLast?

/-- The groups in the end. -/
def groupsAfter (edits : List Edit) : SortedSet String := edits.foldl Edit.onGroups ∅

/-- The roles in the end. -/
def rolesAfter (edits : List Edit) : SortedSet Role := edits.foldl Edit.onRoles ∅

/-- The properties that were set, in the order in which each was first set. -/
def propertiesSet (edits : List Edit) : List Property :=
  (edits.filterMap Edit.property?).eraseDups

/-! ### Histories that grow -/

variable {name : String} {edits : List Edit} {u : User}

theorem mem_propertiesSet {p : Property} :
    p ∈ propertiesSet edits ↔ ∃ e ∈ edits, e.property? = some p := by
  rw [propertiesSet, List.mem_eraseDups, List.mem_filterMap]

/-- A property comes last when it is first set, and keeps its place ever after. -/
theorem propertiesSet_concat (edits : List Edit) {e : Edit} {p : Property}
    (he : e.property? = some p) :
    propertiesSet (edits ++ [e]) =
      if p ∈ propertiesSet edits then propertiesSet edits else propertiesSet edits ++ [p] := by
  have hsingle : [e].filterMap Edit.property? = [p] := by simp [he]
  simp only [propertiesSet, List.filterMap_append, hsingle, eraseDups_concat, List.mem_eraseDups]

theorem propertiesSet_concat_of_none (edits : List Edit) {e : Edit} (he : e.property? = none) :
    propertiesSet (edits ++ [e]) = propertiesSet edits := by
  simp [propertiesSet, he]

theorem isSome_getLast?_iff {f : Edit → Option String} {p : Property}
    (hf : ∀ e, (f e).isSome ↔ e.property? = some p) :
    (edits.filterMap f).getLast?.isSome ↔ p ∈ propertiesSet edits := by
  rw [List.getLast?_isSome, mem_propertiesSet, Ne, List.filterMap_eq_nil_iff]
  simp only [← hf, not_forall, Option.isSome_iff_ne_none, exists_prop, Ne]

theorem isSome_lastDisplayName?_iff :
    (lastDisplayName? edits).isSome ↔ .displayName ∈ propertiesSet edits :=
  isSome_getLast?_iff fun e => by cases e <;> simp [Edit.displayName?, Edit.property?]

theorem isSome_lastPassword?_iff :
    (lastPassword? edits).isSome ↔ .password ∈ propertiesSet edits :=
  isSome_getLast?_iff fun e => by cases e <;> simp [Edit.password?, Edit.property?]

theorem foldl_eq_self {α β : Type} {f : β → α → β} {b : β} {xs : List α}
    (h : ∀ x ∈ xs, f b x = b) : xs.foldl f b = b := by
  induction xs with
  | nil => rfl
  | cons x rest ih =>
    rw [List.foldl_cons, h x List.mem_cons_self]
    exact ih fun y hy => h y (List.mem_cons_of_mem _ hy)

theorem groupsAfter_of_not_mem (h : .groups ∉ propertiesSet edits) : groupsAfter edits = ∅ := by
  simp only [mem_propertiesSet, not_exists, not_and] at h
  refine foldl_eq_self fun e he => ?_
  have hproperty := h e he
  cases e <;> simp_all [Edit.onGroups, Edit.property?]

theorem rolesAfter_append_of_not_isRoles (edits : List Edit) {edits' : List Edit}
    (h : ∀ e ∈ edits', e.isRoles = false) : rolesAfter (edits ++ edits') = rolesAfter edits := by
  rw [rolesAfter, List.foldl_append]
  refine foldl_eq_self fun e he => ?_
  have hroles := h e he
  cases e <;> simp_all [Edit.onRoles, Edit.isRoles]

theorem rolesAfter_of_not_any (h : edits.any Edit.isRoles = false) : rolesAfter edits = ∅ := by
  rw [List.any_eq_false] at h
  exact rolesAfter_append_of_not_isRoles [] fun e he => Bool.eq_false_iff.2 (h e he)

theorem lastPassword?_append_of_none (edits : List Edit) {edits' : List Edit}
    (h : ∀ e ∈ edits', e.password? = none) :
    lastPassword? (edits ++ edits') = lastPassword? edits := by
  rw [lastPassword?, List.filterMap_append, List.filterMap_eq_nil_iff.2 h, List.append_nil,
    lastPassword?]

/-! ### The wire record of a history -/

/-- What the wire record holds for a property that was set. -/
def storedValue (edits : List Edit) : Property → Json
  | .displayName => .string ((lastDisplayName? edits).getD "")
  | .password => .string ((lastPassword? edits).getD "")
  | .groups => .array ((groupsAfter edits).toList.map .string)

theorem storedValue_concat_of_ne {e : Edit} {p : Property} (he : e.property? ≠ some p) :
    storedValue (edits ++ [e]) p = storedValue edits p := by
  cases p <;> cases e <;>
    simp_all [storedValue, Edit.property?, lastDisplayName?, lastPassword?, groupsAfter,
      Edit.displayName?, Edit.password?, Edit.onGroups]

/-- The members of the wire record of a user with a name and a history. -/
def storedMembers (name : String) (edits : List Edit) : List (String × Json) :=
  ("id", .string name) :: (propertiesSet edits).map fun p => (p.key, storedValue edits p)

/-- A user is in step with a name and a history. -/
structure Tracks (name : String) (edits : List Edit) (u : User) : Prop where
  /-- The members of the wire record are those of the history. -/
  raw : u.record.raw.toList = storedMembers name edits
  /-- Every one of them was written here. -/
  written : ∀ k ∈ u.record.raw.keys, k ∈ u.record.written
  /-- The roles are there once they were set. -/
  roles : u.roles? = if edits.any Edit.isRoles then some (rolesAfter edits) else none

theorem lookup_map_key (f : Property → Json) (ps : List Property) (p : Property) :
    (ps.map fun q => (q.key, f q)).lookup p.key = if p ∈ ps then some (f p) else none := by
  induction ps with
  | nil => rfl
  | cons q rest ih =>
    rw [List.map_cons, lookup_cons_eq_ite, ih]
    by_cases hq : p = q
    · simp [hq]
    · have hkey : p.key ≠ q.key := fun e => hq (Property.key_injective e)
      simp [hq, hkey]

/-- Writing a property changes its value in place, or puts it last. -/
theorem putEntry_map_key {f f' : Property → Json} {p : Property} (hf : ∀ q ≠ p, f' q = f q)
    {ps : List Property} (hnodup : ps.Nodup) :
    putEntry p.key (f' p) (ps.map fun q => (q.key, f q)) =
      (if p ∈ ps then ps else ps ++ [p]).map fun q => (q.key, f' q) := by
  induction ps with
  | nil => simp [putEntry]
  | cons q rest ih =>
    rw [List.nodup_cons] at hnodup
    rw [List.map_cons, putEntry]
    by_cases hq : q = p
    · subst hq
      -- the property does not come again, so nothing after it changes
      have hrest : ∀ r ∈ rest, (r.key, f r) = (r.key, f' r) := by
        intro r hr
        rw [hf r fun e => hnodup.1 (e ▸ hr)]
      simp [List.map_congr_left hrest]
    · -- an entry that is passed over keeps its value, which is the same before and after
      have hkey : q.key ≠ p.key := fun e => hq (Property.key_injective e)
      have hmem : p ∈ q :: rest ↔ p ∈ rest := by simp [Ne.symm hq]
      rw [if_neg hkey, ih hnodup.2, ← hf q hq]
      simp only [hmem]
      split <;> simp

namespace Tracks

theorem nodup_propertiesSet (h : Tracks name edits u) : (propertiesSet edits).Nodup := by
  have hkeys := u.record.raw.nodup
  rw [h.raw, storedMembers, List.map_cons, List.nodup_cons, List.map_map] at hkeys
  exact List.Nodup.of_map _ hkeys.2

theorem get?_key (h : Tracks name edits u) (p : Property) :
    u.record.raw.get? p.key =
      if p ∈ propertiesSet edits then some (storedValue edits p) else none := by
  rw [Entries.get?, h.raw, storedMembers, lookup_cons_eq_ite, if_neg p.key_ne_id, lookup_map_key]

/-- The user has the name of its history. -/
theorem username_eq (h : Tracks name edits u) : u.username = name := by
  have hid : u.record.raw.get? "id" = some (.string name) := by
    rw [Entries.get?, h.raw, storedMembers, lookup_cons_eq_ite, if_pos rfl]
  have hkeys : userSchema.readKeys "username" = ["id", "username"] := by decide
  rw [username, Record.text?, Record.stored?_eq_firstPresent?, hkeys,
    firstPresent?_cons_of_ne_null hid (by simp)]
  rfl

/-- The user has the password of its history. -/
theorem password?_eq (h : Tracks name edits u) : u.password? = lastPassword? edits := by
  have hkeys : userSchema.readKeys "password" = ["password"] := by decide
  have hget : u.record.raw.get? "password" = _ := h.get?_key .password
  rw [password?, Record.text?, Record.stored?_eq_firstPresent?, hkeys]
  by_cases hset : .password ∈ propertiesSet edits
  · obtain ⟨text, htext⟩ := Option.isSome_iff_exists.1 (isSome_lastPassword?_iff.2 hset)
    rw [if_pos hset] at hget
    rw [firstPresent?_cons_of_ne_null hget (by simp [storedValue]), storedValue, htext]
    rfl
  · have hnone : lastPassword? edits = none := by
      rw [← Option.not_isSome_iff_eq_none, isSome_lastPassword?_iff]
      exact hset
    rw [if_neg hset] at hget
    rw [firstPresent?_cons_of_absent (.inl hget), hnone]
    rfl

theorem get?_groups (h : Tracks name edits u) :
    u.record.get? "groups" = some (storedValue edits .groups) := by
  have hkeys : userSchema.readKeys "groups" = ["groups"] := by decide
  have hget : u.record.raw.get? "groups" = _ := h.get?_key .groups
  rw [Record.get?, Record.stored?_eq_firstPresent?, hkeys]
  by_cases hset : .groups ∈ propertiesSet edits
  · rw [if_pos hset] at hget
    rw [firstPresent?_cons_of_ne_null hget (by simp [storedValue])]
    rfl
  · rw [if_neg hset] at hget
    rw [firstPresent?_cons_of_absent (.inl hget), storedValue, groupsAfter_of_not_mem hset]
    rfl

/-- The user has the groups of its history. -/
theorem groups_eq (h : Tracks name edits u) : u.groups = groupsAfter edits := by
  have htexts : textItems (storedValue edits .groups) = (groupsAfter edits).toList := by
    simp [textItems, storedValue, List.filterMap_map, Function.comp_def, Json.string?]
  simp only [groups, h.get?_groups, htexts, SortedSet.ofList_toList]

/-- The user has the roles of its history. -/
theorem roles_eq (h : Tracks name edits u) : u.roles = rolesAfter edits := by
  rw [User.roles, h.roles]
  split
  · rfl
  · rename_i hany
    rw [rolesAfter_of_not_any (by simpa using hany)]
    rfl

end Tracks

/-! ### Edits keep a user in step -/

theorem applyAll_append (u : User) (edits edits' : List Edit) :
    u.applyAll (edits ++ edits') = (u.applyAll edits).applyAll edits' :=
  List.foldl_append

theorem apply_of_property?_eq_some (hgroups : u.groups = groupsAfter edits) {e : Edit}
    {p : Property} (he : e.property? = some p) :
    u.apply e = { u with record := u.record.set p.attr (storedValue (edits ++ [e]) p) } := by
  cases e <;> cases he <;>
    simp [apply, setGroups, storedValue, Property.attr, lastDisplayName?, lastPassword?,
      groupsAfter, Edit.displayName?, Edit.password?, Edit.onGroups, hgroups]

theorem apply_of_property?_eq_none (hroles : u.roles = rolesAfter edits) {e : Edit}
    (he : e.property? = none) :
    u.apply e = { u with roles? := some (rolesAfter (edits ++ [e])) } := by
  cases e <;> cases he <;> simp [apply, rolesAfter, Edit.onRoles, hroles]

theorem isRoles_eq (e : Edit) : e.isRoles = e.property?.isNone := by
  cases e <;> rfl

/-- **An edit keeps a user in step with its history.** -/
theorem Tracks.apply (h : Tracks name edits u) (e : Edit) :
    Tracks name (edits ++ [e]) (u.apply e) := by
  cases he : e.property? with
  | some p =>
    rw [apply_of_property?_eq_some h.groups_eq he]
    have hvalue : ∀ q ≠ p, storedValue (edits ++ [e]) q = storedValue edits q := fun q hq =>
      storedValue_concat_of_ne (by simpa [he] using Ne.symm hq)
    refine ⟨?_, Record.AllWritten.set h.written _ _, ?_⟩
    · -- the name keeps its place in front, since no property has its key
      simp only [Record.set, Property.writeKey_attr, Entries.insert, h.raw, storedMembers, putEntry,
        if_neg p.key_ne_id.symm]
      rw [putEntry_map_key hvalue h.nodup_propertiesSet, propertiesSet_concat edits he]
    · have hroles : rolesAfter (edits ++ [e]) = rolesAfter edits := by
        cases e <;> simp_all [rolesAfter, Edit.onRoles, Edit.property?]
      simp [h.roles, hroles, isRoles_eq e, he]
  | none =>
    rw [apply_of_property?_eq_none h.roles_eq he]
    have hvalue : ∀ q, storedValue (edits ++ [e]) q = storedValue edits q := fun q =>
      storedValue_concat_of_ne (by simp [he])
    refine ⟨?_, h.written, ?_⟩
    · simp only [h.raw, storedMembers, propertiesSet_concat_of_none edits he, hvalue]
    · simp [isRoles_eq e, he]

/-- **Every user that is built by edits is in step with them.** -/
theorem tracks_applyAll (name : String) (edits : List Edit) :
    Tracks name edits ((User.new name).applyAll edits) := by
  -- a history grows at its end, so the last edit is taken off
  induction edits using List.reverseRecOn with
  | nil => exact ⟨rfl, Record.allWritten_empty.set _ _, rfl⟩
  | append_singleton edits e ih =>
    rw [applyAll_append]
    exact ih.apply e

end AccessControl.User
