import AccessControl.Group
import AccessControl.Proofs.Record.Reading
/-!
# What a group shows

Groups that come from different places hold different wire records: an empty text may be there, be
null or be left out, and a key may have been written here or not.  All that a group answers and
sends is a function of its profile, and changes of the group are changes of the profile.

* `Shows.applyAll` : changes keep a group in step with its profile.
* `Shows.description_eq`, `Shows.ldapReference_eq`, `Shows.get?_toMembers` : what a group answers
  and sends, from its profile.
* `Shows.tidy` : a group that has a profile sends tidy members.
-/

namespace AccessControl.Group

/-! ### Texts -/

/-- The members of an object hold a text under a key; an empty text may also be null or left out. -/
def HoldsText (m : Entries Json) (k text : String) : Prop :=
  m.get? k = some (.string text) ∨ text = "" ∧ Absent m k

section HoldsText

variable {m m' : Entries Json} {k k' text : String} {v : Json}

theorem holdsText_insert : HoldsText (m.insert k (.string text)) k text :=
  .inl (by rw [Entries.get?_insert, if_pos rfl])

theorem HoldsText.of_get?_eq (h : HoldsText m k text) (hget : m'.get? k = m.get? k) :
    HoldsText m' k text := by
  simpa only [HoldsText, Absent, hget] using h

theorem HoldsText.insert_of_ne (h : HoldsText m k text) (hne : k ≠ k') :
    HoldsText (m.insert k' v) k text :=
  h.of_get?_eq (by rw [Entries.get?_insert, if_neg hne])

theorem HoldsText.filter_get? (h : HoldsText m k text) :
    (m.get? k).filter Json.truthy = if text = "" then none else some (.string text) := by
  rcases h with h | ⟨rfl, h | h⟩ <;> rw [h]
  · by_cases hempty : text = "" <;> simp [Json.truthy, Option.filter, hempty]
  · rfl
  · rfl

end HoldsText

/-! ### Profiles -/

/-- What a group says about itself. -/
structure Profile where
  name : String
  description : String
  ldapReference : String
  roles : SortedSet Role

namespace Profile

/-- The profile of a group of which only the name is set. -/
def new (name : String) : Profile := ⟨name, "", "", ∅⟩

/-- The profile after a change. -/
def apply (p : Profile) : Edit → Profile
  | .description text => { p with description := text }
  | .ldapReference reference => { p with ldapReference := reference }
  | .roles roles => { p with roles := .ofList roles }
  | .addRole role => { p with roles := p.roles.insert role }

/-- The profile after some changes, one after the other. -/
def applyAll (p : Profile) (edits : List Edit) : Profile := edits.foldl apply p

/-- What a group with a profile sends under a key: the roles always, a text unless it is empty, and
nothing else. -/
def sent? (p : Profile) (k : String) : Option Json :=
  if k = "roles" then some (rolesToJson p.roles)
  else if k = "description" then if p.description = "" then none else some (.string p.description)
  else if k = "ldap_group_ref" then
    if p.ldapReference = "" then none else some (.string p.ldapReference)
  else none

end Profile

/-- A group has a profile. -/
structure Shows (g : Group) (p : Profile) : Prop where
  name : g.name = p.name
  description : HoldsText g.record.raw "description" p.description
  ldapReference : HoldsText g.record.raw "ldap_group_ref" p.ldapReference
  roles : g.roles = p.roles
  /-- Nothing else is held. -/
  other : ∀ k, k ≠ "description" → k ≠ "ldap_group_ref" → g.record.raw.get? k = none

theorem shows_new (name : String) : Shows (new name) (.new name) :=
  ⟨rfl, .inr ⟨rfl, .inl rfl⟩, .inr ⟨rfl, .inl rfl⟩, rfl, fun _ _ _ => rfl⟩

variable {g : Group} {p : Profile}

/-- **A change of a group is a change of its profile.** -/
theorem Shows.apply (h : Shows g p) (e : Edit) : Shows (g.apply e) (p.apply e) := by
  have hdescription : groupSchema.writeKey "description" = "description" := by decide
  have hldap : groupSchema.writeKey "ldap_group_reference" = "ldap_group_ref" := by decide
  cases e with
  | description text =>
    refine ⟨h.name, ?_, ?_, h.roles, fun k hk hk' => ?_⟩ <;>
      simp only [Group.apply, Record.set, hdescription]
    · exact holdsText_insert
    · exact h.ldapReference.insert_of_ne (by decide)
    · rw [Entries.get?_insert, if_neg hk, h.other k hk hk']
  | ldapReference reference =>
    refine ⟨h.name, ?_, ?_, h.roles, fun k hk hk' => ?_⟩ <;>
      simp only [Group.apply, Record.set, hldap]
    · exact h.description.insert_of_ne (by decide)
    · exact holdsText_insert
    · rw [Entries.get?_insert, if_neg hk', h.other k hk hk']
  | roles roles => exact ⟨h.name, h.description, h.ldapReference, rfl, h.other⟩
  | addRole role =>
    exact ⟨h.name, h.description, h.ldapReference, congrArg (·.insert role) h.roles, h.other⟩

/-- Changes keep a group in step with its profile. -/
theorem Shows.applyAll (h : Shows g p) (edits : List Edit) :
    Shows (g.applyAll edits) (p.applyAll edits) := by
  induction edits generalizing g p with
  | nil => exact h
  | cons e rest ih => exact ih (h.apply e)

/-! ### What a group answers -/

theorem text_eq_of_holdsText {attr k text : String} {keys : List String}
    (hkeys : groupSchema.readKeys attr = k :: keys)
    (hfallback : groupSchema.fallback? attr = some (.string ""))
    (h : HoldsText g.record.raw k text) (hrest : ∀ k' ∈ keys, g.record.raw.get? k' = none) :
    g.text attr = text := by
  have hnone : firstPresent? g.record.raw keys = none := by
    rw [firstPresent?, List.findSome?_eq_none_iff]
    intro k' hk'
    rw [hrest k' hk']
    rfl
  rw [Group.text, Record.get?, Record.stored?_eq_firstPresent?, hkeys, hfallback]
  rcases h with h | ⟨rfl, h⟩
  · rw [firstPresent?_cons_of_ne_null h (by simp)]
    rfl
  · rw [firstPresent?_cons_of_absent h, hnone]
    rfl

theorem Shows.description_eq (h : Shows g p) : g.description = p.description := by
  have hkeys : groupSchema.readKeys "description" = ["description"] := by decide
  exact text_eq_of_holdsText hkeys rfl h.description (by simp)

theorem Shows.ldapReference_eq (h : Shows g p) : g.ldapReference = p.ldapReference := by
  have hkeys : groupSchema.readKeys "ldap_group_reference" =
      ["ldap_group_ref", "ldap_group_reference"] := by decide
  exact text_eq_of_holdsText hkeys rfl h.ldapReference (by simp [h.other])

/-! ### What a group sends -/

/-- A group sends what its profile says. -/
theorem Shows.get?_toMembers (h : Shows g p) (k : String) : g.toMembers.get? k = p.sent? k := by
  rw [Group.get?_toMembers, Profile.sent?, h.roles]
  by_cases hroles : k = "roles"
  · rw [if_pos hroles, if_pos hroles]
  by_cases hdescription : k = "description"
  · subst hdescription
    rw [if_neg hroles, if_neg hroles, if_pos rfl, h.description.filter_get?]
  by_cases hldap : k = "ldap_group_ref"
  · subst hldap
    rw [if_neg hroles, if_neg hroles, if_neg hdescription, if_pos rfl, h.ldapReference.filter_get?]
  · rw [if_neg hroles, if_neg hroles, if_neg hdescription, if_neg hldap,
      h.other k hdescription hldap, Option.filter_none]

/-- The members that are sent have the roles last, as an empty array iff there are none, and nothing
else that does not count as set. -/
structure Tidy (g : Group) : Prop where
  last : g.toMembers.keys.getLast? = some "roles"
  empty_iff : g.toMembers.get? "roles" = some (.array []) ↔ g.roles = ∅
  truthy : ∀ k v, k ≠ "roles" → g.toMembers.get? k = some v → v.truthy

theorem rolesToJson_eq_iff {roles : SortedSet Role} :
    rolesToJson roles = .array [] ↔ roles = ∅ := by
  rw [rolesToJson]
  constructor
  · intro h
    split at h
    · rename_i hempty
      exact SortedSet.toList_eq_nil_iff.1 (List.isEmpty_iff.1 hempty)
    · cases h
  · rintro rfl
    rfl

/-- **A group that has a profile sends tidy members.** -/
theorem Shows.tidy (h : Shows g p) : Tidy g := by
  refine ⟨?_, ?_, fun k v hk hv => ?_⟩
  · -- no key of the record is that of the roles, so the roles are put last
    have hroles : "roles" ∉ (g.record.raw.filter fun _ v => v.truthy).keys := by
      rw [Entries.mem_keys, Entries.get?_filter, h.other "roles" (by decide) (by decide)]
      simp
    rw [toMembers, Entries.keys_insert, if_neg hroles, List.getLast?_concat]
  · rw [Group.get?_toMembers, if_pos rfl, Option.some.injEq, rolesToJson_eq_iff]
  · rw [Group.get?_toMembers, if_neg hk, Option.filter_eq_some_iff] at hv
    exact hv.2

end AccessControl.Group
