import AccessControl.Proofs.Group.Decoding
import AccessControl.Proofs.Group.Profile
import AccessControl.Proofs.Role.WireForm
import Mathlib.Data.List.Perm.Basic
/-!
# Decoded groups and built groups

A group that is decoded from a payload and a group that is built by setting the same texts and roles
have the same profile.  So they cannot be told apart, also after further changes, although their
wire records differ in what is null, left out, in which order, or written here.

* `exists_shows_of_payload` : a payload is decoded to a group with its profile.
* `ofJson_interchangeable` : a decoded group and a built group are interchangeable ever after.
-/

namespace AccessControl.Group

/-! ### Payloads -/

/-- The members of a payload give a group its name, its texts and its roles, each role in any of its
wire forms.  What is empty may also be null or left out, except the name. -/
structure Payload (name description ldapReference : String) (roles : List Role)
    (m : Entries Json) : Prop where
  id : m.get? "id" = some (.string name)
  description : HoldsText m "description" description
  ldapReference : HoldsText m "ldap_group_ref" ldapReference
  roles : (∃ items, m.get? "roles" = some (.array items) ∧ List.Forall₂ Role.WireForm roles items) ∨
    roles = [] ∧ Absent m "roles"
  other : ∀ k ∉ ["id", "description", "ldap_group_ref", "roles"], m.get? k = none

section Decoding

variable {name description ldapReference : String} {roles : List Role}
  {members : List (String × Json)}

theorem Payload.rolesOfJson_eq {m : Entries Json}
    (h : Payload name description ldapReference roles m) :
    rolesOfJson (m.get? "roles") = .ok (.ofList roles) := by
  rcases h.roles with ⟨items, hitems, hforms⟩ | ⟨rfl, habsent | hnull⟩
  · have hdecode : items.mapM Role.ofJson = .ok roles :=
      mapM_eq_ok_iff_forall₂.2 (hforms.flip.imp fun _ _ => Role.ofJson_eq_ok_iff.2)
    rw [hitems, rolesOfJson, hdecode]
    rfl
  · rw [habsent]
    rfl
  · rw [hnull]
    rfl

/-- A payload is decoded to a group with its profile. -/
theorem exists_shows_of_payload
    (h : Payload name description ldapReference roles (Json.entries members)) :
    ∃ g, ofJson (.object members) = .ok g ∧
      Shows g ⟨name, description, ldapReference, .ofList roles⟩ := by
  refine ⟨⟨name, .received (((Json.entries members).erase "id").erase "roles"), .ofList roles⟩,
    ?_, rfl, ?_, ?_, rfl, fun k hk hk' => ?_⟩
  · refine ofJson_object_eq_ok_iff.2 ⟨?_, h.rolesOfJson_eq, rfl⟩
    rw [h.id]
    rfl
  · exact h.description.of_get?_eq (get?_kept (by decide) (by decide))
  · exact h.ldapReference.of_get?_eq (get?_kept (by decide) (by decide))
  · -- the two other keys of a payload were taken out
    simp only [Record.received, Entries.get?_erase]
    split
    · rfl
    split
    · rfl
    · exact h.other k (by simp [*])

end Decoding

/-! ### Setting the same things in any order -/

theorem Profile.applyAll_of_perm {name description ldapReference : String} {roles : List Role}
    {edits : List Edit}
    (h : edits.Perm [.description description, .roles roles, .ldapReference ldapReference]) :
    (Profile.new name).applyAll edits = ⟨name, description, ldapReference, .ofList roles⟩ := by
  have hcomm : ∀ e ∈ edits, ∀ e' ∈ edits, ∀ p : Profile,
      (p.apply e).apply e' = (p.apply e').apply e := by
    intro e he e' he' p
    rw [h.mem_iff] at he he'
    simp only [List.mem_cons, List.not_mem_nil, or_false] at he he'
    rcases he with rfl | rfl | rfl <;> rcases he' with rfl | rfl | rfl <;> rfl
  exact h.foldl_eq' hcomm (Profile.new name)

/-! ### Interchangeable groups -/

/-- Two groups answer and send the same. -/
structure Interchangeable (g g' : Group) : Prop where
  name : g.name = g'.name
  description : g.description = g'.description
  ldapReference : g.ldapReference = g'.ldapReference
  roles : g.roles = g'.roles
  /-- The members that are sent are the same, in some order. -/
  members : ∀ k, g.toMembers.get? k = g'.toMembers.get? k

theorem Shows.interchangeable {g g' : Group} {p : Profile} (h : Shows g p) (h' : Shows g' p) :
    Interchangeable g g' where
  name := h.name.trans h'.name.symm
  description := h.description_eq.trans h'.description_eq.symm
  ldapReference := h.ldapReference_eq.trans h'.ldapReference_eq.symm
  roles := h.roles.trans h'.roles.symm
  members k := (h.get?_toMembers k).trans (h'.get?_toMembers k).symm

/-- **A decoded group and a built group are interchangeable**, whatever is done to both of them
afterwards, and both of them send tidy members. -/
theorem ofJson_interchangeable {name description ldapReference : String} {roles : List Role}
    {members : List (String × Json)}
    (h : Payload name description ldapReference roles (Json.entries members)) :
    ∃ decoded, ofJson (.object members) = .ok decoded ∧
      ∀ setters : List Edit,
        setters.Perm [.description description, .roles roles, .ldapReference ldapReference] →
        ∀ edits : List Edit,
          Interchangeable (decoded.applyAll edits)
            (((new name).applyAll setters).applyAll edits) ∧
          Tidy (decoded.applyAll edits) ∧ Tidy (((new name).applyAll setters).applyAll edits) := by
  obtain ⟨decoded, hdecode, hshows⟩ := exists_shows_of_payload h
  refine ⟨decoded, hdecode, fun setters hperm edits => ?_⟩
  have hbuilt := (shows_new name).applyAll setters
  rw [Profile.applyAll_of_perm hperm] at hbuilt
  have hdecoded' := hshows.applyAll edits
  have hbuilt' := hbuilt.applyAll edits
  exact ⟨hdecoded'.interchangeable hbuilt', hdecoded'.tidy, hbuilt'.tidy⟩

/-- Roles with and without buckets, one of which has no string form. -/
def sampleRoles : List Role := [⟨"admin", none⟩, ⟨"reader", some "b"⟩, ⟨"a[b", none⟩]

/-- A payload with the roles in three forms, an empty text that is null, and none that is left
out. -/
def sampleMembers : List (String × Json) :=
  [("roles", .array [.string "admin",
      .object [("bucket_name", .string "b"), ("role", .null), ("name", .string "reader")],
      .array [.string "a[b", .null]]),
    ("description", .string "Operators"), ("ldap_group_ref", .null), ("id", .string "ops")]

theorem ofJson_interchangeable_sample :
    Payload "ops" "Operators" "" sampleRoles (Json.entries sampleMembers) ∧
      ∃ decoded, ofJson (.object sampleMembers) = .ok decoded ∧
        Interchangeable (decoded.applyAll [.description "", .addRole ⟨"ops", none⟩])
          (((new "ops").applyAll
            [.ldapReference "", .description "Operators", .roles sampleRoles]).applyAll
              [.description "", .addRole ⟨"ops", none⟩]) := by
  have hpayload : Payload "ops" "Operators" "" sampleRoles (Json.entries sampleMembers) := by
    refine ⟨rfl, .inl rfl, .inr ⟨rfl, .inr rfl⟩, .inl ⟨_, rfl, ?_⟩, fun k hk => ?_⟩
    · exact .cons (.text rfl) (.cons (.object ⟨by decide, rfl, rfl⟩)
        (.cons (.pair (by decide)) .nil))
    · have hkeys : (Json.entries sampleMembers).keys =
          ["roles", "description", "ldap_group_ref", "id"] := rfl
      rw [← Option.not_isSome_iff_eq_none, ← Entries.mem_keys, hkeys]
      simp_all
  obtain ⟨decoded, hdecode, h⟩ := ofJson_interchangeable hpayload
  exact ⟨hpayload, decoded, hdecode, (h _ (List.perm_append_singleton _ [_, _]).symm _).1⟩

end AccessControl.Group
