import AccessControl.Proofs.User.Profile
/-!
# Users that are the same

Two users are the same when their wire records hold the same members, in any order, and the same
roles were set.  Which members were written on this side does not count, although it decides what is
sent.  It cannot make a difference between users that were built on this side, since all that such a
user holds was written here: they are the same iff they have the same profile.

* `Shows.equiv_iff` : users that have profiles are the same iff these are equal.
* `Shows.sameBody` : users with the same profile send the same.
* `User.equiv_lawful` : users that are the same send the same, and edits are lawful up to sameness.
-/

namespace AccessControl.User

/-! ### What is held -/

section Members

variable {u u' : User} {p p' : Profile} {k : String} {v : Json}

theorem Shows.get?_raw_eq (h : Shows u p) (h' : Shows u' p) (k : String) :
    u.record.raw.get? k = u'.record.raw.get? k := by
  by_cases hid : k = "id"
  · rw [hid, h.name, h'.name]
  by_cases hkey : ∃ property : Property, k = property.key
  · obtain ⟨property, rfl⟩ := hkey
    rw [h.value, h'.value]
  · rw [not_exists] at hkey
    rw [h.other k hid hkey, h'.other k hid hkey]

theorem Shows.textual_raw (h : Shows u p) (hv : u.record.raw.get? k = some v) : v.Textual := by
  by_cases hid : k = "id"
  · rw [hid, h.name] at hv
    cases hv
    exact .text _
  by_cases hkey : ∃ property : Property, k = property.key
  · obtain ⟨property, rfl⟩ := hkey
    rw [h.value] at hv
    exact p.textual_of_value?_eq hv
  · rw [not_exists] at hkey
    rw [h.other k hid hkey] at hv
    cases hv

/-- **Users are the same iff they have the same profile.** -/
theorem Shows.equiv_iff (h : Shows u p) (h' : Shows u' p') : u.equiv u' ↔ p = p' := by
  rw [equiv, Bool.and_eq_true, decide_eq_true_eq, Record.equiv,
    Json.equivEntries_iff_get?_eq fun _ _ => h.textual_raw, h.roles, h'.roles]
  constructor
  · rintro ⟨hget, hroles⟩
    refine Profile.eq_of_value?_eq ?_ (fun property => ?_) hroles
    · have hid := hget "id"
      rw [h.name, h'.name] at hid
      simpa [eq_comm] using hid
    · rw [← h.value, ← h'.value, hget]
  · rintro rfl
    exact ⟨h'.get?_raw_eq h, rfl⟩

end Members

/-! ### What is sent -/

/-- Two users send the same members, in some order, or are refused for the same reason. -/
inductive SameBody :
    Except ArgumentFault (Entries Json) → Except ArgumentFault (Entries Json) → Prop
  | refused (fault : ArgumentFault) : SameBody (.error fault) (.error fault)
  | sent {members members' : Entries Json} (hequiv : Json.equivEntries members members')
      (hget : ∀ k, members.get? k = members'.get? k) : SameBody (.ok members) (.ok members')

theorem SameBody.map_get?_eq {body body' : Except ArgumentFault (Entries Json)}
    (h : SameBody body body') (k : String) : body.map (·.get? k) = body'.map (·.get? k) := by
  cases h with
  | refused => rfl
  | sent _ hget => simp only [Except.map, hget]

section Bodies

variable {u u' : User} {p : Profile} {k : String} {v : Json}

theorem Shows.get?_toMembers (h : Shows u p) (k : String) :
    u.toMembers.get? k =
      if k = "roles" then
        p.roles?.map fun roles => .array ((roles.toList.map Role.encode).map .string)
      else u.record.raw.get? k := by
  have hroles : u.record.raw.get? "roles" = none :=
    h.other "roles" (by decide) fun property => property.key_ne_roles.symm
  rw [toMembers, h.roles, h.written.outgoing_eq]
  cases p.roles? with
  | none =>
    by_cases hk : k = "roles"
    · simp [hk, hroles]
    · simp [hk]
  | some roles =>
    rw [Option.map_some, List.map_map]
    exact Entries.get?_insert _ _ _ _

theorem Shows.textual_toMembers (h : Shows u p) (hv : u.toMembers.get? k = some v) :
    v.Textual := by
  rw [h.get?_toMembers] at hv
  split at hv
  · obtain ⟨roles, -, rfl⟩ := Option.map_eq_some_iff.1 hv
    exact .texts _
  · exact h.textual_raw hv

/-- **Users with the same profile send the same.** -/
theorem Shows.sameBody (h : Shows u p) (h' : Shows u' p) : SameBody u.body u'.body := by
  have hget : ∀ k, (u'.toMembers.filter isSent).get? k = (u.toMembers.filter isSent).get? k := by
    intro k
    rw [Entries.get?_filter, Entries.get?_filter, h.get?_toMembers, h'.get?_toMembers,
      h.get?_raw_eq h']
  have hroles : u'.roles = u.roles := by rw [User.roles, User.roles, h.roles, h'.roles]
  rw [body, body, hroles]
  cases Role.validateAll u.roles.toList with
  | error fault => exact .refused fault
  | ok =>
    refine .sent ((Json.equivEntries_iff_get?_eq fun k v hv => ?_).2 hget) fun k => (hget k).symm
    rw [Entries.get?_filter, Option.filter_eq_some_iff] at hv
    exact h.textual_toMembers hv.1

end Bodies

/-! ### What edits do to each other -/

/-- The user with other marks of what was written on this side. -/
def marked (u : User) (written : SortedSet String) : User :=
  { u with record := { u.record with written } }

/-- What edits of a user do to each other, whatever edits come after them. -/
structure EditLaws (u : User) : Prop where
  /-- Edits of different attributes commute. -/
  commute : ∀ e e' : Edit, ¬ e.SameAttribute e' → ∀ after,
    (u.applyAll (e :: e' :: after)).equiv (u.applyAll (e' :: e :: after))
  /-- Groups are added in any order, once or several times. -/
  addGroups : ∀ names names' : List String, (∀ name, name ∈ names ↔ name ∈ names') → ∀ after,
    (u.applyAll (names.map .addGroup ++ after)).equiv (u.applyAll (names'.map .addGroup ++ after))
  /-- Roles are added in any order, once or several times. -/
  addRoles : ∀ roles roles' : List Role, (∀ r, r ∈ roles ↔ r ∈ roles') → ∀ after,
    (u.applyAll (roles.map .addRole ++ after)).equiv (u.applyAll (roles'.map .addRole ++ after))
  /-- A list of groups matters only as a set. -/
  setGroups : ∀ names names' : List String, (∀ name, name ∈ names ↔ name ∈ names') → ∀ after,
    (u.applyAll (.groups names :: after)).equiv (u.applyAll (.groups names' :: after))
  /-- A list of roles matters only as a set. -/
  setRoles : ∀ roles roles' : List Role, (∀ r, r ∈ roles ↔ r ∈ roles') → ∀ after,
    (u.applyAll (.roles roles :: after)).equiv (u.applyAll (.roles roles' :: after))

section Laws

variable {u : User} {p : Profile}

theorem Shows.equiv_applyAll (h : Shows u p) {edits edits' : List Edit}
    (hprofile : p.applyAll edits = p.applyAll edits') (after : List Edit) :
    (u.applyAll (edits ++ after)).equiv (u.applyAll (edits' ++ after)) := by
  refine ((h.applyAll _).equiv_iff (h.applyAll _)).2 ?_
  rw [Profile.applyAll_append, Profile.applyAll_append, hprofile]

/-- **The edits of a user that has a profile are lawful.** -/
theorem Shows.editLaws (h : Shows u p) : EditLaws u where
  commute e e' hne := by
    have hcomm : p.applyAll [e, e'] = p.applyAll [e', e] := p.apply_comm hne
    exact h.equiv_applyAll hcomm
  addGroups names names' hmem := by
    refine h.equiv_applyAll ?_
    rw [Profile.applyAll_addGroup, Profile.applyAll_addGroup, foldl_addTo_congr hmem]
  addRoles roles roles' hmem := by
    refine h.equiv_applyAll ?_
    rw [Profile.applyAll_addRole, Profile.applyAll_addRole, foldl_addTo_congr hmem]
  setGroups names names' hmem := by
    have hset : p.applyAll [.groups names] = p.applyAll [.groups names'] := by
      simp only [Profile.applyAll, List.foldl_cons, List.foldl_nil, Profile.apply,
        SortedSet.ofList_congr hmem]
    exact h.equiv_applyAll hset
  setRoles roles roles' hmem := by
    have hset : p.applyAll [.roles roles] = p.applyAll [.roles roles'] := by
      simp only [Profile.applyAll, List.foldl_cons, List.foldl_nil, Profile.apply,
        SortedSet.ofList_congr hmem]
    exact h.equiv_applyAll hset

end Laws

/-- **Users that are the same send the same, and edits are lawful up to sameness**, for all users
that are built on this side.  Sameness does not see which members were written here, which by itself
makes a difference to what is sent.  An edit that replaces an attribute cancels every earlier edit
of the attribute. -/
theorem equiv_lawful :
    (∀ name name' edits edits',
        ((new name).applyAll edits).equiv ((new name').applyAll edits') →
        SameBody ((new name).applyAll edits).body ((new name').applyAll edits').body) ∧
      (∀ (u u' : User) written, u.equiv (u'.marked written) = u.equiv u') ∧
      (∃ (u : User) (written : _), ¬ SameBody u.body (u.marked written).body) ∧
      ∀ name edits, EditLaws ((new name).applyAll edits) ∧
        ∀ e : Edit, e.Replaces → ∀ after,
          ((new name).applyAll (edits ++ e :: after)).equiv
            ((new name).applyAll
              (edits.filter (fun e' => ¬ e'.SameAttribute e) ++ e :: after)) := by
  have hshows : ∀ name edits,
      Shows ((new name).applyAll edits) ((Profile.new name).applyAll edits) :=
    fun name edits => (shows_new name).applyAll edits
  refine ⟨fun name name' edits edits' hequiv => ?_, fun _ _ _ => rfl, ?_, fun name edits => ?_⟩
  · have hprofile := ((hshows name edits).equiv_iff (hshows name' edits')).1 hequiv
    exact (hshows name edits).sameBody (hprofile ▸ hshows name' edits')
  · -- an empty password does not count as set, so it is sent because it was written here
    refine ⟨(new "ann").apply (.password ""), ∅, fun h => ?_⟩
    have hpassword : (.ok (some (.string "")) : Except ArgumentFault (Option Json)) = .ok none :=
      h.map_get?_eq "password"
    cases hpassword
  · refine ⟨(hshows name edits).editLaws, fun e he after => ?_⟩
    rw [List.append_cons edits, List.append_cons (edits.filter _)]
    refine (shows_new name).equiv_applyAll ?_ after
    rw [Profile.applyAll_append, Profile.applyAll_append]
    exact (Profile.apply_applyAll_filter _ he edits).symm

/-- A user whose attributes were set in this order, some of them several times. -/
def sampleEdits : List Edit :=
  [.password "x", .addGroup "b", .addRole ⟨"ops", none⟩, .addGroup "a", .roles [], .password "",
    .displayName "Ann"]

/-- The same in the end, set in another order. -/
def sampleReordered : List Edit :=
  [.displayName "Bob", .groups ["b", "a", "b"], .roles [], .displayName "Ann", .password ""]

theorem equiv_lawful_sample :
    let u := (new "ann").applyAll sampleEdits
    let u' := (new "ann").applyAll sampleReordered
    u.record.raw.keys ≠ u'.record.raw.keys ∧ u.equiv u' ∧ SameBody u.body u'.body ∧
      (u.applyAll [.addGroup "c", .addRole ⟨"ops", none⟩]).equiv
        (u.applyAll [.addRole ⟨"ops", none⟩, .addGroup "c"]) ∧
      (u.applyAll [.addGroup "c", .addGroup "b", .addGroup "c"]).equiv
        (u.applyAll [.addGroup "b", .addGroup "c"]) ∧
      (u.applyAll [.groups []]).equiv
        ((new "ann").applyAll [.password "x", .addRole ⟨"ops", none⟩, .roles [], .password "",
          .displayName "Ann", .groups []]) := by
  intro u u'
  have hequiv : u.equiv u' := rfl
  obtain ⟨hsame, -, -, hlaws⟩ := equiv_lawful
  obtain ⟨laws, hcancel⟩ := hlaws "ann" sampleEdits
  have hnames : ∀ name, name ∈ ["c", "b", "c"] ↔ name ∈ ["b", "c"] := fun name => by
    rw [List.mem_cons]
    exact or_iff_right_of_imp fun hc => by simp [hc]
  exact ⟨by decide, hequiv, hsame _ _ _ _ hequiv, laws.commute _ _ (by decide) [],
    laws.addGroups _ _ hnames [], hcancel (.groups []) trivial []⟩

end AccessControl.User
