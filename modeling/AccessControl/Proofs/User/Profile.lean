import AccessControl.Proofs.Json.Sameness
import AccessControl.Proofs.User.History
/-!
# What a user says about itself

The wire record of a user also tells in which order its properties were first set.  The profile of a
user forgets that, and keeps apart what was never set, what was set to nothing and what was set to
something.  Edits of a user are edits of its profile, where they either touch different attributes
or one of them decides.

* `Profile.apply_comm` : edits of different attributes commute.
* `Profile.apply_applyAll_filter` : an edit that replaces an attribute cancels all edits of the
  attribute before it.
* `Shows.applyAll` : edits keep a user in step with its profile.
-/

namespace AccessControl

/-! ### Sets that grow -/

section AddTo

variable {α : Type} [Ord α] [Std.TransOrd α] {s? : Option (SortedSet α)} {xs ys : List α}

/-- The set with one more element; a set that was never set has no elements. -/
def addTo (s? : Option (SortedSet α)) (x : α) : Option (SortedSet α) := some ((s?.getD ∅).insert x)

theorem foldl_addTo_cons (s? : Option (SortedSet α)) (x : α) (xs : List α) :
    (x :: xs).foldl addTo s? = some ((x :: xs).foldl .insert (s?.getD ∅)) := by
  induction xs generalizing s? x with
  | nil => rfl
  | cons y rest ih => exact ih (addTo s? x) y

variable [Std.LawfulEqOrd α]

theorem foldl_addTo_congr (h : ∀ x, x ∈ xs ↔ x ∈ ys) :
    xs.foldl addTo s? = ys.foldl addTo s? := by
  cases xs with
  | nil =>
    cases ys with
    | nil => rfl
    | cons y _ => exact absurd ((h y).2 List.mem_cons_self) List.not_mem_nil
  | cons x _ =>
    cases ys with
    | nil => exact absurd ((h x).1 List.mem_cons_self) List.not_mem_nil
    | cons y _ =>
      rw [foldl_addTo_cons, foldl_addTo_cons]
      refine congrArg some (SortedSet.ext fun z => ?_)
      rw [SortedSet.mem_foldl_insert, SortedSet.mem_foldl_insert, h]

theorem SortedSet.ofList_congr (h : ∀ x, x ∈ xs ↔ x ∈ ys) :
    SortedSet.ofList xs = SortedSet.ofList ys :=
  SortedSet.ext fun x => by rw [mem_ofList, mem_ofList, h]

end AddTo

namespace User

/-! ### Attributes -/

namespace Edit

/-- Two edits touch the same attribute: the same property, or both of them the roles. -/
def SameAttribute (e e' : Edit) : Prop := e.property? = e'.property?

instance (e e' : Edit) : Decidable (e.SameAttribute e') :=
  inferInstanceAs (Decidable (e.property? = e'.property?))

/-- An edit leaves nothing of what its attribute was before. -/
def Replaces : Edit → Prop
  | displayName _ | password _ | groups _ | roles _ => True
  | addGroup _ | addRole _ => False

end Edit

/-! ### Profiles -/

/-- What a user says about itself; an attribute that was never set has no value. -/
structure Profile where
  name : String
  displayName? : Option String
  password? : Option String
  groups? : Option (SortedSet String)
  roles? : Option (SortedSet Role)

namespace Profile

/-- The profile of a user of whom only the name is set. -/
def new (name : String) : Profile := ⟨name, none, none, none, none⟩

/-- The profile after an edit. -/
def apply (p : Profile) : Edit → Profile
  | .displayName name => { p with displayName? := some name }
  | .password text => { p with password? := some text }
  | .groups names => { p with groups? := some (.ofList names) }
  | .addGroup name => { p with groups? := addTo p.groups? name }
  | .roles roles => { p with roles? := some (.ofList roles) }
  | .addRole role => { p with roles? := addTo p.roles? role }

/-- The profile after some edits, one after the other. -/
def applyAll (p : Profile) (edits : List Edit) : Profile := edits.foldl apply p

/-- The profile in which the attribute of an edit was never set. -/
def forget (p : Profile) (e : Edit) : Profile :=
  match e.property? with
  | some .displayName => { p with displayName? := none }
  | some .password => { p with password? := none }
  | some .groups => { p with groups? := none }
  | none => { p with roles? := none }

/-- The wire value of a property. -/
def value? (p : Profile) : Property → Option Json
  | .displayName => p.displayName?.map .string
  | .password => p.password?.map .string
  | .groups => p.groups?.map fun names => .array (names.toList.map .string)

variable (p : Profile) {e e' : Edit}

theorem applyAll_append (edits edits' : List Edit) :
    p.applyAll (edits ++ edits') = (p.applyAll edits).applyAll edits' :=
  List.foldl_append

/-- **Edits of different attributes commute.** -/
theorem apply_comm (h : ¬ e.SameAttribute e') : (p.apply e).apply e' = (p.apply e').apply e := by
  cases e <;> cases e' <;> first | rfl | exact absurd rfl h

theorem forget_apply_of_same (h : e'.SameAttribute e) : (p.apply e').forget e = p.forget e := by
  cases e' <;> cases e <;> first | rfl | cases h

theorem forget_apply_of_not_same (h : ¬ e'.SameAttribute e) :
    (p.apply e').forget e = (p.forget e).apply e' := by
  cases e' <;> cases e <;> first | rfl | exact absurd rfl h

theorem apply_forget (h : e.Replaces) : (p.forget e).apply e = p.apply e := by
  cases e <;> first | rfl | cases h

theorem forget_applyAll (edits : List Edit) :
    (p.applyAll edits).forget e =
      (p.forget e).applyAll (edits.filter fun e' => ¬ e'.SameAttribute e) := by
  induction edits generalizing p with
  | nil => rfl
  | cons e' rest ih =>
    have hstep : (p.applyAll (e' :: rest)) = (p.apply e').applyAll rest := rfl
    rw [hstep, ih]
    by_cases h : e'.SameAttribute e
    · rw [List.filter_cons_of_neg (by simpa using h), forget_apply_of_same p h]
    · rw [List.filter_cons_of_pos (by simpa using h), forget_apply_of_not_same p h]
      rfl

/-- **An edit that replaces an attribute cancels all edits of the attribute before it.** -/
theorem apply_applyAll_filter (h : e.Replaces) (edits : List Edit) :
    (p.applyAll (edits.filter fun e' => ¬ e'.SameAttribute e)).apply e =
      (p.applyAll edits).apply e := by
  rw [← apply_forget _ h, ← apply_forget (p.applyAll edits) h, forget_applyAll, forget_applyAll,
    List.filter_filter]
  simp only [Bool.and_self]

theorem value?_apply_of_ne {property : Property} (h : e.property? ≠ some property) :
    (p.apply e).value? property = p.value? property := by
  cases e <;> cases property <;> first | rfl | exact absurd rfl h

/-! ### Adding groups and roles -/

theorem applyAll_addGroup (names : List String) :
    p.applyAll (names.map .addGroup) = { p with groups? := names.foldl addTo p.groups? } := by
  induction names generalizing p with
  | nil => rfl
  | cons name rest ih => exact ih (p.apply (.addGroup name))

theorem applyAll_addRole (roles : List Role) :
    p.applyAll (roles.map .addRole) = { p with roles? := roles.foldl addTo p.roles? } := by
  induction roles generalizing p with
  | nil => rfl
  | cons role rest ih => exact ih (p.apply (.addRole role))

theorem eq_of_value?_eq {p q : Profile} (hname : p.name = q.name)
    (hvalue : ∀ property, p.value? property = q.value? property) (hroles : p.roles? = q.roles?) :
    p = q := by
  have hstring : Function.Injective Json.string := fun _ _ => Json.string.inj
  have htexts : Function.Injective fun names : SortedSet String =>
      Json.array (names.toList.map .string) := fun names names' h =>
    SortedSet.toList_injective (List.map_injective_iff.2 hstring (Json.array.inj h))
  obtain ⟨name, displayName?, password?, groups?, roles?⟩ := p
  obtain ⟨name', displayName?', password?', groups?', roles?'⟩ := q
  have hdisplay : displayName? = displayName?' := Option.map_injective hstring (hvalue .displayName)
  have hpassword : password? = password?' := Option.map_injective hstring (hvalue .password)
  have hgroups : groups? = groups?' := Option.map_injective htexts (hvalue .groups)
  simp_all

theorem textual_of_value?_eq {property : Property} {v : Json} (h : p.value? property = some v) :
    v.Textual := by
  cases property <;> obtain ⟨_, -, rfl⟩ := Option.map_eq_some_iff.1 h
  · exact .text _
  · exact .text _
  · exact .texts _

end Profile

/-! ### Users -/

/-- A user has a profile, and all that it holds was written on this side. -/
structure Shows (u : User) (p : Profile) : Prop where
  name : u.record.raw.get? "id" = some (.string p.name)
  value : ∀ property : Property, u.record.raw.get? property.key = p.value? property
  /-- Nothing else is held. -/
  other : ∀ k, k ≠ "id" → (∀ property : Property, k ≠ property.key) → u.record.raw.get? k = none
  written : u.record.AllWritten
  roles : u.roles? = p.roles?

variable {u : User} {p : Profile}

theorem shows_new (name : String) : Shows (new name) (.new name) where
  name := rfl
  value property := by cases property <;> rfl
  other k hid _ := by
    have hkey : userSchema.writeKey "username" = "id" := by decide
    simp only [new, Record.set, hkey, Entries.get?_insert, if_neg hid]
    rfl
  written := Record.allWritten_empty.set _ _
  roles := rfl

theorem Shows.groups_eq (h : Shows u p) : u.groups = p.groups?.getD ∅ := by
  have hkeys : userSchema.readKeys "groups" = ["groups"] := by decide
  have hget : u.record.raw.get? "groups" = _ := h.value .groups
  rw [groups, Record.get?, Record.stored?_eq_firstPresent?, hkeys]
  cases hgroups : p.groups? with
  | none =>
    rw [Profile.value?, hgroups] at hget
    rw [firstPresent?_cons_of_absent (.inl hget)]
    rfl
  | some names =>
    rw [Profile.value?, hgroups] at hget
    rw [firstPresent?_cons_of_ne_null hget (by simp)]
    simp [textItems, List.filterMap_map, Function.comp_def, Json.string?, SortedSet.ofList_toList]

theorem Shows.set (h : Shows u p) (property : Property) {e : Edit} {v : Json}
    (he : e.property? = some property) (hvalue : (p.apply e).value? property = some v) :
    Shows { u with record := u.record.set property.attr v } (p.apply e) := by
  have hname : (p.apply e).name = p.name := by cases e <;> rfl
  have hroles : (p.apply e).roles? = p.roles? := by cases e <;> first | rfl | cases he
  refine ⟨?_, fun other => ?_, fun k hid hkeys => ?_, Record.AllWritten.set h.written _ _,
    h.roles.trans hroles.symm⟩ <;>
    simp only [Record.set, property.writeKey_attr, Entries.get?_insert]
  · rw [if_neg property.key_ne_id.symm, h.name, hname]
  · by_cases heq : other = property
    · rw [heq, if_pos rfl, hvalue]
    · have hother : e.property? ≠ some other := fun hsome =>
        heq (Option.some.inj (hsome.symm.trans he))
      rw [if_neg fun hkey => heq (Property.key_injective hkey), h.value,
        Profile.value?_apply_of_ne p hother]
  · rw [if_neg (hkeys property), h.other k hid hkeys]

/-- **An edit of a user is an edit of its profile.** -/
theorem Shows.apply (h : Shows u p) (e : Edit) : Shows (u.apply e) (p.apply e) := by
  cases e with
  | displayName name => exact h.set .displayName rfl rfl
  | password text => exact h.set .password rfl rfl
  | groups names => exact h.set .groups rfl rfl
  | addGroup name =>
    rw [User.apply, h.groups_eq]
    exact h.set .groups rfl rfl
  | roles roles => exact ⟨h.name, h.value, h.other, h.written, rfl⟩
  | addRole role =>
    refine ⟨h.name, h.value, h.other, h.written, ?_⟩
    rw [User.apply, Profile.apply, User.roles, h.roles]
    rfl

/-- Edits keep a user in step with its profile. -/
theorem Shows.applyAll (h : Shows u p) (edits : List Edit) :
    Shows (u.applyAll edits) (p.applyAll edits) := by
  induction edits generalizing u p with
  | nil => exact h
  | cons e rest ih => exact ih (h.apply e)

end User

end AccessControl
