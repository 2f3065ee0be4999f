import AccessControl.Json.Basic
import Mathlib.Data.List.Perm.Subperm
/-!
# Sameness of objects

Two objects are the same when they have equally many members and each member of the first has the
same value in the second.  No key occurs twice, so this says that every key has the same value in
both, or none in either.

* `Json.equivEntries_iff` : sameness of objects, key by key.
* `Json.Textual.equiv_iff` : texts and lists of texts are the same only if they are equal.
* `Json.equivEntries_iff_get?_eq` : objects of such values are the same iff every key has the same
  value in both.
-/

namespace AccessControl.Json

/-! ### Members -/

theorem equivMembers_iff {xs ys : List (String × Json)} :
    equivMembers xs ys ↔ ∀ e ∈ xs, ∃ w, ys.lookup e.1 = some w ∧ e.2.equiv w := by
  induction xs with
  | nil => simp [equivMembers]
  | cons e rest ih =>
    rw [equivMembers, Bool.and_eq_true, ih, List.forall_mem_cons]
    refine and_congr_left fun _ => ?_
    cases ys.lookup e.1 <;> simp

variable {xs ys : Entries Json}

/-- **Objects are the same iff each key has the same value in both**, or none in either. -/
theorem equivEntries_iff :
    equivEntries xs ys ↔ ∀ k, Option.Rel (fun v w => v.equiv w) (xs.get? k) (ys.get? k) := by
  have hlength : ∀ m : Entries Json, m.toList.length = m.keys.length := fun m => by
    rw [Entries.keys, List.length_map]
  rw [equivEntries, Bool.and_eq_true, beq_iff_eq, equivMembers_iff, hlength, hlength]
  constructor
  · rintro ⟨hcount, hmembers⟩ k
    have hfound : ∀ k v, xs.get? k = some v → ∃ w, ys.get? k = some w ∧ v.equiv w :=
      fun k v hv => hmembers (k, v) (Entries.mem_toList.2 hv)
    have hsub : xs.keys ⊆ ys.keys := fun k hk => by
      obtain ⟨v, hv⟩ := Option.isSome_iff_exists.1 (Entries.mem_keys.1 hk)
      obtain ⟨w, hw, -⟩ := hfound k v hv
      exact Entries.mem_keys.2 (by simp [hw])
    -- equally many keys, none of them twice, so the second object has no key of its own
    have hperm : xs.keys.Perm ys.keys :=
      (List.subperm_of_subset xs.nodup hsub).perm_of_length_le (Nat.le_of_eq hcount.symm)
    cases hx : xs.get? k with
    | some v =>
      obtain ⟨w, hw, hvw⟩ := hfound k v hx
      rw [hw]
      exact .some hvw
    | none =>
      have hy : ys.get? k = none := by
        rw [← Option.not_isSome_iff_eq_none, ← Entries.mem_keys, ← hperm.mem_iff, Entries.mem_keys,
          hx]
        simp
      rw [hy]
      exact .none
  · intro h
    have hkeys : ∀ k, k ∈ xs.keys ↔ k ∈ ys.keys := fun k => by
      rw [Entries.mem_keys, Entries.mem_keys]
      have hk := h k
      revert hk
      cases xs.get? k <;> cases ys.get? k <;> simp
    refine ⟨((List.perm_ext_iff_of_nodup xs.nodup ys.nodup).2 hkeys).length_eq, ?_⟩
    rintro ⟨k, v⟩ he
    have hk := h k
    rw [Entries.mem_toList.1 he] at hk
    generalize hw : ys.get? k = w? at hk
    cases hk with
    | some hvw => exact ⟨_, hw, hvw⟩

/-! ### Texts -/

/-- A text or a list of texts. -/
inductive Textual : Json → Prop
  | text (s : String) : Textual (.string s)
  | texts (ss : List String) : Textual (.array (ss.map .string))

theorem string_equiv_iff {s : String} {w : Json} : (string s).equiv w ↔ w = .string s := by
  cases w with
  | string t => rw [equiv, beq_iff_eq, string.injEq, eq_comm]
  | _ => simp [equiv]

theorem equivItems_texts_iff {ss : List String} {items : List Json} :
    equivItems (ss.map .string) items ↔ items = ss.map .string := by
  induction ss generalizing items with
  | nil => cases items <;> simp [equivItems]
  | cons s rest ih =>
    cases items with
    | nil => simp [equivItems]
    | cons item items =>
      rw [List.map_cons, equivItems, Bool.and_eq_true, ih, string_equiv_iff, List.cons.injEq]

/-- Texts and lists of texts are the same only if they are equal. -/
theorem Textual.equiv_iff {v w : Json} (h : Textual v) : v.equiv w ↔ w = v := by
  cases h with
  | text s => exact string_equiv_iff
  | texts ss =>
    cases w with
    | array items => rw [equiv, equivItems_texts_iff, array.injEq]
    | _ => simp [equiv]

/-- Objects of texts and of lists of texts are the same iff every key has the same value in both. -/
theorem equivEntries_iff_get?_eq (h : ∀ k v, xs.get? k = some v → Textual v) :
    equivEntries xs ys ↔ ∀ k, ys.get? k = xs.get? k := by
  rw [equivEntries_iff]
  refine forall_congr' fun k => ?_
  cases hx : xs.get? k with
  | none => cases hy : ys.get? k <;> simp
  | some v =>
    have hv : v.Textual := h k v hx
    cases hy : ys.get? k <;> simp [hv.equiv_iff]

end AccessControl.Json
