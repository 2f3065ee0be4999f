/-!
# Sorted sets

A finite set is held as the list of its elements in strictly increasing order, so every set has
exactly one form and two sets are equal iff they have the same elements (`SortedSet.ext`).  Sets of
roles and of group names are kept this way because the order of the elements is visible in what is
sent to the server.

* `SortedSet.mem_insert` : inserting adds one element and nothing else.
* `SortedSet.mem_ofList` : the set of a list has the elements of the list.
* `SortedSet.toList_ofList` : the set of a list that is already sorted is that list.
-/

namespace AccessControl

open Std

variable {α : Type} [Ord α]

/-- A finite set, held as its elements in strictly increasing order. -/
structure SortedSet (α : Type) [Ord α] where
  /-- The elements in increasing order. -/
  toList : List α
  /-- Every element is below all that follow it. -/
  sorted : toList.Pairwise (fun a b => compare a b = .lt) := by exact List.Pairwise.nil

/-- Puts an element at its place in an increasing list; an equal one that is there stays. -/
def insertSorted (a : α) : List α → List α
  | [] => [a]
  | b :: rest =>
    match compare a b with
    | .lt => a :: b :: rest
    | .eq => b :: rest
    | .gt => b :: insertSorted a rest

/-! ### The list level -/

theorem eq_of_increasing {β : Type} {lt : β → β → Prop} (asymm : ∀ a b, lt a b → ¬ lt b a)
    {xs ys : List β} (hx : xs.Pairwise lt) (hy : ys.Pairwise lt) (h : ∀ a, a ∈ xs ↔ a ∈ ys) :
    xs = ys := by
  have hne : ∀ {a b}, lt a b → a ≠ b := by
    rintro a _ hlt rfl
    exact asymm a a hlt hlt
  have hperm : xs.Perm ys := (List.perm_ext_iff_of_nodup (hx.imp hne) (hy.imp hne)).2 h
  exact hperm.eq_of_pairwise (fun a b _ _ hab hba => absurd hba (asymm a b hab)) hx hy

theorem eq_or_mem_of_mem_insertSorted {a x : α} {xs : List α} (h : x ∈ insertSorted a xs) :
    x = a ∨ x ∈ xs := by
  induction xs with
  | nil => simpa [insertSorted] using h
  | cons b rest ih =>
    rw [insertSorted] at h
    split at h <;> grind

theorem mem_insertSorted [LawfulEqOrd α] {a x : α} {xs : List α} :
    x ∈ insertSorted a xs ↔ x = a ∨ x ∈ xs := by
  refine ⟨eq_or_mem_of_mem_insertSorted, fun h => ?_⟩
  induction xs with
  | nil => simpa [insertSorted] using h
  | cons b rest ih =>
    rw [insertSorted]
    split
    · grind
    · have : a = b := LawfulEqOrd.eq_of_compare ‹_›
      grind
    · grind

theorem pairwise_insertSorted [TransOrd α] (a : α) {xs : List α}
    (h : xs.Pairwise (fun a b => compare a b = .lt)) :
    (insertSorted a xs).Pairwise (fun a b => compare a b = .lt) := by
  induction xs with
  | nil => simp [insertSorted]
  | cons b rest ih =>
    rw [List.pairwise_cons] at h
    rw [insertSorted]
    split
    · rename_i hab
      refine List.pairwise_cons.2 ⟨fun x hx => ?_, List.pairwise_cons.2 h⟩
      rcases List.mem_cons.1 hx with rfl | hx
      · exact hab
      · exact TransCmp.lt_trans hab (h.1 x hx)
    · exact List.pairwise_cons.2 h
    · rename_i hab
      refine List.pairwise_cons.2 ⟨fun x hx => ?_, ih h.2⟩
      rcases eq_or_mem_of_mem_insertSorted hx with rfl | hx
      · exact OrientedCmp.lt_of_gt hab
      · exact h.1 x hx

namespace SortedSet

instance : Membership α (SortedSet α) := ⟨fun s a => a ∈ s.toList⟩

theorem mem_def {s : SortedSet α} {a : α} : a ∈ s ↔ a ∈ s.toList := Iff.rfl

instance [DecidableEq α] (s : SortedSet α) (a : α) : Decidable (a ∈ s) :=
  inferInstanceAs (Decidable (a ∈ s.toList))

instance [DecidableEq α] : DecidableEq (SortedSet α) := fun s t =>
  if h : s.toList = t.toList then
    .isTrue (by cases s; cases t; cases h; rfl)
  else .isFalse (fun e => h (congrArg toList e))

/-- The set with no elements. -/
def empty : SortedSet α := { toList := [] }

instance : EmptyCollection (SortedSet α) := ⟨empty⟩

instance : Inhabited (SortedSet α) := ⟨empty⟩

/-- Whether the set has no elements. -/
def isEmpty (s : SortedSet α) : Bool := s.toList.isEmpty

/-- The set with one element added. -/
def insert [TransOrd α] (s : SortedSet α) (a : α) : SortedSet α where
  toList := insertSorted a s.toList
  sorted := pairwise_insertSorted a s.sorted

/-- The set of the elements of a list, in any order and with repetitions. -/
def ofList [TransOrd α] (xs : List α) : SortedSet α :=
  xs.foldl insert empty

/-- The set without one element. -/
def erase [DecidableEq α] (s : SortedSet α) (a : α) : SortedSet α where
  toList := s.toList.filter (· ≠ a)
  sorted := s.sorted.filter _

/-! ### Elements -/

theorem toList_injective {s t : SortedSet α} (h : s.toList = t.toList) : s = t := by
  cases s; cases t; cases h; rfl

theorem toList_eq_nil_iff {s : SortedSet α} : s.toList = [] ↔ s = ∅ :=
  ⟨fun h => toList_injective h, fun h => h ▸ rfl⟩

@[simp] theorem not_mem_empty (a : α) : ¬ a ∈ (∅ : SortedSet α) := List.not_mem_nil

@[simp] theorem mem_insert [TransOrd α] [LawfulEqOrd α] {s : SortedSet α} {a x : α} :
    x ∈ s.insert a ↔ x = a ∨ x ∈ s :=
  mem_insertSorted

@[simp] theorem mem_erase [DecidableEq α] {s : SortedSet α} {a x : α} :
    x ∈ s.erase a ↔ x ∈ s ∧ x ≠ a := by
  simp [mem_def, erase]

theorem mem_foldl_insert [TransOrd α] [LawfulEqOrd α] {s : SortedSet α} {xs : List α} {x : α} :
    x ∈ xs.foldl insert s ↔ x ∈ s ∨ x ∈ xs := by
  induction xs generalizing s with
  | nil => simp
  | cons a rest ih => simp [ih, or_assoc, or_left_comm, or_comm]

@[simp] theorem mem_ofList [TransOrd α] [LawfulEqOrd α] {xs : List α} {x : α} :
    x ∈ ofList xs ↔ x ∈ xs := by
  simp [ofList, mem_foldl_insert, show ¬ x ∈ (empty : SortedSet α) from not_mem_empty x]

theorem eq_of_pairwise_of_mem [TransOrd α] {xs ys : List α}
    (hx : xs.Pairwise (fun a b => compare a b = .lt))
    (hy : ys.Pairwise (fun a b => compare a b = .lt))
    (h : ∀ a, a ∈ xs ↔ a ∈ ys) : xs = ys :=
  eq_of_increasing (fun _ _ => OrientedCmp.not_lt_of_lt) hx hy h

/-- Sets are equal when they have the same elements. -/
theorem ext [TransOrd α] {s t : SortedSet α} (h : ∀ a, a ∈ s ↔ a ∈ t) : s = t :=
  toList_injective (eq_of_pairwise_of_mem s.sorted t.sorted h)

/-- A list that is already in increasing order is the list of its set. -/
theorem toList_ofList [TransOrd α] [LawfulEqOrd α] {xs : List α}
    (h : xs.Pairwise (fun a b => compare a b = .lt)) : (ofList xs).toList = xs :=
  eq_of_pairwise_of_mem (ofList xs).sorted h fun _ => mem_ofList

theorem ofList_toList [TransOrd α] [LawfulEqOrd α] (s : SortedSet α) : ofList s.toList = s :=
  toList_injective (toList_ofList s.sorted)

end SortedSet

end AccessControl
