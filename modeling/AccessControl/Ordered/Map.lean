import AccessControl.Ordered.Set
/-!
# Sorted maps

A finite map is held as its entries in strictly increasing order of their keys, so two maps are
equal iff every key has the same value in both (`SortedMap.ext`).  Call parameters are kept this
way: they are listed by key, whatever the order in which they were given.

* `SortedMap.get?_insert` : after an insertion the key has the new value, all others keep theirs.
* `SortedMap.mem_toList` : an entry is listed iff its key is mapped to its value.
* `SortedMap.get?_filterMap` : mapping and dropping values acts on each key alone.
-/

namespace AccessControl

open Std

variable {α β γ : Type} [Ord α]

/-- A finite map, held as its entries in strictly increasing order of their keys. -/
structure SortedMap (α β : Type) [Ord α] where
  /-- The entries in increasing order of their keys. -/
  toList : List (α × β)
  /-- Every key is below all that follow it. -/
  sorted : toList.Pairwise (fun a b => compare a.1 b.1 = .lt) := by exact List.Pairwise.nil

/-- Puts an entry at its place in a list sorted by keys, replacing the one with the same key. -/
def insertEntry (k : α) (v : β) : List (α × β) → List (α × β)
  | [] => [(k, v)]
  | e :: rest =>
    match compare k e.1 with
    | .lt => (k, v) :: e :: rest
    | .eq => (k, v) :: rest
    | .gt => e :: insertEntry k v rest

/-- The value of the first entry with the given key. -/
def lookupEntry (k : α) : List (α × β) → Option β
  | [] => none
  | e :: rest => if compare k e.1 = .eq then some e.2 else lookupEntry k rest

/-! ### The list level -/

theorem eq_or_mem_of_mem_insertEntry {k : α} {v : β} {e : α × β} {es : List (α × β)}
    (h : e ∈ insertEntry k v es) : e = (k, v) ∨ e ∈ es := by
  induction es with
  | nil => simpa [insertEntry] using h
  | cons b rest ih =>
    rw [insertEntry] at h
    split at h <;> grind

theorem pairwise_insertEntry [TransOrd α] [LawfulEqOrd α] (k : α) (v : β) {es : List (α × β)}
    (h : es.Pairwise (fun a b => compare a.1 b.1 = .lt)) :
    (insertEntry k v es).Pairwise (fun a b => compare a.1 b.1 = .lt) := by
  induction es with
  | nil => simp [insertEntry]
  | cons b rest ih =>
    rw [List.pairwise_cons] at h
    rw [insertEntry]
    split
    · rename_i hab
      refine List.pairwise_cons.2 ⟨fun x hx => ?_, List.pairwise_cons.2 h⟩
      rcases List.mem_cons.1 hx with rfl | hx
      · exact hab
      · exact TransCmp.lt_trans hab (h.1 x hx)
    · rename_i hab
      have : k = b.1 := LawfulEqOrd.eq_of_compare hab
      exact List.pairwise_cons.2 ⟨fun x hx => by simpa [this] using h.1 x hx, h.2⟩
    · rename_i hab
      refine List.pairwise_cons.2 ⟨fun x hx => ?_, ih h.2⟩
      rcases eq_or_mem_of_mem_insertEntry hx with rfl | hx
      · exact OrientedCmp.lt_of_gt hab
      · exact h.1 x hx

theorem lookupEntry_insertEntry [TransOrd α] [LawfulEqOrd α] [DecidableEq α] (k k' : α) (v : β)
    (es : List (α × β)) :
    lookupEntry k' (insertEntry k v es) = if k' = k then some v else lookupEntry k' es := by
  have eq_iff : ∀ a b : α, compare a b = .eq ↔ a = b := fun a b => compare_eq_iff_eq
  induction es with
  | nil => simp [insertEntry, lookupEntry, eq_iff]
  | cons b rest ih =>
    rw [insertEntry]
    split
    · simp [lookupEntry, eq_iff]
    · rename_i hab
      have := (eq_iff _ _).1 hab
      subst this
      simp only [lookupEntry, eq_iff]
      split <;> rfl
    · rename_i hab
      have hne : ¬ k = b.1 := fun h => by simp [h] at hab
      simp only [lookupEntry, eq_iff, ih]
      split <;> split <;> simp_all

namespace SortedMap

instance [DecidableEq α] [DecidableEq β] : DecidableEq (SortedMap α β) := fun s t =>
  if h : s.toList = t.toList then
    .isTrue (by cases s; cases t; cases h; rfl)
  else .isFalse (fun e => h (congrArg toList e))

/-- The map with no entries. -/
def empty : SortedMap α β := { toList := [] }

instance : EmptyCollection (SortedMap α β) := ⟨empty⟩

instance : Inhabited (SortedMap α β) := ⟨empty⟩

/-- The value of a key. -/
def get? (m : SortedMap α β) (k : α) : Option β := lookupEntry k m.toList

/-- The map in which a key has a new value. -/
def insert [TransOrd α] [LawfulEqOrd α] (m : SortedMap α β) (k : α) (v : β) : SortedMap α β where
  toList := insertEntry k v m.toList
  sorted := pairwise_insertEntry k v m.sorted

/-- The map of a list of entries; of two with the same key the later one counts. -/
def ofList [TransOrd α] [LawfulEqOrd α] (es : List (α × β)) : SortedMap α β :=
  es.foldl (fun m e => m.insert e.1 e.2) empty

/-- Changes or drops each value. -/
def filterMap (f : β → Option γ) (m : SortedMap α β) : SortedMap α γ where
  toList := m.toList.filterMap fun e => (f e.2).map (e.1, ·)
  sorted := by
    refine List.Pairwise.filterMap _ (fun a a' haa' b hb b' hb' => ?_) m.sorted
    simp only [Option.map_eq_some_iff] at hb hb'
    obtain ⟨_, _, rfl⟩ := hb
    obtain ⟨_, _, rfl⟩ := hb'
    exact haa'

/-- Changes each value. -/
def map (f : β → γ) (m : SortedMap α β) : SortedMap α γ := m.filterMap (some ∘ f)

/-! ### Values -/

theorem toList_injective {s t : SortedMap α β} (h : s.toList = t.toList) : s = t := by
  cases s; cases t; cases h; rfl

theorem get?_insert [TransOrd α] [LawfulEqOrd α] [DecidableEq α] (m : SortedMap α β) (k k' : α)
    (v : β) : (m.insert k v).get? k' = if k' = k then some v else m.get? k' :=
  lookupEntry_insertEntry k k' v m.toList

/-- An entry is listed iff its key is mapped to its value. -/
theorem mem_toList [TransOrd α] [LawfulEqOrd α] {m : SortedMap α β} {k : α} {v : β} :
    (k, v) ∈ m.toList ↔ m.get? k = some v := by
  obtain ⟨es, h⟩ := m
  simp only [get?]
  induction es with
  | nil => simp [lookupEntry]
  | cons b rest ih =>
    rw [List.pairwise_cons] at h
    rw [lookupEntry, List.mem_cons, ih h.2]
    split
    · rename_i hk
      have := LawfulEqOrd.eq_of_compare hk
      subst this
      constructor
      · rintro (e | e)
        · rw [← e]
        · have := h.1 _ ((ih h.2).2 e)
          simp [ReflOrd.compare_self] at this
      · intro e
        exact .inl (congrArg (Prod.mk b.1) (Option.some.inj e).symm)
    · rename_i hk
      constructor
      · rintro (e | e)
        · simp [← e, ReflOrd.compare_self] at hk
        · exact e
      · exact .inr

/-- Maps are equal when every key has the same value in both. -/
theorem ext [TransOrd α] [LawfulEqOrd α] {s t : SortedMap α β} (h : ∀ k, s.get? k = t.get? k) :
    s = t := by
  have hmem : ∀ e, e ∈ s.toList ↔ e ∈ t.toList := fun ⟨k, v⟩ => by
    rw [mem_toList, mem_toList, h]
  have hasymm : ∀ a b : α × β, compare a.1 b.1 = .lt → compare b.1 a.1 ≠ .lt :=
    fun _ _ => OrientedCmp.not_lt_of_lt
  exact toList_injective (eq_of_increasing hasymm s.sorted t.sorted hmem)

theorem get?_filterMap [TransOrd α] [LawfulEqOrd α] (f : β → Option γ) (m : SortedMap α β)
    (k : α) : (m.filterMap f).get? k = (m.get? k).bind f := by
  apply Option.ext
  intro v
  rw [← mem_toList]
  simp only [filterMap, List.mem_filterMap, Option.map_eq_some_iff, Prod.mk.injEq,
    Option.bind_eq_some_iff]
  constructor
  · rintro ⟨⟨k', b⟩, hmem, c, hc, rfl, rfl⟩
    exact ⟨b, mem_toList.1 hmem, hc⟩
  · rintro ⟨b, hb, hv⟩
    exact ⟨(k, b), mem_toList.2 hb, v, hv, rfl, rfl⟩

end SortedMap

end AccessControl
