/-!
# Entries in the order of their first writing

The members of an object keep the order in which their keys were first written: replacing a value
keeps its place, removing one closes the gap.  No key occurs twice.

* `Entries.get?_insert`, `Entries.get?_erase` : what a change does to each key.
* `Entries.erase_insert` : removing a key undoes what was written under it.
* `Entries.keys_insert` : a new key comes last, one that is there keeps its place.
* `Entries.toList_ofList` : a list in which no key repeats is the list of its entries.
-/

namespace AccessControl

variable {β γ : Type}

/-- A finite map from texts, in the order in which its keys were first written. -/
structure Entries (β : Type) where
  /-- The entries in order. -/
  toList : List (String × β)
  /-- No key occurs twice. -/
  nodup : (toList.map Prod.fst).Nodup := by exact List.nodup_nil

/-- Writes a value: in place where its key is there, else at the end. -/
def putEntry (k : String) (v : β) : List (String × β) → List (String × β)
  | [] => [(k, v)]
  | e :: rest => if e.1 = k then (k, v) :: rest else e :: putEntry k v rest

/-! ### The list level -/

theorem keys_putEntry (k : String) (v : β) (es : List (String × β)) :
    (putEntry k v es).map Prod.fst =
      if k ∈ es.map Prod.fst then es.map Prod.fst else es.map Prod.fst ++ [k] := by
  induction es with
  | nil => simp [putEntry]
  | cons e rest ih =>
    rw [putEntry]
    by_cases h : e.1 = k
    · simp [h]
    · have h' : ¬ k = e.1 := fun e => h e.symm
      simp only [h, if_false, List.map_cons, ih, List.mem_cons, h', false_or]
      split <;> simp

theorem nodup_putEntry (k : String) (v : β) {es : List (String × β)}
    (h : (es.map Prod.fst).Nodup) : ((putEntry k v es).map Prod.fst).Nodup := by
  rw [keys_putEntry]
  split
  · exact h
  · rename_i hk
    rw [List.nodup_append]
    refine ⟨h, by simp, fun a ha b hb => ?_⟩
    rw [List.mem_singleton] at hb
    subst hb
    exact fun e => hk (e ▸ ha)

theorem lookup_cons_eq_ite (e : String × β) (rest : List (String × β)) (k : String) :
    (e :: rest).lookup k = if k = e.1 then some e.2 else rest.lookup k := by
  obtain ⟨k', v⟩ := e
  rw [List.lookup_cons]
  by_cases h : k = k'
  · simp [h]
  · have : (k == k') = false := by simpa using h
    simp [this, h]

theorem lookup_putEntry (k k' : String) (v : β) (es : List (String × β)) :
    (putEntry k v es).lookup k' = if k' = k then some v else es.lookup k' := by
  induction es with
  | nil => simp [putEntry, lookup_cons_eq_ite]
  | cons e rest ih =>
    rw [putEntry]
    by_cases h : e.1 = k
    · rw [if_pos h, lookup_cons_eq_ite, lookup_cons_eq_ite, h]
      split <;> rfl
    · rw [if_neg h, lookup_cons_eq_ite, lookup_cons_eq_ite, ih]
      split
      · rename_i he
        rw [if_neg (fun hk => h (he ▸ hk))]
      · rfl

theorem filter_putEntry (k : String) (v : β) (es : List (String × β)) :
    ((putEntry k v es).filter fun e => e.1 ≠ k) = es.filter fun e => e.1 ≠ k := by
  induction es with
  | nil => simp [putEntry]
  | cons e rest ih =>
    rw [putEntry]
    by_cases h : e.1 = k
    · simp [h]
    · rw [if_neg h, List.filter_cons, List.filter_cons, ih]

namespace Entries

instance [DecidableEq β] : DecidableEq (Entries β) := fun s t =>
  if h : s.toList = t.toList then
    .isTrue (by cases s; cases t; cases h; rfl)
  else .isFalse (fun e => h (congrArg toList e))

/-- No entries. -/
def empty : Entries β := { toList := [] }

instance : EmptyCollection (Entries β) := ⟨empty⟩

instance : Inhabited (Entries β) := ⟨empty⟩

/-- The keys, in order. -/
def keys (m : Entries β) : List String := m.toList.map Prod.fst

/-- The value of a key. -/
def get? (m : Entries β) (k : String) : Option β := m.toList.lookup k

/-- Whether a key has a value. -/
def contains (m : Entries β) (k : String) : Bool := (m.get? k).isSome

/-- Writes a value: in place where its key is there, else at the end. -/
def insert (m : Entries β) (k : String) (v : β) : Entries β where
  toList := putEntry k v m.toList
  nodup := nodup_putEntry k v m.nodup

/-- Keeps the entries that satisfy a condition. -/
def filter (p : String → β → Bool) (m : Entries β) : Entries β where
  toList := m.toList.filter fun e => p e.1 e.2
  nodup := m.nodup.sublist ((List.filter_sublist (l := m.toList)).map _)

/-- Removes a key and its value; the others keep their order. -/
def erase (m : Entries β) (k : String) : Entries β := m.filter fun k' _ => k' ≠ k

/-- Writes entries one after the other. -/
def insertMany (m : Entries β) (es : List (String × β)) : Entries β :=
  es.foldl (fun m e => m.insert e.1 e.2) m

/-- Entries written one after the other: of two with the same key the later value counts, at the
earlier place. -/
def ofList (es : List (String × β)) : Entries β := empty.insertMany es

/-! ### Keys and values -/

theorem toList_injective {s t : Entries β} (h : s.toList = t.toList) : s = t := by
  cases s; cases t; cases h; rfl

@[simp] theorem get?_empty (k : String) : (∅ : Entries β).get? k = none := rfl

theorem keys_insert (m : Entries β) (k : String) (v : β) :
    (m.insert k v).keys = if k ∈ m.keys then m.keys else m.keys ++ [k] :=
  keys_putEntry k v m.toList

theorem get?_insert (m : Entries β) (k k' : String) (v : β) :
    (m.insert k v).get? k' = if k' = k then some v else m.get? k' :=
  lookup_putEntry k k' v m.toList

theorem mem_toList {m : Entries β} {k : String} {v : β} :
    (k, v) ∈ m.toList ↔ m.get? k = some v := by
  obtain ⟨es, h⟩ := m
  simp only [get?]
  induction es with
  | nil => simp
  | cons e rest ih =>
    simp only [List.map_cons, List.nodup_cons, List.mem_map, not_exists, not_and] at h
    obtain ⟨k', v'⟩ := e
    by_cases hk : k = k'
    · subst hk
      have : ∀ v, ¬ (k, v) ∈ rest := fun v hv => h.1 _ hv rfl
      simp [this, eq_comm]
    · simp [lookup_cons_eq_ite, hk, ih h.2]

theorem mem_keys {m : Entries β} {k : String} : k ∈ m.keys ↔ (m.get? k).isSome := by
  constructor
  · intro h
    obtain ⟨⟨k', v⟩, hv, rfl⟩ := List.mem_map.1 h
    simp [mem_toList.1 hv]
  · intro h
    obtain ⟨v, hv⟩ := Option.isSome_iff_exists.1 h
    exact List.mem_map.2 ⟨(k, v), mem_toList.2 hv, rfl⟩

theorem get?_filter (m : Entries β) (p : String → β → Bool) (k : String) :
    (m.filter p).get? k = (m.get? k).filter (p k) := by
  apply Option.ext
  intro v
  rw [← mem_toList, Option.filter_eq_some_iff, ← mem_toList]
  simp [filter]

theorem get?_erase (m : Entries β) (k k' : String) :
    (m.erase k).get? k' = if k' = k then none else m.get? k' := by
  rw [erase, get?_filter]
  split
  · rename_i h
    subst h
    cases m.get? k' <;> simp [Option.filter]
  · rename_i h
    cases m.get? k' <;> simp [Option.filter, h]

theorem mem_keys_insert {m : Entries β} {k k' : String} {v : β} :
    k' ∈ (m.insert k v).keys ↔ k' = k ∨ k' ∈ m.keys := by
  rw [mem_keys, get?_insert, mem_keys]
  by_cases h : k' = k <;> simp [h]

theorem mem_keys_erase {m : Entries β} {k k' : String} :
    k' ∈ (m.erase k).keys ↔ k' ≠ k ∧ k' ∈ m.keys := by
  rw [mem_keys, get?_erase, mem_keys]
  by_cases h : k' = k <;> simp [h]

/-- Removing a key removes what was written under it last. -/
theorem erase_insert (m : Entries β) (k : String) (v : β) : (m.insert k v).erase k = m.erase k :=
  toList_injective (filter_putEntry k v m.toList)

theorem toList_insert_of_not_mem {m : Entries β} {k : String} (v : β) (h : k ∉ m.keys) :
    (m.insert k v).toList = m.toList ++ [(k, v)] := by
  obtain ⟨es, hes⟩ := m
  simp only [keys, insert] at h ⊢
  clear hes
  induction es with
  | nil => rfl
  | cons e rest ih =>
    simp only [List.map_cons, List.mem_cons, not_or] at h
    rw [putEntry, if_neg (fun e => h.1 e.symm), ih h.2]
    rfl

theorem toList_insertMany (m : Entries β) (es : List (String × β))
    (h : (m.keys ++ es.map Prod.fst).Nodup) : (m.insertMany es).toList = m.toList ++ es := by
  induction es generalizing m with
  | nil => simp [insertMany]
  | cons e rest ih =>
    have hk : e.1 ∉ m.keys := fun hm => by
      rw [List.nodup_append] at h
      exact h.2.2 _ hm _ List.mem_cons_self rfl
    have := ih (m.insert e.1 e.2) (by simpa [keys_insert, hk] using h)
    rw [toList_insert_of_not_mem _ hk] at this
    simpa [insertMany] using this

/-- A list in which no key repeats is the list of its entries. -/
theorem toList_ofList {es : List (String × β)} (h : (es.map Prod.fst).Nodup) :
    (ofList es).toList = es := by
  rw [ofList, toList_insertMany]
  · rfl
  · exact h

@[simp] theorem ofList_toList (m : Entries β) : ofList m.toList = m :=
  toList_injective (toList_ofList m.nodup)

end Entries

end AccessControl
