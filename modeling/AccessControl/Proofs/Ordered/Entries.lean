import AccessControl.Ordered.Entries
import Mathlib.Data.List.Induction
/-!
# Entries that are written one after the other

A list of entries may have a key several times.  Written one after the other they leave each key at
the place of its first entry, with the value of its last one.

* `Entries.keys_ofList` : the places of the keys.
* `Entries.get?_ofList` : the values of the keys.
-/

namespace AccessControl

theorem eraseDups_concat {α : Type} [DecidableEq α] (xs : List α) (a : α) :
    (xs ++ [a]).eraseDups = if a ∈ xs then xs.eraseDups else xs.eraseDups ++ [a] := by
  rw [List.eraseDups_append]
  by_cases h : a ∈ xs
  · simp [List.removeAll, h]
  · simp [List.removeAll, h, List.eraseDups_cons]

namespace Entries

variable {β : Type}

theorem ofList_concat (es : List (String × β)) (e : String × β) :
    ofList (es ++ [e]) = (ofList es).insert e.1 e.2 :=
  List.foldl_append

/-- The keys come in the order of their first entries. -/
theorem keys_ofList (es : List (String × β)) : (ofList es).keys = (es.map Prod.fst).eraseDups := by
  induction es using List.reverseRecOn with
  | nil => rfl
  | append_singleton es e ih =>
    rw [ofList_concat, keys_insert, ih, List.map_append, List.map_singleton, eraseDups_concat]
    simp only [List.mem_eraseDups]

/-- A key has the value of its last entry. -/
theorem get?_ofList (es : List (String × β)) (k : String) :
    (ofList es).get? k = (es.filterMap fun e => if e.1 = k then some e.2 else none).getLast? := by
  induction es using List.reverseRecOn with
  | nil => rfl
  | append_singleton es e ih =>
    rw [ofList_concat, get?_insert, ih, List.filterMap_append]
    by_cases hk : e.1 = k
    · simp [hk]
    · simp [hk, Ne.symm hk]

end Entries

end AccessControl
