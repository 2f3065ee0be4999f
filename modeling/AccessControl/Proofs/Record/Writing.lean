import AccessControl.Record.Basic
/-!
# Records that were written here

Of a record all of whose members were written on this side nothing is left out when it is sent, also
not what does not count as set.

* `Record.AllWritten.set` : setting an attribute keeps a record such.
* `Record.AllWritten.outgoing_eq` : such a record is sent as it is.
-/

namespace AccessControl.Record

/-- Every member was written on this side. -/
def AllWritten {s : Schema} (r : Record s) : Prop := ∀ k ∈ r.raw.keys, k ∈ r.written

variable {s : Schema} {r : Record s}

theorem allWritten_empty : (empty : Record s).AllWritten := fun _ hk => absurd hk List.not_mem_nil

/-- Setting an attribute writes its key. -/
theorem AllWritten.set (h : r.AllWritten) (attr : String) (v : Json) :
    (r.set attr v).AllWritten := by
  intro k hk
  simp only [Record.set, Entries.mem_keys_insert] at hk
  simp only [Record.set, SortedSet.mem_insert]
  exact hk.imp_right (h k)

/-- Nothing is left out. -/
theorem AllWritten.outgoing_eq (h : r.AllWritten) : r.outgoing = r.raw := by
  refine Entries.toList_injective (List.filter_eq_self.2 fun e he => ?_)
  have hk : e.1 ∈ r.written := h e.1 (List.mem_map_of_mem he)
  simp [hk]

end AccessControl.Record
