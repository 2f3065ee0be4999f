import AccessControl.Proofs.Ordered.Entries
import AccessControl.Proofs.Record.History
import AccessControl.Proofs.Record.Writing
/-!
# The positional form of a record

An array stands for the attributes of its positions.  It is read by pairing the positions with the
items and writing all pairs at once, while a record is made on this side by setting its attributes
one after the other.  The members are the same both ways, also where positions share a key; only the
marks differ, since nothing of an array was written here.

* `Record.positional_eq_raw_ofAttributes` : the members of an array are those of its positions, set
  one after the other.
* `Record.stored?_received_positional` : a position has its item, if no two positions share a key.
* `Record.ofJson?_array_readsPositions` : which arrays are read, and as what.
-/

namespace AccessControl.Record

variable {s : Schema} {items : List Json} {attr k : String} {v : Json}

/-! ### Attributes that are set here -/

theorem ofAttributes_concat (attrs : List (String × Json)) (e : String × Json) :
    (ofAttributes (attrs ++ [e]) : Record s) = (ofAttributes attrs).set e.1 e.2 :=
  List.foldl_append

theorem raw_ofAttributes (attrs : List (String × Json)) :
    (ofAttributes attrs : Record s).raw =
      Entries.ofList (attrs.map fun e => (s.writeKey e.1, e.2)) := by
  induction attrs using List.reverseRecOn with
  | nil => rfl
  | append_singleton attrs e ih =>
    rw [ofAttributes_concat, set, ih, List.map_append, List.map_singleton, Entries.ofList_concat]

theorem allWritten_ofAttributes (attrs : List (String × Json)) :
    (ofAttributes attrs : Record s).AllWritten := by
  induction attrs using List.reverseRecOn with
  | nil => exact allWritten_empty
  | append_singleton attrs e ih =>
    rw [ofAttributes_concat]
    exact ih.set e.1 e.2

theorem mem_written_ofAttributes {attrs : List (String × Json)} :
    k ∈ (ofAttributes attrs : Record s).written ↔ k ∈ (ofAttributes attrs : Record s).raw.keys := by
  have hstep : InStep (Source.attributes attrs).edits (ofAttributes attrs : Record s) :=
    inStep_of_record? rfl
  exact ⟨hstep.held k, allWritten_ofAttributes attrs k⟩

/-! ### Positions -/

/-- The members of an array are those of its positions, set one after the other. -/
theorem positional_eq_raw_ofAttributes (items : List Json) :
    positional s items = (ofAttributes (s.positions.zip items) : Record s).raw := by
  rw [positional, raw_ofAttributes]

theorem keys_positional (items : List Json) :
    (positional s items).keys =
      ((s.positions.zip items).map fun e => s.writeKey e.1).eraseDups := by
  rw [positional, Entries.keys_ofList, List.map_map]
  rfl

theorem get?_positional (items : List Json) (k : String) :
    (positional s items).get? k =
      ((s.positions.zip items).filterMap fun e =>
        if s.writeKey e.1 = k then some e.2 else none).getLast? := by
  rw [positional, Entries.get?_ofList, List.filterMap_map]
  rfl

/-- Two of its positions share a key. -/
def sharedSchema : Schema where
  entity := "shared"
  aliases := [("x", "c"), ("x", "d")]
  positions := ["c", "a", "d"]

example : (positional sharedSchema [.bool true, .null, .string "last"]).toList =
    [("x", .string "last"), ("a", .null)] :=
  rfl

theorem map_fst_zip_sublist {α β : Type} (xs : List α) (ys : List β) :
    ((xs.zip ys).map Prod.fst).Sublist xs := by
  induction xs generalizing ys with
  | nil => simp
  | cons x rest ih =>
    cases ys with
    | nil => exact List.nil_sublist _
    | cons y ys => exact (ih ys).cons_cons x

/-- A position has its item, if no two positions share a key. -/
theorem stored?_received_positional (hnodup : (s.positions.map s.writeKey).Nodup)
    (h : (attr, v) ∈ s.positions.zip items) (hv : v ≠ .null) :
    (received (positional s items) : Record s).stored? attr = some v := by
  have hkeys : (((s.positions.zip items).map fun e => (s.writeKey e.1, e.2)).map
      Prod.fst).Nodup := by
    have hsublist := (map_fst_zip_sublist s.positions items).map s.writeKey
    rw [List.map_map] at hsublist ⊢
    exact hnodup.sublist hsublist
  have hget : (positional s items).get? (s.writeKey attr) = some v := by
    rw [← Entries.mem_toList, positional, Entries.toList_ofList hkeys]
    exact List.mem_map_of_mem h
  exact stored?_of_get?_writeKey hget hv

/-! ### Arrays -/

theorem outgoing_received (raw : Entries Json) :
    (received raw : Record s).outgoing = raw.filter fun _ v => v.truthy := by
  simp [outgoing, received]

/-- A record has the items of an array as the values of its positions. -/
structure ReadsPositions (items : List Json) (r : Record s) : Prop where
  /-- The members are those of the positions, set one after the other. -/
  raw : r.raw = (ofAttributes (s.positions.zip items) : Record s).raw
  /-- A key comes where the first of its positions puts it. -/
  keys : r.raw.keys = ((s.positions.zip items).map fun e => s.writeKey e.1).eraseDups
  /-- It has the item of the last of its positions. -/
  value : ∀ k, r.raw.get? k = ((s.positions.zip items).filterMap fun e =>
    if s.writeKey e.1 = k then some e.2 else none).getLast?
  /-- Nothing is marked as written, while all is where the positions are set. -/
  unwritten : r.written = ∅
  written_iff : ∀ k, k ∈ (ofAttributes (s.positions.zip items) : Record s).written ↔ k ∈ r.raw.keys
  outgoing : r.outgoing = r.raw.filter fun _ v => v.truthy
  /-- A position has its item, if no two positions share a key. -/
  stored : (s.positions.map s.writeKey).Nodup → ∀ (i : Nat) (attr : String) (v : Json),
    s.positions[i]? = some attr → items[i]? = some v → v ≠ .null → r.stored? attr = some v

theorem readsPositions_received (items : List Json) :
    ReadsPositions items (received (positional s items) : Record s) where
  raw := positional_eq_raw_ofAttributes items
  keys := keys_positional items
  value := get?_positional items
  unwritten := rfl
  written_iff k := by rw [mem_written_ofAttributes, received, positional_eq_raw_ofAttributes]
  outgoing := outgoing_received _
  stored hnodup i attr v hattr hitem hv := by
    have hzip : (s.positions.zip items)[i]? = some (attr, v) :=
      List.getElem?_zip_eq_some.2 ⟨hattr, hitem⟩
    exact stored?_received_positional hnodup (List.mem_of_getElem? hzip) hv

/-- **The positional form says what naming the positions says.**  An array is refused iff it has
more items than there are positions, and otherwise it is read as the values of its positions. -/
theorem ofJson?_array_readsPositions (s : Schema) (items : List Json) :
    (∀ fault, (ofJson? (.array items) : Except RecordFault (Record s)) = .error fault ↔
      s.positions.length < items.length ∧
        fault = .tooManyPositions s.entity s.positions.length items.length) ∧
      (items.length ≤ s.positions.length →
        ∃ r : Record s, ofJson? (.array items) = .ok r ∧ ReadsPositions items r) := by
  rw [ofJson?]
  by_cases hlength : s.positions.length < items.length
  · rw [if_pos hlength]
    refine ⟨fun fault => ?_, fun hle => absurd hlength (Nat.not_lt.2 hle)⟩
    simp [hlength, eq_comm]
  · rw [if_neg hlength]
    refine ⟨fun fault => ?_, fun _ => ⟨_, rfl, readsPositions_received items⟩⟩
    simp [hlength]

/-- Items for positions that are written under the names of each other or under an alias. -/
def crossedItems : List Json := [.bool false, .null, .string "kept"]

theorem ofJson?_array_readsPositions_sample :
    (∃ r : Record crossedSchema, ofJson? (.array crossedItems) = .ok r ∧
      ReadsPositions crossedItems r ∧ r.stored? "c" = some (.string "kept") ∧
      r.raw.toList = [("b", .bool false), ("a", .null), ("x", .string "kept")]) ∧
      (ofJson? (.array (.null :: crossedItems)) : Except RecordFault (Record crossedSchema)) =
        .error (.tooManyPositions "crossed" 3 4) := by
  obtain ⟨-, hread⟩ := ofJson?_array_readsPositions crossedSchema crossedItems
  obtain ⟨hrefused, -⟩ := ofJson?_array_readsPositions crossedSchema (.null :: crossedItems)
  obtain ⟨r, hr, hreads⟩ := hread (by decide)
  have hnodup : (crossedSchema.positions.map crossedSchema.writeKey).Nodup := by decide
  refine ⟨⟨r, hr, hreads, hreads.stored hnodup 2 "c" _ rfl rfl nofun, ?_⟩,
    (hrefused _).2 ⟨by decide, rfl⟩⟩
  rw [hreads.raw]
  rfl

end AccessControl.Record
