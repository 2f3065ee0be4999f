import AccessControl.Proofs.Record.Agreement
/-!
# What a write changes

An attribute is written under one key and looked for under several.  A write is read back because
its key is the first of them, and it can be seen in no attribute that is not looked for under that
key.  When the attribute is removed, nothing is left of the write.

* `Record.stored?_set_self` : a write is read back.
* `Record.stored?_set_of_ne` : it is seen in no attribute that its key does not stand for.
* `Record.remove_set` : a removal leaves nothing of it.
* `Record.set_framed` : all that a write and its removal do.
-/

namespace AccessControl

namespace Record

variable {s : Schema} {r r' : Record s} {attr : String}

/-- An attribute resolves to the same in two records, whatever it is read as. -/
structure ResolvesAlike (r r' : Record s) (attr : String) : Prop where
  stored : r.stored? attr = r'.stored? attr
  get : r.get? attr = r'.get? attr
  read : ∀ {α : Type} (decoder : Decoder α), r.read? decoder attr = r'.read? decoder attr
  require : ∀ {α : Type} (decoder : Decoder α), r.require decoder attr = r'.require decoder attr

theorem resolvesAlike_of_stored?_eq (h : r.stored? attr = r'.stored? attr) :
    ResolvesAlike r r' attr where
  stored := h
  get := get?_congr h
  read := read?_congr h
  require decoder := by rw [Record.require, Record.require, read?_congr h]

/-! ### Writing -/

/-- **A write is read back**, since its key is looked under first. -/
theorem stored?_set_self (r : Record s) (attr : String) {v : Json} (hv : v ≠ .null) :
    (r.set attr v).stored? attr = some v := by
  have hget : (r.set attr v).raw.get? (s.writeKey attr) = some v := by
    rw [set, Entries.get?_insert, if_pos rfl]
  exact stored?_of_get?_writeKey hget hv

theorem get?_set_self (r : Record s) (attr : String) {v : Json} (hv : v ≠ .null) :
    (r.set attr v).get? attr = some v := by
  rw [get?, stored?_set_self r attr hv, Option.some_or]

theorem contains_set_self (r : Record s) (attr : String) (v : Json) :
    (r.set attr v).contains attr = true := by
  rw [contains, set, Entries.contains, Entries.get?_insert, if_pos rfl, Option.isSome_some]

/-- **A write is seen in no attribute that its key does not stand for.** -/
theorem stored?_set_of_ne (r : Record s) (v : Json) {other : String}
    (hname : s.writeKey attr ≠ other) (halias : (s.writeKey attr, other) ∉ s.aliases) :
    (r.set attr v).stored? other = r.stored? other := by
  refine stored?_eq_of_present?_eq fun k hk => ?_
  have hne : k ≠ s.writeKey attr := by
    rintro rfl
    exact (Schema.mem_readKeys.1 hk).elim halias hname
  rw [present?, present?, set, Entries.get?_insert, if_neg hne]

/-! ### Removing -/

/-- **A removal leaves nothing of a write**, neither a value nor a mark. -/
theorem remove_set (r : Record s) (attr : String) (v : Json) :
    (r.set attr v).remove attr = r.remove attr := by
  have hraw : (r.raw.insert (s.writeKey attr) v).erase (s.writeKey attr) =
      r.raw.erase (s.writeKey attr) := Entries.erase_insert _ _ _
  have hwritten : (r.written.insert (s.writeKey attr)).erase (s.writeKey attr) =
      r.written.erase (s.writeKey attr) := by
    refine SortedSet.ext fun k => ?_
    by_cases hk : k = s.writeKey attr <;> simp [hk]
  rw [remove, remove, set, hraw, hwritten]

theorem contains_remove_self (r : Record s) (attr : String) :
    (r.remove attr).contains attr = false := by
  rw [contains, remove, Entries.contains, Entries.get?_erase, if_pos rfl, Option.isSome_none]

/-! ### Both -/

/-- **A write is read back and does not leak.**  After a write the attribute has its value, whatever
its other keys hold; attributes that its key does not stand for resolve as before, and the members
under other keys keep their values and their order.  When the attribute is then removed, nothing is
left of the write: every attribute resolves as it did, but for what was under the key before. -/
theorem set_framed (r : Record s) (attr : String) {v : Json} (hv : v ≠ .null) :
    ((r.set attr v).stored? attr = some v ∧ (r.set attr v).get? attr = some v ∧
        (r.set attr v).contains attr = true) ∧
      (∀ other, s.writeKey attr ≠ other → (s.writeKey attr, other) ∉ s.aliases →
        ResolvesAlike (r.set attr v) r other) ∧
      ((r.set attr v).raw.toList.filter fun e => e.1 ≠ s.writeKey attr) =
        (r.raw.toList.filter fun e => e.1 ≠ s.writeKey attr) ∧
      (r.set attr v).remove attr = r.remove attr ∧
      ((r.set attr v).remove attr).contains attr = false ∧
      ∀ other, ResolvesAlike ((r.set attr v).remove attr)
        { r with raw := r.raw.erase (s.writeKey attr) } other := by
  refine ⟨⟨stored?_set_self r attr hv, get?_set_self r attr hv, contains_set_self r attr v⟩, ?_, ?_,
    remove_set r attr v, contains_remove_self _ attr, ?_⟩
  · intro other hname halias
    exact resolvesAlike_of_stored?_eq (stored?_set_of_ne r v hname halias)
  · exact filter_putEntry _ v r.raw.toList
  · intro other
    rw [remove_set]
    exact resolvesAlike_of_stored?_eq rfl

/-- Two attributes that have each other's names as keys, and two that share a key. -/
def crossedSchema : Schema where
  entity := "crossed"
  aliases := [("a", "b"), ("b", "a"), ("x", "c"), ("y", "c"), ("x", "d")]
  fallbacks := [("c", .string "none")]
  positions := ["a", "b", "c"]

/-- What was received holds values under both keys of an attribute that is then written. -/
theorem set_framed_sample :
    let r : Record crossedSchema :=
      received (.ofList [("y", .bool false), ("b", .string "old"), ("a", .string "own")])
    (Json.string "new" ≠ .null ∧ "b" ≠ "c" ∧ ("b", "c") ∉ crossedSchema.aliases) ∧
      (r.set "a" (.string "new")).stored? "a" = some (.string "new") ∧
      ResolvesAlike (r.set "a" (.string "new")) r "c" ∧
      (r.set "a" (.string "new")).raw.toList =
        [("y", .bool false), ("b", .string "new"), ("a", .string "own")] ∧
      ((r.set "a" (.string "new")).remove "a").stored? "a" = some (.string "own") := by
  intro r
  have hnull : Json.string "new" ≠ .null := nofun
  have hframe : "b" ≠ "c" ∧ ("b", "c") ∉ crossedSchema.aliases := by decide
  obtain ⟨⟨hstored, -, -⟩, halike, -, hremove, -, -⟩ := set_framed r "a" hnull
  refine ⟨⟨hnull, hframe⟩, hstored, halike "c" hframe.1 hframe.2, rfl, ?_⟩
  rw [hremove]
  rfl

end Record

end AccessControl
