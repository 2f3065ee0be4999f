import AccessControl.Proofs.Record.Frame
import Mathlib.Data.List.Induction
/-!
# Records and the edits that made them

Of what does not count as set a record sends only what was written on this side, so it has to know
what was.  The history of a record says the same without the record: a write stands if nothing after
it erased its key.  The marks of a record are at all times the keys with a write that stands, also
where attributes share a key or have each other's names as keys.

* `Record.InStep.apply` : an edit keeps the marks of a record in step with its history.
* `Record.InStep.sendsWritten` : what a record in step sends.
* `Record.sendsWritten_applyAll` : wherever a record comes from and whatever its edits are, it sends
  what its history says.
-/

namespace AccessControl.Record

/-! ### Histories -/

/-- A change of one attribute of a record. -/
inductive Edit where
  | set (attr : String) (v : Json)
  | remove (attr : String)

namespace Edit

/-- An edit writes a value under a key. -/
def WritesUnder (s : Schema) (k : String) : Edit → Prop
  | set attr _ => s.writeKey attr = k
  | remove _ => False

/-- An edit erases what is under a key. -/
def Erases (s : Schema) (k : String) : Edit → Prop
  | set .. => False
  | remove attr => s.writeKey attr = k

end Edit

/-- Some edit wrote under a key, and no edit after it erased the key. -/
def Stands (s : Schema) (history : List Edit) (k : String) : Prop :=
  ∃ before e after, history = before ++ e :: after ∧ e.WritesUnder s k ∧
    ∀ e' ∈ after, ¬ e'.Erases s k

variable {s : Schema} {history : List Edit} {r : Record s} {k : String}

theorem not_stands_nil : ¬ Stands s [] k := by
  rintro ⟨before, e, after, h, -, -⟩
  simp at h

/-- One more edit makes a write stand under its key, or lets stand what it does not erase. -/
theorem stands_concat {e : Edit} :
    Stands s (history ++ [e]) k ↔ e.WritesUnder s k ∨ Stands s history k ∧ ¬ e.Erases s k := by
  constructor
  · rintro ⟨before, w, after, heq, hwrites, hafter⟩
    -- the write is the last edit, or the last edit comes after it
    rcases List.eq_nil_or_concat after with rfl | ⟨after, last, rfl⟩
    · obtain ⟨-, hlast⟩ := List.append_inj' heq rfl
      obtain rfl : e = w := by simpa using hlast
      exact .inl hwrites
    · have heq' : history ++ [e] = (before ++ w :: after) ++ [last] := by simpa using heq
      obtain ⟨rfl, hlast⟩ := List.append_inj' heq' rfl
      obtain rfl : e = last := by simpa using hlast
      exact .inr ⟨⟨before, w, after, rfl, hwrites, fun e' he' => hafter e' (by simp [he'])⟩,
        hafter e (by simp)⟩
  · rintro (hwrites | ⟨⟨before, w, after, rfl, hwrites, hafter⟩, herases⟩)
    · exact ⟨history, e, [], rfl, hwrites, by simp⟩
    · refine ⟨before, w, after ++ [e], by simp, hwrites, fun e' he' => ?_⟩
      rcases List.mem_append.1 he' with he' | he'
      · exact hafter e' he'
      · rwa [List.mem_singleton.1 he']

/-! ### Records in step -/

/-- The record after an edit. -/
def apply (r : Record s) : Edit → Record s
  | .set attr v => r.set attr v
  | .remove attr => r.remove attr

/-- The record after some edits, one after the other. -/
def applyAll (r : Record s) (edits : List Edit) : Record s := edits.foldl apply r

theorem applyAll_append (r : Record s) (edits edits' : List Edit) :
    r.applyAll (edits ++ edits') = (r.applyAll edits).applyAll edits' :=
  List.foldl_append

/-- The marks of a record are the keys under which a write of its history stands, and there is a
value under each of them. -/
structure InStep (history : List Edit) (r : Record s) : Prop where
  held : ∀ k ∈ r.written, k ∈ r.raw.keys
  written_iff : ∀ k, k ∈ r.written ↔ Stands s history k

theorem inStep_received (raw : Entries Json) : InStep [] (received raw : Record s) where
  held k hk := absurd hk (SortedSet.not_mem_empty k)
  written_iff k := iff_of_false (SortedSet.not_mem_empty k) not_stands_nil

/-- **An edit keeps the marks of a record in step with its history.** -/
theorem InStep.apply (h : InStep history r) (e : Edit) : InStep (history ++ [e]) (r.apply e) := by
  cases e with
  | set attr v =>
    refine ⟨fun k hk => ?_, fun k => ?_⟩
    · -- the key of the attribute gets a value together with its mark
      simp only [Record.apply, set, SortedSet.mem_insert, Entries.mem_keys_insert] at hk ⊢
      exact hk.imp_right (h.held k)
    · simp only [stands_concat, ← h.written_iff, Record.apply, set, SortedSet.mem_insert,
        Edit.WritesUnder, Edit.Erases, not_false_iff, and_true, eq_comm]
  | remove attr =>
    refine ⟨fun k hk => ?_, fun k => ?_⟩
    · -- the key of the attribute loses its mark together with its value
      simp only [Record.apply, remove, SortedSet.mem_erase, Entries.mem_keys_erase] at hk ⊢
      exact ⟨hk.2, h.held k hk.1⟩
    · simp only [stands_concat, ← h.written_iff, Record.apply, remove, SortedSet.mem_erase,
        Edit.WritesUnder, Edit.Erases, false_or, ne_eq, eq_comm]

/-- Edits keep a record in step. -/
theorem InStep.applyAll (h : InStep history r) (edits : List Edit) :
    InStep (history ++ edits) (r.applyAll edits) := by
  induction edits using List.reverseRecOn with
  | nil => rwa [List.append_nil]
  | append_singleton edits e ih =>
    rw [applyAll_append, ← List.append_assoc]
    exact ih.apply e

/-! ### What is sent -/

/-- What a record with a history sends: some of its members, in their order and with their values,
namely those that count as set and those under whose key a write stands. -/
structure SendsWritten (history : List Edit) (r : Record s) : Prop where
  /-- There is a value under every key that is marked as written. -/
  held : ∀ k ∈ r.written, k ∈ r.raw.keys
  sublist : r.outgoing.toList.Sublist r.raw.toList
  mem_iff : ∀ k v, (k, v) ∈ r.outgoing.toList ↔
    (k, v) ∈ r.raw.toList ∧ (v.truthy ∨ Stands s history k)

/-- A record in step with its history sends what the history says. -/
theorem InStep.sendsWritten (h : InStep history r) : SendsWritten history r where
  held := h.held
  sublist := List.filter_sublist
  mem_iff k v := by
    simp only [outgoing, Entries.filter, List.mem_filter, Bool.or_eq_true, decide_eq_true_eq,
      h.written_iff]

/-! ### Where records come from -/

/-- Where a record comes from. -/
inductive Source where
  /-- The members of an object that was received. -/
  | members (m : Entries Json)
  /-- A value that was received, an object or an array of positions. -/
  | value (v : Json)
  /-- Attributes with their values, given on this side. -/
  | attributes (attrs : List (String × Json))

namespace Source

/-- The record that comes from a source. -/
def record? (s : Schema) : Source → Except RecordFault (Record s)
  | members m => .ok (received m)
  | value v => ofJson? v
  | attributes attrs => .ok (ofAttributes attrs)

/-- The edits by which a record was made: attributes that are given on this side are set. -/
def edits : Source → List Edit
  | members _ | value _ => []
  | attributes attrs => attrs.map fun e => .set e.1 e.2

end Source

theorem exists_eq_received_of_ofJson? {v : Json} (h : ofJson? v = .ok r) :
    ∃ raw, r = received raw := by
  cases v with
  | object members =>
    cases h
    exact ⟨_, rfl⟩
  | array items =>
    rw [ofJson?] at h
    split at h <;> cases h
    exact ⟨_, rfl⟩
  | _ => cases h

theorem ofAttributes_eq_applyAll (attrs : List (String × Json)) :
    (ofAttributes attrs : Record s) =
      (received ∅).applyAll (Source.attributes attrs).edits := by
  rw [applyAll, Source.edits, List.foldl_map]
  rfl

theorem inStep_of_record? {source : Source} (h : source.record? s = .ok r) :
    InStep source.edits r := by
  cases source with
  | members m =>
    cases h
    exact inStep_received m
  | value v =>
    obtain ⟨raw, rfl⟩ := exists_eq_received_of_ofJson? h
    exact inStep_received raw
  | attributes attrs =>
    cases h
    rw [ofAttributes_eq_applyAll]
    exact (inStep_received ∅).applyAll _

/-- **A record sends what its history says**, wherever it comes from and whatever its edits are:
what counts as set, and what was written here and not erased afterwards. -/
theorem sendsWritten_applyAll {source : Source} {start : Record s}
    (h : source.record? s = .ok start) (edits : List Edit) :
    SendsWritten (source.edits ++ edits) (start.applyAll edits) :=
  ((inStep_of_record? h).applyAll edits).sendsWritten

/-- The attributes of the sample are written under the keys `b`, `a` and `x`. -/
def crossedSource : Source := .value (.array [.bool false, .string "", .string "kept"])

/-- Writes under two keys, of which one is erased through another attribute and written again. -/
def crossedEdits : List Edit :=
  [.set "b" (.string ""), .set "c" .null, .remove "d", .set "d" (.array [])]

theorem sendsWritten_applyAll_sample :
    ∃ start, crossedSource.record? crossedSchema = .ok start ∧
      SendsWritten (crossedSource.edits ++ crossedEdits) (start.applyAll crossedEdits) ∧
      (start.applyAll crossedEdits).raw.toList =
        [("b", .bool false), ("a", .string ""), ("x", .array [])] ∧
      (start.applyAll crossedEdits).outgoing.toList = [("a", .string ""), ("x", .array [])] :=
  ⟨_, rfl, sendsWritten_applyAll rfl crossedEdits, rfl, rfl⟩

end AccessControl.Record
