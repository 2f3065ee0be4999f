import AccessControl.Proofs.Group.Texts
/-!
# The name of a group

A group is sent to the path of its name, and its name is no pair of the form that is sent along.
The identifier of a payload is taken out when the payload is decoded.  A member `name` is not: no
change writes it and nothing reads it, so it stays as it came and is sent back.

* `StemsFrom.get?_raw` : under a key that no change writes a group holds what the payload says.
* `upsertGroup_namedInPath` : where the name of a group is sent, and when the form has one too.
* `upsertGroup_sends_name` : the name in a payload is sent back.
-/

namespace AccessControl.Group

/-! ### Groups and their payloads -/

/-- A group was decoded from a payload and then changed, step by step.  A group that was made for a
name counts as decoded from that name. -/
inductive StemsFrom : Entries Json → Group → Prop
  | new (name : String) : StemsFrom (Json.entries [("id", .string name)]) (new name)
  | decoded {members : List (String × Json)} {g : Group} (h : ofJson (.object members) = .ok g) :
    StemsFrom (Json.entries members) g
  | changed {payload : Entries Json} {g : Group} (h : StemsFrom payload g) (e : Edit) :
    StemsFrom payload (g.apply e)

/-- The keys under which the texts of a group are written. -/
def textKeys : List String := textAttrs.map groupSchema.writeKey

variable {payload : Entries Json} {g : Group} {e : Edit} {k : String}

theorem name_apply : (g.apply e).name = g.name := by
  cases e <;> rfl

theorem get?_apply_of_not_mem (hk : k ∉ textKeys) :
    (g.apply e).record.raw.get? k = g.record.raw.get? k := by
  rw [record_apply]
  cases h : e.written? with
  | none => rfl
  | some p =>
    obtain ⟨attr, text⟩ := p
    have hne : k ≠ groupSchema.writeKey attr := fun heq =>
      hk (heq ▸ List.mem_map_of_mem (mem_textAttrs_of_written? h))
    simp only [Record.set, Entries.get?_insert, if_neg hne]

namespace StemsFrom

theorem get?_id (h : StemsFrom payload g) : payload.get? "id" = some (.string g.name) := by
  induction h with
  | new name => rfl
  | @decoded members g h =>
    obtain ⟨hname, -, -⟩ := ofJson_object_eq_ok_iff.1 h
    exact nameOfJson_eq_ok_iff.1 hname
  | changed h e ih => rw [ih, name_apply]

/-- **Under a key that no change writes a group holds what the payload says**, except its
identifier and its roles. -/
theorem get?_raw (h : StemsFrom payload g) (hk : k ∉ textKeys) :
    g.record.raw.get? k = if k = "id" ∨ k = "roles" then none else payload.get? k := by
  induction h with
  | new name =>
    have hnone : (Group.new name).record.raw.get? k = none := rfl
    have hget : (Json.entries [("id", .string name)]).get? k =
        if k = "id" then some (.string name) else none := Entries.get?_insert ∅ "id" k _
    rw [hnone, hget]
    by_cases hid : k = "id"
    · rw [if_pos (.inl hid)]
    · rw [if_neg hid, ite_self]
  | @decoded members g h =>
    obtain ⟨-, -, hrecord⟩ := ofJson_object_eq_ok_iff.1 h
    rw [hrecord, Record.received, Entries.get?_erase, Entries.get?_erase]
    by_cases hid : k = "id" <;> by_cases hroles : k = "roles" <;> simp [hid, hroles]
  | changed h e ih => rw [get?_apply_of_not_mem hk, ih]

end StemsFrom

/-! ### Sending -/

/-- What a request that writes a group says about its name. -/
structure NamedInPath (payload : Entries Json) (g : Group) (request : Request) : Prop where
  path : request.path = Path.group g.name
  /-- The form has no identifier. -/
  id : request.values? "id" = some []
  /-- The form has a name iff the payload has one that counts as set, and it is that one. -/
  name : request.values? "name" =
    some (((payload.get? "name").filter Json.truthy).map Json.formText).toList

theorem StemsFrom.values?_eq {request : Request} (h : StemsFrom payload g)
    (hbody : request.body? = some (formBody g.toMembers)) (hk : k ∉ textKeys)
    (hroles : k ≠ "roles") :
    request.values? k =
      some (((if k = "id" then none else payload.get? k).filter Json.truthy).map
        Json.formText).toList := by
  rw [values?_of_body? hbody hroles, h.get?_raw hk]
  simp only [hroles, or_false]

/-- **The name of a group travels in the path.**  The identifier of a payload is the name of the
group, and stays it.  A request that writes the group goes to the path of that name.  Its form has
no identifier, and it has no name either unless the payload had one that counts as set. -/
theorem upsertGroup_namedInPath (h : StemsFrom payload g) (config : Config) (transport : Transport)
    (options : CallOptions) :
    payload.get? "id" = some (.string g.name) ∧
      ∀ request ∈ ((Call.upsertGroup g).run config transport options).requests,
        NamedInPath payload g request ∧
          ((∀ k ∈ ["id", "name"], request.values? k = some []) ↔
            ∀ v, payload.get? "name" = some v → ¬ v.truthy) := by
  refine ⟨h.get?_id, fun request hrequest => ?_⟩
  obtain ⟨-, -, rfl⟩ := Call.request_upsertGroup_eq_ok_iff.1 (Call.mem_requests_run.1 hrequest)
  have hnamed : NamedInPath payload g
      (.writeGroup g.name g.toMembers (config.callParams options)) :=
    ⟨rfl, h.values?_eq rfl (by decide) (by decide), h.values?_eq rfl (by decide) (by decide)⟩
  refine ⟨hnamed, ?_⟩
  rw [List.forall_mem_cons, List.forall_mem_singleton, and_iff_right hnamed.id,
    values?_eq_nil_iff rfl (by decide), h.get?_raw (by decide), if_neg (by decide)]

/-- A group whose payload has an empty name beside its identifier, with a changed description. -/
theorem upsertGroup_namedInPath_sample :
    ∃ g, ofJson (.object [("name", .string ""), ("id", .string "ops")]) = .ok g ∧
      StemsFrom (Json.entries [("name", .string ""), ("id", .string "ops")])
        (g.apply (.description "name")) ∧
      ∀ request ∈ plainRequests (g.apply (.description "name")),
        request.path = "/settings/rbac/groups/ops" ∧
          ∀ k ∈ ["id", "name"], request.values? k = some [] := by
  have hdecode : ofJson (.object [("name", .string ""), ("id", .string "ops")]) =
      .ok ⟨"ops", .received (Json.entries [("name", .string "")]), ∅⟩ := rfl
  have hstems := (StemsFrom.decoded hdecode).changed (.description "name")
  obtain ⟨-, hrequests⟩ := upsertGroup_namedInPath hstems {} (fun _ => .ok .null) {}
  refine ⟨_, hdecode, hstems, fun request hrequest => ?_⟩
  obtain ⟨hnamed, hiff⟩ := hrequests request hrequest
  refine ⟨hnamed.path, hiff.2 fun v hv => ?_⟩
  cases hv
  decide

/-- **The name in a payload is sent back**: it is neither read nor taken out. -/
theorem upsertGroup_sends_name :
    ∃ g, ofJson (.object [("id", .string "g"), ("name", .string "x")]) = .ok g ∧ g.name = "g" ∧
      (plainRequests g).map (·.values? "name") = [some ["x"]] := by
  refine ⟨⟨"g", .received (Json.entries [("name", .string "x")]), ∅⟩, rfl, rfl, ?_⟩
  decide +kernel

end AccessControl.Group
