import AccessControl.Manager
import AccessControl.Proofs.Role.List
/-!
# What a call sends

A call sends one request, the one that `Call.request` builds, or none.  Writing a user or a group
sends it iff its name is not empty and all its roles can be sent; the members that are sent then
arrive as the pairs of a form.

* `Call.mem_requests_run` : the request of a call is what it sends.
* `Call.request_upsertUser_eq_ok_iff`, `Call.request_upsertGroup_eq_ok_iff` : when a user or a group
  is sent, and as what.
* `filter_formPairs` : the pair in which a member arrives.
* `Request.values?` : what the form in the body of a request gives a key.
-/

namespace AccessControl

theorem Entries.filter_toList_of_get? {β : Type} {m : Entries β} {k : String} {v : β}
    (h : m.get? k = some v) : m.toList.filter (fun e => e.1 = k) = [(k, v)] := by
  obtain ⟨es, hnodup⟩ := m
  simp only [get?] at h ⊢
  induction es with
  | nil => simp at h
  | cons e rest ih =>
    rw [List.map_cons, List.nodup_cons] at hnodup
    rw [lookup_cons_eq_ite] at h
    split at h
    · rename_i hk
      -- the key does not come again after its entry
      have hrest : rest.filter (fun e => e.1 = k) = [] := by
        rw [List.filter_eq_nil_iff]
        intro e' he' hk'
        have : e'.1 ∈ rest.map Prod.fst := List.mem_map_of_mem he'
        exact hnodup.1 (by simpa [← hk, of_decide_eq_true hk'] using this)
      rw [List.filter_cons_of_pos (by simp [hk]), hrest, hk, ← Option.some.inj h]
    · rename_i hk
      rw [List.filter_cons_of_neg (by simpa using fun e => hk e.symm)]
      exact ih hnodup.2 h

/-- The value of a member is the value of its key's pair, and its key has no other pair. -/
theorem filter_formPairs {members : Entries Json} {k : String} {v : Json}
    (h : members.get? k = some v) :
    (formPairs members).filter (fun p => p.1 = k) = [(k, v.formText)] := by
  have := Entries.filter_toList_of_get? h
  rw [formPairs, List.filter_map]
  simp only [Function.comp_def, this, List.map_cons, List.map_nil]

/-! ### The values of a key -/

/-- The values that the form in the body of a request gives a key, in order. -/
def Request.values? (request : Request) (key : String) : Option (List String) :=
  (request.body?.bind Form.decode?).map fun pairs =>
    (pairs.filter fun p => p.1 = key).map Prod.snd

theorem map_snd_filter_formPairs (members : Entries Json) (k : String) :
    ((formPairs members).filter fun p => p.1 = k).map Prod.snd =
      ((members.get? k).map Json.formText).toList := by
  cases hget : members.get? k with
  | some v => simp [filter_formPairs hget]
  | none =>
    have hnone : ∀ p ∈ formPairs members, p.1 ≠ k := by
      intro p hp hk
      obtain ⟨e, he, rfl⟩ := List.mem_map.1 hp
      have hkey : k ∈ members.keys := hk ▸ List.mem_map_of_mem he
      rw [Entries.mem_keys, hget] at hkey
      cases hkey
    have hfilter : (formPairs members).filter (fun p => p.1 = k) = [] := by
      simpa [List.filter_eq_nil_iff] using hnone
    rw [hfilter]
    rfl

theorem Request.values?_of_body? {request : Request} {members : Entries Json}
    (h : request.body? = some (formBody members)) (k : String) :
    request.values? k = some ((members.get? k).map Json.formText).toList := by
  rw [values?, h, Option.bind_some, formBody, Form.decode?_encode, Option.map_some,
    map_snd_filter_formPairs]

/-! ### Users and groups -/

theorem Json.formText_array_string (texts : List String) :
    (Json.array (texts.map .string)).formText = ",".intercalate texts := by
  simp [formText, formTexts_eq_map, Function.comp_def]

theorem Json.formText_array_role (roles : List Role) :
    (Json.array (roles.map fun r => .string r.encode)).formText = Role.encodeList roles := by
  have hmap : (roles.map fun r => Json.string r.encode) = (roles.map Role.encode).map .string := by
    rw [List.map_map]
    rfl
  rw [hmap, formText_array_string, Role.encodeList]

theorem User.body_eq_ok_iff {u : User} {members : Entries Json} :
    u.body = .ok members ↔
      (∀ r ∈ u.roles, r.validate = .ok ()) ∧ members = u.toMembers.filter User.isSent := by
  rw [User.body, check_bind_eq_ok_iff, Role.validateAll_eq_ok_iff, pure_eq_ok_iff,
    eq_comm (b := members)]
  rfl

theorem Group.body_eq_ok_iff {g : Group} {members : Entries Json} :
    g.body = .ok members ↔ (∀ r ∈ g.roles, r.validate = .ok ()) ∧ members = g.toMembers := by
  rw [Group.body, check_bind_eq_ok_iff, Role.validateAll_eq_ok_iff, pure_eq_ok_iff,
    eq_comm (b := members)]
  rfl

namespace Group

variable {g : Group} {request : Request} {k : String}

theorem values?_of_body? (hbody : request.body? = some (formBody g.toMembers)) (hk : k ≠ "roles") :
    request.values? k =
      some (((g.record.raw.get? k).filter Json.truthy).map Json.formText).toList := by
  rw [Request.values?_of_body? hbody, get?_toMembers, if_neg hk]

theorem values?_eq_nil_iff (hbody : request.body? = some (formBody g.toMembers))
    (hk : k ≠ "roles") :
    request.values? k = some [] ↔ ∀ v, g.record.raw.get? k = some v → ¬ v.truthy := by
  rw [values?_of_body? hbody hk, ← Option.filter_eq_none_iff, Option.some_inj]
  cases (g.record.raw.get? k).filter Json.truthy <;> simp

end Group

namespace Call

variable {config : Config} {params : Params} {transport : Transport} {options : CallOptions}
  {request : Request}

theorem requireNonEmpty_eq_ok_iff {argument value : String} :
    requireNonEmpty argument value = .ok () ↔ value ≠ "" := by
  unfold requireNonEmpty
  split <;> simp_all

/-! ### Requests -/

theorem requests_run (c : Call) :
    (c.run config transport options).requests =
      (c.request config (config.callParams options)).toOption.toList := by
  unfold run
  cases c.request config (config.callParams options) with
  | error fault => rfl
  | ok request =>
    simp only
    cases transport request <;> rfl

theorem mem_requests_run {c : Call} :
    request ∈ (c.run config transport options).requests ↔
      c.request config (config.callParams options) = .ok request := by
  rw [requests_run]
  cases c.request config (config.callParams options) <;> simp [Except.toOption, eq_comm]

theorem requests_run_ne_nil_iff {c : Call} :
    (c.run config transport options).requests ≠ [] ↔
      ∃ request, c.request config (config.callParams options) = .ok request := by
  constructor
  · intro hne
    obtain ⟨request, h⟩ := List.exists_mem_of_ne_nil _ hne
    exact ⟨request, mem_requests_run.1 h⟩
  · rintro ⟨request, h⟩
    exact List.ne_nil_of_mem (mem_requests_run.2 h)

/-- A user is sent iff it has a name and all its roles can be sent. -/
theorem request_upsertUser_eq_ok_iff {u : User} {domain? : Option AuthDomain} :
    (upsertUser u domain?).request config params = .ok request ↔
      u.username ≠ "" ∧ (∀ r ∈ u.roles, r.validate = .ok ()) ∧
        request = .writeUser (config.domainOf domain?) u.username
          (u.toMembers.filter User.isSent) params := by
  rw [Call.request, check_bind_eq_ok_iff, requireNonEmpty_eq_ok_iff, bind_eq_ok_iff]
  simp only [User.body_eq_ok_iff, pure_eq_ok_iff]
  constructor
  · rintro ⟨hname, _, ⟨hroles, rfl⟩, rfl⟩
    exact ⟨hname, hroles, rfl⟩
  · rintro ⟨hname, hroles, rfl⟩
    exact ⟨hname, _, ⟨hroles, rfl⟩, rfl⟩

/-- A group is sent iff it has a name and all its roles can be sent. -/
theorem request_upsertGroup_eq_ok_iff {g : Group} :
    (upsertGroup g).request config params = .ok request ↔
      g.name ≠ "" ∧ (∀ r ∈ g.roles, r.validate = .ok ()) ∧
        request = .writeGroup g.name g.toMembers params := by
  rw [Call.request, check_bind_eq_ok_iff, requireNonEmpty_eq_ok_iff, bind_eq_ok_iff]
  simp only [Group.body_eq_ok_iff, pure_eq_ok_iff]
  constructor
  · rintro ⟨hname, _, ⟨hroles, rfl⟩, rfl⟩
    exact ⟨hname, hroles, rfl⟩
  · rintro ⟨hname, hroles, rfl⟩
    exact ⟨hname, _, ⟨hroles, rfl⟩, rfl⟩

end Call

end AccessControl
