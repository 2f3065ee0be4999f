import AccessControl.Proofs.Call.Sending
import AccessControl.Proofs.User.History
/-!
# What is sent of a user

A user that was built by edits is sent as the pairs of its history (`pairsSent`): the texts that
were ever set, the groups unless there are none, and the roles if they were ever set.

* `Tracks.formPairs_eq` : a user in step with a history is sent as the pairs of that history.
* `upsertUser_sends_history` : the request by which a user that was built by edits is written.
-/

namespace AccessControl.User

variable {name : String} {edits : List Edit} {u : User}

/-! ### What is sent of a history -/

/-- The pair that is sent for a property: a text that was ever set, groups that are not empty. -/
def pairOf? (edits : List Edit) : Property → Option (String × String)
  | .displayName => (lastDisplayName? edits).map fun name => ("name", name)
  | .password => (lastPassword? edits).map fun password => ("password", password)
  | .groups =>
    if (groupsAfter edits).isEmpty then none
    else some ("groups", ",".intercalate (groupsAfter edits).toList)

/-- The pair that is sent for the roles, if they were ever set. -/
def rolesPair? (edits : List Edit) : Option (String × String) :=
  if edits.any Edit.isRoles then some ("roles", Role.encodeList (rolesAfter edits).toList)
  else none

/-- The pairs that are sent: those of the properties in the order of their first setting, and then
the roles. -/
def pairsSent (edits : List Edit) : List (String × String) :=
  (propertiesSet edits).filterMap (pairOf? edits) ++ (rolesPair? edits).toList

/-! ### From the wire record to the pairs -/

/-- The pair in which a member is sent, if it is. -/
def sentPair? (e : String × Json) : Option (String × String) :=
  if isSent e.1 e.2 then some (e.1, e.2.formText) else none

theorem formPairs_filter_isSent (members : Entries Json) :
    formPairs (members.filter isSent) = members.toList.filterMap sentPair? := by
  rw [formPairs, Entries.filter]
  simp only
  induction members.toList with
  | nil => rfl
  | cons e rest ih =>
    cases hsent : isSent e.1 e.2 <;> simp [sentPair?, hsent, ih]

theorem sentPair?_storedValue {p : Property} (h : p ∈ propertiesSet edits) :
    sentPair? (p.key, storedValue edits p) = pairOf? edits p := by
  cases p with
  | displayName =>
    obtain ⟨text, htext⟩ := Option.isSome_iff_exists.1 (isSome_lastDisplayName?_iff.2 h)
    simp [sentPair?, pairOf?, storedValue, htext, isSent, bodyKeys, Property.key, Json.formText]
  | password =>
    obtain ⟨text, htext⟩ := Option.isSome_iff_exists.1 (isSome_lastPassword?_iff.2 h)
    simp [sentPair?, pairOf?, storedValue, htext, isSent, bodyKeys, Property.key, Json.formText]
  | groups =>
    -- an empty list of groups is held, but it is the one value that is not sent
    simp only [sentPair?, pairOf?, storedValue, Json.formText_array_string]
    cases hempty : (groupsAfter edits).isEmpty <;>
      simp_all [isSent, bodyKeys, Property.key, Json.array?, SortedSet.isEmpty]

namespace Tracks

theorem outgoing_eq (h : Tracks name edits u) : u.record.outgoing = u.record.raw :=
  Record.AllWritten.outgoing_eq h.written

theorem toList_toMembers (h : Tracks name edits u) :
    u.toMembers.toList = storedMembers name edits ++
      u.roles?.toList.map fun roles =>
        ("roles", .array (roles.toList.map fun r => .string r.encode)) := by
  -- no property has the key of the roles, so they are written at the end
  have hroles : "roles" ∉ u.record.outgoing.keys := by
    rw [h.outgoing_eq, Entries.keys, h.raw, storedMembers, List.map_cons, List.map_map]
    simp [Function.comp_def, Property.key_ne_roles]
  unfold toMembers
  cases u.roles? with
  | none => simp [h.outgoing_eq, h.raw]
  | some roles =>
    simp only [Entries.toList_insert_of_not_mem _ hroles]
    simp [h.outgoing_eq, h.raw]

/-- **A user in step with a history is sent as the pairs of that history.** -/
theorem formPairs_eq (h : Tracks name edits u) :
    formPairs (u.toMembers.filter isSent) = pairsSent edits := by
  -- the name is the one member that the selection of keys leaves out
  have hid : sentPair? ("id", .string name) = none := rfl
  have hprops : (propertiesSet edits).filterMap
      (fun p => sentPair? (p.key, storedValue edits p)) =
        (propertiesSet edits).filterMap (pairOf? edits) :=
    List.filterMap_congr fun p hp => sentPair?_storedValue hp
  have hroles : (u.roles?.toList.map fun roles =>
      ("roles", Json.array (roles.toList.map fun r => .string r.encode))).filterMap sentPair? =
        (rolesPair? edits).toList := by
    rw [h.roles, rolesPair?]
    split
    · simp [sentPair?, isSent, bodyKeys, Json.formText_array_role]
    · rfl
  rw [formPairs_filter_isSent, h.toList_toMembers, List.filterMap_append, storedMembers,
    List.filterMap_cons_none hid, List.filterMap_map, pairsSent]
  exact congrArg₂ (· ++ ·) hprops hroles

end Tracks

/-! ### The request -/

/-- The request that writes a user with a name and a history. -/
def writeRequest (domain : AuthDomain) (name : String) (edits : List Edit) (params : Params) :
    Request where
  method := .put
  path := Path.user domain name
  params
  body? := some (Form.encode (pairsSent edits))

theorem decode?_writeRequest (domain : AuthDomain) (name : String) (edits : List Edit)
    (params : Params) :
    (writeRequest domain name edits params).body?.bind Form.decode? = some (pairsSent edits) := by
  rw [writeRequest, Option.bind_some, Form.decode?_encode]

theorem Tracks.request_eq_ok_iff (h : Tracks name edits u) {config : Config} {params : Params}
    {domain? : Option AuthDomain} {request : Request} :
    (Call.upsertUser u domain?).request config params = .ok request ↔
      name ≠ "" ∧ (∀ r ∈ rolesAfter edits, r.validate = .ok ()) ∧
        request = writeRequest (config.domainOf domain?) name edits params := by
  rw [Call.request_upsertUser_eq_ok_iff, h.username_eq, h.roles_eq, Request.writeUser, formBody,
    h.formPairs_eq, writeRequest]

/-! ### The keys of the pairs -/

theorem mem_pairsSent {pair : String × String} :
    pair ∈ pairsSent edits ↔
      (∃ p ∈ propertiesSet edits, pairOf? edits p = some pair) ∨ rolesPair? edits = some pair := by
  rw [pairsSent, List.mem_append, List.mem_filterMap, Option.mem_toList]

theorem fst_of_pairOf? {p : Property} {pair : String × String} (h : pairOf? edits p = some pair) :
    pair.1 = p.key := by
  cases p with
  | displayName =>
    obtain ⟨text, -, rfl⟩ := Option.map_eq_some_iff.1 h
    rfl
  | password =>
    obtain ⟨text, -, rfl⟩ := Option.map_eq_some_iff.1 h
    rfl
  | groups =>
    rw [pairOf?] at h
    split at h <;> cases h
    rfl

theorem fst_of_rolesPair? {pair : String × String} (h : rolesPair? edits = some pair) :
    pair.1 = "roles" := by
  rw [rolesPair?] at h
  split at h <;> cases h
  rfl

theorem fst_ne_id {pair : String × String} (h : pair ∈ pairsSent edits) : pair.1 ≠ "id" := by
  rcases mem_pairsSent.1 h with ⟨p, -, hp⟩ | hroles
  · rw [fst_of_pairOf? hp]
    exact p.key_ne_id
  · rw [fst_of_rolesPair? hroles]
    decide

theorem fst_ne_password (hnone : lastPassword? edits = none) {pair : String × String}
    (h : pair ∈ pairsSent edits) : pair.1 ≠ "password" := by
  rcases mem_pairsSent.1 h with ⟨p, -, hp⟩ | hroles
  · rw [fst_of_pairOf? hp]
    rintro hkey
    obtain rfl : p = .password := Property.key_injective hkey
    simp [pairOf?, hnone] at hp
  · rw [fst_of_rolesPair? hroles]
    decide

/-! ### The course of the call -/

/-- **Writing a user that was built by edits refines its history.**  The user is sent iff it has a
name and all its roles can be sent; the request is then a PUT to the user's path, and the form in
its body has exactly the pairs of the history. -/
theorem upsertUser_sends_history (config : Config) (transport : Transport) (options : CallOptions)
    (domain? : Option AuthDomain) (name : String) (edits : List Edit) :
    let requests := ((Call.upsertUser ((User.new name).applyAll edits) domain?).run config
      transport options).requests
    (requests ≠ [] ↔ name ≠ "" ∧ ∀ r ∈ rolesAfter edits, r.validate = .ok ()) ∧
      ∀ request ∈ requests, request.method = .put ∧
        request.path = Path.user (config.domainOf domain?) name ∧
        request.body?.bind Form.decode? = some (pairsSent edits) ∧
        ∀ pair ∈ pairsSent edits, pair.1 ≠ "id" := by
  have htracks := tracks_applyAll name edits
  intro requests
  constructor
  · rw [Call.requests_run_ne_nil_iff]
    constructor
    · rintro ⟨request, hrequest⟩
      obtain ⟨hname, hroles, -⟩ := htracks.request_eq_ok_iff.1 hrequest
      exact ⟨hname, hroles⟩
    · rintro ⟨hname, hroles⟩
      exact ⟨_, htracks.request_eq_ok_iff.2 ⟨hname, hroles, rfl⟩⟩
  · intro request hrequest
    obtain ⟨-, -, rfl⟩ := htracks.request_eq_ok_iff.1 (Call.mem_requests_run.1 hrequest)
    exact ⟨rfl, rfl, decode?_writeRequest _ _ _ _, fun _ => fst_ne_id⟩

/-- Texts that were set to nothing are sent, groups that became empty again are not. -/
example : pairsSent [.groups ["staff"], .password "", .displayName "Ann", .groups [], .roles [],
    .displayName ""] = [("password", ""), ("name", ""), ("roles", "")] := by
  decide

end AccessControl.User
