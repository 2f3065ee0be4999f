import AccessControl.Proofs.Call.Sending
/-!
# Roles on their way to the server

The roles of a user and of a group are written by two encoders, one for an array of string forms and
one for a list in one text.  Whatever the names and buckets, the text that arrives spells the roles
of the entity, and the two encoders write the same characters for the same roles.

* `Role.spells_encodeList` : roles that can be sent are spelled by their list.
* `Form.stretchesOf_encode` : the characters of a key are those of its pairs.
* `upsert_carriesRoles` : users and groups are sent with their roles, in the same characters.
-/

namespace AccessControl

/-! ### Texts that spell roles -/

namespace Role

/-- A text spells a set of roles: it is empty iff there are none, and otherwise the pieces between
its commas read as the roles in strictly increasing order. -/
structure Spells (text : String) (roles : SortedSet Role) : Prop where
  /-- The empty text stands for no roles, and for nothing else. -/
  empty_iff : text = "" ↔ roles = ∅
  /-- Every piece reads as a role, none is lost and none comes twice. -/
  pieces : roles ≠ ∅ → ∃ rs, (commaPieces text).mapM parse = .ok rs ∧
    rs.Pairwise (fun r r' => compare r r' = .lt) ∧ ∀ r, r ∈ rs ↔ r ∈ roles

/-- Roles that can be sent are spelled by their list. -/
theorem spells_encodeList {roles : SortedSet Role} (h : ∀ r ∈ roles, r.validate = .ok ()) :
    Spells (encodeList roles.toList) roles := by
  have hempty : encodeList roles.toList = "" ↔ roles = ∅ := by
    rw [encodeList_eq_empty_iff h]
    exact ⟨fun e => SortedSet.toList_injective (t := ∅) e, fun e => e ▸ rfl⟩
  refine ⟨hempty, fun hne => ⟨roles.toList, ?_, roles.sorted, fun _ => Iff.rfl⟩⟩
  have hread := readList_encodeList h
  rwa [readList, if_neg (mt hempty.1 hne)] at hread

theorem Spells.unique {text : String} {roles roles' : SortedSet Role} (h : Spells text roles)
    (h' : Spells text roles') : roles = roles' := by
  by_cases hne : roles = ∅
  · rw [hne, ← h'.empty_iff.1 (h.empty_iff.2 hne)]
  · have hne' : roles' ≠ ∅ := mt (h.empty_iff.1 ∘ h'.empty_iff.2) hne
    obtain ⟨rs, hrs, -, hmem⟩ := h.pieces hne
    obtain ⟨rs', hrs', -, hmem'⟩ := h'.pieces hne'
    have hsame : rs = rs' := Except.ok.inj (hrs.symm.trans hrs')
    exact SortedSet.ext fun r => by rw [← hmem, ← hmem', hsame]

end Role

/-! ### The characters of one key -/

namespace Form

/-- The stretches of a form body between its ampersands; empty ones do not count. -/
def stretches (body : String) : List (List Char) :=
  (body.toList.splitOn '&').filter fun cs => !cs.isEmpty

/-- The stretches of a form body that read as pairs of a key. -/
def stretchesOf (key : String) (body : String) : List (List Char) :=
  (stretches body).filter fun cs => (decodePair? cs).map Prod.fst = some key

/-- The characters of a key are those of its pairs. -/
theorem stretchesOf_encode (key : String) (pairs : List (String × String)) :
    stretchesOf key (encode pairs) = (pairs.filter fun p => p.1 = key).map encodePair := by
  rw [stretchesOf, stretches, filter_splitOn_encode, List.filter_map]
  simp only [Function.comp_def, decodePair?_encodePair, Option.map_some, Option.some.injEq]

end Form

/-! ### What is sent of the roles -/

/-- The body of a request has one pair for the roles, and its value spells them. -/
def CarriesRoles (request : Request) (roles : SortedSet Role) : Prop :=
  ∃ pairs value, request.body?.bind Form.decode? = some pairs ∧
    pairs.filter (fun p => p.1 = "roles") = [("roles", value)] ∧ Role.Spells value roles

theorem CarriesRoles.unique {request : Request} {roles roles' : SortedSet Role}
    (h : CarriesRoles request roles) (h' : CarriesRoles request roles') : roles = roles' := by
  obtain ⟨pairs, value, hpairs, hvalue, hspells⟩ := h
  obtain ⟨pairs', value', hpairs', hvalue', hspells'⟩ := h'
  obtain rfl : pairs = pairs' := Option.some.inj (hpairs.symm.trans hpairs')
  have hsame : [("roles", value)] = [("roles", value')] := hvalue.symm.trans hvalue'
  simp only [List.cons.injEq, Prod.mk.injEq, true_and, and_true] at hsame
  exact hspells.unique (hsame ▸ hspells')

/-- The body of a request has the roles in one pair, as their list. -/
def HasRolesPair (request : Request) (roles : SortedSet Role) : Prop :=
  ∃ pairs, request.body? = some (Form.encode pairs) ∧
    pairs.filter (fun p => p.1 = "roles") = [("roles", Role.encodeList roles.toList)]

theorem HasRolesPair.carriesRoles {request : Request} {roles : SortedSet Role}
    (h : HasRolesPair request roles) (hroles : ∀ r ∈ roles, r.validate = .ok ()) :
    CarriesRoles request roles := by
  obtain ⟨pairs, hbody, hpairs⟩ := h
  refine ⟨pairs, _, ?_, hpairs, Role.spells_encodeList hroles⟩
  rw [hbody, Option.bind_some, Form.decode?_encode]

/-- The characters in which roles are sent, for users and groups alike. -/
def rolesStretch (roles : SortedSet Role) : List Char :=
  Form.encodePair ("roles", Role.encodeList roles.toList)

theorem HasRolesPair.stretchesOf_eq {request : Request} {roles : SortedSet Role}
    (h : HasRolesPair request roles) :
    request.body?.map (Form.stretchesOf "roles") = some [rolesStretch roles] := by
  obtain ⟨pairs, hbody, hpairs⟩ := h
  rw [hbody, Option.map_some, Form.stretchesOf_encode, hpairs, List.map_singleton, rolesStretch]

theorem User.hasRolesPair_writeUser {u : User} {roles : SortedSet Role} (h : u.roles? = some roles)
    (domain : AuthDomain) (name : String) (params : Params) :
    HasRolesPair (.writeUser domain name (u.toMembers.filter User.isSent) params) roles := by
  refine ⟨_, rfl, ?_⟩
  -- whatever the record holds under the key of the roles is replaced
  have hget : (u.toMembers.filter User.isSent).get? "roles" =
      some (.array (roles.toList.map fun r => .string r.encode)) := by
    rw [Entries.get?_filter, toMembers, h]
    simp [Entries.get?_insert, isSent, bodyKeys]
  rw [filter_formPairs hget, Json.formText_array_role]

theorem Group.hasRolesPair_writeGroup (g : Group) (name : String) (params : Params) :
    HasRolesPair (.writeGroup name g.toMembers params) g.roles := by
  refine ⟨_, rfl, ?_⟩
  have hget : g.toMembers.get? "roles" = some (rolesToJson g.roles) := by
    rw [get?_toMembers, if_pos rfl]
  -- the empty array and the empty text are sent alike
  have htext : (rolesToJson g.roles).formText = Role.encodeList g.roles.toList := by
    rw [rolesToJson]
    split
    · rename_i hempty
      rw [List.isEmpty_iff.1 hempty]
      rfl
    · rfl
  rw [filter_formPairs hget, htext]

/-! ### The course of the calls -/

/-- What is sent when an entity with a name and roles is written. -/
structure SendsRoles (name : String) (roles : SortedSet Role) (requests : List Request) : Prop where
  /-- An entity that is accepted is sent once, with its roles and no others. -/
  accepted : name ≠ "" → (∀ r ∈ roles, r.validate = .ok ()) →
    ∃ request, requests = [request] ∧ CarriesRoles request roles ∧
      (∀ roles', CarriesRoles request roles' → roles' = roles) ∧
      request.body?.map (Form.stretchesOf "roles") = some [rolesStretch roles]
  /-- One without a name, or with a role that cannot be sent, is not sent at all. -/
  refused : (name = "" ∨ ∃ r ∈ roles, r.validate ≠ .ok ()) → requests = []

/-- A call whose one request has the roles sends them. -/
theorem sendsRoles_run {c : Call} {name : String} {roles : SortedSet Role} {planned : Request}
    {config : Config} {transport : Transport} {options : CallOptions}
    (hsent : ∀ request, c.request config (config.callParams options) = .ok request ↔
      name ≠ "" ∧ (∀ r ∈ roles, r.validate = .ok ()) ∧ request = planned)
    (hpair : HasRolesPair planned roles) :
    SendsRoles name roles (c.run config transport options).requests := by
  refine ⟨fun hname hvalid => ?_, fun hrefused => ?_⟩
  · have hrequest := (hsent planned).2 ⟨hname, hvalid, rfl⟩
    have hcarries := hpair.carriesRoles hvalid
    refine ⟨planned, ?_, hcarries, fun roles' h => h.unique hcarries, hpair.stretchesOf_eq⟩
    rw [Call.requests_run, hrequest]
    rfl
  · by_contra hne
    obtain ⟨request, hrequest⟩ := Call.requests_run_ne_nil_iff.1 hne
    obtain ⟨hname, hvalid, -⟩ := (hsent request).1 hrequest
    rcases hrefused with hempty | ⟨r, hr, hinvalid⟩
    · exact hname hempty
    · exact hinvalid (hvalid r hr)

/-- **The roles that reach the server are the roles of the entity.**  A user whose roles were set,
or a group, is sent iff it has a name and its roles can be sent; the request says which roles those
are, and whatever else is written, the same roles are sent in the same characters. -/
theorem upsert_carriesRoles (config : Config) (transport : Transport) (options : CallOptions)
    (roles : SortedSet Role) :
    (∀ (u : User) (domain? : Option AuthDomain), u.roles? = some roles →
      SendsRoles u.username roles
        ((Call.upsertUser u domain?).run config transport options).requests) ∧
      ∀ g : Group, g.roles = roles →
        SendsRoles g.name roles ((Call.upsertGroup g).run config transport options).requests := by
  constructor
  · intro u domain? hset
    have hroles : u.roles = roles := by rw [User.roles, hset, Option.getD_some]
    refine sendsRoles_run (fun request => ?_) (User.hasRolesPair_writeUser hset
      (config.domainOf domain?) u.username (config.callParams options))
    rw [Call.request_upsertUser_eq_ok_iff, hroles]
  · rintro g rfl
    exact sendsRoles_run (fun request => Call.request_upsertGroup_eq_ok_iff)
      (g.hasRolesPair_writeGroup g.name (config.callParams options))

/-- Roles with brackets in their buckets, and with characters that part pairs. -/
def sampleGranted : SortedSet Role :=
  .ofList [⟨"data_reader", some "b[1]&roles=admin"⟩, ⟨"a&b=c%2C", none⟩,
    ⟨"data_reader", some "]["⟩]

/-- A user with these roles. -/
def sampleGrantee : User := (User.new "ann").apply (.roles sampleGranted.toList)

/-- A group with these roles. -/
def sampleTeam : Group :=
  (Group.new "ops").applyAll [.description "x & y", .roles sampleGranted.toList]

/-- The request by which the user is written. -/
def sampleUserRequest : Request where
  method := .put
  path := "/settings/rbac/users/local/ann"
  body? := some ("roles=a%26b%3Dc%252C%2Cdata_reader%5B%5D%5B%5D%2C" ++
    "data_reader%5Bb%5B1%5D%26roles%3Dadmin%5D")

/-- The request by which the group is written. -/
def sampleGroupRequest : Request where
  method := .put
  path := "/settings/rbac/groups/ops"
  body? := some ("description=x+%26+y&roles=a%26b%3Dc%252C%2Cdata_reader%5B%5D%5B%5D%2C" ++
    "data_reader%5Bb%5B1%5D%26roles%3Dadmin%5D")

theorem upsert_carriesRoles_sample :
    (∀ r ∈ sampleGranted, r.validate = .ok ()) ∧ sampleGranted ≠ ∅ ∧
      sampleGrantee.roles? = some sampleGranted ∧
      ((Call.upsertUser sampleGrantee none).run {} (fun _ => .ok .null) {}).requests =
        [sampleUserRequest] ∧
      CarriesRoles sampleUserRequest sampleGranted ∧
      sampleTeam.roles = sampleGranted ∧
      ((Call.upsertGroup sampleTeam).run {} (fun _ => .ok .null) {}).requests =
        [sampleGroupRequest] ∧
      CarriesRoles sampleGroupRequest sampleGranted ∧
      sampleUserRequest.body?.map (Form.stretchesOf "roles") =
        sampleGroupRequest.body?.map (Form.stretchesOf "roles") := by
  have hvalid : ∀ r ∈ sampleGranted, r.validate = .ok () := by
    show ∀ r ∈ sampleGranted.toList, r.validate = .ok ()
    decide +kernel
  have huser : sampleGrantee.roles? = some sampleGranted := by decide +kernel
  have hgroup : sampleTeam.roles = sampleGranted := by decide +kernel
  have hsentUser : ((Call.upsertUser sampleGrantee none).run {} (fun _ => .ok .null) {}).requests =
      [sampleUserRequest] := by decide +kernel
  have hsentGroup : ((Call.upsertGroup sampleTeam).run {} (fun _ => .ok .null) {}).requests =
      [sampleGroupRequest] := by decide +kernel
  obtain ⟨husers, hgroups⟩ := upsert_carriesRoles {} (fun _ => .ok .null) {} sampleGranted
  obtain ⟨request, hrequest, hcarries, -, hstretch⟩ :=
    (husers sampleGrantee none huser).accepted (by decide +kernel) hvalid
  obtain ⟨request', hrequest', hcarries', -, hstretch'⟩ :=
    (hgroups sampleTeam hgroup).accepted (by decide +kernel) hvalid
  obtain rfl : request = sampleUserRequest := by simpa [hsentUser] using hrequest.symm
  obtain rfl : request' = sampleGroupRequest := by simpa [hsentGroup] using hrequest'.symm
  exact ⟨hvalid, by decide +kernel, huser, hsentUser, hcarries, hgroup, hsentGroup, hcarries',
    hstretch.trans hstretch'.symm⟩

end AccessControl
