import AccessControl.Proofs.Account.Views
import AccessControl.Proofs.Role.Transfer
import AccessControl.Proofs.User.Sending
/-!
# Sending an account's user back

The user of an account can be changed and sent back.  As long as its roles and its password are not
changed, what is sent grants the roles that the payload had granted to the user and no others, and
no password: nothing that came from a group becomes a grant of its own.

* `SendsBack` : what a request that sends a user back grants.
* `writeBack_sendsBack` : every request that sends an account's user back grants that.
-/

namespace AccessControl.Account

/-- An edit that touches neither the roles nor the password. -/
def KeepsGrants (e : User.Edit) : Prop := e.isRoles = false ∧ e.password? = none

variable {v : Json} {a : Account} {edits : List User.Edit}

theorem any_isRoles_userEdits (displayName? : Option String) (groups : SortedSet String)
    (grants : List RoleGrant) :
    ((userEdits displayName? groups grants) ++ edits).any User.Edit.isRoles = true := by
  simp [userEdits, User.Edit.isRoles]

theorem mem_directRoles_iff_item {items : List Json} {grants : List RoleGrant}
    (h : items.mapM RoleGrant.ofJson = .ok grants) {r : Role} :
    r ∈ directRoles grants ↔
      ∃ item ∈ items, Role.ofJson item = .ok r ∧ RoleGrant.IsDirectItem item := by
  rw [mem_directRoles]
  constructor
  · rintro ⟨g, hg, rfl, hdirect⟩
    obtain ⟨item, hitem, hdecode⟩ := (mem_iff_of_mapM_eq_ok h).1 hg
    have hgrant := RoleGrant.isGrantOf_of_ofJson hdecode
    exact ⟨item, hitem, hgrant.role, hgrant.isDirect_iff.1 hdirect⟩
  · rintro ⟨item, hitem, hrole, hdirect⟩
    obtain ⟨g, hg, hdecode⟩ := exists_mem_of_mapM_eq_ok h hitem
    have hgrant := RoleGrant.isGrantOf_of_ofJson hdecode
    have hsame : g.role = r := Except.ok.inj (hgrant.role.symm.trans hrole)
    exact ⟨g, hg, hsame, hgrant.isDirect_iff.2 hdirect⟩

/-- A request sends back the user of a payload with the given wire values of roles, and with nothing
that the payload does not grant to the user itself. -/
structure SendsBack (items : List Json) (request : Request) (roles : SortedSet Role) : Prop where
  carries : CarriesRoles request roles
  /-- The roles are those that some wire value grants to the user. -/
  direct : ∀ r, r ∈ roles ↔
    ∃ item ∈ items, Role.ofJson item = .ok r ∧ RoleGrant.IsDirectItem item
  /-- A role that comes from groups alone is not among them. -/
  inherited : ∀ r, (∀ item ∈ items, Role.ofJson item = .ok r → RoleGrant.IsInheritedItem item) →
    r ∉ roles
  password : ∃ pairs, request.body?.bind Form.decode? = some pairs ∧
    ∀ pair ∈ pairs, pair.1 ≠ "password"

/-- **Sending a user back neither grants what it inherits nor sends a password.**  Whatever the
payload, and whatever was changed in its user but the roles and the password, the request has the
roles that the payload grants to the user, and no others. -/
theorem writeBack_sendsBack (h : ofJson v = .ok a) (hedits : ∀ e ∈ edits, KeepsGrants e)
    {config : Config} {transport : Transport} {options : CallOptions} {domain? : Option AuthDomain}
    {request : Request}
    (hrequest : request ∈ ((Call.upsertUser (a.user.applyAll edits) domain?).run config transport
      options).requests) :
    ∃ members items roles, v = .object members ∧
      itemsUnder? (Json.entries members) roleKeys = some items ∧
      SendsBack items request roles := by
  obtain ⟨members, rfl, c, hgrants, huser, -, -⟩ := exists_contents_of_ofJson h
  -- the history goes on from what the account gave to its user
  let history := userEdits c.displayName? (.ofList c.groups) a.grants ++ edits
  have htracks : User.Tracks c.username history (a.user.applyAll edits) := by
    rw [huser, userOf_eq_applyAll, ← User.applyAll_append]
    exact User.tracks_applyAll _ _
  have hroles : User.rolesAfter history = .ofList (directRoles a.grants) := by
    rw [User.rolesAfter_append_of_not_isRoles _ fun e he => (hedits e he).1, rolesAfter_userEdits]
  have hpassword : User.lastPassword? history = none := by
    rw [User.lastPassword?_append_of_none _ fun e he => (hedits e he).2, lastPassword?_userEdits]
  have hset : (a.user.applyAll edits).roles? = some (.ofList (directRoles a.grants)) := by
    rw [htracks.roles, any_isRoles_userEdits, if_pos rfl, hroles]
  have hdirect : ∀ r, r ∈ SortedSet.ofList (directRoles a.grants) ↔
      ∃ item ∈ c.items, Role.ofJson item = .ok r ∧ RoleGrant.IsDirectItem item := by
    intro r
    rw [SortedSet.mem_ofList, mem_directRoles_iff_item hgrants]
  have hrequest := Call.mem_requests_run.1 hrequest
  refine ⟨members, c.items, .ofList (directRoles a.grants), rfl, c.items_eq, ?_, hdirect, ?_, ?_⟩
  · obtain ⟨-, hvalid, rfl⟩ := Call.request_upsertUser_eq_ok_iff.1 hrequest
    rw [htracks.roles_eq, hroles] at hvalid
    exact (User.hasRolesPair_writeUser hset _ _ _).carriesRoles hvalid
  · intro r hinherited hr
    obtain ⟨item, hitem, hrole, hitem'⟩ := (hdirect r).1 hr
    exact (hinherited item hitem hrole).not_isDirectItem hitem'
  · obtain ⟨-, -, rfl⟩ := htracks.request_eq_ok_iff.1 hrequest
    exact ⟨_, User.decode?_writeRequest _ _ _ _, fun _ => User.fst_ne_password hpassword⟩

/-- Changes of the sample's user: another name for display, and one more group. -/
def sampleEdits : List User.Edit := [.displayName "Ann", .addGroup "ops"]

/-- The request by which the user is sent back with these changes. -/
def sampleRequest : Request where
  method := .put
  path := "/settings/rbac/users/local/ann"
  body? := some "groups=ops%2Cstaff&name=Ann&roles=admin%2Cops%2Creader%5Bb%5D"

theorem writeBack_sendsBack_sample :
    ofJson samplePayload = .ok sampleAccount ∧ (∀ e ∈ sampleEdits, KeepsGrants e) ∧
      sampleRequest ∈ ((Call.upsertUser (sampleAccount.user.applyAll sampleEdits) none).run {}
        (fun _ => .ok .null) {}).requests ∧
      ∃ members items roles, samplePayload = .object members ∧
        itemsUnder? (Json.entries members) roleKeys = some items ∧
        SendsBack items sampleRequest roles := by
  have h : ofJson samplePayload = .ok sampleAccount := rfl
  have hedits : ∀ e ∈ sampleEdits, KeepsGrants e := by
    intro e he
    simp only [sampleEdits, List.mem_cons, List.not_mem_nil, or_false] at he
    rcases he with rfl | rfl <;> exact ⟨rfl, rfl⟩
  have hrequest : sampleRequest ∈ ((Call.upsertUser (sampleAccount.user.applyAll sampleEdits)
      none).run {} (fun _ => .ok .null) {}).requests := by
    decide +kernel
  exact ⟨h, hedits, hrequest, writeBack_sendsBack h hedits hrequest⟩

end AccessControl.Account
