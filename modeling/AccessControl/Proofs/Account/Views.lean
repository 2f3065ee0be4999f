import AccessControl.Account
import AccessControl.Proofs.Role.Grant
import AccessControl.Proofs.User.History
/-!
# The views of an account

An account is decoded from the members of an object in several passes: the grants in the order of
the payload, the set of all roles, and the user with the roles that were granted to it.  The passes
agree with each other and with the members, whatever the payload.

* `exists_contents_of_ofJson` : every account is made from the contents of an object.
* `ofJson_describes` : the members of a payload describe the account that is decoded from it.
-/

namespace AccessControl.Account

/-! ### What a payload says -/

/-- The keys under which the list of the roles is looked for. -/
def roleKeys : List String := ["roles", "effective_roles_and_origins"]

/-- What the members of a payload say about an account, apart from its domain and times. -/
structure Contents (m : Entries Json) where
  username : String
  displayName? : Option String
  groups : List String
  externalGroups : List String
  /-- The roles as they came. -/
  items : List Json
  username_eq : firstPresent? m ["id", "username"] = some (.string username)
  displayName?_eq : firstPresent? m ["name", "display_name"] = displayName?.map .string
  groups_eq : itemsUnder? m ["groups"] = some (groups.map .string)
  externalGroups_eq : itemsUnder? m ["external_groups"] = some (externalGroups.map .string)
  items_eq : itemsUnder? m roleKeys = some items

/-- The history of the user of an account. -/
def userEdits (displayName? : Option String) (groups : SortedSet String)
    (grants : List RoleGrant) : List User.Edit :=
  [.groups groups.toList, .roles (directRoles grants)] ++ displayName?.toList.map .displayName

variable {v : Json} {a : Account}

theorem exists_members_of_ofJson (h : ofJson v = .ok a) :
    ∃ members, v = .object members ∧ ofRecord (.received (Json.entries members)) = .ok a := by
  simp only [ofJson, bind_eq_ok_iff, mapError_eq_ok_iff] at h
  obtain ⟨r, hr, h⟩ := h
  cases v with
  | object members =>
    cases hr
    exact ⟨members, rfl, h⟩
  | array items =>
    cases items with
    | nil =>
      -- an empty array is read as a record, but it has no domain
      cases hr
      cases h
    | cons item rest => cases hr
  | _ => cases hr

theorem exists_texts_of_read?_set {s : Schema} {r : Record s} {attr : String}
    (hfallback : s.fallback? attr = some (.array [])) {names? : Option (SortedSet String)}
    (h : r.read? (.set .string) attr = .ok names?) :
    ∃ names : List String, itemsUnder? r.raw (s.readKeys attr) = some (names.map .string) ∧
      names?.getD ∅ = .ofList names := by
  rw [Record.read?_set, map_eq_ok_iff] at h
  obtain ⟨list?, hread, rfl⟩ := h
  obtain ⟨items, hitems, hnames⟩ :=
    Record.exists_itemsUnder?_of_read?_list (by rw [hfallback]; rfl) hread
  refine ⟨list?.getD [], ?_, ?_⟩
  · rw [hitems, Decoder.mapM_string_eq_ok_iff.1 hnames]
  · cases list? <;> rfl

/-- **Every account is made from the contents of an object.** -/
theorem exists_contents_of_ofJson (h : ofJson v = .ok a) :
    ∃ members, v = .object members ∧ ∃ c : Contents (Json.entries members),
      c.items.mapM RoleGrant.ofJson = .ok a.grants ∧
      a.user = userOf c.username c.displayName? (.ofList c.groups) a.grants ∧
      a.effectiveRoles = .ofList (a.grants.map RoleGrant.role) ∧
      a.externalGroups = .ofList c.externalGroups := by
  obtain ⟨members, rfl, hrecord⟩ := exists_members_of_ofJson h
  refine ⟨members, rfl, ?_⟩
  simp only [ofRecord, bind_eq_ok_iff, mapError_eq_ok_iff, pure_eq_ok_iff] at hrecord
  obtain ⟨domain, -, username, husername, displayName?, hdisplay, groups?, hgroups, externalGroups?,
    hexternal, listed?, hlisted, grants, hgrants, -, -, rfl⟩ :=
    hrecord
  -- each attribute in turn is traced back to its keys
  have husername := Record.firstPresent?_of_read?_string rfl (Record.require_eq_ok_iff.1 husername)
  have hdisplay := Record.firstPresent?_of_read?_string rfl hdisplay
  obtain ⟨groups, hgroups, hset⟩ := exists_texts_of_read?_set rfl hgroups
  obtain ⟨externalGroups, hexternal, hset'⟩ := exists_texts_of_read?_set rfl hexternal
  obtain ⟨items, hitems, hmapM⟩ := Record.exists_itemsUnder?_of_read?_list rfl hlisted
  have hlisted : listed?.getD [] = items := by
    rw [Decoder.mapM_eq_ok_iff] at hmapM
    exact (List.map_injective_iff.2 (fun _ _ => Except.ok.inj) hmapM).symm
  refine ⟨⟨username, displayName?, groups, externalGroups, items, husername, hdisplay, hgroups,
    hexternal, hitems⟩, hlisted ▸ hgrants, ?_, rfl, hset'⟩
  rw [hset]

/-! ### The user of an account -/

section UserEdits

variable (username : String) (displayName? : Option String) (groups : SortedSet String)
  (grants : List RoleGrant)

theorem userOf_eq_applyAll : userOf username displayName? groups grants =
    (User.new username).applyAll (userEdits displayName? groups grants) := by
  rw [userOf, userEdits, User.applyAll_append]

theorem groupsAfter_userEdits :
    User.groupsAfter (userEdits displayName? groups grants) = groups := by
  cases displayName? <;>
    simp [userEdits, User.groupsAfter, User.Edit.onGroups, SortedSet.ofList_toList]

theorem rolesAfter_userEdits :
    User.rolesAfter (userEdits displayName? groups grants) = .ofList (directRoles grants) := by
  cases displayName? <;> simp [userEdits, User.rolesAfter, User.Edit.onRoles]

theorem lastPassword?_userEdits :
    User.lastPassword? (userEdits displayName? groups grants) = none := by
  cases displayName? <;> simp [userEdits, User.lastPassword?, User.Edit.password?]

theorem tracks_userOf : User.Tracks username (userEdits displayName? groups grants)
    (userOf username displayName? groups grants) := by
  rw [userOf_eq_applyAll]
  exact User.tracks_applyAll _ _

end UserEdits

theorem mem_directRoles {grants : List RoleGrant} {r : Role} :
    r ∈ directRoles grants ↔ ∃ g ∈ grants, g.role = r ∧ g.isDirect := by
  simp only [directRoles, List.mem_map, List.mem_filter]
  exact ⟨fun ⟨g, ⟨hg, hdirect⟩, hr⟩ => ⟨g, hg, hr, hdirect⟩,
    fun ⟨g, hg, hr, hdirect⟩ => ⟨g, ⟨hg, hdirect⟩, hr⟩⟩

/-! ### The views -/

/-- The members of a payload describe an account: its grants are those of the listed roles, in their
order, and all other views are views of the grants or of the listed texts. -/
structure Describes (m : Entries Json) (items : List Json) (a : Account) : Prop where
  /-- The roles are listed under the first of their keys that is there and not null. -/
  items_eq : itemsUnder? m roleKeys = some items
  /-- One grant an item, in the same order. -/
  grants : List.Forall₂ RoleGrant.IsGrantOf items a.grants
  effectiveRoles : ∀ r, r ∈ a.effectiveRoles ↔ ∃ g ∈ a.grants, g.role = r
  /-- The user has the roles that were granted to it, and no others. -/
  roles : ∀ r, r ∈ a.user.roles ↔ ∃ g ∈ a.grants, g.role = r ∧ ∃ o ∈ g.origins, o.kind = .user
  roles_subset : ∀ r ∈ a.user.roles, r ∈ a.effectiveRoles
  /-- Where no role lists an origin, all of them were granted to the user. -/
  roles_eq : (∀ item ∈ items, RoleGrant.originItems item = []) → a.user.roles = a.effectiveRoles
  groups : ∃ names : List String, itemsUnder? m ["groups"] = some (names.map .string) ∧
    ∀ name, name ∈ a.user.groups ↔ name ∈ names
  externalGroups : ∃ names : List String,
    itemsUnder? m ["external_groups"] = some (names.map .string) ∧
      ∀ name, name ∈ a.externalGroups ↔ name ∈ names
  username : firstPresent? m ["id", "username"] = some (.string a.user.username)
  password : a.user.password? = none

/-- A payload with roles in all their forms: one granted twice over, one that only a group grants,
and two without origins. -/
def samplePayload : Json :=
  .object [("domain", .string "local"), ("id", .null), ("username", .string "ann"),
    ("groups", .array [.string "staff"]),
    ("roles", .array [
      .object [("role", .string "admin"),
        ("origins", .array [.object [("type", .string "group"), ("name", .string "staff")]])],
      .object [("role", .string "admin"), ("origins", .array [.object [("type", .string "user")]])],
      .object [("role", .string "backup"), ("bucket_name", .string "b"),
        ("origins", .array [.object [("type", .string "group"), ("name", .string "staff")]])],
      .string "reader[b]",
      .array [.string "ops", .null]])]

/-- The grants that the payload lists. -/
def sampleGrants : List RoleGrant :=
  [⟨⟨"admin", none⟩, [.group "staff"]⟩, ⟨⟨"admin", none⟩, [.user]⟩,
    ⟨⟨"backup", some "b"⟩, [.group "staff"]⟩, ⟨⟨"reader", some "b"⟩, [.user]⟩,
    ⟨⟨"ops", none⟩, [.user]⟩]

/-- The account of the payload. -/
def sampleAccount : Account where
  domain := .localStore
  user := userOf "ann" none (.ofList ["staff"]) sampleGrants
  effectiveRoles := .ofList (sampleGrants.map RoleGrant.role)
  grants := sampleGrants
  passwordChanged? := none
  externalGroups := ∅

/-- **The views of an account agree with its payload and with each other.**  Only an object is
decoded, and its members describe the account that comes out. -/
theorem ofJson_describes (h : ofJson v = .ok a) :
    ∃ members items, v = .object members ∧ Describes (Json.entries members) items a := by
  obtain ⟨members, rfl, c, hgrants, huser, heffective, hexternal⟩ := exists_contents_of_ofJson h
  have htracks := tracks_userOf c.username c.displayName? (.ofList c.groups) a.grants
  rw [← huser] at htracks
  have hforall : List.Forall₂ RoleGrant.IsGrantOf c.items a.grants :=
    (mapM_eq_ok_iff_forall₂.1 hgrants).imp fun _ _ => RoleGrant.isGrantOf_of_ofJson
  have hall : ∀ r, r ∈ a.effectiveRoles ↔ ∃ g ∈ a.grants, g.role = r := by
    intro r
    rw [heffective, SortedSet.mem_ofList, List.mem_map]
  have hdirect : ∀ r, r ∈ a.user.roles ↔ ∃ g ∈ a.grants, g.role = r ∧ g.isDirect := by
    intro r
    rw [htracks.roles_eq, rolesAfter_userEdits, SortedSet.mem_ofList, mem_directRoles]
  have hsubset : ∀ r ∈ a.user.roles, r ∈ a.effectiveRoles := by
    intro r hr
    obtain ⟨g, hg, hrole, -⟩ := (hdirect r).1 hr
    exact (hall r).2 ⟨g, hg, hrole⟩
  refine ⟨members, c.items, rfl, c.items_eq, hforall, hall, ?_, hsubset, ?_, ?_, ?_, ?_, ?_⟩
  · simpa only [RoleGrant.isDirect_iff] using hdirect
  · intro hunlisted
    -- an item that lists no origins makes a direct grant, so no role is left behind
    refine SortedSet.ext fun r => ⟨hsubset r, fun hr => ?_⟩
    obtain ⟨g, hg, hrole⟩ := (hall r).1 hr
    obtain ⟨item, hitem, hdecode⟩ := (mem_iff_of_mapM_eq_ok hgrants).1 hg
    have hgrant := RoleGrant.isGrantOf_of_ofJson hdecode
    exact (hdirect r).2 ⟨g, hg, hrole, hgrant.isDirect_iff.2 (.inl (hunlisted item hitem))⟩
  · refine ⟨c.groups, c.groups_eq, fun name => ?_⟩
    rw [htracks.groups_eq, groupsAfter_userEdits, SortedSet.mem_ofList]
  · refine ⟨c.externalGroups, c.externalGroups_eq, fun name => ?_⟩
    rw [hexternal, SortedSet.mem_ofList]
  · rw [htracks.username_eq, c.username_eq]
  · rw [htracks.password?_eq, lastPassword?_userEdits]

theorem ofJson_describes_sample : ofJson samplePayload = .ok sampleAccount ∧
    ∃ members items, samplePayload = .object members ∧
      Describes (Json.entries members) items sampleAccount := by
  have h : ofJson samplePayload = .ok sampleAccount := rfl
  exact ⟨h, ofJson_describes h⟩

end AccessControl.Account
