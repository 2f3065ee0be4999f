import AccessControl.AuthDomain
import AccessControl.Role.Grant
import AccessControl.User
/-!
# Accounts

An account is a user as the server describes it: its domain, the grants it holds with their origins,
and the user that can be changed and sent back.  That user has only the roles that were granted
directly, so that sending it back grants nothing that comes from a group.

* `Account.ofJson` : the account that a wire value denotes.
* `Account.passwordChangedAt?` : the instant at which the password was changed.
-/

namespace AccessControl

/-- How accounts are laid out on the wire. -/
def accountSchema : Schema where
  entity := "user and metadata"
  aliases := [("id", "username"), ("name", "display_name"),
    ("roles", "effective_roles_and_origins"), ("password_change_date", "password_changed")]
  fallbacks := [("groups", .array []), ("external_groups", .array []),
    ("effective_roles_and_origins", .array [])]

/-- A user as the server describes it. -/
structure Account where
  domain : AuthDomain
  /-- The user, with the roles that were granted directly. -/
  user : User
  /-- Every role that the user holds. -/
  effectiveRoles : SortedSet Role
  /-- Every role that the user holds, with its origins, in the order of the description. -/
  grants : List RoleGrant
  /-- When the password was changed, in seconds since the epoch. -/
  passwordChanged? : Option Double
  /-- The names of the groups that the external store reports. -/
  externalGroups : SortedSet String

namespace Account

/-- The seconds since the epoch that a wire value denotes: a number, or a date with a time. -/
def passwordChangeOfJson : Json → Except DecodeFault Double
  | .number n => .ok n.toDouble
  | .string s => ((Rfc3339.parse s).map Instant.toDouble).mapError .date
  | v => .error (.shape .passwordChangeDate v)

/-- The roles of those grants that were made to the user. -/
def directRoles (grants : List RoleGrant) : List Role :=
  (grants.filter RoleGrant.isDirect).map RoleGrant.role

/-- The user of an account, to be changed and sent back. -/
def userOf (username : String) (displayName? : Option String) (groups : SortedSet String)
    (grants : List RoleGrant) : User :=
  ((User.new username).applyAll [.groups groups.toList, .roles (directRoles grants)]).applyAll
    (displayName?.toList.map .displayName)

/-- The account of a wire record. -/
def ofRecord (r : Record accountSchema) : Except DecodeFault Account := do
  let domain ← (r.require AuthDomain.decoder "domain").mapError .record
  let username ← (r.require .string "username").mapError .record
  let displayName? ← (r.read? .string "display_name").mapError .record
  let groups? ← (r.read? (.set .string) "groups").mapError .record
  let externalGroups? ← (r.read? (.set .string) "external_groups").mapError .record
  let listed? ← (r.read? (.list .json) "effective_roles_and_origins").mapError .record
  let grants ← (listed?.getD []).mapM RoleGrant.ofJson
  let passwordChanged? ← (r.stored? "password_changed").mapM passwordChangeOfJson
  return {
    domain
    user := userOf username displayName? (groups?.getD ∅) grants
    effectiveRoles := .ofList (grants.map RoleGrant.role)
    grants
    passwordChanged?
    externalGroups := externalGroups?.getD ∅ }

/-- The account that a wire value denotes. -/
def ofJson (v : Json) : Except DecodeFault Account := do
  ofRecord (← (Record.ofJson? v).mapError .record)

/-- The instant at which the password was changed, if it can be held. -/
def passwordChangedAt? (a : Account) : Option Instant := a.passwordChanged?.bind Instant.ofDouble?

/-- Whether two times of change are the same number, or both are missing. -/
def equivTime : Option Double → Option Double → Bool
  | none, none => true
  | some x, some y => x.equiv y
  | _, _ => false

/-- Whether two accounts are the same. -/
def equiv (a b : Account) : Bool :=
  a.domain = b.domain && a.user.equiv b.user && a.effectiveRoles = b.effectiveRoles &&
    a.grants = b.grants && equivTime a.passwordChanged? b.passwordChanged? &&
    a.externalGroups = b.externalGroups

end Account

end AccessControl
