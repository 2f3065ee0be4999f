import AccessControl.Role.Wire
/-!
# Users

A user is built on this side and sent to the server, which creates it or replaces what is there.
Only what was set is sent: a user whose password was never set keeps its password.

* `User.Edit`, `User.apply` : the changes that a user can undergo.
* `User.body` : what is sent, once every role can be sent.
-/

namespace AccessControl

/-- How users are laid out on the wire. -/
def userSchema : Schema where
  entity := "user"
  aliases := [("id", "username"), ("name", "display_name")]
  fallbacks := [("groups", .array [])]

/-- The properties of a user that can be changed. -/
structure User where
  /-- All properties but the roles. -/
  record : Record userSchema
  /-- The roles granted to the user, once they were set; setting none of them is setting them. -/
  roles? : Option (SortedSet Role)

namespace User

/-- A user of whom only the name is set. -/
def new (username : String) : User where
  record := Record.empty.set "username" (.string username)
  roles? := none

/-! ### Properties -/

/-- The name under which the user is known; empty if there is none. -/
def username (u : User) : String := (u.record.text? "username").getD ""

/-- The name for display. -/
def displayName? (u : User) : Option String := u.record.text? "display_name"

/-- The password to be sent. -/
def password? (u : User) : Option String := u.record.text? "password"

/-- The texts among the items of an array. -/
def textItems : Json → List String
  | .array items => items.filterMap Json.string?
  | _ => []

/-- The names of the groups to which the user belongs. -/
def groups (u : User) : SortedSet String :=
  match u.record.get? "groups" with
  | some v => .ofList (textItems v)
  | none => ∅

/-- The roles granted to the user, not those that come from groups. -/
def roles (u : User) : SortedSet Role := u.roles?.getD ∅

/-! ### Changes -/

/-- A change of a user. -/
inductive Edit where
  | displayName (name : String)
  | password (password : String)
  | groups (names : List String)
  | addGroup (name : String)
  | roles (roles : List Role)
  | addRole (role : Role)

/-- The user who belongs to the given groups. -/
def setGroups (u : User) (names : SortedSet String) : User :=
  { u with record := u.record.set "groups" (.array (names.toList.map .string)) }

/-- The user after a change. -/
def apply (u : User) : Edit → User
  | .displayName name => { u with record := u.record.set "display_name" (.string name) }
  | .password password => { u with record := u.record.set "password" (.string password) }
  | .groups names => u.setGroups (.ofList names)
  | .addGroup name => u.setGroups (u.groups.insert name)
  | .roles roles => { u with roles? := some (.ofList roles) }
  | .addRole role => { u with roles? := some (u.roles.insert role) }

/-- The user after some changes, one after the other. -/
def applyAll (u : User) (edits : List Edit) : User := edits.foldl apply u

/-! ### Sending -/

/-- All properties on the wire; the roles come last, in their string forms. -/
def toMembers (u : User) : Entries Json :=
  match u.roles? with
  | some roles =>
    u.record.outgoing.insert "roles" (.array (roles.toList.map fun r => .string r.encode))
  | none => u.record.outgoing

/-- The keys that are sent when a user is written. -/
def bodyKeys : List String := ["name", "password", "roles", "groups"]

/-- Whether a property is sent when a user is written.  An empty list of groups is not sent, because
servers take it for something else than no list. -/
def isSent (key : String) (v : Json) : Bool :=
  bodyKeys.contains key && (key != "groups" || !(v.array?.any List.isEmpty))

/-- What is sent when a user is written; refused if some role cannot be sent. -/
def body (u : User) : Except ArgumentFault (Entries Json) := do
  Role.validateAll u.roles.toList
  return u.toMembers.filter isSent

/-! ### Sameness -/

/-- Whether two users have the same properties. -/
def equiv (u u' : User) : Bool := u.record.equiv u'.record && u.roles? = u'.roles?

end User

end AccessControl
