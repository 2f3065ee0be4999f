import AccessControl.Role.Wire
/-!
# Groups

A group is a named set of roles, which its members inherit.  When it is sent, what does not count
as set is left out even if it was set on purpose, except the roles, which are always sent: a
missing list would mean that they stay as they are.  The name travels in the path.

* `Group.Edit`, `Group.apply` : the changes that a group can undergo.
* `Group.body` : what is sent, once every role can be sent.
-/

namespace AccessControl

/-- How groups are laid out on the wire. -/
def groupSchema : Schema where
  entity := "group"
  aliases := [("ldap_group_ref", "ldap_group_reference")]
  fallbacks := [("description", .string ""), ("ldap_group_reference", .string "")]

/-- A named set of roles. -/
structure Group where
  name : String
  /-- All properties but the name and the roles. -/
  record : Record groupSchema
  roles : SortedSet Role

namespace Group

/-- A group of which only the name is set. -/
def new (name : String) : Group := ⟨name, .empty, ∅⟩

/-! ### Properties -/

/-- The text of an attribute; empty if it has none. -/
def text (g : Group) (attr : String) : String := ((g.record.get? attr).bind Json.string?).getD ""

/-- The description; empty if there is none. -/
def description (g : Group) : String := g.text "description"

/-- The group of the directory service that corresponds to this one; empty if there is none. -/
def ldapReference (g : Group) : String := g.text "ldap_group_reference"

/-! ### Changes -/

/-- A change of a group. -/
inductive Edit where
  | description (text : String)
  | ldapReference (reference : String)
  | roles (roles : List Role)
  | addRole (role : Role)

/-- The group after a change. -/
def apply (g : Group) : Edit → Group
  | .description text => { g with record := g.record.set "description" (.string text) }
  | .ldapReference reference =>
    { g with record := g.record.set "ldap_group_reference" (.string reference) }
  | .roles roles => { g with roles := .ofList roles }
  | .addRole role => { g with roles := g.roles.insert role }

/-- The group after some changes, one after the other. -/
def applyAll (g : Group) (edits : List Edit) : Group := edits.foldl apply g

/-! ### Receiving -/

/-- The name of a group from the value of its identifier. -/
def nameOfJson : Option Json → Except DecodeFault String
  | some (.string name) => .ok name
  | some v => .error (.shape .groupId v)
  | none => .error .groupIdMissing

/-- The roles of a group from the value of their list. -/
def rolesOfJson : Option Json → Except DecodeFault (SortedSet Role)
  | some (.array items) => return .ofList (← items.mapM Role.ofJson)
  | some .null | none => .ok ∅
  | some v => .error (.shape .groupRoles v)

/-- The group that a wire value denotes. -/
def ofJson : Json → Except DecodeFault Group
  | .object members => do
    let raw := Json.entries members
    let name ← nameOfJson (raw.get? "id")
    let roles ← rolesOfJson (raw.get? "roles")
    return ⟨name, .received ((raw.erase "id").erase "roles"), roles⟩
  | v => .error (.shape .group v)

/-! ### Sending -/

/-- The roles on the wire: an empty array if there are none, else their list in one text. -/
def rolesToJson (roles : SortedSet Role) : Json :=
  if roles.isEmpty then .array [] else .string (Role.encodeList roles.toList)

/-- All properties on the wire, and then the roles. -/
def toMembers (g : Group) : Entries Json :=
  (g.record.raw.filter fun _ v => v.truthy).insert "roles" (rolesToJson g.roles)

theorem get?_toMembers (g : Group) (k : String) : g.toMembers.get? k =
    if k = "roles" then some (rolesToJson g.roles)
    else (g.record.raw.get? k).filter Json.truthy := by
  rw [toMembers, Entries.get?_insert, Entries.get?_filter]

/-- What is sent when a group is written; refused if some role cannot be sent. -/
def body (g : Group) : Except ArgumentFault (Entries Json) := do
  Role.validateAll g.roles.toList
  return g.toMembers

/-! ### Sameness -/

/-- Whether two groups have the same name, properties and roles. -/
def equiv (g g' : Group) : Bool :=
  g.name = g'.name && g.record.equiv g'.record && g.roles = g'.roles

end Group

end AccessControl
