import AccessControl.Role.Wire
/-!
# Available roles

The server lists the roles that can be granted, each with a name for display and a description.
-/

namespace AccessControl

/-- A role that can be granted, as the server lists it. -/
structure RoleInfo where
  role : Role
  displayName : String
  description : String
  /-- Whether the role is available in the community edition. -/
  community : Bool
  bucketName : Option String
  deriving DecidableEq

namespace RoleInfo

/-- How available roles are laid out on the wire. -/
def schema : Schema where
  entity := "role and description"
  aliases := [("desc", "description"), ("name", "display_name")]
  fallbacks := [("ce", .bool true), ("bucket_name", .null)]

/-- The attributes of an available role whose role is known. -/
def ofRecord (role : Role) (r : Record schema) : Except RecordFault RoleInfo := do
  let displayName ← r.require .string "display_name"
  let description ← r.require .string "description"
  let community ← r.require .bool "ce"
  let bucketName ← r.read? .string "bucket_name"
  return ⟨role, displayName, description, community, bucketName⟩

/-- The available role that the members of an object denote. -/
def ofMembers (members : List (String × Json)) : Except DecodeFault RoleInfo := do
  let role ← Role.ofJson (.object members)
  (ofRecord role (.received (Json.entries members))).mapError .record

/-- The available role that a wire value denotes. -/
def ofJson : Json → Except DecodeFault RoleInfo
  | .object members => ofMembers members
  | v => .error (.shape .roleDescription v)

end RoleInfo

end AccessControl
