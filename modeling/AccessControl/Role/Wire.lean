import AccessControl.DecodeFault
import AccessControl.Role.Basic
/-!
# Wire forms of roles

A role arrives in its string form, as an object with its name and bucket, or as an array of the two;
it is sent in its string form or as an object.  In an object and in an array the name is taken as it
is, brackets included.

* `Role.ofJson` : the role that a wire value denotes.
* `Role.toMembers` : the role as the members of an object.
-/

namespace AccessControl.Role

/-- How roles are laid out on the wire. -/
def schema : Schema where
  entity := "role"
  aliases := [("role", "name"), ("bucket", "bucket"), ("bucket_name", "bucket")]
  fallbacks := [("bucket", .null)]
  positions := ["name", "bucket"]

/-- The role of a wire record. -/
def ofRecord (r : Record schema) : Except DecodeFault Role := do
  let name ← (r.require .string "name").mapError .record
  if name = "" then throw .emptyRoleName
  let bucket ← (r.read? .string "bucket").mapError .record
  return ⟨name, bucket⟩

/-- The role that a wire value denotes. -/
def ofJson : Json → Except DecodeFault Role
  | .string s => (parse s).mapError .roleString
  | v => do ofRecord (← (Record.ofJson? v).mapError .record)

/-- The role as a wire record. -/
def toRecord (r : Role) : Record schema :=
  let named : Record schema := Record.empty.set "name" (.string r.name)
  match r.bucket with
  | some bucket => named.set "bucket" (.string bucket)
  | none => named

/-- The role as the members of an object. -/
def toMembers (r : Role) : Entries Json := r.toRecord.outgoing

end AccessControl.Role
