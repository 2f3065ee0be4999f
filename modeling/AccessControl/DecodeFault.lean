import AccessControl.Argument
import AccessControl.Record.Basic
import AccessControl.Time.Rfc3339
/-!
# Answers that cannot be decoded

An answer of the server is refused when some part of it has a shape that is not expected; nothing is
guessed or coerced.
-/

namespace AccessControl

/-- A part of an answer whose shape is fixed. -/
inductive AnswerPart where
  | userList
  | roleList
  | groupList
  | roleDescription
  | group
  | groupId
  | groupRoles
  | passwordChangeDate

/-- The shape of a part of an answer in words. -/
def AnswerPart.shape : AnswerPart → String
  | userList => "users to be an array"
  | roleList => "roles to be an array"
  | groupList => "groups to be an array"
  | roleDescription => "role description object"
  | group => "group object"
  | groupId => "group id string"
  | groupRoles => "group roles array"
  | passwordChangeDate => "password change date"

/-- Why an answer cannot be decoded. -/
inductive DecodeFault where
  /-- A role's string form does not read as a role. -/
  | roleString (fault : ArgumentFault)
  /-- A role has an empty name. -/
  | emptyRoleName
  /-- A wire record cannot be read. -/
  | record (fault : RecordFault)
  /-- A date does not read as one. -/
  | date (fault : Rfc3339.Fault)
  /-- A part of the answer has another shape. -/
  | shape (expected : AnswerPart) (found : Json)
  /-- A group has no name. -/
  | groupIdMissing

namespace DecodeFault

/-- What cannot be decoded, in words. -/
def detail : DecodeFault → String
  | roleString fault => fault.message
  | emptyRoleName => "role name cannot be empty"
  | record fault => fault.message
  | date fault => "failed to parse date: " ++ fault.message
  | shape expected found => "expected " ++ expected.shape ++ ", got " ++ found.text
  | groupIdMissing => "group payload has no id"

/-- The failure in words. -/
def message (f : DecodeFault) : String := "decoding failed: " ++ f.detail

end DecodeFault

end AccessControl
