import AccessControl.FormBody
import AccessControl.Http.Method
import AccessControl.Params
import AccessControl.Text.Percent
/-!
# Requests

Each kind of entity has its path on the server; a user's path has its domain and name, a group's its
name, each as one percent-encoded segment.  What is written is sent as a form.
-/

namespace AccessControl

/-! ### Paths -/

namespace Path

/-- The list of available roles. -/
def roles : String := "/settings/rbac/roles/"

/-- The list of groups. -/
def groups : String := "/settings/rbac/groups/"

/-- Where the password of the authenticated user is changed. -/
def changePassword : String := "/controller/changePassword"

/-- The group of a name. -/
def group (name : String) : String := groups ++ Percent.encode name

/-- The list of the users of a domain. -/
def users (domain : AuthDomain) : String :=
  "/settings/rbac/users/" ++ Percent.encode domain.name

/-- The user of a domain and name. -/
def user (domain : AuthDomain) (name : String) : String :=
  users domain ++ "/" ++ Percent.encode name

end Path

/-! ### Requests -/

/-- The content type of form bodies. -/
def formContentType : String := "application/x-www-form-urlencoded"

/-- What is sent to the server. -/
structure Request where
  method : Method
  path : String
  params : Params := ∅
  /-- The form that is sent along, if there is any. -/
  body? : Option String := none
  deriving DecidableEq

namespace Request

/-- The content type of the body, if there is any. -/
def contentType? (r : Request) : Option String := r.body?.map fun _ => formContentType

/-- Reads the user of a domain and name. -/
def readUser (domain : AuthDomain) (name : String) (params : Params) : Request :=
  { method := .get, path := Path.user domain name, params }

/-- Reads all users of a domain. -/
def readUsers (domain : AuthDomain) (params : Params) : Request :=
  { method := .get, path := Path.users domain, params }

/-- Writes the user of a domain and name. -/
def writeUser (domain : AuthDomain) (name : String) (members : Entries Json) (params : Params) :
    Request :=
  { method := .put, path := Path.user domain name, params, body? := some (formBody members) }

/-- Removes the user of a domain and name. -/
def removeUser (domain : AuthDomain) (name : String) (params : Params) : Request :=
  { method := .delete, path := Path.user domain name, params }

/-- Reads the available roles. -/
def readRoles (params : Params) : Request := { method := .get, path := Path.roles, params }

/-- Reads the group of a name. -/
def readGroup (name : String) (params : Params) : Request :=
  { method := .get, path := Path.group name, params }

/-- Reads all groups. -/
def readGroups (params : Params) : Request := { method := .get, path := Path.groups, params }

/-- Writes the group of a name. -/
def writeGroup (name : String) (members : Entries Json) (params : Params) : Request :=
  { method := .put, path := Path.group name, params, body? := some (formBody members) }

/-- Removes the group of a name. -/
def removeGroup (name : String) (params : Params) : Request :=
  { method := .delete, path := Path.group name, params }

/-- Changes the password of the authenticated user. -/
def changePassword (password : String) (params : Params) : Request :=
  { method := .post, path := Path.changePassword, params,
    body? := some (formBody (.insert ∅ "password" (.string password))) }

end Request

end AccessControl
