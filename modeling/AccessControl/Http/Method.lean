/-!
# Request methods

A method that is not one of the usual ones is known by its name.
-/

namespace AccessControl

/-- A request method. -/
inductive Method where
  | get
  | put
  | post
  | delete
  /-- Any other method, by its name. -/
  | other (name : String)
  deriving DecidableEq

namespace Method

/-- The name of a method. -/
def text : Method → String
  | get => "GET"
  | put => "PUT"
  | post => "POST"
  | delete => "DELETE"
  | other name => name

/-- The method of a name; names are case-sensitive. -/
def ofText (name : String) : Method :=
  if name = "GET" then get
  else if name = "PUT" then put
  else if name = "POST" then post
  else if name = "DELETE" then delete
  else other name

end Method

end AccessControl
