import AccessControl.Text.Quoted
/-!
# Arguments that cannot be used

A caller's argument is refused before anything is sent: a name that is empty, a role that has no
string form, a domain that does not exist.
-/

namespace AccessControl

/-- Why an argument is refused. -/
inductive ArgumentFault where
  /-- A role string opens a bucket that does not end at its end. -/
  | unterminatedBucket (text : String)
  /-- A role string ends a bucket that it does not open. -/
  | unbalancedBracket (text : String)
  /-- A role string has no name. -/
  | emptyRoleName
  /-- The string form of a role has the character that separates roles. -/
  | commaInRole (text : String)
  /-- The string form of a role does not read as that role. -/
  | notARoleString (text : String)
  /-- A text names no domain. -/
  | unknownDomain (text : String)
  /-- The named argument is empty. -/
  | empty (argument : String)
  deriving DecidableEq

namespace ArgumentFault

/-- The name of the argument that is refused. -/
def argument : ArgumentFault → String
  | unknownDomain _ => "domain"
  | empty argument => argument
  | _ => "role"

/-- What is wrong with the argument. -/
def detail : ArgumentFault → String
  | unterminatedBucket text => "unterminated bucket in " ++ Quoted.encode text
  | unbalancedBracket text => "unbalanced bracket in " ++ Quoted.encode text
  | emptyRoleName => "role name cannot be empty"
  | commaInRole text => Quoted.encode text ++ " contains a comma"
  | notARoleString text => Quoted.encode text ++ " does not form a valid role string"
  | unknownDomain text => "unknown auth domain " ++ Quoted.encode text
  | empty _ => "cannot be empty"

/-- The refusal in words. -/
def message (f : ArgumentFault) : String := "invalid argument: " ++ f.argument ++ ": " ++ f.detail

end ArgumentFault

end AccessControl
