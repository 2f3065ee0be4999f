import AccessControl.DecodeFault
import AccessControl.Http.Method
import AccessControl.Http.Status
import AccessControl.Text.Occurs
/-!
# Errors

A call fails because of an argument, on the way to the server, by the server's refusal, or because
the answer cannot be decoded.  Transports fail with the same errors.  What a transport reports as a
refusal, and nothing else, is looked at again by two rules.

* `Error.classify` : the first known phrase that occurs in the server's text decides the kind.
* `Error.notFoundMeansUnsupported` : "not found" means that the server does not have a feature.
-/

namespace AccessControl

/-- The request that was refused, and the refusal. -/
structure HttpContext where
  status : Status
  method : Method
  path : String
  /-- The server's text, if there was any. -/
  text : Option String
  deriving DecidableEq

/-- What kind of failure an error is. -/
inductive ErrorKind where
  /-- An argument is refused; it may be named. -/
  | invalidArgument (argument? : Option String) (detail : String)
  /-- An answer cannot be decoded. -/
  | decodingFailure (text : String)
  /-- The operation took too long. -/
  | timeout
  /-- The server refused, for a reason that is not known. -/
  | httpFailure
  | userNotFound
  | groupNotFound
  /-- The server does not have the named feature. -/
  | featureNotAvailable (feature : String)
  /-- Anything else. -/
  | otherFailure (text : String)
  deriving DecidableEq

/-- Why a call failed, and the request that the server refused, if it refused one. -/
structure Error where
  kind : ErrorKind
  context? : Option HttpContext
  deriving DecidableEq

/-! ### Words -/

/-- A refusal with its request in words. -/
def HttpContext.message (c : HttpContext) : String :=
  "method: " ++ c.method.text ++ ", path: " ++ c.path ++ ", status code: " ++ c.status.text ++
    match c.text with
    | some text => ", error text: " ++ text
    | none => ""

/-- The kind of a failure in words. -/
def ErrorKind.message : ErrorKind → String
  | invalidArgument (some argument) detail => "invalid argument: " ++ argument ++ ": " ++ detail
  | invalidArgument none detail => "invalid argument: " ++ detail
  | decodingFailure text => text
  | timeout => "operation timed out"
  | httpFailure => "http request failed"
  | userNotFound => "user not found"
  | groupNotFound => "group not found"
  | featureNotAvailable feature => "feature not available: " ++ feature
  | otherFailure text => text

namespace Error

/-- The error in words. -/
def message (e : Error) : String :=
  match e.context? with
  | some context => e.kind.message ++ ", " ++ context.message
  | none => e.kind.message

/-! ### Making errors -/

/-- An argument is refused. -/
def invalidArgument (fault : ArgumentFault) : Error where
  kind := .invalidArgument (some fault.argument) fault.detail
  context? := none

/-- An answer cannot be decoded. -/
def decoding (fault : DecodeFault) : Error where
  kind := .decodingFailure fault.message
  context? := none

/-- The operation took too long. -/
def timeout : Error where
  kind := .timeout
  context? := none

/-- Anything else. -/
def other (text : String) : Error where
  kind := .otherFailure text
  context? := none

/-- The server refused a request. -/
def http (context : HttpContext) : Error where
  kind := .httpFailure
  context? := some context

/-! ### Classification -/

/-- The phrases by which the server says what does not exist, in the order in which they are looked
for. -/
def knownPhrases : List (String × ErrorKind) :=
  [("Unknown group", .groupNotFound), ("Unknown user", .userNotFound)]

/-- The error with the kind that the server's text gives, if it is a refusal and the text has a
known phrase; any other error as it is. -/
def classify (e : Error) : Error :=
  if e.kind ≠ .httpFailure then e
  else
    match e.context?.bind HttpContext.text with
    | none => e
    | some text =>
      match knownPhrases.find? fun entry => occurs entry.1 text with
      | some entry => { e with kind := entry.2 }
      | none => e

/-- The error by which a server says that it does not have a feature, if it is a refusal with the
status "not found"; any other error as it is. -/
def notFoundMeansUnsupported (e : Error) (feature : String) : Error :=
  if e.kind = .httpFailure ∧ e.context?.map HttpContext.status = some .notFound then
    { e with kind := .featureNotAvailable feature }
  else e

end Error

end AccessControl
