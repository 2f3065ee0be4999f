import AccessControl.Argument
import AccessControl.Json.Decoder
/-!
# Domains

A user belongs to one of two identity stores, the cluster's own or an external one.
-/

namespace AccessControl

/-- The identity store to which a user belongs. -/
inductive AuthDomain where
  /-- The cluster's own store, the default. -/
  | localStore
  /-- A store outside the cluster. -/
  | externalStore
  deriving DecidableEq

namespace AuthDomain

instance : Inhabited AuthDomain := ⟨localStore⟩

/-- The name of a domain. -/
def name : AuthDomain → String
  | localStore => "local"
  | externalStore => "external"

/-- The domains by name. -/
def byName : List (String × AuthDomain) := [("local", localStore), ("external", externalStore)]

/-- The domain of a name. -/
def ofString (s : String) : Except ArgumentFault AuthDomain :=
  match byName.lookup s with
  | some d => .ok d
  | none => .error (.unknownDomain s)

/-- A domain on the wire. -/
def decoder : Decoder AuthDomain := .choice byName

end AuthDomain

end AccessControl
