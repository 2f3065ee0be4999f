import AccessControl.Json.Decoder
/-!
# Origins of a role

A user holds a role because it was granted directly, or through a group.
-/

namespace AccessControl

/-- Whether a role was granted to the user or comes from a group. -/
inductive OriginKind where
  | user
  | group
  deriving DecidableEq

namespace OriginKind

/-- The name of a kind of origin. -/
def name : OriginKind → String
  | user => "user"
  | group => "group"

/-- The kinds of origin by name. -/
def byName : List (String × OriginKind) := [("user", user), ("group", group)]

/-- A kind of origin on the wire. -/
def decoder : Decoder OriginKind := .choice byName

end OriginKind

/-- Why a user holds a role. -/
structure Origin where
  kind : OriginKind
  /-- The name of the group from which the role comes. -/
  name : Option String
  deriving DecidableEq

namespace Origin

/-- A grant to the user. -/
def user : Origin := ⟨.user, none⟩

/-- A grant through the named group. -/
def group (name : String) : Origin := ⟨.group, some name⟩

/-- What the members of an object read so far give. -/
structure Partial where
  kind : Option OriginKind := none
  name : Option String := none

/-- Reads one member; keys other than the two of an origin do not count. -/
def Partial.member (p : Partial) (e : String × Json) : Except Mismatch Partial :=
  if e.1 = "type" then do return { p with kind := some (← OriginKind.decoder e.2) }
  else if e.1 = "name" then do return { p with name := ← Decoder.optionalString e.2 }
  else .ok p

/-- An origin on the wire: an object, whose members are read in their order, or an array of the kind
and the name. -/
def decoder : Decoder Origin
  | .object members => do
    let p ← (Json.entries members).toList.foldlM Partial.member {}
    match p.kind with
    | some kind => .ok ⟨kind, p.name⟩
    | none => .error (.missing "type")
  | .array [] => .error (.tooShort 0 "struct Origin with 2 elements")
  | .array [kind] => do return ⟨← OriginKind.decoder kind, none⟩
  | .array (kind :: name :: rest) => do
    let origin : Origin := ⟨← OriginKind.decoder kind, ← Decoder.optionalString name⟩
    if rest = [] then .ok origin else .error (.tooLong (rest.length + 2))
  | v => .error (.kind v "struct Origin")

/-- The origin as an object; an absent name is left out. -/
def toJson (o : Origin) : Json :=
  .object (("type", .string o.kind.name) ::
    match o.name with
    | some name => [("name", .string name)]
    | none => [])

end Origin

end AccessControl
