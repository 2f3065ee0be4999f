import AccessControl.Origin
import AccessControl.Role.Wire
/-!
# Grants

A grant is a role that a user holds together with its origins.  A role that arrives without origins
is a direct grant, so a grant always has an origin (`RoleGrant.origins_ne_nil`).
-/

namespace AccessControl

/-- A role that a user holds, with the reasons why. -/
structure RoleGrant where
  role : Role
  origins : List Origin
  deriving DecidableEq

namespace RoleGrant

/-- How grants are laid out on the wire. -/
def schema : Schema where
  entity := "role and origins"

/-- The origins of a role that arrives without any: it was granted to the user. -/
def orDirect (origins : List Origin) : List Origin :=
  if origins = [] then [.user] else origins

/-- The origins that a wire value lists; only an object lists any. -/
def listedOrigins : Json → Except DecodeFault (List Origin)
  | .object members => do
    let r : Record schema := .received (Json.entries members)
    return ((← (r.read? (.list Origin.decoder) "origins").mapError .record).getD [])
  | _ => .ok []

/-- The grant that a wire value denotes. -/
def ofJson (v : Json) : Except DecodeFault RoleGrant := do
  let role ← Role.ofJson v
  let origins ← listedOrigins v
  return ⟨role, orDirect origins⟩

/-- Whether the role was granted to the user, alone or besides groups. -/
def isDirect (g : RoleGrant) : Bool := g.origins.any fun o => o.kind = .user

theorem orDirect_ne_nil (origins : List Origin) : orDirect origins ≠ [] := by
  unfold orDirect
  split <;> simp_all

/-- A grant that arrives always has an origin. -/
theorem origins_ne_nil {v : Json} {g : RoleGrant} (h : ofJson v = .ok g) : g.origins ≠ [] := by
  unfold ofJson at h
  cases hr : Role.ofJson v with
  | error e => rw [hr] at h; cases h
  | ok role =>
    cases ho : listedOrigins v with
    | error e => rw [hr, ho] at h; cases h
    | ok origins => rw [hr, ho] at h; cases h; exact orDirect_ne_nil origins

end RoleGrant

end AccessControl
