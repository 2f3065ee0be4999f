import AccessControl.Proofs.Account.Views
import AccessControl.Proofs.Record.Agreement
import AccessControl.Role.Info
/-!
# What the decoders depend on

The decoders of roles, of available roles and of accounts read an object only through the keys of
their schemas.  Other members, explicit nulls and the order of the members do not count, neither in
what is accepted nor in how a payload is refused.  For accounts the same holds one level below, in
each object that the list of the roles has.

* `RoleGrant.ofJson_eq_of_alike` : roles that are alike have the same grant.
* `decoders_dependOnly` : each decoder gives the same result for objects that are alike.
-/

namespace AccessControl

/-! ### Roles -/

/-- The keys that are read of a role. -/
def Role.wireKeys : List String := ["role", "name", "bucket", "bucket_name"]

theorem Role.ofJson_dependsOnlyOn :
    DependsOnlyOn (fun members => Role.ofJson (.object members)) Role.wireKeys := by
  intro members members' h
  change ofRecord (.received (Json.entries members)) = ofRecord (.received (Json.entries members'))
  -- every attribute that is read has its keys among those of a role
  simp (disch := decide) only [ofRecord, Record.require_of_agreeOn h, Record.read?_of_agreeOn h]

namespace RoleInfo

/-- The keys that are read of an available role. -/
def wireKeys : List String :=
  ["role", "name", "bucket", "bucket_name", "desc", "description", "display_name", "ce"]

theorem ofMembers_dependsOnlyOn : DependsOnlyOn ofMembers wireKeys := by
  intro members members' h
  have hrole := Role.ofJson_dependsOnlyOn members members' (h.mono (by decide))
  simp (disch := decide) only [ofMembers, ofRecord, hrole, Record.require_of_agreeOn h,
    Record.read?_of_agreeOn h]

end RoleInfo

namespace RoleGrant

/-- The keys that are read of a role that a user holds. -/
def wireKeys : List String := ["role", "name", "bucket", "bucket_name", "origins"]

theorem ofJson_dependsOnlyOn :
    DependsOnlyOn (fun members => ofJson (.object members)) wireKeys := by
  intro members members' h
  have hrole := Role.ofJson_dependsOnlyOn members members' (h.mono (by decide))
  simp (disch := decide) only [ofJson, listedOrigins, hrole, Record.read?_of_agreeOn h]

/-- Two wire values of a role differ only in members that do not count. -/
inductive Alike : Json → Json → Prop
  | same (v : Json) : Alike v v
  | objects {members members' : List (String × Json)}
      (h : AgreeOn wireKeys (Json.entries members) (Json.entries members')) :
      Alike (.object members) (.object members')

/-- Two wire values of a list of roles differ only in members of their items that do not count. -/
inductive ListsAlike : Json → Json → Prop
  | same (v : Json) : ListsAlike v v
  | arrays {items items' : List Json} (h : List.Forall₂ Alike items items') :
      ListsAlike (.array items) (.array items')

/-- Roles that are alike have the same grant, or are refused alike. -/
theorem ofJson_eq_of_alike {v v' : Json} (h : Alike v v') : ofJson v = ofJson v' := by
  cases h with
  | same => rfl
  | objects h => exact ofJson_dependsOnlyOn _ _ h

end RoleGrant

/-! ### Accounts -/

namespace Account

/-- The keys that are read of an account. -/
def wireKeys : List String :=
  ["domain", "id", "username", "name", "display_name", "groups", "external_groups", "roles",
    "effective_roles_and_origins", "password_change_date", "password_changed"]

/-- Those of the keys under which the roles are not listed. -/
def plainKeys : List String :=
  ["domain", "id", "username", "name", "display_name", "groups", "external_groups",
    "password_change_date", "password_changed"]

/-- Two payloads of accounts differ only in members that do not count, of the payload itself or of
the roles that it lists. -/
structure Alike (m m' : Entries Json) : Prop where
  agree : AgreeOn plainKeys m m'
  roles : ∀ k ∈ roleKeys, Option.Rel RoleGrant.ListsAlike (presentAt? m k) (presentAt? m' k)

variable {m m' : Entries Json} {r r' : Record accountSchema}

theorem Alike.of_agreeOn (h : AgreeOn wireKeys m m') : Alike m m' := by
  refine ⟨h.mono (by decide), fun k hk => ?_⟩
  have hsub : roleKeys ⊆ wireKeys := by decide
  rw [h k (hsub hk)]
  cases presentAt? m' k with
  | none => exact .none
  | some v => exact .some (.same v)

/-- The grants that a record lists. -/
def listedGrants (r : Record accountSchema) : Except DecodeFault (List RoleGrant) := do
  let listed? ← (r.read? (.list .json) "effective_roles_and_origins").mapError .record
  (listed?.getD []).mapM RoleGrant.ofJson

theorem listedGrants_of_get?_eq_array {items : List Json}
    (h : r.get? "effective_roles_and_origins" = some (.array items)) :
    listedGrants r = items.mapM RoleGrant.ofJson := by
  have hlist : Decoder.list .json (.array items) = .ok items :=
    Decoder.list_eq_ok_iff.2 ⟨items, rfl, rfl⟩
  rw [listedGrants, Record.read?, h]
  simp only [hlist]
  rfl

theorem listedGrants_congr
    (h : Option.Rel RoleGrant.ListsAlike (r.stored? "effective_roles_and_origins")
      (r'.stored? "effective_roles_and_origins")) :
    listedGrants r = listedGrants r' := by
  generalize hv : r.stored? "effective_roles_and_origins" = v? at h
  generalize hv' : r'.stored? "effective_roles_and_origins" = v?' at h
  cases h with
  | none => rw [listedGrants, listedGrants, Record.read?_congr (hv.trans hv'.symm)]
  | some h =>
    cases h with
    | same => rw [listedGrants, listedGrants, Record.read?_congr (hv.trans hv'.symm)]
    | arrays h =>
      rw [listedGrants_of_get?_eq_array (by rw [Record.get?, hv]; rfl),
        listedGrants_of_get?_eq_array (by rw [Record.get?, hv']; rfl)]
      exact mapM_congr (h.imp fun _ _ => RoleGrant.ofJson_eq_of_alike)

theorem listedGrants_bind {β : Type} (r : Record accountSchema)
    (next : List RoleGrant → Except DecodeFault β) :
    ((r.read? (.list .json) "effective_roles_and_origins").mapError .record >>= fun listed? =>
      (listed?.getD []).mapM RoleGrant.ofJson >>= next) = listedGrants r >>= next := by
  rw [listedGrants, bind_assoc]

theorem ofRecord_eq_of_alike (h : Alike m m') :
    ofRecord (.received m) = ofRecord (.received m') := by
  have hgrants : listedGrants (.received m) = listedGrants (.received m') :=
    listedGrants_congr (Record.stored?_rel fun k hk => h.roles k hk)
  simp (disch := decide) only [ofRecord, listedGrants_bind, hgrants,
    Record.require_of_agreeOn h.agree, Record.read?_of_agreeOn h.agree,
    Record.stored?_of_agreeOn h.agree]

/-- Payloads that are alike are decoded to the same account, or are refused alike. -/
theorem ofJson_eq_of_alike {members members' : List (String × Json)}
    (h : Alike (Json.entries members) (Json.entries members')) :
    ofJson (.object members) = ofJson (.object members') :=
  ofRecord_eq_of_alike h

end Account

/-- **The decoders depend only on what is under their keys.** -/
theorem decoders_dependOnly :
    DependsOnlyOn (fun members => Role.ofJson (.object members)) Role.wireKeys ∧
      DependsOnlyOn RoleInfo.ofMembers RoleInfo.wireKeys ∧
      DependsOnlyOn (fun members => Account.ofJson (.object members)) Account.wireKeys ∧
      ∀ members members', Account.Alike (Json.entries members) (Json.entries members') →
        Account.ofJson (.object members) = Account.ofJson (.object members') :=
  ⟨Role.ofJson_dependsOnlyOn, RoleInfo.ofMembers_dependsOnlyOn,
    fun _ _ h => Account.ofJson_eq_of_alike (.of_agreeOn h), fun _ _ => Account.ofJson_eq_of_alike⟩

/-- The sample payload in disguise: in another order, with nulls and with members that no decoder
reads, also in a role. -/
def Account.disguisedMembers : List (String × Json) :=
  [("roles", .array [
      .object [("note", .string "old"),
        ("origins", .array [.object [("type", .string "group"), ("name", .string "staff")]]),
        ("bucket", .null), ("role", .string "admin")],
      .object [("role", .string "admin"), ("origins", .array [.object [("type", .string "user")]])],
      .object [("role", .string "backup"), ("bucket_name", .string "b"),
        ("origins", .array [.object [("type", .string "group"), ("name", .string "staff")]])],
      .string "reader[b]",
      .array [.string "ops", .null]]),
    ("uuid", .string "7"), ("name", .null), ("groups", .array [.string "staff"]),
    ("username", .string "ann"), ("domain", .string "local")]

theorem decoders_dependOnly_disguised :
    ∃ members, Account.samplePayload = .object members ∧
      Account.Alike (Json.entries Account.disguisedMembers) (Json.entries members) ∧
      Account.ofJson (.object Account.disguisedMembers) = .ok Account.sampleAccount := by
  refine ⟨_, rfl, ?_⟩
  have hrole : RoleGrant.Alike
      (.object [("note", .string "old"),
        ("origins", .array [.object [("type", .string "group"), ("name", .string "staff")]]),
        ("bucket", .null), ("role", .string "admin")])
      (.object [("role", .string "admin"),
        ("origins", .array [.object [("type", .string "group"), ("name", .string "staff")]])]) := by
    refine .objects ?_
    simp only [AgreeOn, RoleGrant.wireKeys, List.forall_mem_cons]
    exact ⟨rfl, rfl, rfl, rfl, rfl, nofun⟩
  suffices halike : Account.Alike (Json.entries Account.disguisedMembers) (Json.entries _) from
    ⟨halike, decoders_dependOnly.2.2.2 _ _ halike⟩
  refine ⟨?_, ?_⟩
  · simp only [AgreeOn, Account.plainKeys, List.forall_mem_cons]
    exact ⟨rfl, rfl, rfl, rfl, rfl, rfl, rfl, rfl, rfl, nofun⟩
  · simp only [Account.roleKeys, List.forall_mem_cons]
    exact ⟨.some (.arrays (.cons hrole (.cons (.same _) (.cons (.same _) (.cons (.same _)
      (.cons (.same _) .nil)))))), .none, nofun⟩

end AccessControl
