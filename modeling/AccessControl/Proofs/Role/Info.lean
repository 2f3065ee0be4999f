import AccessControl.Proofs.Role.Refusal
import AccessControl.Role.Info
/-!
# The names of available roles

The entry of an available role is read twice, once as a role and once as a description, and the two
readings do not agree on the key `name`: for the description it is where the display name is
written, for the role it is the name's second key.  So the key `role` decides.  With a value there
the two names are apart; without one the display name is taken for the name of the role.

* `RoleInfo.ofMembers_eq_ok_iff` : what an entry says that is decoded to an available role.
* `RoleInfo.ofMembers_takesNames` : where the two names of an entry come from, and which entries
  without a role are refused.
* `RoleInfo.ofMembers_mistakes_displayName` : an entry without a role is taken for one.
-/

namespace AccessControl.RoleInfo

/-- The members of an object describe an available role. -/
structure DescribedBy (info : RoleInfo) (m : Entries Json) : Prop where
  role : info.role.NamedBy m
  displayName : firstPresent? m ["name", "display_name"] = some (.string info.displayName)
  description : firstPresent? m ["desc", "description"] = some (.string info.description)
  /-- A role of which nothing is said is available in the community edition. -/
  community : (firstPresent? m ["ce"]).getD (.bool true) = .bool info.community
  bucketName : firstPresent? m ["bucket_name"] = info.bucketName.map .string

/-- Which members the names of an available role come from. -/
structure TakesNames (info : RoleInfo) (m : Entries Json) : Prop where
  /-- The display name is under its first key, or under the second if the first has no value. -/
  displayName : firstPresent? m ["name", "display_name"] = some (.string info.displayName)
  /-- A value for the role is the role's name. -/
  named : ¬ Absent m "role" → m.get? "role" = some (.string info.role.name)
  /-- Without one the display name is the role's name. -/
  mistaken : Absent m "role" →
    m.get? "name" = some (.string info.displayName) ∧ info.role.name = info.displayName

variable {info : RoleInfo} {role : Role} {rec : Record schema} {members : List (String × Json)}
  {m : Entries Json}

/-! ### Decoding -/

theorem ofRecord_eq_ok_iff_reads :
    ofRecord role rec = .ok info ↔ info.role = role ∧
      rec.require .string "display_name" = .ok info.displayName ∧
        rec.require .string "description" = .ok info.description ∧
          rec.require .bool "ce" = .ok info.community ∧
            rec.read? .string "bucket_name" = .ok info.bucketName := by
  simp only [ofRecord, bind_eq_ok_iff, pure_eq_ok_iff]
  constructor
  · rintro ⟨displayName, hdisplay, description, hdescription, community, hcommunity, bucketName,
      hbucket, rfl⟩
    exact ⟨rfl, hdisplay, hdescription, hcommunity, hbucket⟩
  · rintro ⟨rfl, hdisplay, hdescription, hcommunity, hbucket⟩
    exact ⟨_, hdisplay, _, hdescription, _, hcommunity, _, hbucket, rfl⟩

theorem require_bool_eq_ok_iff {attr : String} {b : Bool} :
    rec.require .bool attr = .ok b ↔ rec.get? attr = some (.bool b) := by
  rw [Record.require_eq_ok_iff, Record.read?_eq_some_iff]
  constructor
  · rintro ⟨v, hv, hb⟩
    rw [hv]
    cases v <;> cases hb
    rfl
  · exact fun h => ⟨_, h, rfl⟩

theorem get?_community (rec : Record schema) :
    rec.get? "ce" = some ((firstPresent? rec.raw ["ce"]).getD (.bool true)) := by
  have hkeys : schema.readKeys "ce" = ["ce"] := by decide
  have hfallback : schema.fallback? "ce" = some (.bool true) := rfl
  rw [Record.get?, hfallback, Record.stored?_eq_firstPresent?, hkeys]
  cases firstPresent? rec.raw ["ce"] <;> rfl

theorem ofRecord_eq_ok_iff : ofRecord role rec = .ok info ↔ info.role = role ∧
    firstPresent? rec.raw ["name", "display_name"] = some (.string info.displayName) ∧
      firstPresent? rec.raw ["desc", "description"] = some (.string info.description) ∧
        (firstPresent? rec.raw ["ce"]).getD (.bool true) = .bool info.community ∧
          firstPresent? rec.raw ["bucket_name"] = info.bucketName.map .string := by
  have hdisplay : schema.readKeys "display_name" = ["name", "display_name"] := by decide
  have hdescription : schema.readKeys "description" = ["desc", "description"] := by decide
  have hbucket : schema.readKeys "bucket_name" = ["bucket_name"] := by decide
  rw [ofRecord_eq_ok_iff_reads, require_bool_eq_ok_iff, get?_community, Option.some.injEq,
    Record.require_eq_ok_iff, Record.require_eq_ok_iff, Record.read?_string_eq_ok_iff,
    Record.read?_string_eq_ok_iff, Record.read?_string_eq_ok_iff,
    Record.get?_eq_firstPresent? rfl, Record.get?_eq_firstPresent? rfl,
    Record.get?_eq_firstPresent? rfl, hdisplay, hdescription, hbucket]
  rfl

/-- **An entry is decoded to the available role that its members describe**, and to no other. -/
theorem ofMembers_eq_ok_iff :
    ofMembers members = .ok info ↔ info.DescribedBy (Json.entries members) := by
  have hrole : ∀ {r : Role}, Role.ofJson (.object members) = .ok r ↔
      r.NamedBy (Json.entries members) := Role.ofRecord_eq_ok_iff
  rw [ofMembers, bind_eq_ok_iff]
  simp only [hrole, mapError_eq_ok_iff, ofRecord_eq_ok_iff]
  constructor
  · rintro ⟨role, hnamed, rfl, hdisplay, hdescription, hcommunity, hbucket⟩
    exact ⟨hnamed, hdisplay, hdescription, hcommunity, hbucket⟩
  · exact fun h => ⟨_, h.role, rfl, h.displayName, h.description, h.community, h.bucketName⟩

/-! ### The two names -/

theorem get?_name_of_namedBy (h : role.NamedBy m) (habsent : Absent m "role") :
    m.get? "name" = some (.string role.name) := by
  have hname := h.name
  rw [firstPresent?_cons_of_absent habsent] at hname
  obtain ⟨-, k, hk, hget⟩ := firstPresent?_eq_some hname
  rwa [List.mem_singleton.1 hk] at hget

theorem DescribedBy.takesNames (h : info.DescribedBy m) : info.TakesNames m := by
  refine ⟨h.displayName, fun hpresent => ?_, fun habsent => ?_⟩
  · rw [← firstPresent?_cons_of_not_absent hpresent ["name"], h.role.name]
  · -- both readings come to the key that they share
    have hget := get?_name_of_namedBy h.role habsent
    have hdisplay := h.displayName
    rw [firstPresent?_cons_of_ne_null hget nofun] at hdisplay
    have hsame : info.role.name = info.displayName := Json.string.inj (Option.some.inj hdisplay)
    exact ⟨hsame ▸ hget, hsame⟩

/-- Without a value for the role and without a name under the second key nothing names a role. -/
theorem exists_refusal_of_nameless (habsent : Absent (Json.entries members) "role")
    (hnameless : ∀ name, name ≠ "" → (Json.entries members).get? "name" ≠ some (.string name)) :
    ∃ fault, Role.Refusal (.object members) fault := by
  obtain ⟨r, hform⟩ | hrefusal := Role.wireForm_or_refusal (.object members)
  · cases hform with
    | object h => exact absurd (get?_name_of_namedBy h habsent) (hnameless _ h.name_ne_empty)
  · exact hrefusal

theorem ofMembers_of_refusal {fault : DecodeFault} (h : Role.Refusal (.object members) fault) :
    ofMembers members = .error fault := by
  rw [ofMembers, Role.ofJson_of_refusal h]
  rfl

/-- **Where the names of an available role come from.**  An entry is decoded iff its members
describe an available role.  The display name comes from its own two keys.  The name of the role is
the value for the role, if there is one, and is the display name otherwise; so an entry without a
role is refused, as one that names no role, unless it has a display name under the key that a role's
name may have too. -/
theorem ofMembers_takesNames (members : List (String × Json)) :
    (∀ info, ofMembers members = .ok info ↔ info.DescribedBy (Json.entries members)) ∧
      (∀ info, ofMembers members = .ok info → info.TakesNames (Json.entries members)) ∧
        (Absent (Json.entries members) "role" →
          (∀ name, name ≠ "" → (Json.entries members).get? "name" ≠ some (.string name)) →
            ∃ fault, Role.Refusal (.object members) fault ∧ ofMembers members = .error fault) := by
  refine ⟨fun info => ofMembers_eq_ok_iff, fun info h => (ofMembers_eq_ok_iff.1 h).takesNames,
    fun habsent hnameless => ?_⟩
  obtain ⟨fault, hrefusal⟩ := exists_refusal_of_nameless habsent hnameless
  exact ⟨fault, hrefusal, ofMembers_of_refusal hrefusal⟩

/-- An entry with all of its names, and one that is left with the second key of its display name. -/
theorem ofMembers_takesNames_sample :
    ofMembers [("name", .string "Bucket Admin"), ("role", .string "bucket_admin"),
        ("bucket_name", .string "*"), ("desc", .string "All of a bucket")] =
      .ok ⟨⟨"bucket_admin", some "*"⟩, "Bucket Admin", "All of a bucket", true, some "*"⟩ ∧
    ofMembers [("role", .null), ("display_name", .string "Full Admin"),
        ("desc", .string "All")] = .error (.record (.missing "role" "name")) := by
  obtain ⟨hiff, -, -⟩ := ofMembers_takesNames [("name", .string "Bucket Admin"),
    ("role", .string "bucket_admin"), ("bucket_name", .string "*"),
    ("desc", .string "All of a bucket")]
  obtain ⟨-, -, hrefused⟩ := ofMembers_takesNames [("role", .null),
    ("display_name", .string "Full Admin"), ("desc", .string "All")]
  refine ⟨(hiff _).2 ⟨⟨by decide, rfl, rfl⟩, rfl, rfl, rfl, rfl⟩, ?_⟩
  obtain ⟨fault, hrefusal, herror⟩ := hrefused (.inr rfl) fun name _ => nofun
  cases hrefusal with
  | object h => cases h; exact herror
  | shape hv => simp [Json.kind] at hv

/-- **An entry without a role is taken for one**: it is decoded, and its display name is the name of
its role. -/
theorem ofMembers_mistakes_displayName :
    Absent (Json.entries [("name", .string "Full Admin"), ("desc", .string "All")]) "role" ∧
      ofMembers [("name", .string "Full Admin"), ("desc", .string "All")] =
        .ok ⟨⟨"Full Admin", none⟩, "Full Admin", "All", true, none⟩ :=
  ⟨.inl rfl, rfl⟩

end AccessControl.RoleInfo
