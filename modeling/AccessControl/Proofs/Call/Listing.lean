import AccessControl.Proofs.Account.Dependence
import AccessControl.Proofs.Call.Course
import AccessControl.Proofs.Group.Decoding
import AccessControl.Proofs.InOrder
/-!
# Lists in answers

The calls for all users, all groups and all roles answer with a list.  Its items are decoded as
single answers are, in order, and the first that is refused decides.  The same holds one level
below, of the roles in the payload of a group and in that of a user.

* `Call.run_eq_answerTo` : the answer alone makes the result of a call that can be sent.
* `Group.listsRoles`, `Account.listsRoles` : the payloads of groups and users list their roles.
* `lists_inOrder` : lists are decoded in order, all or nothing, and item by item as single answers.
-/

namespace AccessControl

variable {members : List (String × Json)} {items : List Json}

/-! ### Roles in groups -/

namespace Group

/-- The payload of a group lists its roles. -/
structure ListsRoles (members : List (String × Json)) : Prop where
  /-- If nothing else is wrong with the payload, the roles are decoded in order, all or nothing. -/
  inOrder : ∀ items, itemsUnder? (Json.entries members) ["roles"] = some items →
    (∃ g, ofJson (.ofEntries ((Json.entries members).without ["roles"])) = .ok g) →
    ReadsInOrder Role.ofJson items (fun g roles => g.roles = .ofList roles)
      (ofJson (.object members))
  /-- Roles that are no list are refused. -/
  unlisted : itemsUnder? (Json.entries members) ["roles"] = none →
    ∃ fault, ofJson (.object members) = .error fault

/-- **The payload of a group lists its roles.** -/
theorem listsRoles (members : List (String × Json)) : ListsRoles members := by
  obtain ⟨items, hitems, hroles⟩ | ⟨hnone, fault, hroles⟩ :=
    rolesOfJson_cases (Json.entries members)
  · refine ⟨?_, fun hnone => nomatch hnone.symm.trans hitems⟩
    rintro _ hitems' ⟨g, hg⟩
    obtain rfl := Option.some.inj (hitems.symm.trans hitems')
    -- the name is read from the same member
    have hname := (ofJson_object_eq_ok_iff.1 hg).1
    rw [Json.entries_toList, Entries.get?_without (by decide)] at hname
    have hresult : ofJson (.object members) = (items.mapM Role.ofJson >>= fun roles => pure
        ⟨g.name, .received (((Json.entries members).erase "id").erase "roles"),
          .ofList roles⟩) := by
      rw [ofJson_object_of_name hname, hroles]
      cases items.mapM Role.ofJson <;> rfl
    rw [hresult]
    exact readsInOrder_bind fun _ => rfl
  · refine ⟨fun items hitems => (nomatch hnone.symm.trans hitems), fun _ => ?_⟩
    cases hresult : ofJson (.object members) with
    | error fault => exact ⟨fault, rfl⟩
    | ok g => cases hroles.symm.trans (ofJson_object_eq_ok_iff.1 hresult).2.1

end Group

/-! ### Roles in accounts -/

namespace Account

/-- The keys of an account under which its password's time of change is looked for. -/
def timeKeys : List String := ["password_change_date", "password_changed"]

/-- The payload of a user lists its roles. -/
structure ListsRoles (members : List (String × Json)) : Prop where
  /-- If nothing else is wrong with the payload, the roles are decoded in order, all or nothing. -/
  inOrder : ∀ items, itemsUnder? (Json.entries members) roleKeys = some items →
    (∃ a, ofJson (.ofEntries ((Json.entries members).without roleKeys)) = .ok a) →
    ReadsInOrder RoleGrant.ofJson items (fun a grants => a.grants = grants)
      (ofJson (.object members))
  /-- A role that is refused comes before a time of change that is. -/
  beforeTime : ∀ items, itemsUnder? (Json.entries members) roleKeys = some items →
    (∃ a, ofJson (.ofEntries ((Json.entries members).without (roleKeys ++ timeKeys))) = .ok a) →
    ∀ fault, FirstRefusal RoleGrant.ofJson items fault → ofJson (.object members) = .error fault
  /-- Roles that are no list are refused. -/
  unlisted : itemsUnder? (Json.entries members) roleKeys = none →
    ∃ fault, ofJson (.object members) = .error fault

/-- The keys that are read before those of the roles. -/
def headKeys : List String :=
  ["domain", "id", "username", "name", "display_name", "groups", "external_groups"]

variable {m m' : Entries Json} {a : Account}

theorem listedGrants_of_itemsUnder? (h : itemsUnder? m roleKeys = some items) :
    listedGrants (.received m) = items.mapM RoleGrant.ofJson := by
  have hkeys : accountSchema.readKeys "effective_roles_and_origins" = roleKeys := by decide
  let r : Record accountSchema := .received m
  have hitems : ((r.get? "effective_roles_and_origins").getD (.array [])).array? = some items := by
    rw [← Record.itemsUnder?_readKeys rfl, hkeys]
    exact h
  cases hget : r.get? "effective_roles_and_origins" with
  | none =>
    rw [hget] at hitems
    cases hitems
    rw [listedGrants, Record.read?_eq_none_iff.2 hget]
    rfl
  | some v =>
    rw [hget] at hitems
    cases v <;> cases hitems
    exact listedGrants_of_get?_eq_array hget

/-- If the attributes before the roles are accepted, the roles come next, and then the time. -/
theorem exists_ofRecord_eq (h : AgreeOn headKeys m m') (ha : ofRecord (.received m') = .ok a) :
    ∃ make : List RoleGrant → Option Double → Account,
      (∀ grants time?, (make grants time?).grants = grants) ∧
      ofRecord (.received m) = listedGrants (.received m) >>= fun grants =>
        ((Record.received m : Record accountSchema).stored? "password_changed").mapM
          passwordChangeOfJson >>= fun time? => pure (make grants time?) := by
  simp only [ofRecord, bind_eq_ok_iff, pure_eq_ok_iff] at ha
  obtain ⟨domain, hdomain, username, husername, displayName?, hdisplay, groups?, hgroups,
    externalGroups?, hexternal, -⟩ := ha
  refine ⟨fun grants time? => ⟨domain, userOf username displayName? (groups?.getD ∅) grants,
    .ofList (grants.map RoleGrant.role), grants, time?, externalGroups?.getD ∅⟩,
    fun _ _ => rfl, ?_⟩
  simp (disch := decide) only [ofRecord, listedGrants_bind, Record.require_of_agreeOn h,
    Record.read?_of_agreeOn h, hdomain, husername, hdisplay, hgroups, hexternal]
  rfl

theorem exists_time_of_ofRecord (ha : ofRecord (.received m) = .ok a) :
    ∃ time?, ((Record.received m : Record accountSchema).stored? "password_changed").mapM
      passwordChangeOfJson = .ok time? := by
  simp only [ofRecord, bind_eq_ok_iff] at ha
  obtain ⟨-, -, -, -, -, -, -, -, -, -, -, -, -, -, time?, htime, -⟩ := ha
  exact ⟨time?, htime⟩

theorem ofJson_ofEntries (m : Entries Json) : ofJson (.ofEntries m) = ofRecord (.received m) := by
  change ofRecord (.received (Json.entries m.toList)) = _
  rw [Json.entries_toList]

/-- **The payload of a user lists its roles.** -/
theorem listsRoles (members : List (String × Json)) : ListsRoles members := by
  refine ⟨fun items hitems => ?_, fun items hitems => ?_, fun hnone => ?_⟩
  · rintro ⟨a, ha⟩
    rw [ofJson_ofEntries] at ha
    have hplain : AgreeOn plainKeys (Json.entries members)
        ((Json.entries members).without roleKeys) := agreeOn_without (by decide)
    obtain ⟨make, hgrants, hrecord⟩ := exists_ofRecord_eq (hplain.mono (by decide)) ha
    obtain ⟨time?, htime⟩ := exists_time_of_ofRecord ha
    rw [← Record.stored?_of_agreeOn hplain (by decide)] at htime
    have hresult : ofJson (.object members) =
        (items.mapM RoleGrant.ofJson >>= fun grants => pure (make grants time?)) := by
      change ofRecord (.received (Json.entries members)) = _
      rw [hrecord, listedGrants_of_itemsUnder? hitems, htime]
      rfl
    rw [hresult]
    exact readsInOrder_bind fun grants => hgrants grants time?
  · rintro ⟨a, ha⟩ fault hfault
    rw [ofJson_ofEntries] at ha
    obtain ⟨make, -, hrecord⟩ := exists_ofRecord_eq (agreeOn_without (by decide)) ha
    change ofRecord (.received (Json.entries members)) = _
    rw [hrecord, listedGrants_of_itemsUnder? hitems, mapM_eq_error_iff.2 hfault]
    rfl
  · cases hresult : ofJson (.object members) with
    | error fault => exact ⟨fault, rfl⟩
    | ok a =>
      obtain ⟨_, hmembers, c, -⟩ := exists_contents_of_ofJson hresult
      cases hmembers
      cases hnone.symm.trans c.items_eq

end Account

/-! ### Calls -/

namespace Call

/-- What a call makes of an answer. -/
def answerTo (c : Call) (config : Config) (options : CallOptions) (v : Json) :
    Except Error c.Answer :=
  (c.run config (fun _ => .ok v) options).result

/-- A call lists what single answers are decoded to. -/
structure Lists {α : Type} (part : AnswerPart) (single : Json → Except Error α)
    (list : Json → Except Error (List α)) : Prop where
  /-- The items of an array are decoded as single answers are, in order, all or nothing. -/
  array : ∀ items, ReadsInOrder single items Eq (list (.array items))
  /-- Nothing else is a list. -/
  other : ∀ v, v.array? = none → list v = .error (.decoding (.shape part v))

variable {config : Config} {options : CallOptions} {transport : Transport} {c : Call} {v : Json}

theorem answerTo_eq (h : ¬ c.Unusable) :
    c.answerTo config options v = (c.decode v).mapError .decoding :=
  (run_of_usable config (fun _ => .ok v) options h).2

/-- **The answer alone makes the result** of a call that can be sent, whatever the transport. -/
theorem run_eq_answerTo (h : ¬ c.Unusable)
    (hanswer : transport (c.plannedRequest config (config.callParams options)) = .ok v) :
    (c.run config transport options).result = c.answerTo config options v := by
  rw [(run_of_usable config transport options h).2, hanswer, answerTo_eq h, resultOf]

theorem lists_of_decode {α : Type} {part : AnswerPart} {item : Json → Except DecodeFault α}
    {single : Json → Except Error α} {list : Json → Except Error (List α)}
    (hsingle : ∀ x, single x = (item x).mapError .decoding)
    (hlist : ∀ x, list x = (decodeList part item x).mapError .decoding) :
    Lists part single list := by
  obtain rfl : single = fun x => (item x).mapError .decoding := funext hsingle
  refine ⟨fun items => ?_, fun v hv => ?_⟩
  · rw [hlist, decodeList, mapM_mapError]
    exact readsInOrder_mapM
  · rw [hlist]
    cases v <;> first | rfl | cases hv

end Call

open Call in
/-- **Lists are decoded in order, all or nothing.**  Whatever the transport, the result of a call is
made of the answer alone.  All users and all groups are listed as single users and groups are
answered, item by item, all roles as their decoder takes each of them; the first item that is
refused decides, and so does the first role in the payload of a group or of a user. -/
theorem lists_inOrder (config config' : Config) (options options' : CallOptions)
    (domain? domain?' : Option AuthDomain) {name : String} (hname : name ≠ "") :
    (∀ (c : Call) (transport : Transport) (v : Json), ¬ c.Unusable →
        transport (c.plannedRequest config (config.callParams options)) = .ok v →
        (c.run config transport options).result = c.answerTo config options v) ∧
      Lists .userList ((getUser name domain?').answerTo config' options')
        ((getAllUsers domain?).answerTo config options) ∧
      Lists .groupList ((getGroup name).answerTo config' options')
        (getAllGroups.answerTo config options) ∧
      Lists .roleList (fun x => (RoleInfo.ofJson x).mapError .decoding)
        (getRoles.answerTo config options) ∧
      (∀ members, Group.ListsRoles members) ∧ ∀ members, Account.ListsRoles members := by
  refine ⟨fun c transport v => run_eq_answerTo, ?_, ?_, ?_, Group.listsRoles, Account.listsRoles⟩
  · exact lists_of_decode (fun _ => answerTo_eq hname) fun _ => answerTo_eq not_false
  · exact lists_of_decode (fun _ => answerTo_eq hname) fun _ => answerTo_eq not_false
  · exact lists_of_decode (fun _ => rfl) fun _ => answerTo_eq not_false

namespace Group

/-- A payload with its roles in all their forms. -/
def samplePayload : Json :=
  .object [("id", .string "staff"), ("description", .string "People"),
    ("roles", .array [.string "reader[b]", .array [.string "admin"],
      .object [("role", .string "ops"), ("bucket_name", .string "*")]])]

/-- The group of the payload. -/
def sampleGroup : Group where
  name := "staff"
  record := .received (Json.entries [("description", .string "People")])
  roles := .ofList [⟨"reader", some "b"⟩, ⟨"admin", none⟩, ⟨"ops", some "*"⟩]

/-- The same payload with a role without a name before one that is no role. -/
def sampleRefused : Json :=
  .object [("id", .string "staff"), ("roles", .array [.string "admin", .string "", .null])]

end Group

namespace RoleInfo

/-- A role as the server lists it. -/
def samplePayload : Json :=
  .object [("role", .string "reader"), ("bucket_name", .string "*"), ("name", .string "Reader"),
    ("desc", .string "Reads")]

/-- The role of the payload. -/
def sampleInfo : RoleInfo where
  role := ⟨"reader", some "*"⟩
  displayName := "Reader"
  description := "Reads"
  community := true
  bucketName := some "*"

end RoleInfo

/-- Lists of users, groups and roles that are accepted, with an item that comes twice; lists with an
item that is refused before another; and a group that is refused for its first role that is. -/
theorem lists_inOrder_sample :
    "ann" ≠ "" ∧
      (Call.getAllUsers none).answerTo {} {}
          (.array [Account.samplePayload, Account.samplePayload]) =
        .ok [Account.sampleAccount, Account.sampleAccount] ∧
      (Call.getAllUsers none).answerTo {} {} (.array [Account.samplePayload, .null, .bool true]) =
        .error (.decoding (.record (.shape "user and metadata" .null))) ∧
      (Call.getGroup "ann").answerTo {} {} Group.samplePayload = .ok Group.sampleGroup ∧
      Call.getAllGroups.answerTo {} {} (.array [Group.samplePayload, Group.samplePayload]) =
        .ok [Group.sampleGroup, Group.sampleGroup] ∧
      Call.getAllGroups.answerTo {} {}
          (.array [Group.samplePayload, Group.sampleRefused, .null]) =
        .error (.decoding (.roleString .emptyRoleName)) ∧
      Call.getRoles.answerTo {} {} (.array [RoleInfo.samplePayload, RoleInfo.samplePayload]) =
        .ok [RoleInfo.sampleInfo, RoleInfo.sampleInfo] ∧
      Group.ofJson Group.sampleRefused = .error (.roleString .emptyRoleName) := by
  have hname : "ann" ≠ "" := by decide
  obtain ⟨-, husers, hgroups, hroles, hgroup, -⟩ := lists_inOrder {} {} {} {} none none hname
  have huser : (Call.getUser "ann" none).answerTo {} {} Account.samplePayload =
    .ok Account.sampleAccount := rfl
  have hstaff : (Call.getGroup "ann").answerTo {} {} Group.samplePayload =
    .ok Group.sampleGroup := rfl
  have hinfo : (RoleInfo.ofJson RoleInfo.samplePayload).mapError Error.decoding =
    .ok RoleInfo.sampleInfo := rfl
  have hrefused : Group.ofJson Group.sampleRefused = .error (.roleString .emptyRoleName) :=
    (((hgroup _).inOrder _ rfl ⟨_, rfl⟩).refused _).2 ⟨[.string "admin"], .string "", [.null],
      rfl, List.forall_mem_singleton.2 ⟨⟨"admin", none⟩, rfl⟩, rfl⟩
  refine ⟨hname, ?_, ?_, hstaff, ?_, ?_, ?_, hrefused⟩
  · obtain ⟨accounts, hresult, rfl⟩ :=
      (husers.array [Account.samplePayload, Account.samplePayload]).accepted _
        (.cons huser (.cons huser .nil))
    exact hresult
  · exact ((husers.array _).refused _).2 ⟨[Account.samplePayload], .null, [.bool true], rfl,
      List.forall_mem_singleton.2 ⟨_, huser⟩, rfl⟩
  · obtain ⟨groups, hresult, rfl⟩ :=
      (hgroups.array [Group.samplePayload, Group.samplePayload]).accepted _
        (.cons hstaff (.cons hstaff .nil))
    exact hresult
  · have hsingle : (Call.getGroup "ann").answerTo {} {} Group.sampleRefused =
        (Group.ofJson Group.sampleRefused).mapError .decoding := Call.answerTo_eq hname
    rw [hrefused] at hsingle
    exact ((hgroups.array _).refused _).2 ⟨[Group.samplePayload], Group.sampleRefused, [.null], rfl,
      List.forall_mem_singleton.2 ⟨_, hstaff⟩, hsingle⟩
  · obtain ⟨infos, hresult, rfl⟩ :=
      (hroles.array [RoleInfo.samplePayload, RoleInfo.samplePayload]).accepted _
        (.cons hinfo (.cons hinfo .nil))
    exact hresult

end AccessControl
