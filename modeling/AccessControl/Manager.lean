import AccessControl.Account
import AccessControl.Error
import AccessControl.Group
import AccessControl.Request
import AccessControl.Role.Info
/-!
# Managing users, groups and roles

A call is checked, sent as one request, and answered by decoding what the server sends back.  A call
with an argument that cannot be used sends nothing.  Servers without groups answer the call for all
groups with "not found", which counts as an empty list.

* `Call` : the ten calls; `Call.Answer` : what each of them answers.
* `Call.request` : the request of a call, or why there is none.
* `Call.run` : the whole course of a call over a transport.
-/

namespace AccessControl

/-- A call to the server.  A domain that is not given is the one that all calls share. -/
inductive Call where
  | getUser (name : String) (domain? : Option AuthDomain)
  | getAllUsers (domain? : Option AuthDomain)
  | upsertUser (user : User) (domain? : Option AuthDomain)
  | dropUser (name : String) (domain? : Option AuthDomain)
  | getRoles
  | getGroup (name : String)
  | getAllGroups
  | upsertGroup (group : Group)
  | dropGroup (name : String)
  | changePassword (password : String)

/-- How a transport answers a request. -/
abbrev Transport := Request → Except Error Json

/-- The course of a call. -/
structure Outcome (α : Type) where
  /-- The requests that were sent, in order. -/
  requests : List Request
  /-- The messages that were logged, in order. -/
  log : List String
  result : Except Error α

/-- The domain of a call that may have named one. -/
def Config.domainOf (c : Config) (domain? : Option AuthDomain) : AuthDomain :=
  domain?.getD c.domain

namespace Call

/-- What a call answers when it succeeds. -/
abbrev Answer : Call → Type
  | getUser .. => Account
  | getAllUsers _ => List Account
  | getRoles => List RoleInfo
  | getGroup _ => Group
  | getAllGroups => List Group
  | upsertUser .. | dropUser .. | upsertGroup _ | dropGroup _ | changePassword _ => Unit

/-! ### What is sent -/

/-- Refuses an empty argument. -/
def requireNonEmpty (argument value : String) : Except ArgumentFault Unit :=
  if value = "" then .error (.empty argument) else .ok ()

/-- The request of a call with the given parameters, or why the call's argument is refused. -/
def request (config : Config) (params : Params) : Call → Except ArgumentFault Request
  | getUser name domain? => do
    requireNonEmpty "username" name
    return .readUser (config.domainOf domain?) name params
  | getAllUsers domain? => return .readUsers (config.domainOf domain?) params
  | upsertUser user domain? => do
    requireNonEmpty "username" user.username
    let body ← user.body
    return .writeUser (config.domainOf domain?) user.username body params
  | dropUser name domain? => do
    requireNonEmpty "username" name
    return .removeUser (config.domainOf domain?) name params
  | getRoles => return .readRoles params
  | getGroup name => do
    requireNonEmpty "group_name" name
    return .readGroup name params
  | getAllGroups => return .readGroups params
  | upsertGroup group => do
    requireNonEmpty "group_name" group.name
    let body ← group.body
    return .writeGroup group.name body params
  | dropGroup name => do
    requireNonEmpty "group_name" name
    return .removeGroup name params
  | changePassword password => do
    requireNonEmpty "password" password
    return .changePassword password params

/-- What is logged before the request of a call is sent. -/
def announcement (config : Config) : Call → List String
  | getUser name domain? =>
    ["getting user " ++ name ++ " in domain " ++ (config.domainOf domain?).name]
  | getAllUsers domain? => ["getting all users in domain " ++ (config.domainOf domain?).name]
  | upsertUser user domain? =>
    ["upserting user " ++ user.username ++ " in domain " ++ (config.domainOf domain?).name]
  | dropUser name domain? =>
    ["dropping user " ++ name ++ " in domain " ++ (config.domainOf domain?).name]
  | getRoles => []
  | getGroup name => ["getting group " ++ name]
  | getAllGroups => []
  | upsertGroup group => ["upserting group " ++ group.name]
  | dropGroup name => ["dropping group " ++ name]
  | changePassword _ => ["changing password of the authenticated user"]

/-! ### What comes back -/

/-- The items of a list in an answer, each decoded; the first that fails decides. -/
def decodeList {α : Type} (part : AnswerPart) (item : Json → Except DecodeFault α) :
    Json → Except DecodeFault (List α)
  | .array items => items.mapM item
  | v => .error (.shape part v)

/-- The answer that the server's value denotes.  Calls that only write take any value. -/
def decode : (c : Call) → Json → Except DecodeFault c.Answer
  | getUser .., v => Account.ofJson v
  | getAllUsers _, v => decodeList .userList Account.ofJson v
  | getRoles, v => decodeList .roleList RoleInfo.ofJson v
  | getGroup _, v => Group.ofJson v
  | getAllGroups, v => decodeList .groupList Group.ofJson v
  | upsertUser .., _ | dropUser .., _ | upsertGroup _, _ | dropGroup _, _ | changePassword _, _ =>
    .ok ()

/-- What is logged, and the result, when the transport has no answer. -/
def recover : (c : Call) → Error → List String × Except Error c.Answer
  | getAllGroups, e =>
    let e := (e.notFoundMeansUnsupported "rbac groups").classify
    match e.kind with
    | .featureNotAvailable _ =>
      (["groups are not supported by this server, returning no groups: " ++ e.message], .ok [])
    | _ => ([], .error e)
  | getUser .., e | getAllUsers _, e | upsertUser .., e | dropUser .., e | getRoles, e
  | getGroup _, e | upsertGroup _, e | dropGroup _, e | changePassword _, e =>
    ([], .error e.classify)

/-! ### The course of a call -/

/-- Runs a call over a transport. -/
def run (config : Config) (transport : Transport) (c : Call) (options : CallOptions) :
    Outcome c.Answer :=
  match c.request config (config.callParams options) with
  | .error fault => ⟨[], [], .error (.invalidArgument fault)⟩
  | .ok request =>
    match transport request with
    | .ok v => ⟨[request], c.announcement config, (c.decode v).mapError .decoding⟩
    | .error e =>
      let (log, result) := c.recover e
      ⟨[request], c.announcement config ++ log, result⟩

end Call

end AccessControl
