import AccessControl.Proofs.Call.Course
import AccessControl.Proofs.Text.Pieces
/-!
# What a request is about

The path of a request is made of segments, of which the domain and the name are percent-encoded.  No
segment has a slash, so the path can be taken apart again, and together with the method it tells
which call it was, for which domain and which name.

* `Target.path_injective` : different targets have different paths, unless a name is empty.
* `Call.request_identifies_call` : two calls that send the same method and path are the same kind of
  call for the same target.
-/

namespace AccessControl

/-- What a request is about. -/
inductive Target where
  | user (domain : AuthDomain) (name : String)
  | users (domain : AuthDomain)
  | group (name : String)
  | groups
  | roles
  /-- The password of the authenticated user. -/
  | ownPassword
  deriving DecidableEq

namespace Target

/-- The name of the entity, if the target is a single one. -/
def name? : Target → Option String
  | user _ name | group name => some name
  | users _ | groups | roles | ownPassword => none

/-- The path of a target. -/
def path : Target → String
  | user domain name => Path.user domain name
  | users domain => Path.users domain
  | group name => Path.group name
  | groups => Path.groups
  | roles => Path.roles
  | ownPassword => Path.changePassword

/-- The segments of the path, in order. -/
def segments : Target → List String
  | user domain name =>
    ["", "settings", "rbac", "users", Percent.encode domain.name, Percent.encode name]
  | users domain => ["", "settings", "rbac", "users", Percent.encode domain.name]
  | group name => ["", "settings", "rbac", "groups", Percent.encode name]
  | groups => ["", "settings", "rbac", "groups", ""]
  | roles => ["", "settings", "rbac", "roles", ""]
  | ownPassword => ["", "controller", "changePassword"]

/-! ### Paths and segments -/

theorem pieces_slash (s t : String) : pieces '/' (s ++ "/" ++ t) = pieces '/' s ++ pieces '/' t :=
  pieces_append (by decide) s t

theorem pieces_encode (text : String) :
    pieces '/' (Percent.encode text) = [Percent.encode text] :=
  pieces_eq_singleton
    ((Percent.isSegment_encode text).not_mem (by decide) (by decide) (by decide))

theorem pieces_extend {front base : String} (h : front = base ++ "/") (text : String) :
    pieces '/' (front ++ Percent.encode text) = pieces '/' base ++ [Percent.encode text] := by
  rw [h, pieces_slash, pieces_encode]

theorem pieces_users (domain : AuthDomain) :
    pieces '/' (Path.users domain) =
      ["", "settings", "rbac", "users", Percent.encode domain.name] := by
  have hfront : "/settings/rbac/users/" = "/settings/rbac/users" ++ "/" := by decide
  have hbase : pieces '/' "/settings/rbac/users" = ["", "settings", "rbac", "users"] := by decide
  calc pieces '/' (Path.users domain)
      = pieces '/' "/settings/rbac/users" ++ [Percent.encode domain.name] :=
        pieces_extend hfront domain.name
    _ = ["", "settings", "rbac", "users", Percent.encode domain.name] := by rw [hbase]; rfl

theorem pieces_group (name : String) :
    pieces '/' (Path.group name) = ["", "settings", "rbac", "groups", Percent.encode name] := by
  have hfront : Path.groups = "/settings/rbac/groups" ++ "/" := by decide
  have hbase : pieces '/' "/settings/rbac/groups" = ["", "settings", "rbac", "groups"] := by decide
  calc pieces '/' (Path.group name)
      = pieces '/' "/settings/rbac/groups" ++ [Percent.encode name] := pieces_extend hfront name
    _ = ["", "settings", "rbac", "groups", Percent.encode name] := by rw [hbase]; rfl

theorem pieces_path (t : Target) : pieces '/' t.path = t.segments := by
  cases t with
  | user domain name =>
    calc pieces '/' (Path.user domain name)
        = pieces '/' (Path.users domain) ++ [Percent.encode name] := pieces_extend rfl name
      _ = segments (user domain name) := by rw [pieces_users]; rfl
  | users domain => exact pieces_users domain
  | group name => exact pieces_group name
  | groups => decide
  | roles => decide
  | ownPassword => decide

/-! ### Different targets, different paths -/

theorem domain_name_inj {d d' : AuthDomain} : d.name = d'.name ↔ d = d' := by
  cases d <;> cases d' <;> decide

variable {t t' : Target}

theorem segments_injective (hname : t.name? ≠ some "") (hname' : t'.name? ≠ some "")
    (h : t.segments = t'.segments) : t = t' := by
  -- the list of the groups differs from a group only in its last segment, which is empty
  have hempty : ∀ name, "" = Percent.encode name ↔ name = "" := fun name => by
    rw [eq_comm, Percent.encode_eq_empty_iff]
  cases t <;> cases t' <;>
    simp_all [segments, name?, Percent.encode_inj, Percent.encode_eq_empty_iff, domain_name_inj]

/-- **Different targets have different paths**, unless a name is empty. -/
theorem path_injective (hname : t.name? ≠ some "") (hname' : t'.name? ≠ some "")
    (h : t.path = t'.path) : t = t' := by
  refine segments_injective hname hname' ?_
  rw [← pieces_path, ← pieces_path, h]

end Target

/-- The last segment of a path is a name, percent-encoded: it has only unreserved characters and
escapes, so nothing in it ends the segment or the path, and it is decoded to the name. -/
def EndsInName (path name : String) : Prop :=
  ∃ segment, (pieces '/' path).getLast? = some segment ∧ Percent.IsSegment segment.toList ∧
    '/' ∉ segment.toList ∧ '?' ∉ segment.toList ∧ '#' ∉ segment.toList ∧
    Percent.decode? segment = some name

theorem Target.endsInName {t : Target} {name : String} (h : t.name? = some name) :
    EndsInName t.path name := by
  have hlast : (pieces '/' t.path).getLast? = some (Percent.encode name) := by
    rw [pieces_path]
    cases t <;> simp_all [name?, segments]
  have hsegment := Percent.isSegment_encode name
  -- none of the three is unreserved, a percent sign or a digit of an escape
  refine ⟨_, hlast, hsegment, ?_, ?_, ?_, Percent.decode?_encode name⟩
  · exact hsegment.not_mem (by decide) (by decide) (by decide)
  · exact hsegment.not_mem (by decide) (by decide) (by decide)
  · exact hsegment.not_mem (by decide) (by decide) (by decide)

/-! ### Calls -/

/-- The kinds of calls. -/
inductive Operation where
  | getUser
  | getAllUsers
  | upsertUser
  | dropUser
  | getRoles
  | getGroup
  | getAllGroups
  | upsertGroup
  | dropGroup
  | changePassword
  deriving DecidableEq

/-- The kind of the calls with a method and a target, if there is one. -/
def Operation.of? : Method → Target → Option Operation
  | .get, .user _ _ => some getUser
  | .get, .users _ => some getAllUsers
  | .put, .user _ _ => some upsertUser
  | .delete, .user _ _ => some dropUser
  | .get, .roles => some getRoles
  | .get, .group _ => some getGroup
  | .get, .groups => some getAllGroups
  | .put, .group _ => some upsertGroup
  | .delete, .group _ => some dropGroup
  | .post, .ownPassword => some changePassword
  | _, _ => none

namespace Call

variable {config config' : Config} {params : Params} {transport transport' : Transport}
  {options options' : CallOptions} {request request' : Request} {c c' : Call}

/-- The kind of a call. -/
def operation : Call → Operation
  | getUser .. => .getUser
  | getAllUsers _ => .getAllUsers
  | upsertUser .. => .upsertUser
  | dropUser .. => .dropUser
  | getRoles => .getRoles
  | getGroup _ => .getGroup
  | getAllGroups => .getAllGroups
  | upsertGroup _ => .upsertGroup
  | dropGroup _ => .dropGroup
  | changePassword _ => .changePassword

/-- What a call is about; a domain that is not given is the one that all calls share. -/
def target (config : Config) : Call → Target
  | getUser name domain? | dropUser name domain? => .user (config.domainOf domain?) name
  | upsertUser user domain? => .user (config.domainOf domain?) user.username
  | getAllUsers domain? => .users (config.domainOf domain?)
  | getRoles => .roles
  | getGroup name | dropGroup name => .group name
  | getAllGroups => .groups
  | upsertGroup group => .group group.name
  | changePassword _ => .ownPassword

theorem path_plannedRequest (config : Config) (params : Params) (c : Call) :
    (c.plannedRequest config params).path = (c.target config).path := by
  cases c <;> rfl

theorem of?_method_target (config : Config) (params : Params) (c : Call) :
    Operation.of? (c.plannedRequest config params).method (c.target config) = some c.operation := by
  cases c <;> rfl

theorem name?_target_ne_empty (h : ¬ c.Unusable) : (c.target config).name? ≠ some "" := by
  cases c <;> simp_all [Unusable, target, Target.name?]

/-- **The method and the path of a request identify the call.** -/
theorem request_identifies_call
    (h : request ∈ (c.run config transport options).requests)
    (h' : request' ∈ (c'.run config' transport' options').requests) :
    (request.path = request'.path → c.target config = c'.target config') ∧
      (request.method = request'.method → request.path = request'.path →
        c.operation = c'.operation) ∧
      ∀ name, (c.target config).name? = some name → EndsInName request.path name := by
  obtain ⟨husable, rfl⟩ := request_eq_ok_iff.1 (mem_requests_run.1 h)
  obtain ⟨husable', rfl⟩ := request_eq_ok_iff.1 (mem_requests_run.1 h')
  have htarget : (c.plannedRequest config (config.callParams options)).path =
      (c'.plannedRequest config' (config'.callParams options')).path →
        c.target config = c'.target config' := by
    rw [path_plannedRequest, path_plannedRequest]
    exact Target.path_injective (name?_target_ne_empty husable) (name?_target_ne_empty husable')
  refine ⟨htarget, fun hmethod hpath => ?_, fun name hname => ?_⟩
  · have hkind := of?_method_target config (config.callParams options) c
    rw [hmethod, htarget hpath, of?_method_target] at hkind
    exact (Option.some.inj hkind).symm
  · rw [path_plannedRequest]
    exact Target.endsInName hname

/-- A name with all that could end a segment, lead out of it or be read as an escape. -/
def sampleName : String := "../a/b?c#d%41é"

theorem request_identifies_call_sample :
    ((getUser sampleName none).run {} (fun _ => .ok .null) {}).requests =
        [.readUser .localStore sampleName ∅] ∧
      ((dropUser sampleName (some .localStore)).run {} (fun _ => .error .timeout) {}).requests =
        [.removeUser .localStore sampleName ∅] ∧
      (Request.readUser .localStore sampleName ∅).path =
        "/settings/rbac/users/local/..%2Fa%2Fb%3Fc%23d%2541%C3%A9" ∧
      (Request.removeUser .localStore sampleName ∅).path =
        "/settings/rbac/users/local/..%2Fa%2Fb%3Fc%23d%2541%C3%A9" ∧
      (getUser sampleName none).target {} = (dropUser sampleName (some .localStore)).target {} ∧
      EndsInName "/settings/rbac/users/local/..%2Fa%2Fb%3Fc%23d%2541%C3%A9" sampleName := by
  have hpath : Path.user .localStore sampleName =
      "/settings/rbac/users/local/..%2Fa%2Fb%3Fc%23d%2541%C3%A9" := by decide
  have hread : ((getUser sampleName none).run {} (fun _ => .ok .null) {}).requests =
      [.readUser .localStore sampleName ∅] := rfl
  have hdrop : ((dropUser sampleName (some .localStore)).run {} (fun _ => .error .timeout)
      {}).requests = [.removeUser .localStore sampleName ∅] := rfl
  obtain ⟨htarget, -, hname⟩ := request_identifies_call (hread ▸ List.mem_singleton_self _)
    (hdrop ▸ List.mem_singleton_self _)
  exact ⟨hread, hdrop, hpath, hpath, htarget rfl, hpath ▸ hname sampleName rfl⟩

end Call

end AccessControl
