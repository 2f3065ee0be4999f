import AccessControl.Proofs.Call.Target
import AccessControl.Proofs.Text.DotSegments
/-!
# Paths that are redirected

A name is one segment of a path, whatever characters it has.  But a dot stands for itself in a
segment, so the names `.` and `..` are dot segments, and what resolves dot segments before a request
is sent takes them for places.  All other paths stay as they are.

* `Target.removeDotSegments_path_eq_self_iff` : which paths stay as they are.
* `Target.removeDotSegments_path_eq_iff` : which targets the resolved paths have.
* `removeDotSegments_paths` : the paths of users and groups, and of all requests, when dot segments
  are resolved.
* `removeDotSegments_group_dot` : a group is read, written and removed under the path of all groups.
-/

namespace AccessControl

namespace Target

/-- The name of the entity, if the target is a single one, is no dot segment. -/
def HasPlainName (t : Target) : Prop := ∀ name, t.name? = some name → ¬ IsDotSegment name

variable {t t' : Target} {domain : AuthDomain} {name : String}

theorem not_isDotSegment_domain (domain : AuthDomain) : ¬ IsDotSegment domain.name := by
  cases domain <;> decide

/-- **A path stays as it is iff the name in it is no dot segment.** -/
theorem removeDotSegments_path_eq_self_iff (t : Target) :
    removeDotSegments t.path = t.path ↔ t.HasPlainName := by
  have hstays : ∀ segments, t.segments = "" :: segments →
      (removeDotSegments t.path = t.path ↔ ∀ s ∈ segments, ¬ IsDotSegment s) :=
    fun segments h => removeDotSegments_eq_self_iff ((pieces_path t).trans h)
  have hfixed : ∀ s ∈ ["settings", "rbac", "users", "groups", "roles", "", "controller",
      "changePassword"], ¬ IsDotSegment s := by decide
  cases t <;> rw [hstays _ rfl] <;>
    simp [HasPlainName, name?, Percent.isDotSegment_encode_iff, not_isDotSegment_domain, hfixed]

theorem hasPlainName_group : (group name).HasPlainName ↔ ¬ IsDotSegment name := by
  simp [HasPlainName, name?]

theorem hasPlainName_user : (user domain name).HasPlainName ↔ ¬ IsDotSegment name := by
  simp [HasPlainName, name?]

/-! ### Where the others lead -/

theorem removeDotSegments_group_of_dot : removeDotSegments (Path.group ".") = Path.groups := by
  have hpieces : pieces '/' (Path.group ".") = "" :: (["settings", "rbac", "groups"] ++ ["."]) :=
    pieces_group "."
  rw [removeDotSegments_of_dot hpieces (by decide)]
  decide

theorem removeDotSegments_group_of_dots :
    removeDotSegments (Path.group "..") = "/settings/rbac/" := by
  have hpieces : pieces '/' (Path.group "..") =
      "" :: (["settings", "rbac"] ++ ["groups", ".."]) := pieces_group ".."
  rw [removeDotSegments_of_dots hpieces (by decide)]
  decide

theorem removeDotSegments_user_of_dot (domain : AuthDomain) :
    removeDotSegments (Path.user domain ".") = Path.users domain ++ "/" := by
  have hpieces : pieces '/' (Path.user domain ".") =
      "" :: (["settings", "rbac", "users", Percent.encode domain.name] ++ ["."]) :=
    pieces_path (user domain ".")
  rw [removeDotSegments_of_dot hpieces (by cases domain <;> decide)]
  cases domain <;> decide

theorem removeDotSegments_user_of_dots (domain : AuthDomain) :
    removeDotSegments (Path.user domain "..") = "/settings/rbac/users/" := by
  have hpieces : pieces '/' (Path.user domain "..") =
      "" :: (["settings", "rbac", "users"] ++ [Percent.encode domain.name, ".."]) :=
    pieces_path (user domain "..")
  rw [removeDotSegments_of_dots hpieces (by cases domain <;> decide)]
  decide

/-- A name that is a dot segment leads to a place, which has a slash at the end.  It is the place of
the groups for one name of a group, and never that of the roles. -/
theorem exists_place_of_not_plain (h : ¬ t.HasPlainName) :
    ∃ place, removeDotSegments t.path = place ++ "/" ∧ place ++ "/" ≠ Path.roles ∧
      (place ++ "/" = Path.groups ↔ t = group ".") := by
  cases t with
  | user domain name =>
    rw [hasPlainName_user, not_not] at h
    rcases h with rfl | rfl
    · refine ⟨Path.users domain, removeDotSegments_user_of_dot domain, ?_, ?_⟩ <;>
        cases domain <;> decide
    · exact ⟨"/settings/rbac/users", removeDotSegments_user_of_dots domain, by decide,
        iff_of_false (by decide) nofun⟩
  | group name =>
    rw [hasPlainName_group, not_not] at h
    rcases h with rfl | rfl
    · exact ⟨"/settings/rbac/groups", removeDotSegments_group_of_dot, by decide,
        iff_of_true (by decide) rfl⟩
    · exact ⟨"/settings/rbac", removeDotSegments_group_of_dots, by decide,
        iff_of_false (by decide) (by decide)⟩
  | _ => exact absurd nofun h

/-- A path with a slash at the end is that of the groups or of the roles, unless a name is empty. -/
theorem eq_of_path_eq_slash {place : String} (hname : t.name? ≠ some "")
    (h : t.path = place ++ "/") : t = groups ∨ t = roles := by
  have hdomain : ∀ domain : AuthDomain, domain.name ≠ "" := by
    intro domain
    cases domain <;> decide
  have hpieces : t.segments = pieces '/' place ++ [""] :=
    calc t.segments
        = pieces '/' (place ++ "/" ++ "") := by rw [← pieces_path, h, String.append_empty]
      _ = pieces '/' place ++ [""] := pieces_slash place ""
  have hlast : t.segments.getLast? = some "" := by
    rw [hpieces, List.getLast?_concat]
  clear h hpieces
  cases t <;> simp_all [segments, name?, Percent.encode_eq_empty_iff]

/-- **Where resolved paths lead**: to the same target, unless its name is a dot segment, and then
to no target at all, except that the group `.` leads to the list of the groups. -/
theorem removeDotSegments_path_eq_iff (hname : t.name? ≠ some "") (hname' : t'.name? ≠ some "") :
    removeDotSegments t.path = t'.path ↔
      t' = t ∧ t.HasPlainName ∨ t = group "." ∧ t' = groups := by
  by_cases hplain : t.HasPlainName
  · rw [(removeDotSegments_path_eq_self_iff t).2 hplain]
    constructor
    · exact fun h => .inl ⟨(path_injective hname hname' h).symm, hplain⟩
    · rintro (⟨rfl, -⟩ | ⟨rfl, -⟩)
      · rfl
      · exact absurd (.inl rfl) (hasPlainName_group.1 hplain)
  · obtain ⟨place, hplace, hroles, hgroups⟩ := exists_place_of_not_plain hplain
    rw [hplace]
    constructor
    · intro h
      rcases eq_of_path_eq_slash hname' h.symm with rfl | rfl
      · exact .inr ⟨hgroups.1 h, rfl⟩
      · exact absurd h hroles
    · rintro (⟨-, h⟩ | ⟨h, rfl⟩)
      · exact absurd h hplain
      · exact hgroups.2 h

end Target

/-! ### Users, groups and requests -/

/-- **Which paths survive when dot segments are resolved.**  The path of a group and of a user stays
as it is iff the name is neither `.` nor `..`; those two lead to the place of all groups or users
and to the place above.  So what a request is about stays the same unless its name is one of the
two, and then the request is about no entity any more, and about the list of the groups if its group
is `.`. -/
theorem removeDotSegments_paths (domain : AuthDomain) (name : String) :
    (removeDotSegments (Path.group name) = Path.group name ↔ name ≠ "." ∧ name ≠ "..") ∧
      (removeDotSegments (Path.user domain name) = Path.user domain name ↔
        name ≠ "." ∧ name ≠ "..") ∧
      (removeDotSegments (Path.group ".") = Path.groups ∧
        removeDotSegments (Path.group "..") = "/settings/rbac/") ∧
      (removeDotSegments (Path.user domain ".") = Path.users domain ++ "/" ∧
        removeDotSegments (Path.user domain "..") = "/settings/rbac/users/") ∧
      ∀ (config : Config) (transport : Transport) (c : Call) (options : CallOptions),
        ∀ request ∈ (c.run config transport options).requests, ∀ t : Target, t.name? ≠ some "" →
          (removeDotSegments request.path = t.path ↔
            t = c.target config ∧ (c.target config).HasPlainName ∨
              c.target config = .group "." ∧ t = .groups) := by
  have hdot : ¬ IsDotSegment name ↔ name ≠ "." ∧ name ≠ ".." := not_or
  refine ⟨?_, ?_, ⟨Target.removeDotSegments_group_of_dot, Target.removeDotSegments_group_of_dots⟩,
    ⟨Target.removeDotSegments_user_of_dot domain, Target.removeDotSegments_user_of_dots domain⟩,
    fun config transport c options request hrequest t hname => ?_⟩
  · rw [← hdot, ← Target.hasPlainName_group]
    exact Target.removeDotSegments_path_eq_self_iff (.group name)
  · have huser : (Target.user domain name).HasPlainName ↔ ¬ IsDotSegment name :=
      Target.hasPlainName_user
    rw [← hdot, ← huser]
    exact Target.removeDotSegments_path_eq_self_iff (.user domain name)
  · obtain ⟨husable, rfl⟩ := Call.request_eq_ok_iff.1 (Call.mem_requests_run.1 hrequest)
    rw [Call.path_plannedRequest]
    exact Target.removeDotSegments_path_eq_iff (Call.name?_target_ne_empty husable) hname

/-- Names that have dots, and one that is nothing but dots. -/
theorem removeDotSegments_paths_sample :
    removeDotSegments (Path.group "../..") = Path.group "../.." ∧
      removeDotSegments (Path.user .externalStore "...") = Path.user .externalStore "..." ∧
      ∀ request ∈ ((Call.getUser ".a" none).run {} (fun _ => .ok .null) {}).requests,
        removeDotSegments request.path ≠ Target.groups.path := by
  obtain ⟨hgroup, -⟩ := removeDotSegments_paths .localStore "../.."
  obtain ⟨-, huser, -, -, hrequests⟩ := removeDotSegments_paths .externalStore "..."
  refine ⟨hgroup.2 (by decide), huser.2 (by decide), fun request hrequest hpath => ?_⟩
  obtain ⟨htarget, -⟩ | ⟨htarget, -⟩ :=
    (hrequests {} _ _ {} request hrequest .groups nofun).1 hpath
  · cases htarget
  · cases htarget

/-- **A group is read, written and removed under the path of all groups** if its name is `.`, and a
user under that of all domains if its name is `..`. -/
theorem removeDotSegments_group_dot :
    (∃ request ∈ ((Call.dropGroup ".").run {} (fun _ => .ok .null) {}).requests,
      request.method = .delete ∧ request.path = Path.group "." ∧
        removeDotSegments request.path = Path.groups) ∧
      removeDotSegments (Path.user .localStore "..") = "/settings/rbac/users/" :=
  ⟨⟨_, List.mem_singleton.2 rfl, rfl, rfl, Target.removeDotSegments_group_of_dot⟩,
    Target.removeDotSegments_user_of_dots .localStore⟩

end AccessControl
