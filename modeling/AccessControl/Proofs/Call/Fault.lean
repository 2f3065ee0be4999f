import AccessControl.Proofs.Call.Course
/-!
# What is reported of an error

When the transport has no answer, every call reports the error in the same way: an error other than
a refusal as it is, and a refusal with the kind that its text gives and everything that is known
about it.  The one exception is the call for all groups, to which "not found" means that there are
none.  No call makes an error of its own that says that a feature is missing, and so there is none.

* `Call.run_reports` : every call that the transport does not answer reports the error that way.
-/

namespace AccessControl

/-- The errors that there are for a transport to report: those that anyone can make, and those that
a call returned, with such a transport below it. -/
inductive Error.Arises : Error → Prop
  | http (context : HttpContext) : Arises (.http context)
  | timeout : Arises .timeout
  | other (text : String) : Arises (.other text)
  /-- A text was refused as a role or as a domain. -/
  | invalidArgument (fault : ArgumentFault) : Arises (.invalidArgument fault)
  /-- A wire record could not be read. -/
  | decodingFailure (text : String) : Arises ⟨.decodingFailure text, none⟩
  /-- A transport can make its answers of those of calls. -/
  | call {config : Config} {transport : Transport} {options : CallOptions} {c : Call} {e : Error}
      (harises : ∀ request e', transport request = .error e' → Arises e')
      (hresult : (c.run config transport options).result = .error e) : Arises e

namespace Call

variable {c : Call} {e : Error} {feature : String}

/-- The result that a call makes of an error that the transport reports. -/
inductive Reports : (c : Call) → Error → Except Error c.Answer → Prop
  /-- An error that is no refusal is reported as it is. -/
  | unchanged {c : Call} {e : Error} (hkind : e.kind ≠ .httpFailure)
      (hfeature : c = getAllGroups → ∀ feature, e.kind ≠ .featureNotAvailable feature) :
      Reports c e (.error e)
  /-- A server that does not know about groups has none, whatever it says about that. -/
  | noGroups {e : Error} (hkind : e.kind = .httpFailure) (hnotFound : e.IsNotFound) :
      Reports getAllGroups e (.ok [])
  /-- Any other refusal is reported with the kind that its text says, and everything else that is
  known about it. -/
  | refused {c : Call} {e : Error} {kind : ErrorKind} (hkind : e.kind = .httpFailure)
      (hnotFound : c = getAllGroups → ¬ e.IsNotFound) (htext : e.HasKind kind) :
      Reports c e (.error ⟨kind, e.context?⟩)
  /-- To the call for all groups, a missing feature means that there are none.  No such error
  arises. -/
  | noFeature {e : Error} {feature : String} (hkind : e.kind = .featureNotAvailable feature) :
      Reports getAllGroups e (.ok [])

theorem reports_resultOf (c : Call) (e : Error) : Reports c e (c.resultOf (.error e)) := by
  rw [resultOf]
  by_cases h : c = getAllGroups ∧ e.LacksFeature
  · obtain ⟨rfl, he⟩ := h
    rw [recover_getAllGroups he]
    rcases he with ⟨hkind, hnotFound⟩ | ⟨feature, hkind⟩
    · exact .noGroups hkind hnotFound
    · exact .noFeature hkind
  · have hlacks : c = getAllGroups → ¬ e.LacksFeature := fun hc he => h ⟨hc, he⟩
    rw [recover_of_not_lacksFeature hlacks]
    by_cases hkind : e.kind = .httpFailure
    · rw [e.classify_eq]
      exact .refused hkind (fun hc hnotFound => hlacks hc (.inl ⟨hkind, hnotFound⟩))
        (Error.hasKind_classify hkind)
    · rw [Error.classify_of_ne hkind]
      exact .unchanged hkind fun hc feature hfeature => hlacks hc (.inr ⟨feature, hfeature⟩)

theorem Reports.eq_of_featureNotAvailable {e' : Error} (h : Reports c e (.error e'))
    (hkind : e'.kind = .featureNotAvailable feature) : e = e' := by
  cases h with
  | unchanged => rfl
  | refused _ _ htext => rcases htext.cases with h | h | h <;> cases h.symm.trans hkind

section

variable {config : Config} {transport : Transport} {options : CallOptions} {request : Request}

theorem reports_run (hmem : request ∈ (c.run config transport options).requests)
    (he : transport request = .error e) : Reports c e (c.run config transport options).result := by
  by_cases h : c.Unusable
  · obtain ⟨fault, hrun⟩ := run_of_unusable config transport options h
    rw [hrun] at hmem
    cases hmem
  · obtain ⟨hrequests, hresult⟩ := run_of_usable config transport options h
    rw [hrequests, List.mem_singleton] at hmem
    subst hmem
    rw [hresult, he]
    exact reports_resultOf c e

/-- A call says that a feature is missing only if the transport told it so. -/
theorem reported_of_featureNotAvailable
    (hresult : (c.run config transport options).result = .error e)
    (hkind : e.kind = .featureNotAvailable feature) :
    ∃ request ∈ (c.run config transport options).requests, transport request = .error e := by
  by_cases h : c.Unusable
  · obtain ⟨fault, hrun⟩ := run_of_unusable config transport options h
    rw [hrun] at hresult
    cases hresult
    cases hkind
  · obtain ⟨hrequests, hreply⟩ := run_of_usable config transport options h
    rw [hreply] at hresult
    rw [hrequests]
    refine ⟨_, List.mem_singleton.2 rfl, ?_⟩
    cases htransport : transport (c.plannedRequest config (config.callParams options)) with
    | ok v =>
      rw [htransport, resultOf] at hresult
      cases hdecode : c.decode v with
      | ok answer =>
        rw [hdecode] at hresult
        cases hresult
      | error fault =>
        rw [hdecode] at hresult
        cases hresult
        cases hkind
    | error e' =>
      have hreports := reports_resultOf c e'
      rw [← htransport, hresult] at hreports
      rw [hreports.eq_of_featureNotAvailable hkind]

end

end Call

/-- Nobody can make an error that says that a feature is missing, and no call does. -/
theorem Error.Arises.kind_ne {e : Error} (h : e.Arises) (feature : String) :
    e.kind ≠ .featureNotAvailable feature := by
  induction h with
  | http | timeout | other | invalidArgument | decodingFailure => exact nofun
  | call harises hresult ih =>
    intro hkind
    obtain ⟨request, -, he⟩ := Call.reported_of_featureNotAvailable hresult hkind
    exact ih request _ he hkind

namespace Call

variable {c : Call} {e : Error}

theorem Reports.eq_of_arises {result : Except Error c.Answer} (h : Reports c e result)
    (harises : e.Arises) (hkind : e.kind ≠ .httpFailure) : result = .error e := by
  cases h with
  | unchanged => rfl
  | noGroups hhttp => exact absurd hhttp hkind
  | refused hhttp => exact absurd hhttp hkind
  | noFeature hfeature => exact absurd hfeature (harises.kind_ne _)

/-- **Every call reports an error in the same way**: one that arises and is no refusal as it is, a
refusal with its kind, and no call makes an error that says that a feature is missing. -/
theorem run_reports (config : Config) (transport : Transport) (options : CallOptions) (c : Call) :
    (¬ c.Unusable → ∃ request, (c.run config transport options).requests = [request]) ∧
      (∀ request ∈ (c.run config transport options).requests, ∀ e,
        transport request = .error e →
        Reports c e (c.run config transport options).result ∧
          (e.Arises → e.kind ≠ .httpFailure →
            (c.run config transport options).result = .error e)) ∧
      (∀ e feature, (c.run config transport options).result = .error e →
        e.kind = .featureNotAvailable feature →
        ∃ request ∈ (c.run config transport options).requests, transport request = .error e) ∧
      ∀ e : Error, e.Arises → ∀ feature, e.kind ≠ .featureNotAvailable feature := by
  refine ⟨fun h => ⟨_, (run_of_usable config transport options h).1⟩, ?_,
    fun e feature => reported_of_featureNotAvailable, fun e => Error.Arises.kind_ne⟩
  intro request hmem e he
  have hreports := reports_run hmem he
  exact ⟨hreports, hreports.eq_of_arises⟩

/-- A refusal whose text names a user before a group. -/
def sampleRefusal : HttpContext where
  status := .notFound
  method := .get
  path := "/settings/rbac/groups/"
  text := some "Unknown user, or Unknown group."

/-- The error that a call makes of this refusal, for another transport to hand on. -/
def sampleHandedOn : Error where
  kind := .groupNotFound
  context? := some sampleRefusal

/-- The same refusal means no groups to one call and a missing group to the other.  What the other
makes of it is no refusal any more, and is handed on as it is. -/
theorem run_reports_sample :
    (getAllGroups.run {} (fun _ => .error (.http sampleRefusal)) {}).requests =
        [.readGroups ∅] ∧
      (getAllGroups.run {} (fun _ => .error (.http sampleRefusal)) {}).result = .ok [] ∧
      Reports getAllGroups (.http sampleRefusal) (.ok []) ∧
      ((getGroup "staff").run {} (fun _ => .error (.http sampleRefusal)) {}).requests =
        [.readGroup "staff" ∅] ∧
      ((getGroup "staff").run {} (fun _ => .error (.http sampleRefusal)) {}).result =
        .error sampleHandedOn ∧
      Reports (getGroup "staff") (.http sampleRefusal) (.error sampleHandedOn) ∧
      sampleHandedOn.Arises ∧
      (getAllGroups.run {} (fun _ => .error sampleHandedOn) {}).requests = [.readGroups ∅] ∧
      (getAllGroups.run {} (fun _ => .error sampleHandedOn) {}).result = .error sampleHandedOn := by
  have hall := (run_reports {} (fun _ => .error (.http sampleRefusal)) {} getAllGroups).2.1
  have hone := (run_reports {} (fun _ => .error (.http sampleRefusal)) {} (getGroup "staff")).2.1
  have hhanded := (run_reports {} (fun _ => .error sampleHandedOn) {} getAllGroups).2.1
  have hresult : ((getGroup "staff").run {} (fun _ => .error (.http sampleRefusal)) {}).result =
      .error sampleHandedOn := rfl
  have harises : sampleHandedOn.Arises := by
    refine .call (fun request e he => ?_) hresult
    cases he
    exact .http sampleRefusal
  refine ⟨rfl, rfl, (hall _ (List.mem_singleton.2 rfl) _ rfl).1, rfl, hresult, ?_, harises, rfl,
    (hhanded _ (List.mem_singleton.2 rfl) _ rfl).2 harises nofun⟩
  rw [← hresult]
  exact (hone _ (List.mem_singleton.2 rfl) _ rfl).1

end Call

end AccessControl
