import AccessControl.Proofs.Call.Classification
import AccessControl.Proofs.Call.Sending
/-!
# The course of a call

A call goes through three phases: its argument is checked, its request is sent, and the answer is
decoded.  Each phase can end the call, and the error tells which one did, provided that the
transport does not hand on an error of another phase as its own.

* `Call.request_eq_ok_iff` : a call has a request iff its argument can be used.
* `Call.run_of_unusable`, `Call.run_of_usable` : the two courses that a call can take.
* `Call.run_tellsPhase` : every course of a call tells in which phase it ended.
-/

namespace AccessControl

/-! ### Phases -/

/-- The phases in which a call can fail. -/
inductive Phase where
  /-- An argument is refused, before anything is sent. -/
  | argument
  /-- The transport has no answer. -/
  | transport
  /-- The answer cannot be decoded. -/
  | answer
  deriving DecidableEq

/-- The phase that an error of some kind is about. -/
def ErrorKind.phase : ErrorKind → Phase
  | invalidArgument .. => .argument
  | decodingFailure _ => .answer
  | timeout | httpFailure | userNotFound | groupNotFound | featureNotAvailable _
  | otherFailure _ => .transport

/-- The phase in which a call failed. -/
def Error.phase (e : Error) : Phase := e.kind.phase

/-- What a transport reports is about itself: it had no answer in time, the server refused, or
something else went wrong on the way. -/
def Transport.FailsInTransit (transport : Transport) : Prop :=
  ∀ request e, transport request = .error e → e.phase = .transport

theorem Error.phase_classify {e : Error} (h : e.phase = .transport) :
    e.classify.phase = .transport := by
  unfold phase at h ⊢
  rcases e.kind_classify_cases with hkind | hkind | hkind
  · rw [hkind, ErrorKind.phase]
  · rw [hkind, ErrorKind.phase]
  · rw [hkind, h]

theorem exists_error_iff_ne_ok {ε : Type} {x : Except ε Unit} :
    (∃ e, x = .error e) ↔ x ≠ .ok () := by
  cases x <;> simp

namespace Call

variable {config : Config} {params : Params} {transport : Transport} {options : CallOptions}
  {request : Request} {c : Call}

/-! ### The argument -/

/-- The argument of a call cannot be used: a name or a password is empty, or some role of what is
written cannot be sent. -/
def Unusable : Call → Prop
  | getUser name _ | dropUser name _ => name = ""
  | upsertUser user _ => user.username = "" ∨ ∃ r ∈ user.roles, ∃ fault, r.validate = .error fault
  | getGroup name | dropGroup name => name = ""
  | upsertGroup group => group.name = "" ∨ ∃ r ∈ group.roles, ∃ fault, r.validate = .error fault
  | changePassword password => password = ""
  | getAllUsers _ | getRoles | getAllGroups => False

/-- The request of a call whose argument can be used. -/
def plannedRequest (config : Config) (params : Params) : Call → Request
  | getUser name domain? => .readUser (config.domainOf domain?) name params
  | getAllUsers domain? => .readUsers (config.domainOf domain?) params
  | upsertUser user domain? =>
    .writeUser (config.domainOf domain?) user.username (user.toMembers.filter User.isSent) params
  | dropUser name domain? => .removeUser (config.domainOf domain?) name params
  | getRoles => .readRoles params
  | getGroup name => .readGroup name params
  | getAllGroups => .readGroups params
  | upsertGroup group => .writeGroup group.name group.toMembers params
  | dropGroup name => .removeGroup name params
  | changePassword password => .changePassword password params

theorem checked_eq_ok_iff {argument value : String} {planned : Request} :
    (requireNonEmpty argument value >>= fun _ => pure planned) = .ok request ↔
      value ≠ "" ∧ request = planned := by
  rw [check_bind_eq_ok_iff, requireNonEmpty_eq_ok_iff, pure_eq_ok_iff, eq_comm (b := request)]

theorem unchecked_eq_ok_iff {planned : Request} :
    (pure planned : Except ArgumentFault Request) = .ok request ↔ ¬ False ∧ request = planned := by
  rw [pure_eq_ok_iff, eq_comm, not_false_iff, true_and]

theorem not_unusable_iff {name : String} {roles : SortedSet Role} :
    ¬ (name = "" ∨ ∃ r ∈ roles, ∃ fault, r.validate = .error fault) ↔
      name ≠ "" ∧ ∀ r ∈ roles, r.validate = .ok () := by
  simp only [exists_error_iff_ne_ok, not_or, not_exists, not_and, not_not, ne_eq]

/-- **A call has a request iff its argument can be used**, and then the planned one. -/
theorem request_eq_ok_iff :
    c.request config params = .ok request ↔
      ¬ c.Unusable ∧ request = c.plannedRequest config params := by
  cases c with
  | getUser name domain? => exact checked_eq_ok_iff
  | getAllUsers domain? => exact unchecked_eq_ok_iff
  | upsertUser user domain? =>
    rw [request_upsertUser_eq_ok_iff, Unusable, not_unusable_iff, and_assoc, plannedRequest]
  | dropUser name domain? => exact checked_eq_ok_iff
  | getRoles => exact unchecked_eq_ok_iff
  | getGroup name => exact checked_eq_ok_iff
  | getAllGroups => exact unchecked_eq_ok_iff
  | upsertGroup group =>
    rw [request_upsertGroup_eq_ok_iff, Unusable, not_unusable_iff, and_assoc, plannedRequest]
  | dropGroup name => exact checked_eq_ok_iff
  | changePassword password => exact checked_eq_ok_iff

/-! ### The two courses -/

/-- What a call makes of the transport's reply. -/
def resultOf (c : Call) : Except Error Json → Except Error c.Answer
  | .ok v => (c.decode v).mapError .decoding
  | .error e => (c.recover e).2

section Courses

variable (config : Config) (transport : Transport) (options : CallOptions)

/-- A call whose argument cannot be used sends nothing, and says that it is the argument. -/
theorem run_of_unusable (h : c.Unusable) :
    ∃ fault, c.run config transport options = ⟨[], [], .error (.invalidArgument fault)⟩ := by
  have hnone : ∀ request, c.request config (config.callParams options) ≠ .ok request :=
    fun request hrequest => (request_eq_ok_iff.1 hrequest).1 h
  unfold run
  cases hrequest : c.request config (config.callParams options) with
  | error fault => exact ⟨fault, rfl⟩
  | ok request => exact absurd hrequest (hnone request)

/-- A call whose argument can be used sends its request, and the reply makes its result. -/
theorem run_of_usable (h : ¬ c.Unusable) :
    let planned := c.plannedRequest config (config.callParams options)
    (c.run config transport options).requests = [planned] ∧
      (c.run config transport options).result = c.resultOf (transport planned) := by
  intro planned
  have hrequest : c.request config (config.callParams options) = .ok planned :=
    request_eq_ok_iff.2 ⟨h, rfl⟩
  unfold run
  rw [hrequest]
  cases hreply : transport planned <;> exact ⟨by simp [hreply], by simp [hreply, resultOf]⟩

end Courses

/-! ### The result -/

/-- Calls that only write; their answer says nothing. -/
def IsWrite : Call → Prop
  | upsertUser .. | dropUser .. | upsertGroup _ | dropGroup _ | changePassword _ => True
  | getUser .. | getAllUsers _ | getRoles | getGroup _ | getAllGroups => False

theorem recover_getAllGroups {e : Error} (h : e.LacksFeature) :
    (getAllGroups.recover e).2 = .ok [] := by
  obtain ⟨feature, hkind⟩ := Error.kind_classify_of_lacksFeature h "rbac groups"
  simp only [recover, hkind]

theorem recover_of_not_lacksFeature {e : Error} (h : c = getAllGroups → ¬ e.LacksFeature) :
    (c.recover e).2 = .error e.classify := by
  cases c with
  | getAllGroups =>
    have hkind : ∀ feature, e.kind ≠ .featureNotAvailable feature :=
      fun feature hfeature => h rfl (.inr ⟨feature, hfeature⟩)
    simp only [recover, Error.notFoundMeansUnsupported_of_not_lacksFeature (h rfl)]
    split
    · rename_i feature hfeature
      exact absurd hfeature (Error.kind_classify_ne_featureNotAvailable hkind feature)
    · rfl
  | _ => rfl

theorem recover_cases (c : Call) (e : Error) :
    (∃ answer, (c.recover e).2 = .ok answer) ∨ (c.recover e).2 = .error e.classify := by
  by_cases h : c = getAllGroups ∧ e.LacksFeature
  · obtain ⟨rfl, he⟩ := h
    exact .inl ⟨[], recover_getAllGroups he⟩
  · exact .inr (recover_of_not_lacksFeature fun hc he => h ⟨hc, he⟩)

theorem phase_of_resultOf_eq_error {reply : Except Error Json} {e : Error}
    (hreply : ∀ e', reply = .error e' → e'.phase = .transport) (h : c.resultOf reply = .error e) :
    (∃ v, reply = .ok v ∧ e.phase = .answer ∧ e.context? = none) ∨
      ∃ e', reply = .error e' ∧ e.phase = .transport := by
  cases reply with
  | ok v =>
    rw [resultOf] at h
    cases hdecode : c.decode v with
    | ok answer =>
      rw [hdecode] at h
      cases h
    | error fault =>
      rw [hdecode] at h
      cases h
      exact .inl ⟨v, rfl, rfl, rfl⟩
  | error e' =>
    rw [resultOf] at h
    rcases c.recover_cases e' with ⟨answer, hok⟩ | herror
    · rw [hok] at h
      cases h
    · rw [herror] at h
      cases h
      exact .inr ⟨e', rfl, Error.phase_classify (hreply e' rfl)⟩

theorem exists_resultOf_eq_ok_of_isWrite (h : c.IsWrite) (v : Json) :
    ∃ answer, c.resultOf (.ok v) = .ok answer := by
  cases c <;> first | exact ⟨(), rfl⟩ | exact h.elim

/-- The result of a call tells in which phase it ended. -/
structure TellsPhase (c : Call) (transport : Transport) (o : Outcome c.Answer) : Prop where
  /-- Nothing is sent iff the argument cannot be used. -/
  unsent_iff : o.requests = [] ↔ c.Unusable
  /-- Otherwise one request is sent, and no more. -/
  sent : ¬ c.Unusable → ∃ request, o.requests = [request]
  /-- A call that sends nothing says that it is the argument. -/
  refused : c.Unusable → ∃ e, o.result = .error e ∧ e.phase = .argument ∧ e.context? = none
  /-- A call that sends something never does. -/
  accepted : ¬ c.Unusable → ∀ e, o.result = .error e → e.phase ≠ .argument
  /-- A call that only writes is successful whatever the answer. -/
  acknowledged : c.IsWrite → ∀ request ∈ o.requests, ∀ v, transport request = .ok v →
    ∃ answer, o.result = .ok answer
  /-- Any other call that was answered is successful, or says that it is the answer. -/
  decoded : ∀ request ∈ o.requests, ∀ v, transport request = .ok v →
    (∃ answer, o.result = .ok answer) ∨
      ∃ e, o.result = .error e ∧ e.phase = .answer ∧ e.context? = none
  /-- Only a call that was answered says that it is the answer. -/
  answered : ∀ e, o.result = .error e → e.phase = .answer →
    ∃ request ∈ o.requests, ∃ v, transport request = .ok v
  /-- Only a call that was not answered says that it is the transport. -/
  unanswered : ∀ e, o.result = .error e → e.phase = .transport →
    ∃ request ∈ o.requests, ∃ e', transport request = .error e'

theorem tellsPhase_of_unusable {o : Outcome c.Answer} {fault : ArgumentFault} (h : c.Unusable)
    (hrequests : o.requests = []) (hresult : o.result = .error (.invalidArgument fault)) :
    TellsPhase c transport o := by
  have hphase : ∀ e, o.result = .error e → e.phase = .argument := by
    intro e he
    rw [hresult] at he
    cases he
    rfl
  refine ⟨⟨fun _ => h, fun _ => hrequests⟩, fun hn => absurd h hn,
    fun _ => ⟨_, hresult, rfl, rfl⟩, fun hn => absurd h hn, ?_, ?_, ?_, ?_⟩
  · simp [hrequests]
  · simp [hrequests]
  · intro e he hanswer
    rw [hphase e he] at hanswer
    cases hanswer
  · intro e he htransport
    rw [hphase e he] at htransport
    cases htransport

theorem tellsPhase_of_usable {o : Outcome c.Answer} (htransit : transport.FailsInTransit)
    (h : ¬ c.Unusable) (hrequests : o.requests = [request])
    (hresult : o.result = c.resultOf (transport request)) : TellsPhase c transport o := by
  have hphase : ∀ e, o.result = .error e →
      (∃ v, transport request = .ok v ∧ e.phase = .answer ∧ e.context? = none) ∨
        ∃ e', transport request = .error e' ∧ e.phase = .transport := by
    intro e he
    exact phase_of_resultOf_eq_error (htransit request) (hresult ▸ he)
  refine ⟨by simp [hrequests, h], fun _ => ⟨request, hrequests⟩, fun hn => absurd hn h, ?_, ?_, ?_,
    ?_, ?_⟩
  · intro _ e he hargument
    rcases hphase e he with ⟨-, -, hanswer, -⟩ | ⟨-, -, htransport⟩
    · simp [hanswer] at hargument
    · simp [htransport] at hargument
  · intro hwrite request' hmem v hreply
    obtain rfl : request' = request := by simpa [hrequests] using hmem
    rw [hresult, hreply]
    exact exists_resultOf_eq_ok_of_isWrite hwrite v
  · intro request' hmem v hreply
    obtain rfl : request' = request := by simpa [hrequests] using hmem
    cases hr : o.result with
    | ok answer => exact .inl ⟨answer, rfl⟩
    | error e =>
      rcases hphase e hr with ⟨-, -, hanswer, hcontext⟩ | ⟨e', he', -⟩
      · exact .inr ⟨e, rfl, hanswer, hcontext⟩
      · rw [hreply] at he'
        cases he'
  · intro e he hanswer
    rcases hphase e he with ⟨v, hreply, -, -⟩ | ⟨-, -, htransport⟩
    · exact ⟨request, by simp [hrequests], v, hreply⟩
    · simp [htransport] at hanswer
  · intro e he htransport
    rcases hphase e he with ⟨-, -, hanswer, -⟩ | ⟨e', hreply, -⟩
    · simp [hanswer] at htransport
    · exact ⟨request, by simp [hrequests], e', hreply⟩

/-- **The error of a call tells in which phase it ended**, whatever the argument, the settings and
the transport, as long as the transport reports only its own failures. -/
theorem run_tellsPhase (config : Config) {transport : Transport}
    (htransit : transport.FailsInTransit) (options : CallOptions) (c : Call) :
    TellsPhase c transport (c.run config transport options) := by
  by_cases h : c.Unusable
  · obtain ⟨fault, hrun⟩ := run_of_unusable config transport options h
    exact tellsPhase_of_unusable h (by rw [hrun]) (by rw [hrun])
  · obtain ⟨hrequests, hresult⟩ := run_of_usable config transport options h
    exact tellsPhase_of_usable htransit h hrequests hresult

/-- A transport that answers what is read with a value that is no object, and does not answer what
is written in time. -/
def sampleTransport : Transport := fun request =>
  if request.method = .get then .ok (.bool true) else .error .timeout

/-- One call for each phase. -/
theorem run_tellsPhase_sample :
    sampleTransport.FailsInTransit ∧
      ((dropUser "" none).run {} sampleTransport {} =
          ⟨[], [], .error (.invalidArgument (.empty "username"))⟩ ∧
        TellsPhase (dropUser "" none) sampleTransport
          ((dropUser "" none).run {} sampleTransport {})) ∧
      ((dropUser "ann" none).run {} sampleTransport {} =
          ⟨[.removeUser .localStore "ann" ∅], ["dropping user ann in domain local"],
            .error .timeout⟩ ∧
        TellsPhase (dropUser "ann" none) sampleTransport
          ((dropUser "ann" none).run {} sampleTransport {})) ∧
      (getUser "ann" none).run {} sampleTransport {} =
          ⟨[.readUser .localStore "ann" ∅], ["getting user ann in domain local"],
            .error (.decoding (.record (.shape "user and metadata" (.bool true))))⟩ ∧
        TellsPhase (getUser "ann" none) sampleTransport
          ((getUser "ann" none).run {} sampleTransport {}) := by
  have htransit : sampleTransport.FailsInTransit := by
    intro request e he
    unfold sampleTransport at he
    split at he
    · cases he
    · cases he
      rfl
  have htells := run_tellsPhase {} htransit {}
  exact ⟨htransit, ⟨rfl, htells _⟩, ⟨rfl, htells _⟩, rfl, htells _⟩

end Call

end AccessControl
