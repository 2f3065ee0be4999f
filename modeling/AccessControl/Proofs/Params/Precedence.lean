import AccessControl.Proofs.Call.Course
import Mathlib.Data.List.Induction
/-!
# Which parameters a call sends

The parameters of a call come from three sources: the settings that all calls share, the timeout of
the call, and the parameters that the call sets by name.  The last source that provides a parameter
decides; a name that is set without a value is not provided.

* `Params.get?_compose` : the parameters of some sources are those that are provided last.
* `CallOptions.ofSettings_eq` : options hold what was set last.
* `Call.run_params_follow` : the parameters that are sent follow from the settings.
-/

namespace AccessControl

/-! ### Sources -/

open Std in
theorem SortedMap.get?_ofList {α β : Type} [Ord α] [TransOrd α] [LawfulEqOrd α] [DecidableEq α]
    (es : List (α × β)) (k : α) :
    (SortedMap.ofList es).get? k =
      (es.filterMap fun e => if e.1 = k then some e.2 else none).getLast? := by
  induction es using List.reverseRecOn with
  | nil => rfl
  | append_singleton es e ih =>
    have hinsert : SortedMap.ofList (es ++ [e]) = (SortedMap.ofList es).insert e.1 e.2 :=
      List.foldl_append
    rw [hinsert, get?_insert, ih, List.filterMap_append]
    by_cases hk : e.1 = k
    · simp [hk]
    · simp [hk, Ne.symm hk]

namespace Params

/-- The value of a parameter in the last of some sources that provides it. -/
def lastProvided? (sources : List GivenParams) (k : String) : Option ParamValue :=
  (sources.filterMap fun source => (source.get? k).join).getLast?

theorem lastProvided?_singleton (source : GivenParams) (k : String) :
    lastProvided? [source] k = (source.get? k).join := by
  rw [lastProvided?]
  cases hprovided : (source.get? k).join <;> simp [hprovided]

theorem lastProvided?_append (sources sources' : List GivenParams) (k : String) :
    lastProvided? (sources ++ sources') k =
      (lastProvided? sources' k).or (lastProvided? sources k) := by
  rw [lastProvided?, lastProvided?, lastProvided?, List.filterMap_append, List.getLast?_append]

theorem lastProvided?_concat (sources : List GivenParams) (source : GivenParams) (k : String) :
    lastProvided? (sources ++ [source]) k =
      ((source.get? k).join).or (lastProvided? sources k) := by
  rw [lastProvided?_append, lastProvided?_singleton]

/-- **The last source that provides a parameter decides.** -/
theorem get?_compose (overrides : GivenParams) (sources : List GivenParams) (k : String) :
    (compose overrides sources).get? k = lastProvided? (sources ++ [overrides]) k := by
  rw [compose]
  -- the overrides are one more source, so the induction is on all sources
  induction sources ++ [overrides] using List.reverseRecOn with
  | nil => rfl
  | append_singleton rest source ih =>
    rw [List.foldl_append, List.foldl_cons, List.foldl_nil, get?_provide, ih,
      lastProvided?_concat]

end Params

theorem GivenParams.join_get?_ofTimeout (timeout? : Option Duration) (k : String) :
    ((GivenParams.ofTimeout timeout?).get? k).join =
      if k = timeoutName then timeout?.map .duration else none := by
  rw [ofTimeout, SortedMap.get?_insert]
  split <;> rfl

/-- A parameter that the call sets by name has that value; the timeout has else that of the call, or
that of all calls. -/
theorem Config.get?_callParams (config : Config) (options : CallOptions) (k : String) :
    (config.callParams options).get? k =
      ((options.overrides.get? k).join).or
        (if k = timeoutName then (options.timeout.or config.timeout).map .duration else none) := by
  have hsources : [config.params, options.params] ++ [options.overrides] =
      (([] ++ [config.params]) ++ [options.params]) ++ [options.overrides] := rfl
  rw [callParams, Params.get?_compose, hsources, Params.lastProvided?_concat,
    Params.lastProvided?_concat, Params.lastProvided?_concat, CallOptions.params, params,
    GivenParams.join_get?_ofTimeout, GivenParams.join_get?_ofTimeout]
  congr 1
  split
  · cases options.timeout <;> cases config.timeout <;> rfl
  · rfl

/-! ### Settings -/

namespace CallOptions

/-- One setting of a call. -/
inductive Setting where
  | timeout (d : Duration)
  /-- A parameter by its name; without a value it is not provided. -/
  | param (k : String) (v : Option ParamValue)

namespace Setting

/-- The timeout that is set. -/
def timeout? : Setting → Option Duration
  | timeout d => some d
  | param _ _ => none

/-- The parameter that is set by name, with its value. -/
def param? : Setting → Option (String × Option ParamValue)
  | timeout _ => none
  | param k v => some (k, v)

end Setting

/-- The options with one more setting. -/
def apply (o : CallOptions) : Setting → CallOptions
  | .timeout d => o.setTimeout d
  | .param k v => o.setParam k v

/-- The options that some settings make, one after the other. -/
def ofSettings (settings : List Setting) : CallOptions := settings.foldl apply {}

/-- The options of a call that may have none. -/
def ofGiven (settings? : Option (List Setting)) : CallOptions := (settings?.map ofSettings).getD {}

/-- The timeout that was set last. -/
def lastTimeout? (settings : List Setting) : Option Duration :=
  (settings.filterMap Setting.timeout?).getLast?

/-- What a parameter was set to last, which may be no value. -/
def lastParam? (settings : List Setting) (k : String) : Option (Option ParamValue) :=
  ((settings.filterMap Setting.param?).filterMap fun e =>
    if e.1 = k then some e.2 else none).getLast?

/-- **Options hold what was set last**, the timeout and the named parameters each by themselves. -/
theorem ofSettings_eq (settings : List Setting) :
    ofSettings settings =
      { timeout := lastTimeout? settings
        overrides := .ofList (settings.filterMap Setting.param?) } := by
  induction settings using List.reverseRecOn with
  | nil => rfl
  | append_singleton settings setting ih =>
    have happly : ofSettings (settings ++ [setting]) = (ofSettings settings).apply setting :=
      List.foldl_append
    rw [happly, ih, lastTimeout?, lastTimeout?, List.filterMap_append, List.filterMap_append]
    cases setting with
    | timeout d =>
      have hparam : [Setting.timeout d].filterMap Setting.param? = [] := rfl
      simp [apply, setTimeout, Setting.timeout?, hparam]
    | param k v => simp [apply, setParam, Setting.timeout?, Setting.param?, SortedMap.ofList]

/-- Parameters follow from the settings of a call and those that all calls share. -/
structure Follow (params : Params) (config : Config) (settings : List Setting) : Prop where
  /-- A parameter has the value to which it was set last, if that is one. -/
  named : ∀ k ≠ timeoutName, params.get? k = (lastParam? settings k).join
  /-- The timeout may also come from the timeout of the call, and else from that of all calls. -/
  timeout : params.get? timeoutName =
    ((lastParam? settings timeoutName).join.or ((lastTimeout? settings).map .duration)).or
      (config.timeout.map .duration)

theorem follow_callParams (config : Config) (settings : List Setting) :
    Follow (config.callParams (ofSettings settings)) config settings := by
  have hget : ∀ k, (config.callParams (ofSettings settings)).get? k =
      ((lastParam? settings k).join).or
        (if k = timeoutName then ((lastTimeout? settings).or config.timeout).map .duration
          else none) := by
    intro k
    rw [Config.get?_callParams, ofSettings_eq, SortedMap.get?_ofList, lastParam?]
  refine ⟨fun k hk => ?_, ?_⟩
  · rw [hget, if_neg hk, Option.or_none]
  · rw [hget, if_pos rfl, Option.or_assoc, Option.map_or]

end CallOptions

/-! ### The course of a call -/

namespace Call

open CallOptions

theorem params_plannedRequest (config : Config) (params : Params) (c : Call) :
    (c.plannedRequest config params).params = params := by
  cases c <;> rfl

/-- **The parameters of every request follow from the settings of its call**, and it does not matter
whether the timeout is set before or after the parameters that are set by name. -/
theorem run_params_follow (config : Config) (transport : Transport) (c : Call)
    (settings? : Option (List Setting)) :
    (¬ c.Unusable → ∃ request, (c.run config transport (ofGiven settings?)).requests = [request]) ∧
      (∀ request ∈ (c.run config transport (ofGiven settings?)).requests,
        Follow request.params config (settings?.getD [])) ∧
      ∀ settings', settings'.filterMap Setting.timeout? =
          (settings?.getD []).filterMap Setting.timeout? →
        settings'.filterMap Setting.param? = (settings?.getD []).filterMap Setting.param? →
        c.run config transport (ofSettings settings') =
          c.run config transport (ofGiven settings?) := by
  have hgiven : ofGiven settings? = ofSettings (settings?.getD []) := by
    cases settings? <;> rfl
  rw [hgiven]
  refine ⟨fun husable => ⟨_, (run_of_usable config transport _ husable).1⟩, ?_, ?_⟩
  · intro request hrequest
    obtain ⟨-, rfl⟩ := request_eq_ok_iff.1 (mem_requests_run.1 hrequest)
    rw [params_plannedRequest]
    exact follow_callParams config _
  · intro settings' htimeout hparam
    rw [ofSettings_eq, ofSettings_eq, lastTimeout?, lastTimeout?, htimeout, hparam]

/-- Half a minute. -/
def halfMinute : Duration := ⟨30, 0, by decide⟩

/-- A timeout between parameters by name, of which the last takes the named timeout back. -/
def sampleSettings : List Setting :=
  [.param timeoutName (some (.text "5s")), .timeout halfMinute, .param "trace" (some (.flag true)),
    .param timeoutName none]

/-- The same settings with the timeout at the end. -/
def sampleReordered : List Setting :=
  [.param timeoutName (some (.text "5s")), .param "trace" (some (.flag true)),
    .param timeoutName none, .timeout halfMinute]

theorem run_params_follow_sample :
    (∃ request, ((dropGroup "ops").run {} (fun _ => .ok .null)
        (ofGiven (some sampleSettings))).requests = [request] ∧
      Follow request.params {} sampleSettings ∧
      request.params.get? timeoutName = some (.duration halfMinute)) ∧
      (dropGroup "ops").run {} (fun _ => .ok .null) (ofSettings sampleReordered) =
        (dropGroup "ops").run {} (fun _ => .ok .null) (ofGiven (some sampleSettings)) := by
  obtain ⟨hsent, hfollow, horder⟩ :=
    run_params_follow {} (fun _ => .ok .null) (dropGroup "ops") (some sampleSettings)
  obtain ⟨request, hrequest⟩ := hsent (by simp [Unusable])
  have hparams : Follow request.params {} sampleSettings := hfollow request (by simp [hrequest])
  refine ⟨⟨request, hrequest, hparams, ?_⟩, horder sampleReordered rfl rfl⟩
  rw [hparams.timeout]
  decide

end Call

end AccessControl
