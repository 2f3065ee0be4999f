import AccessControl.AuthDomain
import AccessControl.Ordered.Map
/-!
# Parameters of a call

A call carries named parameters for the transport, such as its timeout.  They come from several
sources, one after the other: a later source overrides an earlier one, and a parameter that a source
does not provide is left as it is.

* `Params.compose` : the parameters of some sources.
* `Params.get?_provide` : what one more source does to each parameter.
-/

namespace AccessControl

-- Powers are those of the core library, also where other libraries bring their own.
attribute [local instance (high)] instPowNat

/-- A span of time. -/
structure Duration where
  seconds : UInt64
  /-- Nanoseconds on top of the whole seconds. -/
  nanos : Nat
  nanos_lt : nanos < 10 ^ (9 : Nat)
  deriving DecidableEq

/-- The whole milliseconds of a span of time. -/
def Duration.milliseconds (d : Duration) : Nat :=
  d.seconds.toNat * 1000 + d.nanos / 10 ^ (6 : Nat)

/-- The value of a parameter. -/
inductive ParamValue where
  | duration (d : Duration)
  | text (s : String)
  | flag (b : Bool)
  | integer (n : Int64)
  deriving DecidableEq

/-- A parameter's value as text. -/
def ParamValue.display : ParamValue → String
  | duration d => toString d.milliseconds ++ "ms"
  | text s => s
  | flag b => if b then "true" else "false"
  | integer n => toString n.toInt

/-- The parameters of a call, by name. -/
abbrev Params := SortedMap String ParamValue

/-- Parameters as a source gives them; a name without a value is not provided. -/
abbrev GivenParams := SortedMap String (Option ParamValue)

namespace Params

/-- The parameters after one more entry of a source. -/
def provideEntry (params : Params) (e : String × Option ParamValue) : Params :=
  match e.2 with
  | some v => params.insert e.1 v
  | none => params

/-- The parameters after one more source. -/
def provide (params : Params) (source : GivenParams) : Params :=
  source.toList.foldl provideEntry params

/-- The parameters of some sources, one after the other, and then of the overrides. -/
def compose (overrides : GivenParams) (sources : List GivenParams) : Params :=
  (sources ++ [overrides]).foldl provide ∅

theorem get?_provideEntry (params : Params) (e : String × Option ParamValue) (k : String) :
    (params.provideEntry e).get? k =
      if k = e.1 then e.2.or (params.get? k) else params.get? k := by
  obtain ⟨k', v⟩ := e
  cases v <;> by_cases h : k = k' <;> simp [provideEntry, SortedMap.get?_insert, h]

/-- One more source sets what it provides and leaves the rest. -/
theorem get?_provide (params : Params) (source : GivenParams) (k : String) :
    (params.provide source).get? k = ((source.get? k).join).or (params.get? k) := by
  suffices h : ∀ (es : List (String × Option ParamValue)) (params : Params),
      es.Pairwise (fun a b => compare a.1 b.1 = .lt) →
      (es.foldl provideEntry params).get? k =
        ((lookupEntry k es).join).or (params.get? k) from
    h source.toList params source.sorted
  intro es
  induction es with
  | nil => intro params _; rfl
  | cons e rest ih =>
    intro params h
    rw [List.pairwise_cons] at h
    rw [List.foldl_cons, ih _ h.2, lookupEntry, get?_provideEntry]
    by_cases hk : k = e.1
    · have hrest : lookupEntry k rest = none := by
        cases hf : lookupEntry k rest with
        | none => rfl
        | some w =>
          have hm : (k, w) ∈ rest := (SortedMap.mem_toList (m := ⟨rest, h.2⟩)).2 hf
          have := h.1 _ hm
          simp [← hk, Std.ReflOrd.compare_self] at this
      rw [hrest, if_pos hk, if_pos (Std.compare_eq_iff_eq.2 hk)]
      rfl
    · rw [if_neg hk, if_neg fun h => hk (Std.compare_eq_iff_eq.1 h)]

end Params

/-! ### Sources -/

/-- The name of the parameter that limits the time of a call. -/
def timeoutName : String := "timeout"

/-- A source that gives the timeout alone. -/
def GivenParams.ofTimeout (timeout : Option Duration) : GivenParams :=
  SortedMap.insert ∅ timeoutName (timeout.map .duration)

/-- The settings of one call. -/
structure CallOptions where
  timeout : Option Duration := none
  /-- Parameters by name, which override all other settings. -/
  overrides : GivenParams := ∅

namespace CallOptions

/-- The options with another timeout. -/
def setTimeout (o : CallOptions) (d : Duration) : CallOptions := { o with timeout := some d }

/-- The options with another value of a named parameter; without a value the other settings
decide. -/
def setParam (o : CallOptions) (k : String) (v : Option ParamValue) : CallOptions :=
  { o with overrides := o.overrides.insert k v }

/-- The options as a source of parameters; the overrides are a source of their own. -/
def params (o : CallOptions) : GivenParams := .ofTimeout o.timeout

end CallOptions

/-- The settings that all calls share. -/
structure Config where
  /-- The timeout of calls that set none. -/
  timeout : Option Duration := none
  /-- The domain of calls that name none. -/
  domain : AuthDomain := default

namespace Config

/-- The shared settings as a source of parameters. -/
def params (c : Config) : GivenParams := .ofTimeout c.timeout

/-- The parameters of a call. -/
def callParams (c : Config) (o : CallOptions) : Params := .compose o.overrides [c.params, o.params]

end Config

end AccessControl
