import AccessControl.Proofs.Params.Precedence
import Mathlib.Data.List.Forall2
/-!
# Merging sources of parameters

The parameters of some sources are those that are provided last, so sources can be merged in parts:
the parameters of the first of them are a source by themselves, and the overrides are one more
source at the end.  A name without a value in a source counts as nothing at all.

* `Params.compose_append` : merging is associative.
* `Params.compose_merges` : the last source that provides a parameter decides, and how sources are
  split and what they do not provide does not matter.
-/

namespace AccessControl

open Std in
theorem SortedMap.get?_map {α β γ : Type} [Ord α] [TransOrd α] [LawfulEqOrd α] (f : β → γ)
    (m : SortedMap α β) (k : α) : (m.map f).get? k = (m.get? k).map f := by
  rw [map, get?_filterMap, Option.map_eq_bind]

/-- Two sources have the same entries with a value; one may have names without a value that the
other does not have. -/
def GivenParams.SameValues (source source' : GivenParams) : Prop :=
  ∀ k v, (k, some v) ∈ source.toList ↔ (k, some v) ∈ source'.toList

namespace Params

/-- The parameters as a source that provides all of them. -/
def asSource (params : Params) : GivenParams := params.map some

variable {source source' : GivenParams} {sources sources' : List GivenParams}
  {k : String} {v : ParamValue}

/-! ### What is provided -/

theorem join_get?_eq_some_iff : (source.get? k).join = some v ↔ (k, some v) ∈ source.toList := by
  rw [SortedMap.mem_toList, Option.join_eq_some_iff]

theorem join_get?_of_sameValues (h : GivenParams.SameValues source source') (k : String) :
    (source.get? k).join = (source'.get? k).join := by
  apply Option.ext
  intro v
  rw [join_get?_eq_some_iff, join_get?_eq_some_iff]
  exact h k v

theorem join_get?_asSource (params : Params) (k : String) :
    ((asSource params).get? k).join = params.get? k := by
  rw [asSource, SortedMap.get?_map]
  cases params.get? k <;> rfl

theorem lastProvided?_eq_none_iff :
    lastProvided? sources k = none ↔ ∀ source ∈ sources, ∀ v, (k, some v) ∉ source.toList := by
  rw [lastProvided?, List.getLast?_eq_none_iff, List.filterMap_eq_nil_iff]
  refine forall₂_congr fun source _ => ?_
  rw [Option.eq_none_iff_forall_ne_some]
  exact forall_congr' fun v => not_congr join_get?_eq_some_iff

theorem lastProvided?_of_sameValues (h : List.Forall₂ GivenParams.SameValues sources sources')
    (k : String) : lastProvided? sources k = lastProvided? sources' k := by
  rw [lastProvided?, lastProvided?]
  congr 1
  induction h with
  | nil => rfl
  | cons hhead _ ih =>
    rw [List.filterMap_cons, List.filterMap_cons, ih, join_get?_of_sameValues hhead]

/-! ### Merging -/

theorem compose_eq_compose_concat (overrides : GivenParams) (sources : List GivenParams) :
    compose overrides sources = compose ∅ (sources ++ [overrides]) := by
  refine SortedMap.ext fun k => ?_
  rw [get?_compose, get?_compose, lastProvided?_concat _ ∅]
  rfl

/-- **Merging is associative**: the first sources can be merged to one beforehand. -/
theorem compose_append (overrides : GivenParams) (sources sources' : List GivenParams) :
    compose overrides (sources ++ sources') =
      compose overrides ((compose ∅ sources).asSource :: sources') := by
  refine SortedMap.ext fun k => ?_
  have hfirst : (compose ∅ sources).get? k = lastProvided? sources k := by
    rw [get?_compose, lastProvided?_concat]
    rfl
  have hmerged : lastProvided? [(compose ∅ sources).asSource] k = lastProvided? sources k := by
    rw [lastProvided?_singleton, join_get?_asSource, hfirst]
  have hcons : (compose ∅ sources).asSource :: sources' ++ [overrides] =
      [(compose ∅ sources).asSource] ++ (sources' ++ [overrides]) := rfl
  rw [get?_compose, get?_compose, List.append_assoc, hcons,
    lastProvided?_append sources, lastProvided?_append [_], hmerged]

/-- **The last source that provides a parameter decides**, for any sources and overrides.  So the
overrides are one more source, names without a value count as nothing in any source, and the first
sources can be merged beforehand. -/
theorem compose_merges (overrides : GivenParams) (sources : List GivenParams) :
    (∀ k, (compose overrides sources).get? k = lastProvided? (sources ++ [overrides]) k) ∧
      (∀ k, (compose overrides sources).get? k = none ↔
        ∀ source ∈ sources ++ [overrides], ∀ v, (k, some v) ∉ source.toList) ∧
      compose overrides sources = compose ∅ (sources ++ [overrides]) ∧
      (∀ overrides' sources',
        List.Forall₂ GivenParams.SameValues (sources ++ [overrides]) (sources' ++ [overrides']) →
        compose overrides sources = compose overrides' sources') ∧
      ∀ sources₁ sources₂, sources = sources₁ ++ sources₂ →
        compose overrides sources =
          compose overrides ((compose ∅ sources₁).asSource :: sources₂) := by
  refine ⟨get?_compose overrides sources, fun k => ?_, compose_eq_compose_concat overrides sources,
    fun overrides' sources' hsame => ?_, ?_⟩
  · rw [get?_compose, lastProvided?_eq_none_iff]
  · refine SortedMap.ext fun k => ?_
    rw [get?_compose, get?_compose, lastProvided?_of_sameValues hsame]
  · rintro sources₁ sources₂ rfl
    exact compose_append overrides sources₁ sources₂

/-- A source with a timeout and a name without a value. -/
def sampleDefaults : GivenParams :=
  .ofList [("trace", none), (timeoutName, some (.text "5s")), ("retries", some (.integer 2))]

/-- A source that takes nothing back: its name without a value is not provided. -/
def sampleChoice : GivenParams := .ofList [("retries", none), ("trace", some (.flag true))]

/-- The sample sources with other names without a value. -/
def sampleTrimmed : List GivenParams :=
  [.ofList [(timeoutName, some (.text "5s")), ("retries", some (.integer 2))],
    .ofList [("trace", some (.flag true)), ("batch", none)]]

theorem compose_merges_sample :
    let overrides : GivenParams := .ofList [(timeoutName, some (.text "9s"))]
    let sources := [sampleDefaults, sampleChoice]
    (compose overrides sources).get? "retries" = some (.integer 2) ∧
      (compose overrides sources).get? timeoutName = some (.text "9s") ∧
      List.Forall₂ GivenParams.SameValues (sources ++ [overrides]) (sampleTrimmed ++ [overrides]) ∧
      compose overrides sources = compose overrides sampleTrimmed ∧
      compose overrides sources =
        compose overrides ((compose ∅ [sampleDefaults]).asSource :: [sampleChoice]) := by
  intro overrides sources
  obtain ⟨hget, -, -, hsame, hassoc⟩ := compose_merges overrides sources
  have hlists : sources.map SortedMap.toList =
      [[("retries", some (.integer 2)), (timeoutName, some (.text "5s")), ("trace", none)],
        [("retries", none), ("trace", some (.flag true))]] := rfl
  have htrimmed : sampleTrimmed.map SortedMap.toList =
      [[("retries", some (.integer 2)), (timeoutName, some (.text "5s"))],
        [("batch", none), ("trace", some (.flag true))]] := rfl
  have hvalues : List.Forall₂ GivenParams.SameValues (sources ++ [overrides])
      (sampleTrimmed ++ [overrides]) := by
    simp only [sources, sampleTrimmed, List.map_cons, List.map_nil, List.cons.injEq, and_true]
      at hlists htrimmed
    refine .cons (fun k v => ?_) (.cons (fun k v => ?_) (.cons (fun _ _ => Iff.rfl) .nil))
    · simp [hlists.1, htrimmed.1]
    · simp [hlists.2, htrimmed.2]
  exact ⟨(hget _).trans (by decide), (hget _).trans (by decide), hvalues, hsame _ _ hvalues,
    hassoc _ _ rfl⟩

end Params

end AccessControl
