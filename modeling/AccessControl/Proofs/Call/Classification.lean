import AccessControl.Error
/-!
# The kind of a refusal

Two rules look again at what a transport reports.  Both leave every error alone that is not reported
as a refusal, and keep all that is known about the request that was refused; they differ in where
they look.  One finds the kind in the server's text, where a missing group comes before a missing
user, the other in the status alone.

* `Error.hasKind_classify` : a refusal is given the kind that its text says.
* `Error.notFoundMeansUnsupported_of_isNotFound` : "not found" is a missing feature, whatever the
  text.
-/

namespace AccessControl

theorem Status.eq_notFound_iff {status : Status} : status = .notFound ↔ status.code = 404 := by
  cases status
  simp [Status.notFound]

namespace Error

variable {e : Error} {phrase feature : String}

/-- A phrase occurs in the server's text, in whatever place. -/
def Says (e : Error) (phrase : String) : Prop :=
  ∃ context text, e.context? = some context ∧ context.text = some text ∧
    phrase.toList <:+: text.toList

/-- The server answered that there is no such resource. -/
def IsNotFound (e : Error) : Prop :=
  ∃ context, e.context? = some context ∧ context.status.code = 404

/-- The kind of a refusal: a missing group if the text says so, else a missing user if the text says
so, else none that is known. -/
structure HasKind (e : Error) (kind : ErrorKind) : Prop where
  group : e.Says "Unknown group" → kind = .groupNotFound
  user : ¬ e.Says "Unknown group" → e.Says "Unknown user" → kind = .userNotFound
  unknown : ¬ e.Says "Unknown group" → ¬ e.Says "Unknown user" → kind = .httpFailure

/-! ### The text -/

theorem says_iff :
    e.Says phrase ↔
      ∃ text, e.context?.bind HttpContext.text = some text ∧ occurs phrase text = true := by
  simp only [Says, Option.bind_eq_some_iff, occurs_iff]
  constructor
  · rintro ⟨context, text, hcontext, htext, hphrase⟩
    exact ⟨text, ⟨context, hcontext, htext⟩, hphrase⟩
  · rintro ⟨text, ⟨context, hcontext, htext⟩, hphrase⟩
    exact ⟨context, text, hcontext, htext, hphrase⟩

theorem find?_knownPhrases (text : String) :
    knownPhrases.find? (fun entry => occurs entry.1 text) =
      if occurs "Unknown group" text then some ("Unknown group", .groupNotFound)
      else if occurs "Unknown user" text then some ("Unknown user", .userNotFound)
      else none := by
  unfold knownPhrases
  cases hgroup : occurs "Unknown group" text <;> cases huser : occurs "Unknown user" text <;>
    simp [hgroup, huser]

theorem classify_of_ne (h : e.kind ≠ .httpFailure) : e.classify = e := if_pos h

theorem context?_classify (e : Error) : e.classify.context? = e.context? := by
  unfold classify
  split
  · rfl
  · split
    · rfl
    · split <;> rfl

theorem classify_eq (e : Error) : e.classify = ⟨e.classify.kind, e.context?⟩ := by
  rw [← context?_classify]

/-- **A refusal is given the kind that its text says**, and stays as it is if it has no text. -/
theorem hasKind_classify (h : e.kind = .httpFailure) : e.HasKind e.classify.kind := by
  unfold classify
  rw [if_neg fun hne => hne h]
  cases htext : e.context?.bind HttpContext.text with
  | none => constructor <;> simp [says_iff, htext, h]
  | some text =>
    simp only [find?_knownPhrases]
    have hphrase : ∀ phrase, e.Says phrase ↔ occurs phrase text = true := by
      simp [says_iff, htext]
    constructor <;> simp_all

theorem HasKind.cases {kind : ErrorKind} (h : e.HasKind kind) :
    kind = .groupNotFound ∨ kind = .userNotFound ∨ kind = .httpFailure := by
  by_cases hgroup : e.Says "Unknown group"
  · exact .inl (h.group hgroup)
  · by_cases huser : e.Says "Unknown user"
    · exact .inr (.inl (h.user hgroup huser))
    · exact .inr (.inr (h.unknown hgroup huser))

theorem kind_classify_cases (e : Error) :
    e.classify.kind = .groupNotFound ∨ e.classify.kind = .userNotFound ∨
      e.classify.kind = e.kind := by
  by_cases h : e.kind = .httpFailure
  · rw [h]
    exact (hasKind_classify h).cases
  · rw [classify_of_ne h]
    exact .inr (.inr rfl)

/-! ### The status -/

theorem notFoundMeansUnsupported_of_ne (h : e.kind ≠ .httpFailure) :
    e.notFoundMeansUnsupported feature = e := if_neg fun hboth => h hboth.1

theorem map_status_eq_notFound_iff :
    e.context?.map HttpContext.status = some .notFound ↔ e.IsNotFound := by
  simp [IsNotFound, Option.map_eq_some_iff, Status.eq_notFound_iff]

/-- **"Not found" is a missing feature**, whatever the server's text. -/
theorem notFoundMeansUnsupported_of_isNotFound (hkind : e.kind = .httpFailure)
    (h : e.IsNotFound) :
    e.notFoundMeansUnsupported feature = ⟨.featureNotAvailable feature, e.context?⟩ :=
  if_pos ⟨hkind, map_status_eq_notFound_iff.2 h⟩

theorem notFoundMeansUnsupported_of_not_isNotFound (h : ¬ e.IsNotFound) :
    e.notFoundMeansUnsupported feature = e :=
  if_neg fun hboth => h (map_status_eq_notFound_iff.1 hboth.2)

/-! ### Both rules -/

/-- The server does not have a feature: it refused with "not found", or the error says just that. -/
def LacksFeature (e : Error) : Prop :=
  e.kind = .httpFailure ∧ e.IsNotFound ∨ ∃ feature, e.kind = .featureNotAvailable feature

/-- The status comes before the text. -/
theorem kind_classify_of_lacksFeature (h : e.LacksFeature) (feature : String) :
    ∃ feature', (e.notFoundMeansUnsupported feature).classify.kind =
      .featureNotAvailable feature' := by
  rcases h with ⟨hkind, hnotFound⟩ | ⟨feature', hkind⟩
  · rw [notFoundMeansUnsupported_of_isNotFound hkind hnotFound, classify_of_ne (by simp)]
    exact ⟨feature, rfl⟩
  · have hne : e.kind ≠ .httpFailure := by simp [hkind]
    rw [notFoundMeansUnsupported_of_ne hne, classify_of_ne hne]
    exact ⟨feature', hkind⟩

theorem notFoundMeansUnsupported_of_not_lacksFeature (h : ¬ e.LacksFeature) :
    e.notFoundMeansUnsupported feature = e := by
  by_cases hkind : e.kind = .httpFailure
  · exact notFoundMeansUnsupported_of_not_isNotFound fun hnotFound => h (.inl ⟨hkind, hnotFound⟩)
  · exact notFoundMeansUnsupported_of_ne hkind

theorem kind_classify_ne_featureNotAvailable (h : ∀ feature, e.kind ≠ .featureNotAvailable feature)
    (feature : String) : e.classify.kind ≠ .featureNotAvailable feature := by
  rcases e.kind_classify_cases with hkind | hkind | hkind
  · simp [hkind]
  · simp [hkind]
  · rw [hkind]
    exact h feature

end Error

end AccessControl
