import AccessControl.Proofs.Record.Frame
/-!
# How attributes are resolved

The tables of a schema say where an attribute has its value from.  Its aliases are tried in the
order of their table, and then its own name; what its schema lets it fall back to counts only if
none of these keys has a value.  A key that is absent or null is passed over, but no other is:
neither a value that does not count as set nor one that the reader cannot decode makes way for the
next key or for the fallback.

The rules are said here of the tables alone, by the place at which an entry stands in them, and not
through the search that finds it.

* `Record.stored?_eq_some_iff`, `Record.stored?_eq_none_iff` : the search of the members follows
  the rules; `Schema.fallback?_eq_some_iff`, `Schema.fallback?_eq_none_iff` : that of the fallbacks
  does.
* `Record.get?_eq_iff_resolvesTo` : what an attribute resolves to is what the rules say.
* `Record.require_eq_error_iff` : how an attribute that must have a value fails to be read.
* `Record.resolves_inTableOrder` : all that the order of the tables decides.
-/

namespace AccessControl

/-! ### What a schema falls back to -/

namespace Schema

variable {s : Schema} {attr : String} {v : Json}

/-- The first entry of an attribute in the table of fallbacks has this value. -/
def FirstFallback (s : Schema) (attr : String) (v : Json) : Prop :=
  ∃ before after, s.fallbacks = before ++ (attr, v) :: after ∧ ∀ w, (attr, w) ∉ before

theorem lookup_fallbacks_eq_some_iff :
    s.fallbacks.lookup attr = some v ↔ s.FirstFallback attr v := by
  have hbefore : ∀ before : List (String × Json),
      (∀ e ∈ before, (attr != e.1) = true) ↔ ∀ w, (attr, w) ∉ before := by
    intro before
    constructor
    · intro h w hw
      simpa using h (attr, w) hw
    · rintro h ⟨k, w⟩ he
      rw [bne_iff_ne]
      rintro rfl
      exact h w he
  rw [List.lookup_eq_some_iff, FirstFallback]
  exact exists₂_congr fun before after => and_congr_right fun _ => hbefore before

/-- An attribute falls back to the first value of the table for it, unless that is null. -/
theorem fallback?_eq_some_iff :
    s.fallback? attr = some v ↔ s.FirstFallback attr v ∧ v ≠ .null := by
  rw [fallback?, Option.filter_eq_some_iff, lookup_fallbacks_eq_some_iff, Bool.not_eq_true',
    Json.isNull_eq_false_iff]

/-- It falls back to nothing if the table has nothing for it, or null first. -/
theorem fallback?_eq_none_iff :
    s.fallback? attr = none ↔ ∀ v, s.FirstFallback attr v → v = .null := by
  simp only [Option.eq_none_iff_forall_ne_some, ne_eq, fallback?_eq_some_iff, not_and, not_not]

end Schema

/-! ### What the members give -/

/-- The first value other than null under the aliases of an attribute, along a table of aliases. -/
def aliased? (m : Entries Json) (attr : String) (aliases : List (String × String)) : Option Json :=
  aliases.findSome? fun e => if e.2 = attr then presentAt? m e.1 else none

section Aliased

variable {m : Entries Json} {attr : String} {aliases : List (String × String)} {v : Json}

theorem findSome?_map_fst_filter :
    ((aliases.filter fun e => e.2 = attr).map Prod.fst).findSome? (presentAt? m) =
      aliased? m attr aliases := by
  rw [← List.head?_filterMap, List.filterMap_map, List.filterMap_filter, List.head?_filterMap,
    aliased?]
  simp only [decide_eq_true_eq, Function.comp_apply]

theorem aliased?_eq_none_iff :
    aliased? m attr aliases = none ↔ ∀ k, (k, attr) ∈ aliases → Absent m k := by
  rw [aliased?, List.findSome?_eq_none_iff]
  constructor
  · intro h k hk
    have hnone := h (k, attr) hk
    rwa [if_pos rfl, presentAt?_eq_none_iff] at hnone
  · rintro h ⟨k, a⟩ he
    by_cases ha : a = attr
    · subst ha
      rw [if_pos rfl, presentAt?_eq_none_iff]
      exact h k he
    · exact if_neg ha

theorem aliased?_eq_some_iff :
    aliased? m attr aliases = some v ↔
      ∃ before k after, aliases = before ++ (k, attr) :: after ∧
        (∀ k', (k', attr) ∈ before → Absent m k') ∧ m.get? k = some v ∧ v ≠ .null := by
  rw [aliased?, List.findSome?_eq_some_iff]
  constructor
  · rintro ⟨before, ⟨k, a⟩, after, htable, hvalue, hbefore⟩
    -- the entry that decides is one of the attribute, since those of others give nothing
    by_cases ha : a = attr
    · subst ha
      rw [if_pos rfl, presentAt?_eq_some_iff] at hvalue
      have hearlier : aliased? m a before = none := List.findSome?_eq_none_iff.2 hbefore
      exact ⟨before, k, after, htable, aliased?_eq_none_iff.1 hearlier, hvalue⟩
    · rw [if_neg ha] at hvalue
      cases hvalue
  · rintro ⟨before, k, after, htable, hearlier, hvalue⟩
    refine ⟨before, (k, attr), after, htable, ?_, ?_⟩
    · rw [if_pos rfl, presentAt?_eq_some_iff]
      exact hvalue
    · exact List.findSome?_eq_none_iff.1 (aliased?_eq_none_iff.2 hearlier)

end Aliased

namespace Record

variable {s : Schema} {r r' : Record s} {attr : String} {v : Json}

/-- The members give an attribute a value other than null. -/
inductive Gives (r : Record s) (attr : String) (v : Json) : Prop
  /-- It is under an alias, and no alias before it in the table has one. -/
  | viaAlias (before : List (String × String)) (k : String) (after : List (String × String))
      (table : s.aliases = before ++ (k, attr) :: after)
      (earlier : ∀ k', (k', attr) ∈ before → Absent r.raw k')
      (value : r.raw.get? k = some v) (notNull : v ≠ .null)
  /-- It is under the attribute's own name, and no alias has one. -/
  | viaName (aliases : ∀ k, (k, attr) ∈ s.aliases → Absent r.raw k)
      (value : r.raw.get? attr = some v) (notNull : v ≠ .null)

/-- The members give an attribute no value other than null. -/
def GivesNothing (r : Record s) (attr : String) : Prop :=
  (∀ k, (k, attr) ∈ s.aliases → Absent r.raw k) ∧ Absent r.raw attr

theorem stored?_eq_or (r : Record s) (attr : String) :
    r.stored? attr = (aliased? r.raw attr s.aliases).or (presentAt? r.raw attr) := by
  rw [← findSome?_map_fst_filter, stored?_eq, Schema.readKeys, List.findSome?_append,
    List.findSome?_singleton]
  rfl

/-- The search finds what the members give. -/
theorem stored?_eq_some_iff : r.stored? attr = some v ↔ r.Gives attr v := by
  rw [stored?_eq_or, Option.or_eq_some_iff, aliased?_eq_some_iff, aliased?_eq_none_iff,
    presentAt?_eq_some_iff]
  constructor
  · rintro (⟨before, k, after, htable, hearlier, hvalue, hv⟩ | ⟨haliases, hvalue, hv⟩)
    · exact .viaAlias before k after htable hearlier hvalue hv
    · exact .viaName haliases hvalue hv
  · rintro (⟨before, k, after, htable, hearlier, hvalue, hv⟩ | ⟨haliases, hvalue, hv⟩)
    · exact .inl ⟨before, k, after, htable, hearlier, hvalue, hv⟩
    · exact .inr ⟨haliases, hvalue, hv⟩

theorem stored?_eq_none_iff : r.stored? attr = none ↔ r.GivesNothing attr := by
  rw [stored?_eq_or, Option.or_eq_none_iff, aliased?_eq_none_iff, presentAt?_eq_none_iff,
    GivesNothing]

theorem exists_gives {k : String} (hk : (k, attr) ∈ s.aliases ∨ k = attr)
    (hget : r.raw.get? k = some v) (hv : v ≠ .null) : ∃ w, r.Gives attr w := by
  cases hstored : r.stored? attr with
  | some w => exact ⟨w, stored?_eq_some_iff.1 hstored⟩
  | none =>
    obtain ⟨haliases, hname⟩ := stored?_eq_none_iff.1 hstored
    have habsent : Absent r.raw k := by
      rcases hk with hk | rfl
      · exact haliases k hk
      · exact hname
    rw [← presentAt?_eq_none_iff, presentAt?_eq_some_iff.2 ⟨hget, hv⟩] at habsent
    cases habsent

/-! ### What an attribute resolves to -/

/-- What an attribute resolves to: what the members give it, and only if they give it nothing what
the schema lets it fall back to. -/
inductive ResolvesTo (r : Record s) (attr : String) : Option Json → Prop
  | given {v : Json} (given : r.Gives attr v) : ResolvesTo r attr (some v)
  | fallback {v : Json} (given : r.GivesNothing attr) (fallback : s.FirstFallback attr v)
      (notNull : v ≠ .null) : ResolvesTo r attr (some v)
  /-- Also where the first fallback is null and a later one is not. -/
  | nothing (given : r.GivesNothing attr)
      (fallback : ∀ v, s.FirstFallback attr v → v = .null) : ResolvesTo r attr none

/-- **An attribute resolves to what the rules say**, and to nothing else. -/
theorem get?_eq_iff_resolvesTo {v? : Option Json} : r.get? attr = v? ↔ r.ResolvesTo attr v? := by
  cases v? with
  | some v =>
    rw [get?, Option.or_eq_some_iff, stored?_eq_some_iff, stored?_eq_none_iff,
      Schema.fallback?_eq_some_iff]
    constructor
    · rintro (hgiven | ⟨hgiven, hfallback, hv⟩)
      · exact .given hgiven
      · exact .fallback hgiven hfallback hv
    · rintro (hgiven | ⟨hgiven, hfallback, hv⟩)
      · exact .inl hgiven
      · exact .inr ⟨hgiven, hfallback, hv⟩
  | none =>
    rw [get?, Option.or_eq_none_iff, stored?_eq_none_iff, Schema.fallback?_eq_none_iff]
    constructor
    · rintro ⟨hgiven, hfallback⟩
      exact .nothing hgiven hfallback
    · intro h
      cases h with
      | nothing hgiven hfallback => exact ⟨hgiven, hfallback⟩

theorem ResolvesTo.ne_null (h : r.ResolvesTo attr (some v)) : v ≠ .null := by
  cases h with
  | given hgiven => cases hgiven <;> assumption
  | fallback _ _ hv => exact hv

/-- The members of a record, read with other values to fall back to. -/
def withFallbacks (r : Record s) (fallbacks : List (String × Json)) :
    Record { s with fallbacks := fallbacks } :=
  ⟨r.raw, r.written⟩

theorem stored?_withFallbacks (r : Record s) (attr : String) (fallbacks : List (String × Json)) :
    (r.withFallbacks fallbacks).stored? attr = r.stored? attr := rfl

theorem get?_withFallbacks (h : r.Gives attr v) (fallbacks : List (String × Json)) :
    (r.withFallbacks fallbacks).get? attr = some v := by
  rw [get?, stored?_withFallbacks, stored?_eq_some_iff.2 h, Option.some_or]

/-! ### Reading -/

section Reading

variable {α : Type} {decoder : Decoder α}

/-- An attribute that must have a value is not read iff it does not read, or reads as nothing. -/
theorem require_eq_error_iff {fault : RecordFault} :
    r.require decoder attr = .error fault ↔
      r.read? decoder attr = .error fault ∨
        r.get? attr = none ∧ fault = .missing s.entity attr := by
  have hnothing : r.read? decoder attr = .ok none ↔ r.get? attr = none := read?_eq_none_iff
  rw [require, ← hnothing]
  rcases r.read? decoder attr with fault' | _ | a
  · simp [bind, Except.bind]
  · simp [bind, Except.bind, eq_comm]
  · simp [bind, Except.bind]

/-- An attribute is read as what it resolves to: no reading falls through to a later key or to a
fallback. -/
structure ReadsResolved (r : Record s) (attr : String) (decoder : Decoder α) : Prop where
  read_some : ∀ a, r.read? decoder attr = .ok (some a) ↔
    ∃ v, r.ResolvesTo attr (some v) ∧ decoder v = .ok a
  read_none : r.read? decoder attr = .ok none ↔ r.ResolvesTo attr none
  read_error : ∀ fault, r.read? decoder attr = .error fault ↔
    ∃ v mismatch, r.ResolvesTo attr (some v) ∧ decoder v = .error mismatch ∧
      fault = .invalid s.entity attr mismatch
  /-- Only what resolves to nothing is missed. -/
  require_missing : ∀ entity name, r.require decoder attr = .error (.missing entity name) ↔
    r.get? attr = none ∧ entity = s.entity ∧ name = attr

theorem readsResolved (r : Record s) (attr : String) (decoder : Decoder α) :
    ReadsResolved r attr decoder where
  read_some a := by simp only [read?_eq_some_iff, get?_eq_iff_resolvesTo]
  read_none := by rw [read?_eq_none_iff, get?_eq_iff_resolvesTo]
  read_error fault := by simp only [read?_eq_error_iff, get?_eq_iff_resolvesTo]
  require_missing entity name := by
    have hread : r.read? decoder attr ≠ .error (.missing entity name) := by
      rw [ne_eq, read?_eq_error_iff]
      rintro ⟨v, mismatch, -, -, hfault⟩
      cases hfault
    rw [require_eq_error_iff, or_iff_right hread, RecordFault.missing.injEq]

end Reading

/-! ### The order of the tables -/

theorem stored?_of_samePresent (h : SamePresent r.raw r'.raw) (attr : String) :
    r.stored? attr = r'.stored? attr :=
  stored?_eq_of_present?_eq (h.agreeOn (s.readKeys attr))

/-- **An attribute is resolved in the order of the tables.**  It has the first value other than null
under its aliases and then under its name, else what the first entry of the fallbacks has for it,
else nothing.  A value under any of its keys, also one that does not count as set, keeps every
fallback out.  The attribute is read as what it resolves to, or refused for just that value, and
missed iff it resolves to nothing.  Records whose entries other than nulls are the same resolve it
alike. -/
theorem resolves_inTableOrder (r : Record s) (attr : String) :
    (∀ v?, r.get? attr = v? ↔ r.ResolvesTo attr v?) ∧
      r.get? attr ≠ some .null ∧
      (∀ k v, (k, attr) ∈ s.aliases ∨ k = attr → r.raw.get? k = some v → v ≠ .null →
        ∃ w, r.Gives attr w ∧ ∀ fallbacks, (r.withFallbacks fallbacks).get? attr = some w) ∧
      (∀ {α : Type} (decoder : Decoder α), ReadsResolved r attr decoder) ∧
      ∀ r' : Record s, SamePresent r.raw r'.raw →
        ResolvesAlike r r' attr ∧ r.text? attr = r'.text? attr := by
  refine ⟨fun v? => get?_eq_iff_resolvesTo, fun h => ?_, fun k v hk hget hv => ?_,
    fun decoder => readsResolved r attr decoder, fun r' h => ?_⟩
  · exact (get?_eq_iff_resolvesTo.1 h).ne_null rfl
  · obtain ⟨w, hw⟩ := exists_gives hk hget hv
    exact ⟨w, hw, get?_withFallbacks hw⟩
  · have hstored := stored?_of_samePresent h attr
    exact ⟨resolvesAlike_of_stored?_eq hstored, congrArg (·.bind Json.string?) hstored⟩

/-- Two attributes that are aliases of each other, with several fallbacks each. -/
def layeredSchema : Schema where
  entity := "layered"
  aliases := [("x", "flag"), ("flag", "x"), ("y", "flag")]
  fallbacks :=
    [("flag", .bool true), ("flag", .string "later"), ("x", .null), ("x", .string "later")]

/-- The value `false` under the second alias is neither passed over for the text under the name nor
replaced by `true`. -/
theorem resolves_inTableOrder_sample :
    let r : Record layeredSchema :=
      received (.ofList [("x", .null), ("y", .bool false), ("flag", .string "own")])
    let r' : Record layeredSchema :=
      received (.ofList [("flag", .string "own"), ("y", .bool false)])
    (("y", "flag") ∈ layeredSchema.aliases ∧ r.raw.get? "y" = some (.bool false) ∧
        Json.bool false ≠ .null) ∧
      SamePresent r.raw r'.raw ∧
      r.ResolvesTo "flag" (some (.bool false)) ∧
      (∃ w, r.Gives "flag" w ∧ ∀ fallbacks, (r.withFallbacks fallbacks).get? "flag" = some w) ∧
      r.read? .string "flag" =
        .error (.invalid "layered" "flag" (.kind (.bool false) "a string")) ∧
      ResolvesAlike r r' "flag" := by
  intro r r'
  have halias : ("y", "flag") ∈ layeredSchema.aliases := by decide
  have hget : r.raw.get? "y" = some (.bool false) := rfl
  have hsame : SamePresent r.raw r'.raw := by
    have hr : r.raw.toList = [("x", .null), ("y", .bool false), ("flag", .string "own")] := rfl
    have hr' : r'.raw.toList = [("flag", .string "own"), ("y", .bool false)] := rfl
    intro k v hv
    rw [hr, hr']
    simp only [List.mem_cons, Prod.mk.injEq, List.not_mem_nil, hv, and_false, false_or, or_false]
    exact or_comm
  obtain ⟨hresolves, -, hpresent, hreads, halike⟩ := resolves_inTableOrder r "flag"
  have hfalse : r.ResolvesTo "flag" (some (.bool false)) := (hresolves _).1 rfl
  refine ⟨⟨halias, hget, nofun⟩, hsame, hfalse, hpresent "y" _ (.inl halias) hget nofun, ?_,
    (halike r' hsame).1⟩
  exact ((hreads .string).read_error _).2 ⟨_, _, hfalse, rfl, rfl⟩

end Record

end AccessControl
