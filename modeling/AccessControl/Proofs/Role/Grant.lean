import AccessControl.Proofs.Record.Reading
import AccessControl.Role.Grant
/-!
# Grants and the values they arrive as

A grant has the role of its wire value and the origins that the value lists, or the user as its only
origin if the value lists none.  Whether the role was granted to the user can thus be told from the
wire value alone (`RoleGrant.IsGrantOf.isDirect_iff`).
-/

namespace AccessControl.RoleGrant

/-- The origins that a wire value lists, as they came; only an object lists any. -/
def originItems : Json → List Json
  | .object members => (itemsUnder? (Json.entries members) ["origins"]).getD []
  | _ => []

/-- A wire value names the user as an origin of its role, or no origin at all. -/
def IsDirectItem (item : Json) : Prop :=
  originItems item = [] ∨
    ∃ v ∈ originItems item, ∃ origin, Origin.decoder v = .ok origin ∧ origin.kind = .user

/-- A wire value names origins of its role, and all of them are groups. -/
def IsInheritedItem (item : Json) : Prop :=
  originItems item ≠ [] ∧
    ∀ v ∈ originItems item, ∃ origin, Origin.decoder v = .ok origin ∧ origin.kind = .group

/-- What a grant and its wire value have to do with each other. -/
structure IsGrantOf (item : Json) (g : RoleGrant) : Prop where
  role : Role.ofJson item = .ok g.role
  /-- The origins that are listed are those of the grant, in order. -/
  listed : originItems item ≠ [] → (originItems item).mapM Origin.decoder = .ok g.origins
  /-- A role without listed origins was granted to the user. -/
  unlisted : originItems item = [] → g.origins = [.user]
  origins_ne_nil : g.origins ≠ []

variable {item : Json} {g : RoleGrant}

theorem IsInheritedItem.not_isDirectItem (h : IsInheritedItem item) : ¬ IsDirectItem item := by
  rintro (hnil | ⟨v, hv, origin, hdecode, hkind⟩)
  · exact h.1 hnil
  · obtain ⟨origin', hdecode', hkind'⟩ := h.2 v hv
    rw [hdecode] at hdecode'
    cases hdecode'
    rw [hkind] at hkind'
    cases hkind'

theorem mapM_originItems {origins : List Origin} (h : listedOrigins item = .ok origins) :
    (originItems item).mapM Origin.decoder = .ok origins := by
  cases item with
  | object members =>
    simp only [listedOrigins, bind_eq_ok_iff, mapError_eq_ok_iff, pure_eq_ok_iff] at h
    obtain ⟨origins?, hread, rfl⟩ := h
    obtain ⟨items, hitems, hdecode⟩ := Record.exists_itemsUnder?_of_read?_list rfl hread
    have hkeys : schema.readKeys "origins" = ["origins"] := by decide
    have hraw : (Record.received (Json.entries members) : Record schema).raw =
        Json.entries members := rfl
    rw [hkeys, hraw] at hitems
    rwa [originItems, hitems]
  | _ =>
    cases h
    rfl

/-- **A grant that arrives has the role and the origins of its wire value.** -/
theorem isGrantOf_of_ofJson (h : ofJson item = .ok g) : IsGrantOf item g := by
  have hne := origins_ne_nil h
  simp only [ofJson, bind_eq_ok_iff, pure_eq_ok_iff] at h
  obtain ⟨role, hrole, origins, horigins, rfl⟩ := h
  have hitems := mapM_originItems horigins
  have hlength := (mapM_eq_ok_iff_forall₂.1 hitems).length_eq
  refine ⟨hrole, fun hlisted => ?_, fun hunlisted => ?_, hne⟩
  · have horigins : origins ≠ [] := by
      rintro rfl
      exact hlisted (List.eq_nil_of_length_eq_zero hlength)
    rw [hitems, orDirect, if_neg horigins]
  · rw [hunlisted] at hlength
    rw [orDirect, if_pos (List.eq_nil_of_length_eq_zero hlength.symm)]

theorem isDirect_iff : g.isDirect ↔ ∃ o ∈ g.origins, o.kind = .user := by
  simp [isDirect]

/-- Whether a role was granted to the user can be told from its wire value. -/
theorem IsGrantOf.isDirect_iff (h : IsGrantOf item g) : g.isDirect ↔ IsDirectItem item := by
  rw [RoleGrant.isDirect_iff, IsDirectItem]
  -- without listed origins both sides hold by the rule for them
  by_cases hitems : originItems item = []
  · simp [hitems, h.unlisted hitems, Origin.user]
  · have hdecode := h.listed hitems
    constructor
    · rintro ⟨o, ho, hkind⟩
      obtain ⟨v, hv, ho⟩ := (mem_iff_of_mapM_eq_ok hdecode).1 ho
      exact .inr ⟨v, hv, o, ho, hkind⟩
    · rintro (hnil | ⟨v, hv, o, ho, hkind⟩)
      · exact absurd hnil hitems
      · exact ⟨o, (mem_iff_of_mapM_eq_ok hdecode).2 ⟨v, hv, ho⟩, hkind⟩

end AccessControl.RoleGrant
