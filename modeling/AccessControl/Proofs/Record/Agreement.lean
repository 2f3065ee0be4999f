import AccessControl.Proofs.Record.Reading
/-!
# What a decoder depends on

Two objects agree on some keys when they have the same values other than null under them, whatever
other members they have and in whatever order.  A decoder that reads its attributes through a schema
cannot tell such objects apart, in what it accepts and in how it fails.

* `Record.stored?_of_agreeOn` : an attribute whose keys are among those on which two objects agree
  is the same in both.
* `Record.read?_of_agreeOn`, `Record.require_of_agreeOn` : then it also reads alike.
* `Record.stored?_rel` : what is related under each key of an attribute is related as its value.
* `mapM_congr` : items that decode alike make lists that decode alike.
-/

namespace AccessControl

/-! ### Agreement -/

/-- The value under a key, if there is one other than null. -/
def presentAt? (m : Entries Json) (k : String) : Option Json :=
  (m.get? k).filter fun v => !v.isNull

/-- Two objects have the same values other than null under some keys. -/
def AgreeOn (keys : List String) (m m' : Entries Json) : Prop :=
  ∀ k ∈ keys, presentAt? m k = presentAt? m' k

/-- Two objects have the same entries other than nulls, in any order. -/
def SamePresent (m m' : Entries Json) : Prop :=
  ∀ k v, v ≠ .null → ((k, v) ∈ m.toList ↔ (k, v) ∈ m'.toList)

/-- A decoder of objects depends only on the values other than null under some keys. -/
def DependsOnlyOn {α : Type} (decode : List (String × Json) → α) (keys : List String) : Prop :=
  ∀ members members', AgreeOn keys (Json.entries members) (Json.entries members') →
    decode members = decode members'

variable {keys keys' : List String} {m m' : Entries Json}

theorem presentAt?_eq_some_iff {k : String} {v : Json} :
    presentAt? m k = some v ↔ m.get? k = some v ∧ v ≠ .null := by
  rw [presentAt?, Option.filter_eq_some_iff, Bool.not_eq_true', Json.isNull_eq_false_iff]

theorem presentAt?_eq_none_iff {k : String} : presentAt? m k = none ↔ Absent m k := by
  rw [presentAt?, Absent]
  cases m.get? k with
  | none => simp
  | some v => cases v <;> simp [Json.isNull]

theorem AgreeOn.mono (h : AgreeOn keys m m') (hsub : keys' ⊆ keys) : AgreeOn keys' m m' :=
  fun k hk => h k (hsub hk)

theorem SamePresent.agreeOn (h : SamePresent m m') (keys : List String) : AgreeOn keys m m' := by
  intro k _
  refine Option.ext fun v => ?_
  rw [presentAt?_eq_some_iff, presentAt?_eq_some_iff, ← Entries.mem_toList, ← Entries.mem_toList]
  exact and_congr_left (h k v)

/-! ### Reading what is agreed on -/

theorem findSome?_rel {α β γ : Type} {R : β → γ → Prop} {f : α → Option β} {g : α → Option γ}
    {ks : List α} (h : ∀ k ∈ ks, Option.Rel R (f k) (g k)) :
    Option.Rel R (ks.findSome? f) (ks.findSome? g) := by
  induction ks with
  | nil => exact .none
  | cons k rest ih =>
    have hk := h k List.mem_cons_self
    have hrest := ih fun k' hk' => h k' (List.mem_cons_of_mem _ hk')
    rw [List.findSome?_cons, List.findSome?_cons]
    cases hf : f k <;> cases hg : g k <;> rw [hf, hg] at hk <;> cases hk
    · exact hrest
    · exact .some ‹_›

/-- The members that are not under any of some keys. -/
def Entries.without (m : Entries Json) (keys : List String) : Entries Json :=
  m.filter fun k _ => k ∉ keys

theorem Entries.get?_without {k : String} (h : k ∉ keys) :
    (m.without keys).get? k = m.get? k := by
  rw [without, get?_filter]
  cases m.get? k <;> simp [Option.filter, h]

theorem agreeOn_without (h : ∀ k ∈ keys', k ∉ keys) : AgreeOn keys' m (m.without keys) := by
  intro k hk
  rw [presentAt?, presentAt?, Entries.get?_without (h k hk)]

namespace Record

variable {s : Schema} {r r' : Record s} {attr : String} {α : Type}

theorem get?_congr (h : r.stored? attr = r'.stored? attr) : r.get? attr = r'.get? attr := by
  rw [get?, get?, h]

theorem read?_congr (h : r.stored? attr = r'.stored? attr) (decoder : Decoder α) :
    r.read? decoder attr = r'.read? decoder attr := by
  rw [read?, read?, get?_congr h]

/-- An attribute is the same in two objects that agree on its keys. -/
theorem stored?_of_agreeOn (h : AgreeOn keys m m') (hkeys : s.readKeys attr ⊆ keys) :
    (received m : Record s).stored? attr = (received m' : Record s).stored? attr :=
  stored?_eq_of_present?_eq fun k hk => h k (hkeys hk)

/-- It also reads alike, whatever it is read as. -/
theorem read?_of_agreeOn (h : AgreeOn keys m m') (hkeys : s.readKeys attr ⊆ keys)
    (decoder : Decoder α) :
    (received m : Record s).read? decoder attr = (received m' : Record s).read? decoder attr :=
  read?_congr (stored?_of_agreeOn h hkeys) decoder

theorem require_of_agreeOn (h : AgreeOn keys m m') (hkeys : s.readKeys attr ⊆ keys)
    (decoder : Decoder α) :
    (received m : Record s).require decoder attr =
      (received m' : Record s).require decoder attr := by
  rw [require, require, read?_of_agreeOn h hkeys]

/-- The values of an attribute are related in two objects if what is under each of its keys is. -/
theorem stored?_rel {R : Json → Json → Prop}
    (h : ∀ k ∈ s.readKeys attr, Option.Rel R (presentAt? m k) (presentAt? m' k)) :
    Option.Rel R ((received m : Record s).stored? attr) ((received m' : Record s).stored? attr) :=
  findSome?_rel h

end Record

/-! ### Lists -/

/-- Lists whose items decode alike, each to each, decode alike; the first item that fails is the
same in both. -/
theorem mapM_congr {α β ε : Type} {f : α → Except ε β} {xs ys : List α}
    (h : List.Forall₂ (fun x y => f x = f y) xs ys) : xs.mapM f = ys.mapM f := by
  induction h with
  | nil => rfl
  | cons hhead _ ih => rw [List.mapM_cons, List.mapM_cons, hhead, ih]

end AccessControl
