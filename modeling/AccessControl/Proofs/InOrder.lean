import AccessControl.Proofs.Success
/-!
# Lists that are read in order, all or nothing

The items of a list are read one after the other.  The list is read as what its items are read as,
none left out and none moved; if an item is refused, the first such item says why the list is.

* `mapM_eq_error_iff` : steps on the items of a list fail as the first of them that does.
* `readsInOrder_mapM`, `readsInOrder_bind` : what is made of all items is read in order.
-/

namespace AccessControl

variable {α β γ ε ε' : Type}

/-- The first item of a list that is refused, and why: all items before it are read. -/
def FirstRefusal (read : α → Except ε β) (items : List α) (fault : ε) : Prop :=
  ∃ before item after, items = before ++ item :: after ∧
    (∀ x ∈ before, ∃ y, read x = .ok y) ∧ read item = .error fault

/-- A result is that of reading the items of a list in order, all or nothing, where what is read
holds the results of the items. -/
structure ReadsInOrder (read : α → Except ε β) (items : List α) (Holds : γ → List β → Prop)
    (result : Except ε γ) : Prop where
  /-- If every item is read, so is the list. -/
  accepted : ∀ ys, List.Forall₂ (fun x y => read x = .ok y) items ys →
    ∃ c, result = .ok c ∧ Holds c ys
  /-- What is read has one result an item, each in its place. -/
  complete : ∀ c, result = .ok c →
    ∃ ys, List.Forall₂ (fun x y => read x = .ok y) items ys ∧ Holds c ys
  /-- The list is refused as its first item that is refused. -/
  refused : ∀ fault, result = .error fault ↔ FirstRefusal read items fault

section FirstRefusal

variable {read : α → Except ε β} {x : α} {rest : List α} {fault : ε}

theorem not_firstRefusal_nil : ¬ FirstRefusal read [] fault := by
  rintro ⟨before, item, after, h, -, -⟩
  simp at h

theorem firstRefusal_cons_of_error {e : ε} (h : read x = .error e) :
    FirstRefusal read (x :: rest) fault ↔ e = fault := by
  constructor
  · rintro ⟨before, item, after, hitems, hbefore, hitem⟩
    cases before with
    | nil =>
      obtain ⟨rfl, rfl⟩ := List.cons.inj hitems
      exact Except.error.inj (h.symm.trans hitem)
    | cons x' before =>
      -- the first item would have been read
      obtain ⟨rfl, -⟩ := List.cons.inj hitems
      obtain ⟨y, hy⟩ := hbefore x List.mem_cons_self
      cases h.symm.trans hy
  · rintro rfl
    exact ⟨[], x, rest, rfl, List.forall_mem_nil _, h⟩

theorem firstRefusal_cons_of_ok {y : β} (h : read x = .ok y) :
    FirstRefusal read (x :: rest) fault ↔ FirstRefusal read rest fault := by
  constructor
  · rintro ⟨before, item, after, hitems, hbefore, hitem⟩
    cases before with
    | nil =>
      obtain ⟨rfl, rfl⟩ := List.cons.inj hitems
      cases h.symm.trans hitem
    | cons x' before =>
      obtain ⟨rfl, rfl⟩ := List.cons.inj hitems
      exact ⟨before, item, after, rfl, (List.forall_mem_cons.1 hbefore).2, hitem⟩
  · rintro ⟨before, item, after, rfl, hbefore, hitem⟩
    exact ⟨x :: before, item, after, rfl, List.forall_mem_cons.2 ⟨⟨y, h⟩, hbefore⟩, hitem⟩

end FirstRefusal

theorem bind_pure_eq_error_iff {result : Except ε α} {make : α → γ} {fault : ε} :
    (result >>= fun a => pure (make a)) = .error fault ↔ result = .error fault := by
  cases result <;> simp [bind, Except.bind, pure, Except.pure]

section MapM

variable {read : α → Except ε β} {items : List α}

/-- **Steps on the items of a list fail as the first of them that does.** -/
theorem mapM_eq_error_iff {fault : ε} :
    items.mapM read = .error fault ↔ FirstRefusal read items fault := by
  induction items with
  | nil => exact ⟨nofun, fun h => absurd h not_firstRefusal_nil⟩
  | cons x rest ih =>
    rw [List.mapM_cons]
    cases hx : read x with
    | error e =>
      rw [firstRefusal_cons_of_error hx]
      exact ⟨Except.error.inj, congrArg Except.error⟩
    | ok y =>
      rw [firstRefusal_cons_of_ok hx, ← ih]
      exact bind_pure_eq_error_iff

theorem mapM_mapError (f : ε → ε') :
    (items.mapM read).mapError f = items.mapM fun x => (read x).mapError f := by
  induction items with
  | nil => rfl
  | cons x rest ih =>
    rw [List.mapM_cons, List.mapM_cons, ← ih]
    cases read x with
    | error e => rfl
    | ok y => cases rest.mapM read <;> rfl

variable {Holds : γ → List β → Prop}

/-- What is made of all items by a last step that does not fail is read in order. -/
theorem readsInOrder_bind {make : List β → γ} (h : ∀ ys, Holds (make ys) ys) :
    ReadsInOrder read items Holds (items.mapM read >>= fun ys => pure (make ys)) := by
  refine ⟨fun ys hys => ⟨make ys, ?_, h ys⟩, fun c hc => ?_, fun fault => ?_⟩
  · rw [mapM_eq_ok_iff_forall₂.2 hys]
    rfl
  · obtain ⟨ys, hys, hmake⟩ := bind_eq_ok_iff.1 hc
    cases hmake
    exact ⟨ys, mapM_eq_ok_iff_forall₂.1 hys, h ys⟩
  · rw [bind_pure_eq_error_iff, mapM_eq_error_iff]

theorem readsInOrder_mapM : ReadsInOrder read items Eq (items.mapM read) := by
  have h : ReadsInOrder read items Eq (items.mapM read >>= fun ys => pure (id ys)) :=
    readsInOrder_bind fun _ => rfl
  rwa [show (items.mapM read >>= fun ys => pure (id ys)) = items.mapM read from bind_pure _] at h

end MapM

end AccessControl
