import AccessControl.Json.Decoder
import Mathlib.Data.List.Forall2
/-!
# When a computation that can fail succeeds

A decoding or a check is a sequence of steps of which the first that fails decides.  It succeeds iff
every step does (`bind_eq_ok_iff`), and a change of the reported failure changes nothing about that
(`mapError_eq_ok_iff`).
-/

namespace AccessControl

variable {α β ε ε' : Type}

theorem bind_eq_ok_iff {x : Except ε α} {f : α → Except ε β} {b : β} :
    x >>= f = .ok b ↔ ∃ a, x = .ok a ∧ f a = .ok b := by
  cases x <;> simp [bind, Except.bind]

theorem check_bind_eq_ok_iff {check : Except ε Unit} {x : Except ε β} {b : β} :
    (check >>= fun _ => x) = .ok b ↔ check = .ok () ∧ x = .ok b := by
  cases check <;> simp [bind, Except.bind]

theorem pure_eq_ok_iff {a b : α} : (pure a : Except ε α) = .ok b ↔ a = b := by
  simp [pure, Except.pure]

theorem mapError_eq_ok_iff {f : ε → ε'} {x : Except ε α} {a : α} :
    x.mapError f = .ok a ↔ x = .ok a := by
  cases x <;> simp [Except.mapError]

theorem map_eq_ok_iff {f : α → β} {x : Except ε α} {b : β} :
    x.map f = .ok b ↔ ∃ a, x = .ok a ∧ f a = b := by
  cases x <;> simp [Except.map]

theorem mapM_eq_ok_iff_forall₂ {f : α → Except ε β} {xs : List α} {ys : List β} :
    xs.mapM f = .ok ys ↔ List.Forall₂ (fun x y => f x = .ok y) xs ys := by
  rw [Decoder.mapM_eq_ok_iff]
  induction xs generalizing ys with
  | nil => cases ys <;> simp
  | cons x rest ih => cases ys <;> simp [ih]

theorem mem_iff_of_mapM_eq_ok {f : α → Except ε β} {xs : List α} {ys : List β}
    (h : xs.mapM f = .ok ys) {y : β} : y ∈ ys ↔ ∃ x ∈ xs, f x = .ok y := by
  have hmap : xs.map f = ys.map .ok := Decoder.mapM_eq_ok_iff.1 h
  have hmem : Except.ok y ∈ xs.map f ↔ y ∈ ys := by
    rw [hmap, List.mem_map]
    exact ⟨fun ⟨y', hy', e⟩ => Except.ok.inj e ▸ hy', fun hy => ⟨y, hy, rfl⟩⟩
  rw [← hmem, List.mem_map]

theorem exists_mem_of_mapM_eq_ok {f : α → Except ε β} {xs : List α} {ys : List β}
    (h : xs.mapM f = .ok ys) {x : α} (hx : x ∈ xs) : ∃ y ∈ ys, f x = .ok y := by
  have hmem : f x ∈ ys.map .ok := Decoder.mapM_eq_ok_iff.1 h ▸ List.mem_map_of_mem hx
  obtain ⟨y, hy, e⟩ := List.mem_map.1 hmem
  exact ⟨y, hy, e.symm⟩

end AccessControl
