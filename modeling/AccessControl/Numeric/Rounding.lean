/-!
# Rounding quotients to the nearest integer

A quotient of natural numbers is rounded to the nearest integer in exact arithmetic; the two
functions differ only where the quotient lies halfway between two integers.

* `roundHalfEven_near`, `roundHalfUp_near` : the result is at most one half away.
-/

namespace AccessControl

/-- The integer nearest to `num / den`; halfway between two, the even one. -/
def roundHalfEven (num den : Nat) : Nat :=
  let q := num / den
  let r := num % den
  if 2 * r < den then q else if den < 2 * r then q + 1 else q + q % 2

/-- The integer nearest to `num / den`; halfway between two, the larger one. -/
def roundHalfUp (num den : Nat) : Nat :=
  if 2 * (num % den) < den then num / den else num / den + 1

theorem roundHalfEven_near (num : Nat) {den : Nat} (h : 0 < den) :
    2 * num ≤ 2 * (roundHalfEven num den * den) + den ∧
      2 * (roundHalfEven num den * den) ≤ 2 * num + den := by
  have hd := Nat.div_add_mod' num den
  have hm := Nat.mod_lt num h
  have h2 := Nat.mod_lt (num / den) (show 0 < 2 by decide)
  unfold roundHalfEven
  simp only
  split
  · omega
  · split
    · rw [Nat.add_mul]; omega
    · rcases Nat.mod_two_eq_zero_or_one (num / den) with e | e <;> rw [e, Nat.add_mul] <;> omega

theorem roundHalfUp_near (num : Nat) {den : Nat} (h : 0 < den) :
    2 * num ≤ 2 * (roundHalfUp num den * den) + den ∧
      2 * (roundHalfUp num den * den) ≤ 2 * num + den := by
  have hd := Nat.div_add_mod' num den
  have hm := Nat.mod_lt num h
  unfold roundHalfUp
  split
  · omega
  · rw [Nat.add_mul]; omega

end AccessControl
