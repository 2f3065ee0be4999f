import AccessControl.Numeric.Double
import Mathlib.Algebra.Order.Field.Power
import Mathlib.Algebra.Order.Field.Rat
import Mathlib.Algebra.Order.Floor.Semifield
import Mathlib.Data.Rat.Floor
import Mathlib.Tactic.FieldSimp
import Mathlib.Tactic.Linarith
import Mathlib.Tactic.Positivity
/-!
# Rounding to the nearest double

A number that is not zero has its nearest double on the grid of one power of two, the one on which
its magnitude has 53 bits.  There the coefficient is the magnitude in units of the grid, rounded to
an integer, so it is missed by half a unit at most, and it reaches an even coefficient iff the
number is not more than half a unit below.

* `le_roundHalfUp_iff`, `le_roundHalfEven_iff` : when a rounded quotient reaches an integer.
* `Double.isGrid_exponentOf` : the grid of a quotient.
* `Double.exists_onGrid_nearest` : the nearest double of a number is on its grid.
* `Double.abs_toRat_nearest_sub_le` : how much of a number is lost.
* `Double.le_toRat_nearest_iff` : when the nearest double reaches an even coefficient.
-/

namespace AccessControl

/-! ### Rounding quotients to integers -/

section Quotients

variable {n r num den : ℕ}

theorem abs_sub_div_le (hden : 0 < den)
    (h : 2 * num ≤ 2 * (r * den) + den ∧ 2 * (r * den) ≤ 2 * num + den) :
    |(r : ℚ) - num / den| ≤ 1 / 2 := by
  obtain ⟨hlow, hhigh⟩ := h
  have hden' : (0 : ℚ) < den := by exact_mod_cast hden
  have hlow' : (2 * num : ℚ) ≤ 2 * (r * den) + den := by exact_mod_cast hlow
  have hhigh' : (2 * (r * den) : ℚ) ≤ 2 * num + den := by exact_mod_cast hhigh
  have hnum : (num / den : ℚ) * den = num := div_mul_cancel₀ _ hden'.ne'
  rw [abs_le]
  constructor <;> refine le_of_mul_le_mul_right ?_ hden' <;> rw [sub_mul, hnum] <;> linarith

theorem le_div_iff_twice (hden : 0 < den) :
    2 * (n * den) ≤ 2 * num + den ↔ (n : ℚ) - 1 / 2 ≤ num / den := by
  have hden' : (0 : ℚ) < den := by exact_mod_cast hden
  have hcast : 2 * (n * den) ≤ 2 * num + den ↔ (2 * (n * den) : ℚ) ≤ 2 * num + den := by
    exact_mod_cast Iff.rfl
  rw [hcast, le_div_iff₀ hden']
  constructor <;> intro h <;> linarith

theorem lt_roundHalfUp (hden : 0 < den) :
    2 * num < 2 * (roundHalfUp num den * den) + den := by
  have hdiv := Nat.div_add_mod' num den
  have hmod := Nat.mod_lt num hden
  unfold roundHalfUp
  split
  · omega
  · rw [Nat.add_mul]
    omega

theorem roundHalfEven_mod_two_of_half (hden : 0 < den)
    (h : 2 * num = 2 * (roundHalfEven num den * den) + den) : roundHalfEven num den % 2 = 0 := by
  have hdiv := Nat.div_add_mod' num den
  have hmod := Nat.mod_lt num hden
  revert h
  unfold roundHalfEven
  simp only
  split
  · omega
  · split
    · rw [Nat.add_mul]
      omega
    · omega

theorem sub_half_le_of_le (hden : 0 < den) (hhigh : 2 * (r * den) ≤ 2 * num + den) (h : n ≤ r) :
    (n : ℚ) - 1 / 2 ≤ num / den := by
  have hmul := Nat.mul_le_mul_right den h
  exact (le_div_iff_twice hden).1 (by omega)

theorem twice_add_le_of_lt (h : r < n) : 2 * (r * den) + 2 * den ≤ 2 * (n * den) := by
  have hmul := Nat.mul_le_mul_right den h
  rw [Nat.succ_mul] at hmul
  omega

/-- Rounded with halves upwards, a quotient reaches an integer iff it is not more than a half
below. -/
theorem le_roundHalfUp_iff (hden : 0 < den) :
    n ≤ roundHalfUp num den ↔ (n : ℚ) - 1 / 2 ≤ num / den := by
  refine ⟨sub_half_le_of_le hden (roundHalfUp_near num hden).2, fun h => ?_⟩
  rw [← le_div_iff_twice hden] at h
  by_contra hn
  have hbelow : 2 * (roundHalfUp num den * den) + 2 * den ≤ 2 * (n * den) :=
    twice_add_le_of_lt (not_le.1 hn)
  have hcut : 2 * num < 2 * (roundHalfUp num den * den) + den := lt_roundHalfUp hden
  omega

/-- Rounded with halves to even, a quotient reaches an even integer iff it is not more than a half
below. -/
theorem le_roundHalfEven_iff (hden : 0 < den) (heven : n % 2 = 0) :
    n ≤ roundHalfEven num den ↔ (n : ℚ) - 1 / 2 ≤ num / den := by
  obtain ⟨hlow, hhigh⟩ := roundHalfEven_near num hden
  refine ⟨sub_half_le_of_le hden hhigh, fun h => ?_⟩
  rw [← le_div_iff_twice hden] at h
  by_contra hn
  have hbelow : 2 * (roundHalfEven num den * den) + 2 * den ≤ 2 * (n * den) :=
    twice_add_le_of_lt (not_le.1 hn)
  -- the quotient is halfway between the integer and the one below, which is odd
  have hhalf : 2 * num = 2 * (roundHalfEven num den * den) + den := by omega
  have hnext : n * den ≤ (roundHalfEven num den + 1) * den := by
    rw [Nat.succ_mul]
    omega
  have hle := Nat.le_of_mul_le_mul_right hnext hden
  have hodd := roundHalfEven_mod_two_of_half hden hhalf
  omega

theorem roundHalfEven_le (hden : 0 < den) (h : (num / den : ℚ) < n) :
    roundHalfEven num den ≤ n := by
  have hnear := (abs_le.1 (abs_sub_div_le hden (roundHalfEven_near num hden))).2
  have hlt : (roundHalfEven num den : ℚ) < (n + 1 : ℕ) := by
    push_cast
    linarith
  exact Nat.lt_succ_iff.1 (Nat.cast_lt.1 hlt)

end Quotients

/-! ### Powers of two -/

theorem two_zpow_eq_div (e : ℤ) : (2 : ℚ) ^ e = 2 ^ e.toNat / 2 ^ (-e).toNat := by
  have he : e = (e.toNat : ℤ) - ((-e).toNat : ℤ) := by omega
  conv_lhs => rw [he, zpow_sub₀ two_ne_zero, zpow_natCast, zpow_natCast]

theorem two_zpow_pos (e : ℤ) : (0 : ℚ) < 2 ^ e := zpow_pos two_pos e

theorem two_zpow_le {e e' : ℤ} (h : e ≤ e') : (2 : ℚ) ^ e ≤ 2 ^ e' :=
  zpow_le_zpow_right₀ one_le_two h

theorem lt_of_two_zpow_lt {e e' : ℤ} (h : (2 : ℚ) ^ e < 2 ^ e') : e < e' :=
  (zpow_lt_zpow_iff_right₀ one_lt_two).1 h

theorem div_two_zpow_lt_iff {q : ℚ} {e : ℤ} {k : ℕ} : q / 2 ^ e < 2 ^ k ↔ q < 2 ^ (e + k) := by
  rw [div_lt_iff₀ (two_zpow_pos e), zpow_add₀ two_ne_zero, zpow_natCast, mul_comm]

theorem le_div_two_zpow_iff {q : ℚ} {e : ℤ} {k : ℕ} : 2 ^ k ≤ q / 2 ^ e ↔ 2 ^ (e + k) ≤ q := by
  rw [← not_lt, div_two_zpow_lt_iff, not_lt]

namespace Double

/-! ### The grid of a number -/

/-- The grid of a power of two is the one on which a number without its sign is rounded. -/
structure IsGrid (q : ℚ) (e : ℤ) : Prop where
  finest : -1074 ≤ e
  /-- The number has at most 53 bits on the grid. -/
  lt : q < 2 ^ (e + 53)
  /-- It has fewer only on the finest grid. -/
  le : -1074 < e → (2 : ℚ) ^ (e + 52) ≤ q

namespace IsGrid

variable {q : ℚ} {e n : ℤ}

theorem exponent_le (h : IsGrid q e) (hq : q < 2 ^ n) (hn : -1021 ≤ n) : e ≤ n - 53 := by
  by_contra hlt
  have hbits := lt_of_two_zpow_lt ((h.le (by omega)).trans_lt hq)
  omega

theorem exponent_eq (h : IsGrid q e) (hlow : 2 ^ n ≤ q) (hhigh : q < 2 ^ (n + 1))
    (hn : -1022 ≤ n) : e = n - 52 := by
  have hle := h.exponent_le hhigh (by omega)
  have hbits := lt_of_two_zpow_lt (hlow.trans_lt h.lt)
  omega

end IsGrid

theorem isGrid_max {q : ℚ} {low : ℤ} (hlow : (2 : ℚ) ^ (low + 52) ≤ q)
    (hhigh : q < 2 ^ (low + 53)) : IsGrid q (max low (-1074)) := by
  refine ⟨le_max_right _ _, hhigh.trans_le (two_zpow_le (by omega)), fun h => ?_⟩
  have hmax : max low (-1074) = low := by omega
  rwa [hmax]

section Quotients

variable {num den : ℕ} {e : ℤ}

theorem scaled_div_scaled (num den : ℕ) (e : ℤ) :
    ((num * 2 ^ (-e).toNat : ℕ) : ℚ) / (den * 2 ^ e.toNat : ℕ) = (num / den : ℚ) / 2 ^ e := by
  rw [two_zpow_eq_div]
  push_cast
  field_simp

theorem zpow_lt_div (hnum : 0 < num) (hden : 0 < den) :
    (2 : ℚ) ^ ((num.log2 : ℤ) - den.log2 - 1) < num / den ∧
      (num / den : ℚ) < 2 ^ ((num.log2 : ℤ) - den.log2 + 1) := by
  have hden' : (0 : ℚ) < den := by exact_mod_cast hden
  have hnumlow : ((2 ^ num.log2 : ℕ) : ℚ) ≤ num := by
    exact_mod_cast Nat.log2_self_le hnum.ne'
  have hnumhigh : (num : ℚ) < (2 ^ (num.log2 + 1) : ℕ) := by
    exact_mod_cast Nat.lt_log2_self
  have hdenlow : ((2 ^ den.log2 : ℕ) : ℚ) ≤ den := by
    exact_mod_cast Nat.log2_self_le hden.ne'
  have hdenhigh : (den : ℚ) < (2 ^ (den.log2 + 1) : ℕ) := by
    exact_mod_cast Nat.lt_log2_self
  have hlow : (2 : ℚ) ^ ((num.log2 : ℤ) - den.log2 - 1) =
      (2 ^ num.log2 : ℕ) / (2 ^ (den.log2 + 1) : ℕ) := by
    rw [sub_sub, zpow_sub₀ two_ne_zero]
    push_cast
    norm_cast
  have hhigh : (2 : ℚ) ^ ((num.log2 : ℤ) - den.log2 + 1) =
      (2 ^ (num.log2 + 1) : ℕ) / (2 ^ den.log2 : ℕ) := by
    rw [sub_add_eq_add_sub, zpow_sub₀ two_ne_zero]
    push_cast
    norm_cast
  rw [hlow, hhigh]
  constructor
  · exact div_lt_div₀' hnumlow hdenhigh (by positivity) (by positivity)
  · exact div_lt_div₀ hnumhigh hdenlow (by positivity) (by positivity)

/-- **The exponent of a quotient is that of its grid.** -/
theorem isGrid_exponentOf (hnum : 0 < num) (hden : 0 < den) :
    IsGrid (num / den) (exponentOf num den) := by
  obtain ⟨hlow, hhigh⟩ := zpow_lt_div hnum hden
  have hden' : (0 : ℚ) < den := by exact_mod_cast hden
  unfold exponentOf
  simp only
  generalize (num.log2 : ℤ) - den.log2 = k at *
  have hcompare : den * 2 ^ k.toNat ≤ num * 2 ^ (-k).toNat ↔ (2 : ℚ) ^ k ≤ num / den := by
    have hcast : den * 2 ^ k.toNat ≤ num * 2 ^ (-k).toNat ↔
        (den * 2 ^ k.toNat : ℚ) ≤ num * 2 ^ (-k).toNat := by exact_mod_cast Iff.rfl
    rw [two_zpow_eq_div, div_le_div_iff₀ (by positivity) hden', hcast, mul_comm (den : ℚ)]
  split
  · rename_i h
    refine isGrid_max ?_ ?_
    · rw [sub_add_cancel]
      exact hcompare.1 h
    · rwa [sub_add, sub_eq_add_neg]
  · rename_i h
    refine isGrid_max ?_ ?_
    · have hexp : k - 53 + 52 = k - 1 := by omega
      rw [hexp]
      exact hlow.le
    · rw [sub_add_cancel]
      exact not_le.1 (mt hcompare.2 h)

end Quotients

/-! ### The double of a quotient -/

/-- The number without its sign. -/
def magnitude (x : Double) : ℚ := x.coefficient * 2 ^ x.exponent

theorem toRat_eq (x : Double) : x.toRat = if x.negative then -x.magnitude else x.magnitude := rfl

theorem magnitude_nonneg (x : Double) : 0 ≤ x.magnitude :=
  mul_nonneg (Nat.cast_nonneg _) (two_zpow_pos _).le

theorem quotient_div (x : Double) : (x.quotient.1 : ℚ) / x.quotient.2 = x.magnitude := by
  have h := two_zpow_eq_div x.exponent
  rw [magnitude, h, quotient]
  push_cast
  exact mul_div_assoc _ _ _

theorem quotient_pos (x : Double) : 0 < x.quotient.2 := Nat.two_pow_pos _

/-- A number without its sign is rounded on its grid to a double. -/
structure OnGrid (q : ℚ) (e : ℤ) (x : Double) : Prop extends IsGrid q e where
  /-- The number of units is rounded to an integer. -/
  rounded : ∃ num den : ℕ, 0 < den ∧ (num / den : ℚ) = q / 2 ^ e ∧
    x.magnitude = roundHalfEven num den * 2 ^ e

/-- A coefficient below `2 ^ 53` at an exponent in range is a double, if it fills its bits or the
exponent is the least. -/
theorem exists_ofParts? {c : ℕ} {e : ℤ} (negative : Bool) (hc : c < 2 ^ 53) (hfinest : -1074 ≤ e)
    (he : e ≤ 971) (hnormal : 2 ^ 52 ≤ c ∨ e = -1074) :
    ∃ x, ofParts? negative c e = some x ∧ x.negative = negative ∧ x.magnitude = c * 2 ^ e :=
  ⟨_, dif_pos ⟨hc, hfinest, he, hnormal⟩, rfl, rfl⟩

/-- A coefficient of all its bits and one more is carried over into the exponent. -/
theorem exists_ofParts?_carried {c : ℕ} {e : ℤ} (negative : Bool) (hc : c ≤ 2 ^ 53)
    (hfinest : -1074 ≤ e) (he : e ≤ 970) (hnormal : 2 ^ 52 ≤ c ∨ e = -1074) :
    ∃ x, (if c = 2 ^ 53 then ofParts? negative (2 ^ 52) (e + 1) else ofParts? negative c e) =
      some x ∧ x.negative = negative ∧ x.magnitude = c * 2 ^ e := by
  split
  · rename_i hcarry
    obtain ⟨x, hx, hsign, hmagnitude⟩ :=
      exists_ofParts? (c := 2 ^ 52) (e := e + 1) negative (by decide) (by omega) (by omega)
        (.inl le_rfl)
    refine ⟨x, hx, hsign, ?_⟩
    rw [hmagnitude, hcarry, zpow_add₀ two_ne_zero]
    push_cast
    linarith
  · rename_i hfits
    exact exists_ofParts? negative (lt_of_le_of_ne hc hfits) hfinest (by omega) hnormal

/-- A quotient that is not too large has a double, of the sign that is asked for. -/
theorem exists_ofQuotient? {num den : ℕ} (negative : Bool) (hnum : 0 < num) (hden : 0 < den)
    (hlt : (num / den : ℚ) < 2 ^ (1000 : ℤ)) :
    ∃ x e, ofQuotient? negative num den = some x ∧ x.negative = negative ∧
      OnGrid (num / den) e x := by
  have hgrid := isGrid_exponentOf hnum hden
  rw [ofQuotient?, if_neg hnum.ne']
  simp only
  generalize exponentOf num den = e at *
  have hunits := scaled_div_scaled num den e
  have hden' : 0 < den * 2 ^ e.toNat := Nat.mul_pos hden (Nat.two_pow_pos _)
  generalize num * 2 ^ (-e).toNat = a at *
  generalize den * 2 ^ e.toNat = b at *
  have he : e ≤ 970 := by
    have := hgrid.exponent_le hlt (by omega)
    omega
  have hle : roundHalfEven a b ≤ 2 ^ 53 := by
    refine roundHalfEven_le hden' ?_
    rw [hunits, Nat.cast_pow]
    exact div_two_zpow_lt_iff.2 hgrid.lt
  have hnormal : 2 ^ 52 ≤ roundHalfEven a b ∨ e = -1074 := by
    rcases hgrid.finest.lt_or_eq with hcoarse | hfinest
    · have hfill : (2 ^ 52 : ℚ) ≤ (num / den : ℚ) / 2 ^ e :=
        le_div_two_zpow_iff.2 (hgrid.le hcoarse)
      refine .inl ((le_roundHalfEven_iff hden' (by decide)).2 ?_)
      rw [hunits, Nat.cast_pow, Nat.cast_ofNat]
      linarith
    · exact .inr hfinest.symm
  obtain ⟨x, hx, hsign, hmagnitude⟩ :=
    exists_ofParts?_carried negative hle hgrid.finest he hnormal
  exact ⟨x, e, hx, hsign, hgrid, a, b, hden', hunits, hmagnitude⟩

/-! ### The nearest double -/

theorem ofQuotient?_negative {negative : Bool} {num den : ℕ} {x : Double}
    (h : ofQuotient? negative num den = some x) : x.negative = negative := by
  have hparts : ∀ {c e}, ofParts? negative c e = some x → x.negative = negative := by
    intro c e hx
    unfold ofParts? at hx
    split at hx
    · injection hx with hx
      rw [← hx]
    · contradiction
  unfold ofQuotient? at h
  simp only at h
  split at h
  · injection h with h
    rw [← h, zero]
  · split at h <;> exact hparts h

theorem nearest_negative (q : ℚ) : (nearest q).negative = decide (q < 0) := by
  unfold nearest
  simp only
  cases h : ofQuotient? (decide (q < 0)) q.num.natAbs q.den with
  | none => rfl
  | some x => exact ofQuotient?_negative h

theorem magnitude_nearest_zero : (nearest 0).magnitude = 0 := by
  simp [nearest, ofQuotient?, magnitude, zero]

/-- **The nearest double of a number is on its grid**, unless the number is zero or too large. -/
theorem exists_onGrid_nearest {q : ℚ} (hq : q ≠ 0) (hlt : |q| < 2 ^ (1000 : ℤ)) :
    ∃ e, OnGrid |q| e (nearest q) := by
  have habs : |q| = (q.num.natAbs : ℚ) / q.den := by
    rw [Rat.abs_def, Rat.divInt_eq_div, Int.cast_natCast, Int.cast_natCast]
  rw [habs] at hlt ⊢
  obtain ⟨x, e, hx, -, hgrid⟩ := exists_ofQuotient? (decide (q < 0))
    (Int.natAbs_pos.2 (Rat.num_ne_zero.2 hq)) q.den_pos hlt
  refine ⟨e, ?_⟩
  rwa [nearest, hx, Option.getD_some]

namespace OnGrid

variable {q : ℚ} {e : ℤ} {x : Double}

theorem abs_sub_le (h : OnGrid q e x) : |x.magnitude - q| ≤ 2 ^ (e - 1) := by
  obtain ⟨num, den, hden, hq, hx⟩ := h.rounded
  have hpos := two_zpow_pos e
  have hnear := abs_sub_div_le hden (roundHalfEven_near num hden)
  rw [hq] at hnear
  have hunits : x.magnitude - q = (roundHalfEven num den - q / 2 ^ e) * 2 ^ e := by
    rw [hx, sub_mul, div_mul_cancel₀ _ hpos.ne']
  calc |x.magnitude - q| = |(roundHalfEven num den : ℚ) - q / 2 ^ e| * 2 ^ e := by
        rw [hunits, abs_mul, abs_of_pos hpos]
    _ ≤ 1 / 2 * 2 ^ e := by gcongr
    _ = 2 ^ (e - 1) := by rw [zpow_sub₀ two_ne_zero, zpow_one]; linarith

/-- A number is rounded to an even number of units, or beyond it, iff it is not more than half a
unit below. -/
theorem le_magnitude_iff {m : ℕ} (h : OnGrid q e x) (heven : m % 2 = 0) :
    m * 2 ^ e ≤ x.magnitude ↔ (m - 1 / 2) * 2 ^ e ≤ q := by
  obtain ⟨num, den, hden, hq, hx⟩ := h.rounded
  have hpos := two_zpow_pos e
  rw [hx, mul_le_mul_iff_of_pos_right hpos, Nat.cast_le, le_roundHalfEven_iff hden heven, hq,
    le_div_iff₀ hpos]

end OnGrid

theorem abs_toRat_nearest_sub (q : ℚ) :
    |(nearest q).toRat - q| = |(nearest q).magnitude - (|q|)| := by
  rw [toRat_eq, nearest_negative]
  rcases lt_or_ge q 0 with h | h
  · rw [decide_eq_true h, if_pos rfl, abs_of_neg h, abs_sub_comm, sub_neg_eq_add,
      sub_neg_eq_add, add_comm]
  · rw [decide_eq_false (not_lt.2 h), if_neg Bool.false_ne_true, abs_of_nonneg h]

/-- **How much of a number is lost**: half a unit of the grid for numbers of its size. -/
theorem abs_toRat_nearest_sub_le {q : ℚ} {n : ℤ} (hlow : -1021 ≤ n) (hhigh : n ≤ 1000)
    (hq : |q| < 2 ^ n) : |(nearest q).toRat - q| ≤ 2 ^ (n - 54) := by
  rw [abs_toRat_nearest_sub]
  rcases eq_or_ne q 0 with rfl | hne
  · rw [magnitude_nearest_zero, abs_zero, sub_zero, abs_zero]
    exact (two_zpow_pos _).le
  · obtain ⟨e, hgrid⟩ := exists_onGrid_nearest hne (hq.trans_le (two_zpow_le hhigh))
    have he := hgrid.exponent_le hq hlow
    exact hgrid.abs_sub_le.trans (two_zpow_le (by omega))

/-- **When the nearest double reaches an even coefficient**: if the number is not more than half a
unit below. -/
theorem le_toRat_nearest_iff {q : ℚ} {n : ℤ} {m : ℕ} (hlow : 2 ^ n ≤ q) (hhigh : q < 2 ^ (n + 1))
    (hn : -1022 ≤ n) (hn' : n < 1000) (heven : m % 2 = 0) :
    m * 2 ^ (n - 52) ≤ (nearest q).toRat ↔ (m - 1 / 2) * 2 ^ (n - 52) ≤ q := by
  have hpos : 0 < q := (two_zpow_pos n).trans_le hlow
  obtain ⟨e, hgrid⟩ := exists_onGrid_nearest hpos.ne' (by
    rw [abs_of_pos hpos]
    exact hhigh.trans_le (two_zpow_le (by omega)))
  rw [abs_of_pos hpos] at hgrid
  rw [toRat_eq, nearest_negative, decide_eq_false hpos.not_gt, if_neg Bool.false_ne_true,
    ← hgrid.exponent_eq hlow hhigh hn]
  exact hgrid.le_magnitude_iff heven

/-! ### Parts of a double -/

section Parts

variable {x : Double} {n : ℕ}

theorem roundToNat_of_negative (h : x.negative) : x.roundToNat = 0 := if_pos h

theorem abs_roundToNat_sub_le (h : x.negative = false) : |x.roundToNat - x.toRat| ≤ 1 / 2 := by
  rw [roundToNat, toRat_eq, h, if_neg Bool.false_ne_true, if_neg Bool.false_ne_true,
    ← quotient_div]
  exact abs_sub_div_le x.quotient_pos (roundHalfUp_near _ x.quotient_pos)

theorem le_roundToNat_iff (h : x.negative = false) : n ≤ x.roundToNat ↔ n - 1 / 2 ≤ x.toRat := by
  rw [roundToNat, toRat_eq, h, if_neg Bool.false_ne_true, if_neg Bool.false_ne_true,
    ← quotient_div]
  exact le_roundHalfUp_iff x.quotient_pos

theorem quotient_bounds (x : Double) :
    (x.quotient.1 / x.quotient.2 : ℕ) ≤ x.magnitude ∧
      x.magnitude < (x.quotient.1 / x.quotient.2 : ℕ) + 1 := by
  rw [← Nat.floor_div_eq_div (K := ℚ), quotient_div]
  exact ⟨Nat.floor_le x.magnitude_nonneg, Nat.lt_floor_add_one _⟩

theorem fraction_bounds (h : x.negative = false) : 0 ≤ x.fraction ∧ x.fraction < 1 := by
  obtain ⟨hlow, hhigh⟩ := x.quotient_bounds
  rw [fraction, truncate, toRat_eq, h, if_neg Bool.false_ne_true]
  simp only [Bool.false_eq_true, if_false, Int.cast_natCast]
  constructor <;> linarith

theorem fraction_bounds_of_negative (h : x.negative) : -1 < x.fraction ∧ x.fraction ≤ 0 := by
  obtain ⟨hlow, hhigh⟩ := x.quotient_bounds
  rw [fraction, truncate, toRat_eq, if_pos h]
  simp only [h, if_true, Int.cast_neg, Int.cast_natCast]
  constructor <;> linarith

end Parts

end Double

end AccessControl
