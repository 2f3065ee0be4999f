import AccessControl.Account
import AccessControl.Proofs.Numeric.Nearest
import Mathlib.Tactic.NormNum
/-!
# The instant of a change of password

The number of seconds since the epoch is cut into an integer and a fraction, the fraction is made
nanoseconds, and the two are put together again.  Two things are lost on the way.  The nanoseconds
of a negative fraction are zero, so that an instant before the epoch comes out at the end of the
second in which it lies.  And a fraction that is within half a nanosecond of one is made a thousand
million nanoseconds, which are not carried over into the seconds: an instant holds them only at the
end of a minute, as a leap second.  Elsewhere the instant is less than a nanosecond away.

* `Double.nanoseconds_of_fraction_neg`, `Double.abs_nanoseconds_sub_le`,
  `Double.le_nanoseconds_iff` : what is made of a fraction.
* `Instant.ofDouble?_of_roundsUp` : a whole second is not carried over.
* `Account.tellsChange_iff` : when the instant of a change is the one that is meant.
-/

namespace AccessControl

/-! ### What a fraction becomes -/

namespace Double

/-- The nanoseconds that are made of the fraction. -/
def nanoseconds (t : Double) : ℕ := (nearest (t.fraction * 10 ^ 9)).roundToNat

/-- The fraction is within half a nanosecond of one, or so close below that rounding to a double
takes it there. -/
def RoundsUp (t : Double) : Prop := 10 ^ 9 - 1 / 2 - 1 / 2 ^ 24 ≤ t.fraction * 10 ^ 9

variable {t : Double}

theorem truncate_nonneg (h : t.negative = false) : 0 ≤ t.truncate := by
  rw [truncate, h]
  exact Int.natCast_nonneg _

theorem truncate_nonpos (h : t.negative) : t.truncate ≤ 0 := by
  rw [truncate, if_pos h]
  exact neg_nonpos.2 (Int.natCast_nonneg _)

theorem fraction_lt_one (t : Double) : t.fraction < 1 := by
  cases h : t.negative with
  | false => exact (fraction_bounds h).2
  | true => exact (fraction_bounds_of_negative h).2.trans_lt one_pos

/-- Nothing is made of a negative fraction. -/
theorem nanoseconds_of_fraction_neg (h : t.fraction < 0) : t.nanoseconds = 0 := by
  refine roundToNat_of_negative ?_
  rw [nearest_negative, decide_eq_true_eq]
  linarith

theorem nearest_fraction_negative (h : 0 ≤ t.fraction) :
    (nearest (t.fraction * 10 ^ 9)).negative = false := by
  rw [nearest_negative, decide_eq_false_iff_not]
  linarith

/-- A fraction that is not negative is missed by little more than half a nanosecond. -/
theorem abs_nanoseconds_sub_le (h : 0 ≤ t.fraction) :
    |t.nanoseconds - t.fraction * 10 ^ 9| ≤ 1 / 2 + 1 / 2 ^ 24 := by
  have hinteger := abs_roundToNat_sub_le (nearest_fraction_negative h)
  have hlt : |t.fraction * 10 ^ 9| < 2 ^ (30 : ℤ) := by
    rw [abs_of_nonneg (by linarith)]
    have := t.fraction_lt_one
    norm_num
    linarith
  have hdouble := abs_toRat_nearest_sub_le (by omega) (by omega) hlt
  have hunit : (2 : ℚ) ^ (30 - 54 : ℤ) = 1 / 2 ^ 24 := by norm_num
  rw [hunit] at hdouble
  exact (abs_sub_le _ _ _).trans (add_le_add hinteger hdouble)

/-- **When a whole second is made of a fraction.** -/
theorem le_nanoseconds_iff (h : 0 ≤ t.fraction) : 10 ^ 9 ≤ t.nanoseconds ↔ t.RoundsUp := by
  rcases lt_or_ge (t.fraction * 10 ^ 9) (2 ^ (29 : ℤ)) with hlt | hge
  · -- so far below a second neither is the case
    have hnear := (abs_le.1 (abs_nanoseconds_sub_le h)).2
    norm_num at hlt
    refine iff_of_false (fun hle => ?_) fun hup => ?_
    · have hle' : (10 ^ 9 : ℚ) ≤ t.nanoseconds := by exact_mod_cast hle
      linarith
    · unfold RoundsUp at hup
      linarith
  · -- from `2 ^ 29` on, doubles are the multiples of `2 ^ (-23)`
    have hhigh : t.fraction * 10 ^ 9 < 2 ^ (29 + 1 : ℤ) := by
      have := t.fraction_lt_one
      norm_num
      linarith
    have hhalf : ((10 ^ 9 : ℕ) : ℚ) - 1 / 2 =
        ((2 * 10 ^ 9 - 1) * 2 ^ 22 : ℕ) * 2 ^ (29 - 52 : ℤ) := by norm_num
    have hbelow : (((2 * 10 ^ 9 - 1) * 2 ^ 22 : ℕ) - 1 / 2 : ℚ) * 2 ^ (29 - 52 : ℤ) =
        10 ^ 9 - 1 / 2 - 1 / 2 ^ 24 := by norm_num
    rw [nanoseconds, le_roundToNat_iff (nearest_fraction_negative h), hhalf,
      le_toRat_nearest_iff hge hhigh (by omega) (by omega) (by decide), hbelow, RoundsUp]

theorem RoundsUp.fraction_nonneg (h : t.RoundsUp) : 0 ≤ t.fraction := by
  unfold RoundsUp at h
  linarith

theorem RoundsUp.nanoseconds_eq (h : t.RoundsUp) : t.nanoseconds = 10 ^ 9 := by
  refine le_antisymm ?_ ((le_nanoseconds_iff h.fraction_nonneg).2 h)
  have hnear := (abs_le.1 (abs_nanoseconds_sub_le h.fraction_nonneg)).2
  have hfraction := t.fraction_lt_one
  have hlt : (t.nanoseconds : ℚ) < (10 ^ 9 + 1 : ℕ) := by
    push_cast
    linarith
  exact Nat.lt_succ_iff.1 (Nat.cast_lt.1 hlt)

end Double

namespace Instant

/-! ### What an instant stands for -/

/-- The number of seconds since the epoch that an instant stands for. -/
def toRat (i : Instant) : ℚ := i.seconds + i.nanos / 10 ^ 9

/-- The nanosecond that is nearest to a number of seconds can be held. -/
def InReach (q : ℚ) : Prop :=
  ∃ n : ℤ, |q * 10 ^ 9 - n| ≤ 1 / 2 ∧ firstSecond * 10 ^ 9 ≤ n ∧ n < (lastSecond + 1) * 10 ^ 9

theorem InReach.bounds {q : ℚ} (h : InReach q) :
    firstSecond - 1 < q ∧ q < (lastSecond + 1 : ℤ) := by
  obtain ⟨n, hnear, hfirst, hlast⟩ := h
  obtain ⟨hlow, hhigh⟩ := abs_le.1 hnear
  have hfirst' : ((firstSecond * 10 ^ 9 : ℤ) : ℚ) ≤ n := Int.cast_le.2 hfirst
  have hlast' : (n : ℚ) ≤ ((lastSecond + 1) * 10 ^ 9 - 1 : ℤ) := Int.cast_le.2 (by omega)
  push_cast at hfirst' hlast' ⊢
  constructor <;> linarith

variable {t : Double}

theorem InReach.truncate_mem (h : InReach t.toRat) :
    firstSecond ≤ t.truncate ∧ t.truncate ≤ lastSecond := by
  obtain ⟨hlow, hhigh⟩ := h.bounds
  have hsum := t.toRat_truncate_add_fraction
  cases hsign : t.negative with
  | false =>
    have hnonneg := Double.truncate_nonneg hsign
    have hlt : (t.truncate : ℚ) < (lastSecond + 1 : ℤ) := by
      have := (Double.fraction_bounds hsign).1
      linarith
    exact ⟨le_trans (by decide) hnonneg, Int.lt_add_one_iff.1 (Int.cast_lt.1 hlt)⟩
  | true =>
    have hnonpos := Double.truncate_nonpos hsign
    have hlt : ((firstSecond - 1 : ℤ) : ℚ) < t.truncate := by
      have := (Double.fraction_bounds_of_negative hsign).2
      push_cast
      linarith
    exact ⟨Int.sub_one_lt_iff.1 (Int.cast_lt.1 hlt), le_trans hnonpos (by decide)⟩

/-! ### The instant of a number of seconds -/

theorem ofDouble?_eq (t : Double) : ofDouble? t = ofParts? t.truncate t.nanoseconds := rfl

theorem ofDouble?_of_lt (h : InReach t.toRat) (hlt : t.nanoseconds < 10 ^ 9) :
    ofDouble? t = some ⟨t.truncate, t.nanoseconds⟩ :=
  if_pos ⟨h.truncate_mem.1, h.truncate_mem.2, .inl hlt⟩

theorem ofDouble?_of_fraction_neg (h : InReach t.toRat) (hneg : t.fraction < 0) :
    ofDouble? t = some ⟨t.truncate, 0⟩ := by
  have hzero := Double.nanoseconds_of_fraction_neg hneg
  rw [ofDouble?_of_lt h (by rw [hzero]; decide), hzero]

/-- **A whole second is not carried over**: it stays with the nanoseconds at the end of a minute,
and elsewhere there is no instant. -/
theorem ofDouble?_of_roundsUp (h : InReach t.toRat) (hup : t.RoundsUp) :
    ofDouble? t = if t.truncate % 60 = 59 then some ⟨t.truncate, 10 ^ 9⟩ else none := by
  obtain ⟨hfirst, hlast⟩ := h.truncate_mem
  rw [ofDouble?_eq, hup.nanoseconds_eq]
  refine if_congr ?_ rfl rfl
  constructor
  · rintro ⟨-, -, hlt | ⟨-, hminute⟩⟩
    · exact absurd hlt (by decide)
    · exact hminute
  · intro hminute
    exact ⟨hfirst, hlast, .inr ⟨by decide, hminute⟩⟩

theorem toRat_sub_toRat (t : Double) (n : ℕ) :
    toRat ⟨t.truncate, n⟩ - t.toRat = (n - t.fraction * 10 ^ 9) / 10 ^ 9 := by
  rw [toRat, ← t.toRat_truncate_add_fraction]
  linarith

/-- Nanoseconds that miss the fraction by one at most give an instant that misses the number by a
nanosecond at most. -/
theorem abs_toRat_sub_le {n : ℕ} (h : |n - t.fraction * 10 ^ 9| ≤ 1) :
    |toRat ⟨t.truncate, n⟩ - t.toRat| ≤ 1 / 10 ^ 9 := by
  rw [toRat_sub_toRat, abs_div, abs_of_pos (by positivity : (0 : ℚ) < 10 ^ 9)]
  gcongr

/-- **When the instant is there and misses the number by a nanosecond at most.** -/
theorem ofDouble?_near_iff (h : InReach t.toRat) :
    (∃ i, ofDouble? t = some i ∧ |i.toRat - t.toRat| ≤ 1 / 10 ^ 9) ↔
      -1 / 10 ^ 9 ≤ t.fraction ∧ (t.RoundsUp → t.truncate % 60 = 59) := by
  rcases lt_or_ge t.fraction 0 with hneg | hnonneg
  · -- the instant is the end of the second
    have hnotUp : ¬ t.RoundsUp := fun hup => hneg.not_ge hup.fraction_nonneg
    have hfar : |toRat ⟨t.truncate, 0⟩ - t.toRat| = -t.fraction := by
      rw [toRat_sub_toRat, Nat.cast_zero, zero_sub, neg_div, mul_div_cancel_right₀ _ (by norm_num),
        abs_of_pos (neg_pos.2 hneg)]
    simp only [ofDouble?_of_fraction_neg h hneg, Option.some.injEq, exists_eq_left', hfar, hnotUp,
      false_implies, and_true]
    rw [neg_le, neg_div]
  · have hlow : -1 / 10 ^ 9 ≤ t.fraction := by linarith
    have hnear : |(t.nanoseconds : ℚ) - t.fraction * 10 ^ 9| ≤ 1 :=
      (Double.abs_nanoseconds_sub_le hnonneg).trans (by norm_num)
    by_cases hup : t.RoundsUp
    · rw [hup.nanoseconds_eq] at hnear
      rw [ofDouble?_of_roundsUp h hup]
      split
      · rename_i hminute
        exact iff_of_true ⟨_, rfl, abs_toRat_sub_le hnear⟩ ⟨hlow, fun _ => hminute⟩
      · rename_i hminute
        exact iff_of_false (fun ⟨_, hi, _⟩ => nomatch hi) fun hright => hminute (hright.2 hup)
    · have hlt := Nat.lt_of_not_le (mt (Double.le_nanoseconds_iff hnonneg).1 hup)
      exact iff_of_true ⟨_, ofDouble?_of_lt h hlt, abs_toRat_sub_le hnear⟩
        ⟨hlow, fun h => absurd h hup⟩

end Instant

namespace Account

/-! ### The change of a password -/

/-- The instant of the change is there and is the time of the change, to the nanosecond. -/
def TellsChange (a : Account) (t : Double) : Prop :=
  ∃ i, a.passwordChangedAt? = some i ∧ |i.toRat - t.toRat| ≤ 1 / 10 ^ 9

variable {a : Account} {t : Double}

/-- **When the instant of a change is the one that is meant**, for a time whose nearest nanosecond
can be held: the fraction is not negative by more than a nanosecond, and it does not round up to a
second unless that ends a minute.  Otherwise an instant before the epoch has lost its fraction, and
a second that was to be carried over leaves no instant. -/
theorem tellsChange_iff (h : a.passwordChanged? = some t) (hreach : Instant.InReach t.toRat) :
    (a.TellsChange t ↔ -1 / 10 ^ 9 ≤ t.fraction ∧ (t.RoundsUp → t.truncate % 60 = 59)) ∧
      (t.fraction < 0 → a.passwordChangedAt? = some ⟨t.truncate, 0⟩) ∧
      (t.RoundsUp → t.truncate % 60 ≠ 59 → a.passwordChangedAt? = none) := by
  have hat : a.passwordChangedAt? = Instant.ofDouble? t := by
    rw [passwordChangedAt?, h, Option.bind_some]
  rw [TellsChange, hat]
  refine ⟨Instant.ofDouble?_near_iff hreach, Instant.ofDouble?_of_fraction_neg hreach,
    fun hup hminute => ?_⟩
  rw [Instant.ofDouble?_of_roundsUp hreach hup, if_neg hminute]

/-- The payload of a user whose password was changed at the time. -/
def changedOn (time : Json) : Json :=
  .object [("id", .string "ann"), ("domain", .string "local"), ("password_change_date", time)]

theorem exists_account_of_time {v : Json}
    (h : (ofJson v).toOption.bind passwordChanged? = some t) :
    ∃ a, ofJson v = .ok a ∧ a.passwordChanged? = some t := by
  obtain ⟨a, ha, htime⟩ := Option.bind_eq_some_iff.1 h
  refine ⟨a, ?_, htime⟩
  cases hv : ofJson v with
  | error fault => rw [hv] at ha; contradiction
  | ok b =>
    rw [hv] at ha
    exact congrArg _ (Option.some.inj ha)

theorem tellsChange_iff_sample :
    ∃ a t, ofJson (changedOn (.string "2021-03-04T05:06:07.5Z")) = .ok a ∧
      a.passwordChanged? = some t ∧ Instant.InReach t.toRat ∧ a.TellsChange t := by
  let t := Instant.toDouble ⟨1614834367, 500000000⟩
  have hdecode : (ofJson (changedOn (.string "2021-03-04T05:06:07.5Z"))).toOption.bind
      passwordChanged? = some t := by
    decide +kernel
  obtain ⟨a, ha, htime⟩ := exists_account_of_time hdecode
  have hrat : t.toRat = 3229668735 / 2 := by decide +kernel
  have hfraction : t.fraction = 1 / 2 := by decide +kernel
  have hreach : Instant.InReach t.toRat := by
    refine ⟨1614834367500000000, ?_, by decide, by decide⟩
    rw [hrat]
    norm_num
  refine ⟨a, t, ha, htime, hreach, (tellsChange_iff htime hreach).1.2 ⟨?_, fun hup => ?_⟩⟩
  · rw [hfraction]
    norm_num
  · rw [Double.RoundsUp, hfraction] at hup
    norm_num at hup

/-- A number of seconds that is a tenth of a nanosecond below one. -/
def belowOne : Double := ⟨false, 9007199253840272, -53, by decide, by decide, by decide, by decide⟩

/-- **An instant before the epoch loses its fraction, and one just below a second is lost**: half a
second before the epoch is told as the epoch, and `0.9999999999` is not told. -/
theorem tellsChange_fails :
    (∃ a t, ofJson (changedOn (.string "1969-12-31T23:59:59.5Z")) = .ok a ∧
      a.passwordChanged? = some t ∧ t.toRat = -1 / 2 ∧ Instant.InReach t.toRat ∧
      a.passwordChangedAt? = some ⟨0, 0⟩ ∧ ¬ a.TellsChange t) ∧
    ∃ a, ofJson (changedOn (.number (.double belowOne))) = .ok a ∧
      a.passwordChanged? = some belowOne ∧ Instant.InReach belowOne.toRat ∧
      a.passwordChangedAt? = none ∧ ¬ a.TellsChange belowOne := by
  constructor
  · let t := Instant.toDouble ⟨-1, 500000000⟩
    have hdecode : (ofJson (changedOn (.string "1969-12-31T23:59:59.5Z"))).toOption.bind
        passwordChanged? = some t := by
      decide +kernel
    obtain ⟨a, ha, htime⟩ := exists_account_of_time hdecode
    have hrat : t.toRat = -1 / 2 := by decide +kernel
    have hat : a.passwordChangedAt? = some ⟨0, 0⟩ := by
      rw [passwordChangedAt?, htime]
      decide +kernel
    refine ⟨a, t, ha, htime, hrat, ⟨-500000000, ?_, by decide, by decide⟩, hat, ?_⟩
    · rw [hrat]
      norm_num
    · rintro ⟨i, hi, hnear⟩
      cases Option.some.inj (hat.symm.trans hi)
      rw [hrat] at hnear
      norm_num [Instant.toRat] at hnear
  · have hdecode : (ofJson (changedOn (.number (.double belowOne)))).toOption.bind
        passwordChanged? = some belowOne := by
      decide +kernel
    obtain ⟨a, ha, htime⟩ := exists_account_of_time hdecode
    have hrat : belowOne.toRat = 9007199253840272 / 2 ^ 53 := by decide +kernel
    have hat : a.passwordChangedAt? = none := by
      rw [passwordChangedAt?, htime]
      decide +kernel
    refine ⟨a, ha, htime, ⟨1000000000, ?_, by decide, by decide⟩, hat, ?_⟩
    · rw [hrat]
      norm_num
    · rintro ⟨i, hi, -⟩
      cases hat.symm.trans hi

end Account

end AccessControl
