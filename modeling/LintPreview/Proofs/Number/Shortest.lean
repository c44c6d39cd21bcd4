import LintPreview.Number.Shortest
import LintPreview.Proofs.Number.Rounding
import Mathlib.Tactic.Push

/-!
# The shortest decimal reads back

* `Binary64.decimal`: the value of decimal digits with a power of ten.
* `Binary64.ofDecimal_of_inReach`: a decimal in reach of a number is read as that number.
* `Binary64.search_holds`: the search for the shortest decimal finds one in reach. Seventeen digits are enough: half a
  step of their grid is less than the way to the nearest midpoint (`holds_neighbour`).
* `Binary64.ofDecimal_shortest`: the shortest decimal is read as the number that it was made from.
-/

namespace LintPreview.Binary64

/-- The value of digits with a power of ten. -/
def decimal (digits : ℕ) (power : ℤ) : ℚ := digits * 10 ^ power

theorem ten_zpow_pos (p : ℤ) : (0 : ℚ) < 10 ^ p := by positivity

/-! ### Digits -/

theorem digitCount_pos (n : ℕ) : 0 < digitCount n := Nat.length_toDigits_pos

theorem lt_ten_pow_digitCount (n : ℕ) : n < 10 ^ digitCount n :=
  (Nat.length_toDigits_le_iff (by norm_num) (digitCount_pos n)).mp le_rfl

theorem ten_pow_le_of_digitCount {n : ℕ} (hn : 0 < n) : 10 ^ (digitCount n - 1) ≤ n := by
  by_contra hlt
  push Not at hlt
  rcases Nat.eq_zero_or_pos (digitCount n - 1) with h0 | hpos
  · rw [h0] at hlt
    omega
  · have := (Nat.length_toDigits_le_iff (by norm_num) hpos).mpr hlt
    have : digitCount n ≤ digitCount n - 1 := this
    have := digitCount_pos n
    omega

/-- The size that reading a decimal looks at: the number of digits in front of the point. -/
theorem decimal_bounds {digits : ℕ} (hd : 0 < digits) (power : ℤ) :
    (10 : ℚ) ^ (power + digitCount digits - 1) ≤ decimal digits power ∧
      decimal digits power < 10 ^ (power + digitCount digits) := by
  have hpos := ten_zpow_pos power
  have hcount := digitCount_pos digits
  unfold decimal
  constructor
  · have h1 : ((10 ^ (digitCount digits - 1) : ℕ) : ℚ) ≤ digits := by exact_mod_cast ten_pow_le_of_digitCount hd
    rw [show power + (digitCount digits : ℤ) - 1 = ((digitCount digits - 1 : ℕ) : ℤ) + power by omega,
      zpow_add₀ (by norm_num), zpow_natCast]
    push_cast at h1
    exact mul_le_mul_of_nonneg_right h1 hpos.le
  · have h1 : (digits : ℚ) < ((10 ^ digitCount digits : ℕ) : ℚ) := by exact_mod_cast lt_ten_pow_digitCount digits
    rw [show power + (digitCount digits : ℤ) = (digitCount digits : ℤ) + power by omega,
      zpow_add₀ (by norm_num), zpow_natCast]
    push_cast at h1
    exact mul_lt_mul_of_pos_right h1 hpos

/-- A decimal as a ratio. -/
theorem decimal_eq_ratio (digits : ℕ) (power : ℤ) : decimal digits power =
    if power < 0 then (digits : ℚ) / (10 ^ (-power).toNat : ℕ) else ((digits * 10 ^ power.toNat : ℕ) : ℚ) / (1 : ℕ) := by
  unfold decimal
  split
  · rename_i hp
    obtain ⟨k, rfl⟩ : ∃ k : ℕ, power = -(k : ℤ) := ⟨(-power).toNat, by omega⟩
    rw [neg_neg, Int.toNat_natCast, zpow_neg, zpow_natCast]
    push_cast
    field_simp
  · rename_i hp
    obtain ⟨k, rfl⟩ : ∃ k : ℕ, power = (k : ℤ) := ⟨power.toNat, by omega⟩
    rw [Int.toNat_natCast, zpow_natCast]
    push_cast
    field_simp

/-! ### Reading a decimal -/

variable {m : ℕ} {e : ℤ}

/-- What is in reach of a number is neither too large nor too small to be looked at. -/
theorem bounds_of_inReach (hm : 0 < m) (hu : IsUsual m e) {v : ℚ} (h : InReach m e v) :
    (10 : ℚ) ^ (-400 : ℤ) < v ∧ v < 10 ^ (399 : ℤ) := by
  have hpos := two_zpow_pos e
  have hm1 : (1 : ℚ) ≤ m := by exact_mod_cast hm
  have hm53 : (m : ℚ) ≤ 2 ^ 53 - 1 := by
    have : ((m + 1 : ℕ) : ℚ) ≤ 2 ^ 53 := by exact_mod_cast hu.lt
    push_cast at this
    linarith
  constructor
  · have h1 : (2 : ℚ) ^ (-1074 : ℤ) ≤ 2 ^ e := zpow_le_zpow_right₀ (by norm_num) hu.least
    have h2 : (1 / 2 : ℚ) * 2 ^ e ≤ v := by
      have := h.half_low
      nlinarith
    have h3 : (10 : ℚ) ^ (-400 : ℤ) < 1 / 2 * 2 ^ (-1074 : ℤ) := by
      rw [zpow_neg, zpow_neg, show (10 : ℚ) ^ (400 : ℤ) = 10 ^ 400 from zpow_natCast _ 400,
        show (2 : ℚ) ^ (1074 : ℤ) = 2 ^ 1074 from zpow_natCast _ 1074, one_div, ← mul_inv]
      apply inv_strictAnti₀
      · positivity
      · have : 2 * 2 ^ 1074 < 10 ^ 400 := by decide +kernel
        exact_mod_cast this
    linarith
  · have h1 : (2 : ℚ) ^ e ≤ 2 ^ (971 : ℤ) := zpow_le_zpow_right₀ (by norm_num) hu.greatest
    have h2 : v ≤ 2 ^ 53 * 2 ^ e := by
      have := h.high
      unfold highest at this
      nlinarith
    have h3 : (2 : ℚ) ^ 53 * 2 ^ (971 : ℤ) < 10 ^ (399 : ℤ) := by
      rw [show (2 : ℚ) ^ (971 : ℤ) = 2 ^ 971 from zpow_natCast _ 971,
        show (10 : ℚ) ^ (399 : ℤ) = 10 ^ 399 from zpow_natCast _ 399]
      have : 2 ^ 53 * 2 ^ 971 < 10 ^ 399 := by decide +kernel
      exact_mod_cast this
    have h4 : (2 : ℚ) ^ 53 * 2 ^ e ≤ 2 ^ 53 * 2 ^ (971 : ℤ) := mul_le_mul_of_nonneg_left h1 (by positivity)
    exact lt_of_le_of_lt (h2.trans h4) h3

theorem ten_zpow_lt_iff {a b : ℤ} : (10 : ℚ) ^ a < 10 ^ b ↔ a < b := zpow_lt_zpow_iff_right₀ (by norm_num)

/-- A decimal in reach of a number is read as that number. -/
theorem ofDecimal_of_inReach (hm : 0 < m) (hu : IsUsual m e) {digits : ℕ} {power : ℤ} (hd : 0 < digits)
    (h : InReach m e (decimal digits power)) (negative : Bool) :
    ofDecimal negative digits power = .finite negative m e := by
  obtain ⟨hsmall, hlarge⟩ := bounds_of_inReach hm hu h
  obtain ⟨hlow, hhigh⟩ := decimal_bounds hd power
  have h1 : power + digitCount digits - 1 < 399 := ten_zpow_lt_iff.mp (lt_of_le_of_lt hlow hlarge)
  have h2 : (-400 : ℤ) < power + digitCount digits := ten_zpow_lt_iff.mp (lt_trans hsmall hhigh)
  rw [decimal_eq_ratio] at h
  rw [ofDecimal, if_neg hd.ne']
  simp only [if_neg (show ¬ 400 < power + (digitCount digits : ℤ) by omega),
    if_neg (show ¬ power + (digitCount digits : ℤ) < -400 by omega)]
  split
  · rename_i hp
    rw [if_pos hp] at h
    exact ofRatio_of_inReach hd (by positivity) hu h negative
  · rename_i hp
    rw [if_neg hp] at h
    exact ofRatio_of_inReach (by positivity) Nat.one_pos hu h negative

/-! ### The interval of a number -/

theorem two_zpow_sub_two (e : ℤ) : (2 : ℚ) ^ e = 4 * 2 ^ (e - 2) := by
  rw [show e = (e - 2 + 1) + 1 by ring, two_zpow_succ, two_zpow_succ, show e - 2 + 1 + 1 - 2 = e - 2 by ring]
  ring

/-- The ends of the interval as ratios, and its middle. -/
theorem interval_spec (hm : 0 < m) : 0 < (interval m e).scale ∧
    ((interval m e).low : ℚ) / (interval m e).scale = lowest m e ∧
    ((interval m e).value : ℚ) / (interval m e).scale = m * 2 ^ e ∧
    ((interval m e).high : ℚ) / (interval m e).scale = highest m e ∧ (interval m e).closed = decide (m % 2 = 0) := by
  have hbelow : ∀ below : ℕ, below ≤ 2 → ((4 * m - below : ℕ) : ℚ) = 4 * m - below := by
    intro below hle
    rw [Nat.cast_sub (by omega)]
    push_cast
    ring
  have hlow : ∀ up : ℚ, (((4 * m - if IsEdge m e then 1 else 2 : ℕ) : ℚ)) * up =
      ((m : ℚ) - if IsEdge m e then 1 / 4 else 1 / 2) * (4 * up) := by
    intro up
    by_cases hedge : IsEdge m e
    · rw [if_pos hedge, if_pos hedge, hbelow 1 (by norm_num)]
      push_cast
      ring
    · rw [if_neg hedge, if_neg hedge, hbelow 2 (by norm_num)]
      push_cast
      ring
  by_cases he : e < 2
  · obtain ⟨k, hk⟩ : ∃ k : ℕ, (2 - e) = (k : ℤ) := ⟨(2 - e).toNat, by omega⟩
    have hscale : (interval m e) = ⟨(4 * m - if IsEdge m e then 1 else 2) * 1, 4 * m * 1, (4 * m + 2) * 1, 2 ^ k,
        decide (m % 2 = 0)⟩ := by
      simp only [interval, if_pos he, hk, Int.toNat_natCast]
      rfl
    have hpow : (2 : ℚ) ^ e = 4 * (1 / 2 ^ k) := by
      rw [two_zpow_sub_two, show e - 2 = -(k : ℤ) by omega, zpow_neg, zpow_natCast, one_div]
    have hpos : (0 : ℚ) < 2 ^ k := by positivity
    rw [hscale, lowest, highest, hpow]
    refine ⟨by positivity, ?_, ?_, ?_, rfl⟩
    · rw [← hlow]
      push_cast
      ring
    · push_cast
      ring
    · push_cast
      ring
  · obtain ⟨k, hk⟩ : ∃ k : ℕ, (e - 2) = (k : ℤ) := ⟨(e - 2).toNat, by omega⟩
    have hscale : (interval m e) = ⟨(4 * m - if IsEdge m e then 1 else 2) * 2 ^ k, 4 * m * 2 ^ k, (4 * m + 2) * 2 ^ k, 1,
        decide (m % 2 = 0)⟩ := by
      simp only [interval, if_neg he, hk, Int.toNat_natCast]
      rfl
    have hpow : (2 : ℚ) ^ e = 4 * 2 ^ k := by
      rw [two_zpow_sub_two, hk, zpow_natCast]
    rw [hscale, lowest, highest, hpow]
    refine ⟨Nat.one_pos, ?_, ?_, ?_, rfl⟩
    · rw [← hlow]
      push_cast
      ring
    · push_cast
      ring
    · push_cast
      ring

/-- The interval holds what is in reach of the number. -/
theorem holds_iff (hm : 0 < m) {digits : ℕ} {power : ℤ} :
    (interval m e).holds digits power = true ↔ InReach m e (decimal digits power) := by
  obtain ⟨hscale, hlow, -, hhigh, hclosed⟩ := interval_spec (e := e) hm
  generalize interval m e = i at *
  have hs : (0 : ℚ) < i.scale := by exact_mod_cast hscale
  obtain ⟨n, d, hnd, hd, hv⟩ : ∃ n d : ℕ, (if power < 0 then (digits, 10 ^ (-power).toNat)
      else (digits * 10 ^ power.toNat, 1)) = (n, d) ∧ 0 < d ∧ decimal digits power = (n : ℚ) / d := by
    rw [decimal_eq_ratio]
    by_cases hp : power < 0
    · rw [if_pos hp, if_pos hp]
      exact ⟨_, _, rfl, by positivity, rfl⟩
    · rw [if_neg hp, if_neg hp]
      exact ⟨_, _, rfl, Nat.one_pos, rfl⟩
  have hd' : (0 : ℚ) < d := by exact_mod_cast hd
  have hle : i.low * d ≤ n * i.scale ↔ lowest m e ≤ decimal digits power := by
    rw [← hlow, hv, div_le_div_iff₀ hs hd']
    exact_mod_cast Iff.rfl
  have hlt : i.low * d < n * i.scale ↔ lowest m e < decimal digits power := by
    rw [← hlow, hv, div_lt_div_iff₀ hs hd']
    exact_mod_cast Iff.rfl
  have hge : n * i.scale ≤ i.high * d ↔ decimal digits power ≤ highest m e := by
    rw [← hhigh, hv, div_le_div_iff₀ hd' hs]
    exact_mod_cast Iff.rfl
  have hgt : n * i.scale < i.high * d ↔ decimal digits power < highest m e := by
    rw [← hhigh, hv, div_lt_div_iff₀ hd' hs]
    exact_mod_cast Iff.rfl
  simp only [Interval.holds, hnd, hclosed]
  by_cases heven : m % 2 = 0
  · simp only [heven, decide_true, if_true, Bool.and_eq_true, decide_eq_true_eq, hle, hge]
    constructor
    · rintro ⟨h1, h2⟩
      exact ⟨h1, h2, fun hodd => by omega⟩
    · intro h
      exact ⟨h.low, h.high⟩
  · simp only [heven, decide_false, Bool.false_eq_true, if_false, Bool.and_eq_true, decide_eq_true_eq, hlt, hgt]
    constructor
    · rintro ⟨h1, h2⟩
      exact ⟨h1.le, h2.le, fun _ => ⟨h1, h2⟩⟩
    · intro h
      exact h.strict (by omega)

/-! ### The search -/

theorem best?_holds {i : Interval} {power : ℤ} {d : ℕ} (h : i.best? power = some d) :
    i.holds d power = true ∧ 0 < d := by
  unfold Interval.best? at h
  generalize (if power < 0 then (i.value * 10 ^ (-power).toNat, i.scale)
    else (i.value, i.scale * 10 ^ power.toNat)) = nd at h
  obtain ⟨n, k⟩ := nd
  simp only at h
  split at h
  case h_1 h1 h2 =>
    rw [Bool.and_eq_true, decide_eq_true_eq] at h1
    have hmod : n / k % 2 = 0 ∨ n / k % 2 = 1 := by omega
    split at h
    · cases h
      exact h1
    · split at h
      · cases h
        exact ⟨h2, Nat.succ_pos _⟩
      · rcases hmod with hmod | hmod
        · rw [hmod, Nat.add_zero] at h
          cases h
          exact h1
        · rw [hmod] at h
          cases h
          exact ⟨h2, Nat.succ_pos _⟩
  case h_2 h1 _ =>
    rw [Bool.and_eq_true, decide_eq_true_eq] at h1
    cases h
    exact h1
  case h_3 _ h2 =>
    cases h
    exact ⟨h2, Nat.succ_pos _⟩
  case h_4 => cases h

theorem search_succ (i : Interval) (top : ℤ) (digits left : ℕ) :
    i.search top digits (left + 1) = match i.best? (top - digits) with
      | some d => (d, top - digits)
      | none => i.search top (digits + 1) left :=
  rfl

theorem search_holds {i : Interval} {top : ℤ} {digits left : ℕ}
    (h : ∃ k, digits ≤ k ∧ k < digits + left ∧ (i.best? (top - k)).isSome = true) :
    i.holds (i.search top digits left).1 (i.search top digits left).2 = true ∧ 0 < (i.search top digits left).1 := by
  induction left generalizing digits with
  | zero =>
    obtain ⟨k, h1, h2, -⟩ := h
    omega
  | succ left ih =>
    rw [search_succ]
    cases hbest : i.best? (top - digits) with
    | some d => exact best?_holds hbest
    | none =>
      obtain ⟨k, h1, h2, h3⟩ := h
      apply ih
      refine ⟨k, ?_, by omega, h3⟩
      rcases Nat.eq_or_lt_of_le h1 with rfl | hlt
      · rw [hbest] at h3
        cases h3
      · exact hlt

theorem decimal_stripZeros (fuel digits : ℕ) (power : ℤ) :
    decimal (stripZeros fuel digits power).1 (stripZeros fuel digits power).2 = decimal digits power ∧
      (0 < digits → 0 < (stripZeros fuel digits power).1) := by
  induction fuel generalizing digits power with
  | zero => exact ⟨rfl, id⟩
  | succ fuel ih =>
    unfold stripZeros
    split
    · rename_i hzero
      obtain ⟨hvalue, hpos⟩ := ih (digits / 10) (power + 1)
      refine ⟨?_, fun _ => hpos (by omega)⟩
      have hdigits : (digits : ℚ) = (digits / 10 : ℕ) * 10 := by
        have : digits = digits / 10 * 10 := by omega
        exact_mod_cast this
      rw [hvalue, decimal, decimal, zpow_add₀ (by norm_num), zpow_one, hdigits]
      ring
    · exact ⟨rfl, id⟩

/-! ### Seventeen digits -/

theorem ten_zpow_decimalExponent_le {num den : ℕ} (hnum : 0 < num) (hden : 0 < den) :
    (10 : ℚ) ^ decimalExponent num den ≤ num / den := by
  have hnum' : (0 : ℚ) < num := by exact_mod_cast hnum
  have hden' : (0 : ℚ) < den := by exact_mod_cast hden
  unfold decimalExponent
  split
  · rename_i hle
    have hq : 0 < num / den := Nat.div_pos hle hden
    have hcount := digitCount_pos (num / den)
    have h1 := ten_pow_le_of_digitCount hq
    have h2 : 10 ^ (digitCount (num / den) - 1) * den ≤ num :=
      le_trans (Nat.mul_le_mul_right den h1) (Nat.div_mul_le_self num den)
    rw [le_div_iff₀ hden', show ((digitCount (num / den) : ℤ) - 1) = ((digitCount (num / den) - 1 : ℕ) : ℤ) by omega,
      zpow_natCast]
    exact_mod_cast h2
  · rename_i hlt
    -- with `k` the whole number at or above `den / num`, the power of ten above `k - 1` is at least `k`
    generalize hk : (den + num - 1) / num = k
    have h1 : den ≤ k * num := by
      have h3 : den + num - 1 = num * k + (den + num - 1) % num := by rw [← hk]; exact (Nat.div_add_mod _ _).symm
      have h4 := Nat.mod_lt (den + num - 1) hnum
      have h5 : num * k = k * num := Nat.mul_comm _ _
      omega
    have h2 : k ≤ 10 ^ digitCount (k - 1) := by
      have := lt_ten_pow_digitCount (k - 1)
      omega
    have h3 : den ≤ 10 ^ digitCount (k - 1) * num := le_trans h1 (Nat.mul_le_mul_right num h2)
    rw [zpow_neg, zpow_natCast, le_div_iff₀ hden', inv_mul_le_iff₀ (by positivity)]
    exact_mod_cast h3

theorem best?_isSome {i : Interval} {power : ℤ} {n d : ℕ}
    (hnd : (if power < 0 then (i.value * 10 ^ (-power).toNat, i.scale) else (i.value, i.scale * 10 ^ power.toNat)) = (n, d))
    (h : i.holds (n / d) power = true ∧ 0 < n / d ∨ i.holds (n / d + 1) power = true) :
    (i.best? power).isSome = true := by
  unfold Interval.best?
  rw [hnd]
  simp only
  split
  · rfl
  · rfl
  · rfl
  · rename_i h1 h2
    rcases h with ⟨h3, h4⟩ | h3
    · simp [h3, h4] at h1
    · rw [h3] at h2
      cases h2

/-- The way from a number to the midpoint below it. -/
def gap (m : ℕ) (e : ℤ) : ℚ := (if IsEdge m e then 1 / 4 else 1 / 2) * 2 ^ e

theorem inReach_of_near {v : ℚ} (hlow : m * 2 ^ e - v < gap m e) (hhigh : v - m * 2 ^ e < 1 / 2 * 2 ^ e) :
    InReach m e v := by
  have h1 : lowest m e < v := by
    unfold lowest
    unfold gap at hlow
    rw [sub_mul]
    linarith
  have h2 : v < highest m e := by
    unfold highest
    rw [add_mul]
    linarith
  exact ⟨h1.le, h2.le, fun _ => ⟨h1, h2⟩⟩

/-- Half a step of the grid of seventeen digits is less than the way to the midpoints. -/
theorem half_step_lt_gap (hu : IsUsual m e) {step : ℚ} (h : 10 ^ 16 * step ≤ m * 2 ^ e) : step / 2 < gap m e := by
  have hpos := two_zpow_pos e
  unfold gap
  by_cases hedge : IsEdge m e
  · rw [if_pos hedge]
    rw [hedge.1] at h
    push_cast at h
    nlinarith
  · rw [if_neg hedge]
    have hm : (m : ℚ) < 2 ^ 53 := by exact_mod_cast hu.lt
    have : (m : ℚ) * 2 ^ e < 2 ^ 53 * 2 ^ e := mul_lt_mul_of_pos_right hm hpos
    nlinarith

theorem gap_le_half (m : ℕ) (e : ℤ) : gap m e ≤ 1 / 2 * 2 ^ e := by
  have := two_zpow_pos e
  unfold gap
  split <;> nlinarith

/-- On the grid of seventeen digits a neighbour of the number is in reach of it: the one below it, or the one above it
if the number is closer to that. -/
theorem inReach_or_inReach_succ (hu : IsUsual m e) {power : ℤ} (h : 10 ^ 16 * (10 : ℚ) ^ power ≤ m * 2 ^ e) {q : ℕ}
    {r : ℚ} (hv : (q + r) * 10 ^ power = m * 2 ^ e) (hr0 : 0 ≤ r) (hr1 : r < 1) :
    InReach m e (decimal q power) ∧ 0 < q ∨ InReach m e (decimal (q + 1) power) := by
  have hstep := ten_zpow_pos power
  have hhalf := half_step_lt_gap hu h
  have hgap := gap_le_half m e
  by_cases hr : r ≤ 1 / 2
  · left
    refine ⟨inReach_of_near ?_ ?_, ?_⟩
    · rw [← hv, decimal]
      nlinarith
    · rw [← hv, decimal]
      nlinarith
    · by_contra hzero
      rw [Nat.eq_zero_of_not_pos hzero] at hv
      push_cast at hv
      nlinarith
  · right
    apply inReach_of_near
    · rw [← hv, decimal]
      push_cast
      nlinarith
    · rw [← hv, decimal]
      push_cast
      nlinarith

/-- The middle of an interval as a ratio of the steps of a grid. -/
theorem Interval.exists_steps (i : Interval) (hscale : 0 < i.scale) (power : ℤ) :
    ∃ n d : ℕ, (if power < 0 then (i.value * 10 ^ (-power).toNat, i.scale)
      else (i.value, i.scale * 10 ^ power.toNat)) = (n, d) ∧ 0 < d ∧ (n : ℚ) / d * 10 ^ power = i.value / i.scale := by
  have hs : (0 : ℚ) < i.scale := by exact_mod_cast hscale
  by_cases hp : power < 0
  · obtain ⟨k, rfl⟩ : ∃ k : ℕ, power = -(k : ℤ) := ⟨(-power).toNat, by omega⟩
    refine ⟨i.value * 10 ^ k, i.scale, ?_, hscale, ?_⟩
    · rw [if_pos hp, neg_neg, Int.toNat_natCast]
    · rw [zpow_neg, zpow_natCast]
      push_cast
      field_simp
  · obtain ⟨k, rfl⟩ : ∃ k : ℕ, power = (k : ℤ) := ⟨power.toNat, by omega⟩
    refine ⟨i.value, i.scale * 10 ^ k, ?_, by positivity, ?_⟩
    · rw [if_neg hp, Int.toNat_natCast]
    · rw [zpow_natCast]
      push_cast
      field_simp

/-- A ratio is its whole part and less than one more. -/
theorem exists_div_add (n : ℕ) {d : ℕ} (hd : 0 < d) :
    ∃ r : ℚ, (n : ℚ) / d = (n / d : ℕ) + r ∧ 0 ≤ r ∧ r < 1 := by
  have hd' : (0 : ℚ) < d := by exact_mod_cast hd
  refine ⟨((n % d : ℕ) : ℚ) / d, ?_, by positivity, ?_⟩
  · have hn : (n : ℚ) = d * (n / d : ℕ) + (n % d : ℕ) := by exact_mod_cast (Nat.div_add_mod n d).symm
    rw [div_eq_iff hd'.ne', add_mul, div_mul_cancel₀ _ hd'.ne', mul_comm]
    exact hn
  · rw [div_lt_one hd']
    exact_mod_cast Nat.mod_lt n hd

/-- So with seventeen digits a decimal is found. -/
theorem best?_isSome_seventeen (hm : 0 < m) (hu : IsUsual m e) {power : ℤ}
    (h : 10 ^ 16 * (10 : ℚ) ^ power ≤ m * 2 ^ e) : ((interval m e).best? power).isSome = true := by
  obtain ⟨hscale, -, hvalue, -, -⟩ := interval_spec (e := e) hm
  obtain ⟨n, d, hnd, hd, hv⟩ := (interval m e).exists_steps hscale power
  obtain ⟨r, hsplit, hr0, hr1⟩ := exists_div_add n hd
  rw [hvalue, hsplit] at hv
  apply best?_isSome hnd
  rcases inReach_or_inReach_succ hu h hv hr0 hr1 with ⟨hreach, hq⟩ | hreach
  · exact .inl ⟨(holds_iff hm).mpr hreach, hq⟩
  · exact .inr ((holds_iff hm).mpr hreach)

/-- The shortest decimal of a number is in reach of it. -/
theorem shortest_inReach (hm : 0 < m) (hu : IsUsual m e) :
    0 < (shortest m e).1 ∧ InReach m e (decimal (shortest m e).1 (shortest m e).2) := by
  obtain ⟨hscale, -, hvalue, -, -⟩ := interval_spec (e := e) hm
  have hpos := two_zpow_pos e
  have hs : (0 : ℚ) < (interval m e).scale := by exact_mod_cast hscale
  have hvalue0 : 0 < (interval m e).value := by
    have h1 : (0 : ℚ) < m := by exact_mod_cast hm
    have h2 : (0 : ℚ) < (interval m e).value / (interval m e).scale := by
      rw [hvalue]
      positivity
    have h3 : (0 : ℚ) < (interval m e).value := by
      rw [lt_div_iff₀ hs, zero_mul] at h2
      exact h2
    exact_mod_cast h3
  have htop := ten_zpow_decimalExponent_le hvalue0 hscale
  rw [hvalue] at htop
  generalize htopdef : decimalExponent (interval m e).value (interval m e).scale = top at htop
  have hstep : 10 ^ 16 * (10 : ℚ) ^ (top - 16) ≤ m * 2 ^ e := by
    have : (10 : ℚ) ^ top = 10 ^ 16 * 10 ^ (top - 16) := by
      rw [show top = (16 : ℤ) + (top - 16) by ring, zpow_add₀ (by norm_num),
        show (16 : ℤ) + (top - 16) - 16 = top - 16 by ring]
      norm_cast
    rw [← this]
    exact htop
  have hsearch : (interval m e).holds ((interval m e).search top 0 17).1 ((interval m e).search top 0 17).2 = true ∧
      0 < ((interval m e).search top 0 17).1 :=
    search_holds ⟨16, by omega, by omega, best?_isSome_seventeen hm hu hstep⟩
  obtain ⟨hholds, hdigits⟩ := hsearch
  obtain ⟨hstrip, hstrip0⟩ := decimal_stripZeros 20 ((interval m e).search top 0 17).1 ((interval m e).search top 0 17).2
  have hdef : shortest m e = stripZeros 20 ((interval m e).search top 0 17).1 ((interval m e).search top 0 17).2 := by
    rw [← htopdef]
    rfl
  rw [hdef]
  refine ⟨hstrip0 hdigits, ?_⟩
  rw [hstrip]
  exact (holds_iff hm).mp hholds

/-- A decimal of the same value as the shortest one is read as the number that this was made from. -/
theorem ofDecimal_of_eq_shortest (hm : 0 < m) (hu : IsUsual m e) {digits : ℕ} {power : ℤ} (hd : 0 < digits)
    (h : decimal digits power = decimal (shortest m e).1 (shortest m e).2) (negative : Bool) :
    ofDecimal negative digits power = .finite negative m e := by
  apply ofDecimal_of_inReach hm hu hd
  rw [h]
  exact (shortest_inReach hm hu).2

end LintPreview.Binary64
