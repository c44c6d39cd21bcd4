import LintPreview.Number.Binary64
import Mathlib.Algebra.Order.Field.Power
import Mathlib.Data.Nat.Log
import Mathlib.Data.Rat.Cast.Order
import Mathlib.Tactic.FieldSimp
import Mathlib.Tactic.Linarith
import Mathlib.Tactic.NormNum
import Mathlib.Tactic.Positivity
import Mathlib.Tactic.Ring

/-!
# Rounding to double precision

* `Binary64.IsUsual`: the usual form of a finite number.
* `Binary64.InReach`: the ratios that round to `m · 2 ^ e`. They lie between the midpoints to its two neighbours; the
  midpoints belong to it if `m` is even.
* `Binary64.ofRatio_of_inReach`: a ratio in reach of a number is rounded to it.
* `Binary64.isUsual_of_ofRatio`, `Binary64.isUsual_of_ofDecimal`: rounding gives numbers in the usual form.
-/

namespace LintPreview.Binary64

/-- A significand and an exponent in the usual form. -/
structure IsUsual (m : ℕ) (e : ℤ) : Prop where
  lt : m < 2 ^ 53
  least : leastExponent ≤ e
  greatest : e ≤ greatestExponent
  full : 2 ^ 52 ≤ m ∨ e = leastExponent

/-- Below `m · 2 ^ e` the next number is half as far away as above. -/
def IsEdge (m : ℕ) (e : ℤ) : Prop := m = 2 ^ 52 ∧ leastExponent < e

instance (m : ℕ) (e : ℤ) : Decidable (IsEdge m e) := inferInstanceAs (Decidable (_ ∧ _))

/-- The midpoint below `m · 2 ^ e`. -/
def lowest (m : ℕ) (e : ℤ) : ℚ := (m - if IsEdge m e then 1 / 4 else 1 / 2) * 2 ^ e

/-- The midpoint above `m · 2 ^ e`. -/
def highest (m : ℕ) (e : ℤ) : ℚ := (m + 1 / 2) * 2 ^ e

/-- A positive value that rounds to `m · 2 ^ e`. -/
structure InReach (m : ℕ) (e : ℤ) (v : ℚ) : Prop where
  low : lowest m e ≤ v
  high : v ≤ highest m e
  strict : m % 2 = 1 → lowest m e < v ∧ v < highest m e

/-! ### Quotients -/

theorem roundDiv_of_near {n d k : ℕ} (hd : 0 < d) (low : (2 * k - 1 : ℤ) * d ≤ 2 * n)
    (high : (2 * n : ℤ) ≤ (2 * k + 1) * d)
    (strict : k % 2 = 1 → (2 * k - 1 : ℤ) * d < 2 * n ∧ (2 * n : ℤ) < (2 * k + 1) * d) : roundDiv n d = k := by
  have hn : (n : ℤ) = d * (n / d : ℕ) + (n % d : ℕ) := by exact_mod_cast (Nat.div_add_mod n d).symm
  have hr : ((n % d : ℕ) : ℤ) < d := by exact_mod_cast Nat.mod_lt n hd
  have hd' : (0 : ℤ) < d := by exact_mod_cast hd
  unfold roundDiv
  generalize n / d = q at hn ⊢
  generalize n % d = r at hn hr ⊢
  have hr0 : (0 : ℤ) ≤ r := Int.natCast_nonneg r
  -- the quotient is `k` or one less
  have hqk : (q : ℤ) ≤ k := by
    by_contra hlt
    have : ((k : ℤ) + 1) * d ≤ q * d := by apply mul_le_mul_of_nonneg_right <;> omega
    nlinarith
  have hkq : (k : ℤ) ≤ q + 1 := by
    by_contra hlt
    have : ((q : ℤ) + 2) * d ≤ k * d := by apply mul_le_mul_of_nonneg_right <;> omega
    nlinarith
  obtain hk | hk : k = q ∨ k = q + 1 := by omega
  · subst hk
    have hle : (2 * r : ℤ) ≤ d := by nlinarith
    by_cases hlt : 2 * r < d
    · rw [if_pos hlt]
    · have heq : (2 * r : ℤ) = d := by omega
      have heven : k % 2 = 0 := by
        by_contra hodd
        have := (strict (by omega)).2
        nlinarith
      rw [if_neg hlt, if_neg (by omega), heven, Nat.add_zero]
  · have hge : (d : ℤ) ≤ 2 * r := by
      rw [hk] at low
      push_cast at low
      nlinarith
    rw [if_neg (by omega)]
    by_cases hgt : d < 2 * r
    · rw [if_pos hgt, hk]
    · have heq : (2 * r : ℤ) = d := by omega
      have hodd : q % 2 = 1 := by
        by_contra heven
        have := (strict (by omega)).1
        rw [hk] at this
        push_cast at this
        nlinarith
      rw [if_neg hgt, hodd, hk]

/-- The same for quotients as rational numbers. -/
theorem roundDiv_of_near_div {n d k : ℕ} (hd : 0 < d) (low : (k : ℚ) - 1 / 2 ≤ n / d) (high : (n : ℚ) / d ≤ k + 1 / 2)
    (strict : k % 2 = 1 → (k : ℚ) - 1 / 2 < n / d ∧ (n : ℚ) / d < k + 1 / 2) : roundDiv n d = k := by
  have hd' : (0 : ℚ) < d := by exact_mod_cast hd
  rw [le_div_iff₀ hd'] at low
  rw [div_le_iff₀ hd'] at high
  rw [lt_div_iff₀ hd', div_lt_iff₀ hd'] at strict
  apply roundDiv_of_near hd
  · have : ((2 * k - 1 : ℤ) * d : ℚ) ≤ 2 * n := by push_cast; linarith
    exact_mod_cast this
  · have : (2 * n : ℚ) ≤ (2 * k + 1 : ℤ) * d := by push_cast; linarith
    exact_mod_cast this
  · intro hk
    obtain ⟨hlow, hhigh⟩ := strict hk
    constructor
    · have : ((2 * k - 1 : ℤ) * d : ℚ) < 2 * n := by push_cast; linarith
      exact_mod_cast this
    · have : (2 * n : ℚ) < (2 * k + 1 : ℤ) * d := by push_cast; linarith
      exact_mod_cast this

/-! ### Scaling -/

theorem two_zpow_pos (e : ℤ) : (0 : ℚ) < 2 ^ e := by positivity

theorem scaled_den_pos (num : ℕ) {den : ℕ} (hden : 0 < den) (e : ℤ) : 0 < (scaled num den e).2 := by
  unfold scaled
  split
  · exact hden
  · exact Nat.mul_pos hden (Nat.two_pow_pos _)

/-- Scaling divides by a power of two. -/
theorem scaled_eq (num den : ℕ) (e : ℤ) :
    ((scaled num den e).1 : ℚ) / (scaled num den e).2 = num / den / 2 ^ e := by
  unfold scaled
  split
  · rename_i he
    obtain ⟨k, rfl⟩ : ∃ k : ℕ, e = -(k : ℤ) := ⟨(-e).toNat, by omega⟩
    rw [neg_neg, Int.toNat_natCast, zpow_neg, zpow_natCast]
    push_cast
    field_simp
  · rename_i he
    obtain ⟨k, rfl⟩ : ∃ k : ℕ, e = (k : ℤ) := ⟨e.toNat, by omega⟩
    rw [Int.toNat_natCast, zpow_natCast]
    push_cast
    field_simp

/-- A number lies between two powers of two. -/
theorem two_pow_log2_le {n : ℕ} (hn : 0 < n) : (2 : ℚ) ^ (n.log2 : ℤ) ≤ n ∧ (n : ℚ) < 2 ^ (n.log2 + 1 : ℤ) := by
  constructor
  · rw [zpow_natCast]
    exact_mod_cast Nat.log2_self_le hn.ne'
  · have : n < 2 ^ (n.log2 + 1) := Nat.lt_log2_self
    rw [show ((n.log2 : ℤ) + 1) = ((n.log2 + 1 : ℕ) : ℤ) by push_cast; ring, zpow_natCast]
    exact_mod_cast this

/-- A quotient below a whole number, by its whole part. -/
theorem natDiv_lt_iff {n d : ℕ} (hd : 0 < d) (k : ℕ) : n / d < k ↔ (n : ℚ) / d < k := by
  have hd' : (0 : ℚ) < d := by exact_mod_cast hd
  rw [Nat.div_lt_iff_lt_mul hd, div_lt_iff₀ hd']
  exact_mod_cast Iff.rfl

/-- The exponent that is chosen for a ratio gives its significand full precision, if it is not the least one. -/
theorem exponentOf_spec {num den : ℕ} (hnum : 0 < num) (hden : 0 < den) :
    ∃ e : ℤ, 2 ^ 52 * 2 ^ e ≤ (num : ℚ) / den ∧ (num : ℚ) / den < 2 ^ 53 * 2 ^ e ∧
      exponentOf num den = max e leastExponent := by
  obtain ⟨hnlow, hnhigh⟩ := two_pow_log2_le hnum
  obtain ⟨hdlow, hdhigh⟩ := two_pow_log2_le hden
  have hden' : (0 : ℚ) < den := by exact_mod_cast hden
  set guess : ℤ := (num.log2 : ℤ) - den.log2 - 53 with hguess
  have hscaled := scaled_eq num den guess
  have hpos := scaled_den_pos num hden guess
  have hguess0 := two_zpow_pos guess
  -- the guess is right or one too small
  have hlow : (2 : ℚ) ^ 52 * 2 ^ guess ≤ num / den := by
    rw [le_div_iff₀ hden']
    have h1 : (2 : ℚ) ^ 52 * 2 ^ guess * den ≤ 2 ^ 52 * 2 ^ guess * 2 ^ (den.log2 + 1 : ℤ) := by
      apply mul_le_mul_of_nonneg_left hdhigh.le
      positivity
    have h2 : (2 : ℚ) ^ 52 * 2 ^ guess * 2 ^ (den.log2 + 1 : ℤ) = 2 ^ (num.log2 : ℤ) := by
      rw [show (2 : ℚ) ^ 52 = 2 ^ (52 : ℤ) by norm_cast, ← zpow_add₀ (by norm_num), ← zpow_add₀ (by norm_num)]
      congr 1
      omega
    linarith
  have hhigh : (num : ℚ) / den < 2 ^ 54 * 2 ^ guess := by
    rw [div_lt_iff₀ hden']
    have h1 : (2 : ℚ) ^ 54 * 2 ^ guess * 2 ^ (den.log2 : ℤ) ≤ 2 ^ 54 * 2 ^ guess * den := by
      apply mul_le_mul_of_nonneg_left hdlow
      positivity
    have h2 : (2 : ℚ) ^ 54 * 2 ^ guess * 2 ^ (den.log2 : ℤ) = 2 ^ (num.log2 + 1 : ℤ) := by
      rw [show (2 : ℚ) ^ 54 = 2 ^ (54 : ℤ) by norm_cast, ← zpow_add₀ (by norm_num), ← zpow_add₀ (by norm_num)]
      congr 1
      omega
    linarith
  have hdef : exponentOf num den = max (if (scaled num den guess).1 / (scaled num den guess).2 < 2 ^ 52 then guess - 1
      else if (scaled num den guess).1 / (scaled num den guess).2 < 2 ^ 53 then guess else guess + 1) leastExponent := rfl
  have hfull : ¬ (scaled num den guess).1 / (scaled num den guess).2 < 2 ^ 52 := by
    rw [natDiv_lt_iff hpos, hscaled, div_lt_iff₀ hguess0]
    push_cast
    linarith
  rw [hdef, if_neg hfull]
  by_cases hlt : (scaled num den guess).1 / (scaled num den guess).2 < 2 ^ 53
  · rw [if_pos hlt]
    rw [natDiv_lt_iff hpos, hscaled, div_lt_iff₀ hguess0] at hlt
    push_cast at hlt
    exact ⟨guess, hlow, hlt, rfl⟩
  · rw [if_neg hlt]
    rw [natDiv_lt_iff hpos, hscaled, div_lt_iff₀ hguess0] at hlt
    push_cast at hlt
    have hstep : (2 : ℚ) ^ (guess + 1) = 2 * 2 ^ guess := by
      rw [zpow_add₀ (by norm_num), zpow_one, mul_comm]
    refine ⟨guess + 1, ?_, ?_, rfl⟩
    · rw [hstep]
      linarith
    · rw [hstep]
      linarith

/-! ### Ratios in reach -/

theorem two_zpow_lt_iff {a b : ℤ} : (2 : ℚ) ^ a < 2 ^ b ↔ a < b := zpow_lt_zpow_iff_right₀ (by norm_num)

theorem two_zpow_succ (e : ℤ) : (2 : ℚ) ^ (e + 1) = 2 * 2 ^ e := by
  rw [zpow_add₀ (by norm_num), zpow_one, mul_comm]

variable {m : ℕ} {e : ℤ} {v : ℚ}

theorem InReach.half_low (h : InReach m e v) : ((m : ℚ) - 1 / 2) * 2 ^ e ≤ v := by
  have hlow := h.low
  have hpos := two_zpow_pos e
  unfold lowest at hlow
  split at hlow <;> nlinarith

/-- A value in reach has the exponent of its number, or lies just below a power of two. -/
theorem exponent_of_inReach (hu : IsUsual m e) (h : InReach m e v) {e' : ℤ} (hlow : 2 ^ 52 * 2 ^ e' ≤ v)
    (hhigh : v < 2 ^ 53 * 2 ^ e') :
    max e' leastExponent = e ∨ IsEdge m e ∧ v < 2 ^ 52 * 2 ^ e ∧ max e' leastExponent = e - 1 := by
  have hpos := two_zpow_pos e
  have hm : (m : ℚ) + 1 / 2 < 2 ^ 53 := by
    have : (m : ℚ) ≤ 2 ^ 53 - 1 := by
      have := hu.lt
      have : m + 1 ≤ 2 ^ 53 := by omega
      have : ((m + 1 : ℕ) : ℚ) ≤ 2 ^ 53 := by exact_mod_cast this
      push_cast at this
      linarith
    linarith
  have hleast := hu.least
  have hle : e' ≤ e := by
    have h1 : v ≤ (m + 1 / 2) * 2 ^ e := h.high
    have h2 : (2 : ℚ) ^ e' < 2 ^ (e + 1) := by
      rw [two_zpow_succ]
      nlinarith
    have := two_zpow_lt_iff.mp h2
    omega
  rcases hu.full with hfull | hfull
  · by_cases hv : 2 ^ 52 * 2 ^ e ≤ v
    · have h2 : (2 : ℚ) ^ e < 2 ^ (e' + 1) := by
        rw [two_zpow_succ]
        nlinarith
      have := two_zpow_lt_iff.mp h2
      left
      omega
    · rcases eq_or_lt_of_le hleast with he | he
      · left
        omega
      · right
        push Not at hv
        have hm52 : m = 2 ^ 52 := by
          have h1 := h.half_low
          have h2 : (m : ℚ) < 2 ^ 52 + 1 := by nlinarith
          have h3 : m < 2 ^ 52 + 1 := by exact_mod_cast h2
          omega
        have hedge : IsEdge m e := ⟨hm52, he⟩
        have h1 := h.low
        rw [lowest, if_pos hedge, hm52] at h1
        push_cast at h1
        refine ⟨hedge, hv, ?_⟩
        have h2 : (2 : ℚ) ^ e' < 2 ^ e := by nlinarith
        have h3 : (2 : ℚ) ^ e < 2 ^ (e' + 1 + 1) := by
          rw [two_zpow_succ, two_zpow_succ]
          nlinarith
        have := two_zpow_lt_iff.mp h2
        have := two_zpow_lt_iff.mp h3
        omega
  · left
    omega

/-- Rounding within the precision. -/
theorem ofRatio_of_roundDiv {num den : ℕ} (hnum : 0 < num) (hden : 0 < den) (he : exponentOf num den = e)
    (hm : roundDiv (scaled num den e).1 (scaled num den e).2 = m) (hlt : m < 2 ^ 53) (hgreat : e ≤ greatestExponent)
    (negative : Bool) : ofRatio negative num den = .finite negative m e := by
  have hne : m ≠ 2 ^ 53 := by omega
  rw [ofRatio, if_neg (by omega)]
  simp only [he, hm, if_neg hne, if_neg (not_lt.mpr hgreat)]

/-- Rounding up to the next power of two. -/
theorem ofRatio_of_roundDiv_carry {num den : ℕ} (hnum : 0 < num) (hden : 0 < den) (he : exponentOf num den = e)
    (hm : roundDiv (scaled num den e).1 (scaled num den e).2 = 2 ^ 53) (hgreat : e + 1 ≤ greatestExponent)
    (negative : Bool) : ofRatio negative num den = .finite negative (2 ^ 52) (e + 1) := by
  rw [ofRatio, if_neg (by omega)]
  simp only [he, hm, if_true, if_neg (not_lt.mpr hgreat)]

/-- A ratio in reach of a number is rounded to it. -/
theorem ofRatio_of_inReach {num den : ℕ} (hnum : 0 < num) (hden : 0 < den) (hu : IsUsual m e)
    (h : InReach m e ((num : ℚ) / den)) (negative : Bool) : ofRatio negative num den = .finite negative m e := by
  obtain ⟨e', hlow, hhigh, he'⟩ := exponentOf_spec hnum hden
  have hpos := two_zpow_pos e
  rcases exponent_of_inReach hu h hlow hhigh with he | ⟨⟨hm, hleast⟩, hv, he⟩
  · refine ofRatio_of_roundDiv hnum hden (he'.trans he) ?_ hu.lt hu.greatest negative
    apply roundDiv_of_near_div (scaled_den_pos _ hden e)
    · rw [scaled_eq, le_div_iff₀ hpos]
      exact h.half_low
    · rw [scaled_eq, div_le_iff₀ hpos]
      exact h.high
    · intro hodd
      rw [scaled_eq, lt_div_iff₀ hpos, div_lt_iff₀ hpos]
      obtain ⟨hlow', hhigh'⟩ := h.strict hodd
      have hedge : ¬ IsEdge m e := by
        rintro ⟨rfl, -⟩
        omega
      rw [lowest, if_neg hedge] at hlow'
      exact ⟨hlow', hhigh'⟩
  · -- just below a power of two the significand is rounded up to the next one
    have hpos' := two_zpow_pos (e - 1)
    have hstep : (2 : ℚ) ^ e = 2 * 2 ^ (e - 1) := by rw [← two_zpow_succ, sub_add_cancel]
    have hcarry := ofRatio_of_roundDiv_carry (e := e - 1) hnum hden (he'.trans he) ?_ (by have := hu.greatest; omega)
      negative
    · rw [hcarry, hm, sub_add_cancel]
    · apply roundDiv_of_near_div (scaled_den_pos _ hden _)
      · rw [scaled_eq, le_div_iff₀ hpos']
        have := h.low
        rw [lowest, if_pos ⟨hm, hleast⟩, hm, hstep] at this
        push_cast at this ⊢
        linarith
      · rw [scaled_eq, div_le_iff₀ hpos']
        rw [hstep] at hv
        push_cast
        linarith
      · intro hodd
        omega

/-! ### The usual form -/

theorem roundDiv_bounds (n d : ℕ) : n / d ≤ roundDiv n d ∧ roundDiv n d ≤ n / d + 1 := by
  have := Nat.mod_two_eq_zero_or_one (n / d)
  unfold roundDiv
  dsimp only
  split
  · omega
  · split <;> omega

theorem isUsual_zero : IsUsual 0 leastExponent := by
  refine ⟨?_, le_refl _, ?_, .inr rfl⟩
  · positivity
  · decide

/-- What a ratio is rounded to is in the usual form. -/
theorem isUsual_of_ofRatio {negative negative' : Bool} {num den m : ℕ} {e : ℤ}
    (h : ofRatio negative num den = .finite negative' m e) : IsUsual m e := by
  unfold ofRatio at h
  split at h
  · cases h
    exact isUsual_zero
  · rename_i hne
    have hnum : 0 < num := by omega
    have hden₀ : 0 < den := by omega
    obtain ⟨e', hlow, hhigh, he'⟩ := exponentOf_spec hnum hden₀
    have hden := scaled_den_pos num hden₀ (exponentOf num den)
    set e₀ := exponentOf num den with he₀
    set n := (scaled num den e₀).1 with hn
    set d := (scaled num den e₀).2 with hd
    have hvalue : (n : ℚ) / d = num / den / 2 ^ e₀ := scaled_eq num den e₀
    have hpos := two_zpow_pos e₀
    have hlt : n / d < 2 ^ 53 := by
      rw [natDiv_lt_iff hden, hvalue, div_lt_iff₀ hpos]
      have hle : (2 : ℚ) ^ e' ≤ 2 ^ e₀ := zpow_le_zpow_right₀ (by norm_num) (he' ▸ le_max_left _ _)
      push_cast
      nlinarith
    have hfull : 2 ^ 52 ≤ n / d ∨ e₀ = leastExponent := by
      rcases le_total leastExponent e' with hle | hle
      · left
        rw [max_eq_left hle] at he'
        rw [← not_lt, natDiv_lt_iff hden, hvalue, div_lt_iff₀ hpos, he', not_lt]
        exact_mod_cast hlow
      · right
        rw [he', max_eq_right hle]
    have hleast : leastExponent ≤ e₀ := he' ▸ le_max_right _ _
    obtain ⟨hm₁, hm₂⟩ := roundDiv_bounds n d
    dsimp only at h
    rw [← hn, ← hd] at h
    by_cases hcarry : roundDiv n d = 2 ^ 53
    · rw [if_pos hcarry] at h
      dsimp only at h
      split at h
      · cases h
      · obtain ⟨-, rfl, rfl⟩ := finite.inj h
        exact ⟨by norm_num, by omega, by omega, .inl le_rfl⟩
    · rw [if_neg hcarry] at h
      dsimp only at h
      split at h
      · cases h
      · obtain ⟨-, rfl, he⟩ := finite.inj h
        rw [← he]
        exact ⟨by omega, hleast, by omega, hfull.imp_left fun hle => hle.trans hm₁⟩

/-- What a decimal is rounded to is in the usual form. -/
theorem isUsual_of_ofDecimal {negative negative' : Bool} {digits m : ℕ} {power e : ℤ}
    (h : ofDecimal negative digits power = .finite negative' m e) : IsUsual m e := by
  unfold ofDecimal at h
  dsimp only at h
  split_ifs at h
  · cases h
    exact isUsual_zero
  · cases h
    exact isUsual_zero
  · exact isUsual_of_ofRatio h
  · exact isUsual_of_ofRatio h

end LintPreview.Binary64
