import Mathlib
import Bistro.Money

/-!
# Bistro — amounts through a money column

A money column keeps a double, and reads it back rounded to cents, ties to even. This module
proves where that round trip is exact:

* `storedAmount_toBinary64`: a two-place amount below `2^46` units reads back as itself;
* `lt_centsBound_of_withinBound`: an amount, of two places or coarser, whose double reads back
  below that bound was below it to begin with;
* `storedAmount_toBinary64_zero`: a zero at any place reads back as the two-place zero of its
  sign.

The argument runs over the rationals: `floorLog2Ratio` is the binary exponent of a ratio,
`roundScaled` is within a half of the scaled ratio, so the double nearest to `c / 100` is within
`2^(fl - 53)` of it; below `2^46` that is less than half a cent.
-/

namespace Bistro

/-! ## §1 — Rounding a ratio -/

theorem roundHalfEven_bounds (a b : ℕ) (hb : 0 < b) :
    2 * a ≤ 2 * b * roundHalfEven a b + b ∧ 2 * b * roundHalfEven a b ≤ 2 * a + b := by
  have hdm := Nat.div_add_mod a b
  have hlt := Nat.mod_lt a hb
  unfold roundHalfEven
  dsimp only
  generalize a / b = q at *
  generalize a % b = r at *
  split_ifs <;> constructor <;> nlinarith

/-- Written over the rationals: the rounded ratio is within a half of the ratio. -/
theorem roundHalfEven_near (a b : ℕ) (hb : 0 < b) :
    |(roundHalfEven a b : ℚ) - a / b| ≤ 1 / 2 := by
  obtain ⟨h₁, h₂⟩ := roundHalfEven_bounds a b hb
  have hbq : (0 : ℚ) < b := by exact_mod_cast hb
  have h₁' : (2 * a : ℚ) ≤ 2 * b * roundHalfEven a b + b := by exact_mod_cast h₁
  have h₂' : (2 * b * roundHalfEven a b : ℚ) ≤ 2 * a + b := by exact_mod_cast h₂
  have key : (roundHalfEven a b : ℚ) - a / b = (2 * b * roundHalfEven a b - 2 * a) / (2 * b) := by
    field_simp
  rw [key, abs_div, abs_of_pos (show (0 : ℚ) < 2 * b by positivity), div_le_iff₀ (by positivity),
    abs_le]
  constructor <;> linarith

/-- A natural number within less than a half of the ratio is its rounding. -/
theorem roundHalfEven_eq_of_near {a b k : ℕ} (hb : 0 < b) (hk : |(k : ℚ) - a / b| < 1 / 2) :
    roundHalfEven a b = k := by
  have hr := roundHalfEven_near a b hb
  have hclose : |(roundHalfEven a b : ℚ) - k| < 1 := by
    calc |(roundHalfEven a b : ℚ) - k|
        = |((roundHalfEven a b : ℚ) - a / b) - ((k : ℚ) - a / b)| := by ring_nf
      _ ≤ |(roundHalfEven a b : ℚ) - a / b| + |(k : ℚ) - a / b| := abs_sub _ _
      _ < 1 := by linarith
  have hint : |((roundHalfEven a b : ℤ) - k : ℤ)| < 1 := by exact_mod_cast hclose
  have := abs_lt.1 hint
  omega

@[simp] theorem roundHalfEven_zero (b : ℕ) : roundHalfEven 0 b = 0 := by
  simp [roundHalfEven]

/-- Rounding a ratio of at least `k` gives at least `k`. -/
theorem le_roundHalfEven {a b k : ℕ} (hb : 0 < b) (hk : k * b ≤ a) : k ≤ roundHalfEven a b := by
  have hq : k ≤ a / b := (Nat.le_div_iff_mul_le hb).2 hk
  unfold roundHalfEven
  dsimp only
  split_ifs <;> omega


/-! ## §2 — The binary exponent of a ratio -/

/-- Whether `den · 2^k ≤ num`, the test `floorLog2Ratio` makes, is `2^k ≤ num / den`. -/
theorem pow_le_ratio_iff {num den : ℕ} (hd : 0 < den) (k : ℤ) :
    (if 0 ≤ k then decide (den * Nat.pow 2 k.toNat ≤ num)
      else decide (den ≤ num * Nat.pow 2 (-k).toNat)) = true ↔ (2 : ℚ) ^ k ≤ num / den := by
  have hdq : (0 : ℚ) < den := by exact_mod_cast hd
  rw [le_div_iff₀ hdq]
  split_ifs with hk
  · obtain ⟨n, rfl⟩ := Int.eq_ofNat_of_zero_le hk
    simp only [Int.toNat_natCast, Nat.pow_eq, decide_eq_true_eq, zpow_natCast]
    rw [mul_comm]
    exact_mod_cast Iff.rfl
  · obtain ⟨n, hn⟩ := Int.exists_eq_neg_ofNat (le_of_lt (not_le.1 hk))
    subst hn
    simp only [neg_neg, Int.toNat_natCast, Nat.pow_eq, decide_eq_true_eq, zpow_neg, zpow_natCast]
    rw [inv_mul_eq_div, div_le_iff₀ (by positivity)]
    exact_mod_cast Iff.rfl

/-- **`floorLog2Ratio` is the binary exponent of the ratio**: `2^fl ≤ num / den < 2^(fl+1)`. -/
theorem floorLog2Ratio_spec {num den : ℕ} (hn : 0 < num) (hd : 0 < den) :
    (2 : ℚ) ^ floorLog2Ratio num den ≤ num / den ∧
      (num / den : ℚ) < 2 ^ (floorLog2Ratio num den + 1) := by
  have ha₁ : (2 : ℚ) ^ num.log2 ≤ num := by exact_mod_cast Nat.log2_self_le hn.ne'
  have ha₂ : (num : ℚ) < 2 ^ (num.log2 + 1) := by exact_mod_cast Nat.lt_log2_self
  have hb₁ : (2 : ℚ) ^ den.log2 ≤ den := by exact_mod_cast Nat.log2_self_le hd.ne'
  have hb₂ : (den : ℚ) < 2 ^ (den.log2 + 1) := by exact_mod_cast Nat.lt_log2_self
  have hdq : (0 : ℚ) < den := by exact_mod_cast hd
  have hk : (2 : ℚ) ^ ((num.log2 : ℤ) - den.log2) = 2 ^ num.log2 / 2 ^ den.log2 := by
    rw [zpow_sub₀ (by norm_num), zpow_natCast, zpow_natCast]
  -- the ratio lies strictly between `2^(k-1)` and `2^(k+1)` for `k = log₂ num - log₂ den`
  have hlow : (2 : ℚ) ^ num.log2 / (2 * 2 ^ den.log2) < num / den := by
    rw [div_lt_div_iff₀ (by positivity) hdq]
    calc (2 : ℚ) ^ num.log2 * den < 2 ^ num.log2 * 2 ^ (den.log2 + 1) :=
          mul_lt_mul_of_pos_left hb₂ (by positivity)
      _ ≤ num * (2 * 2 ^ den.log2) := by rw [pow_succ]; nlinarith [pow_pos (two_pos (α := ℚ)) den.log2]
  have hhigh : (num / den : ℚ) < 2 * 2 ^ num.log2 / 2 ^ den.log2 := by
    rw [div_lt_div_iff₀ hdq (by positivity)]
    calc (num : ℚ) * 2 ^ den.log2 < 2 ^ (num.log2 + 1) * 2 ^ den.log2 :=
          mul_lt_mul_of_pos_right ha₂ (by positivity)
      _ ≤ 2 * 2 ^ num.log2 * den := by rw [pow_succ]; nlinarith [pow_pos (two_pos (α := ℚ)) num.log2]
  unfold floorLog2Ratio
  dsimp only
  set k : ℤ := (num.log2 : ℤ) - den.log2 with hkdef
  -- the test decides between `k` and `k - 1`
  cases hat : (if 0 ≤ k then decide (den * Nat.pow 2 k.toNat ≤ num)
      else decide (den ≤ num * Nat.pow 2 (-k).toNat)) with
  | true =>
    rw [pow_le_ratio_iff hd] at hat
    simp only [if_true]
    refine ⟨hat, ?_⟩
    rw [zpow_add_one₀ (by norm_num), hk]
    linarith [hhigh, show (2 : ℚ) ^ num.log2 / 2 ^ den.log2 * 2 = 2 * 2 ^ num.log2 / 2 ^ den.log2 by ring]
  | false =>
    have hlt : (num / den : ℚ) < 2 ^ k := by
      rw [← not_le, ← pow_le_ratio_iff hd, hat]
      simp
    simp only [Bool.false_eq_true, if_false, sub_add_cancel]
    refine ⟨?_, hlt⟩
    rw [zpow_sub_one₀ (by norm_num), hk]
    have : (2 : ℚ) ^ num.log2 / 2 ^ den.log2 * 2⁻¹ = 2 ^ num.log2 / (2 * 2 ^ den.log2) := by
      field_simp
    linarith

/-! ## §3 — Rounding to a binary exponent -/

/-- `roundScaled` is within a half of `num / den / 2^q`. -/
theorem roundScaled_near (num : ℕ) {den : ℕ} (hd : 0 < den) (q : ℤ) :
    |(roundScaled num den q : ℚ) - num / den / 2 ^ q| ≤ 1 / 2 := by
  unfold roundScaled
  split_ifs with hq
  · obtain ⟨n, rfl⟩ := Int.eq_ofNat_of_zero_le hq
    have h := roundHalfEven_near num (den * Nat.pow 2 n) (by simp [Nat.pow_eq]; positivity)
    simp only [Nat.pow_eq, Nat.cast_mul, Nat.cast_pow, Nat.cast_ofNat] at h
    rwa [Int.toNat_natCast, zpow_natCast, div_div]
  · obtain ⟨n, hn⟩ := Int.exists_eq_neg_ofNat (le_of_lt (not_le.1 hq))
    subst hn
    have h := roundHalfEven_near (num * Nat.pow 2 n) den hd
    simp only [neg_neg, Int.toNat_natCast, Nat.pow_eq, Nat.cast_mul, Nat.cast_pow,
      Nat.cast_ofNat] at h ⊢
    rwa [zpow_neg, zpow_natCast, div_inv_eq_mul, div_mul_eq_mul_div]

theorem le_roundScaled {num den k : ℕ} (hd : 0 < den) {q : ℤ}
    (hk : (k : ℚ) ≤ num / den / 2 ^ q) : k ≤ roundScaled num den q := by
  have h := (abs_le.1 (roundScaled_near num hd q)).1
  have : (k : ℚ) - 1 < roundScaled num den q := by linarith
  have : (k : ℤ) - 1 < roundScaled num den q := by exact_mod_cast this
  omega

theorem roundScaled_le {num den k : ℕ} (hd : 0 < den) {q : ℤ}
    (hk : (num / den / 2 ^ q : ℚ) < k) : roundScaled num den q ≤ k := by
  have h := (abs_le.1 (roundScaled_near num hd q)).2
  have : (roundScaled num den q : ℚ) < k + 1 := by linarith
  have : (roundScaled num den q : ℤ) < k + 1 := by exact_mod_cast this
  omega

/-! ## §4 — Packing a double -/

theorem fractionCount_eq : fractionCount = 2 ^ 52 := by norm_num [fractionCount]

/-- A normal significand and exponent pack into a double that reads back as them. -/
theorem pack_parts (neg : Bool) {s : ℕ} {q : ℤ} (hs₁ : 2 ^ 52 ≤ s) (hs₂ : s < 2 ^ 53)
    (hq₁ : -1074 ≤ q) (hq₂ : q ≤ 971) :
    (Binary64.pack neg s q).parts? = some (neg, s, q) := by
  have he : (q + 1075).toNat < 2047 := by omega
  have hf : s - fractionCount < fractionCount := by rw [fractionCount_eq]; omega
  unfold Binary64.pack
  rw [if_neg (by rw [fractionCount_eq]; omega), dif_pos he, dif_pos hf]
  simp only [Binary64.parts?, Binary64.significandOf, Binary64.exponentOf, Option.some.injEq,
    Prod.mk.injEq, true_and]
  rw [fractionCount_eq]
  constructor <;> split_ifs <;> omega

/-! ## §5 — The double nearest to a ratio -/

/-- The exponent of the last place of the double nearest to `num / den`, in the normal range. -/
abbrev lastPlace (num den : ℕ) : ℤ := floorLog2Ratio num den - 52

/-- The significand of `num / den` rounded at `lastPlace`: between `2^52` and `2^53`. -/
theorem roundScaled_lastPlace_bounds {num den : ℕ} (hn : 0 < num) (hd : 0 < den) :
    2 ^ 52 ≤ roundScaled num den (lastPlace num den) ∧
      roundScaled num den (lastPlace num den) ≤ 2 ^ 53 := by
  obtain ⟨h₁, h₂⟩ := floorLog2Ratio_spec hn hd
  have hpos : (0 : ℚ) < 2 ^ lastPlace num den := by positivity
  have hsplit : (2 : ℚ) ^ floorLog2Ratio num den = 2 ^ 52 * 2 ^ lastPlace num den := by
    rw [← zpow_natCast, ← zpow_add₀ (by norm_num)]; congr 1; simp only [lastPlace]; omega
  have hsplit' : (2 : ℚ) ^ (floorLog2Ratio num den + 1) = 2 ^ 53 * 2 ^ lastPlace num den := by
    rw [← zpow_natCast, ← zpow_add₀ (by norm_num)]; congr 1; simp only [lastPlace]; omega
  constructor
  · apply le_roundScaled hd
    rw [le_div_iff₀ hpos]
    push_cast
    linarith
  · apply roundScaled_le hd
    rw [div_lt_iff₀ hpos]
    push_cast
    linarith

/-- **The double nearest to a ratio**, in the normal range: an infinity, or a finite value whose
significand and exponent give the ratio rounded at `lastPlace`, the carry of a significand that
rounds up to `2^53` moving it one place. -/
theorem ofRatio_normal (neg : Bool) {num den : ℕ} (hn : 0 < num) (hd : 0 < den)
    (hlow : -1022 ≤ floorLog2Ratio num den) :
    (1023 ≤ floorLog2Ratio num den ∧ Binary64.ofRatio neg num den = .infinite neg) ∨
      ∃ s q, (Binary64.ofRatio neg num den).parts? = some (neg, s, q) ∧
        (s : ℚ) * 2 ^ q = roundScaled num den (lastPlace num den) * 2 ^ lastPlace num den ∧
        lastPlace num den ≤ q ∧ q ≤ lastPlace num den + 1 := by
  obtain ⟨hr₁, hr₂⟩ := roundScaled_lastPlace_bounds hn hd
  simp only [lastPlace] at hr₁ hr₂ ⊢
  unfold Binary64.ofRatio
  rw [if_neg (by omega)]
  dsimp only
  rw [max_eq_left (by omega)]
  by_cases hc : roundScaled num den (floorLog2Ratio num den - 52) = 2 * fractionCount
  · -- the significand rounds up to `2^53`: one place up, significand `2^52`
    rw [if_pos hc]
    dsimp only
    split_ifs with hq
    · exact .inl ⟨by omega, rfl⟩
    · refine .inr ⟨fractionCount, floorLog2Ratio num den - 52 + 1, ?_, ?_, by omega, le_refl _⟩
      · exact pack_parts neg (by rw [fractionCount_eq]) (by rw [fractionCount_eq]; norm_num)
          (by omega) (by omega)
      · rw [hc, fractionCount_eq, zpow_add_one₀ (by norm_num)]
        push_cast
        ring
  · rw [if_neg hc]
    dsimp only
    split_ifs with hq
    · exact .inl ⟨by omega, rfl⟩
    · have hlt : roundScaled num den (floorLog2Ratio num den - 52) < 2 ^ 53 := by
        rw [fractionCount_eq] at hc; omega
      exact .inr ⟨_, _, pack_parts neg hr₁ hlt (by omega) (by omega), rfl, le_refl _, by omega⟩

/-! ## §6 — Reading a double back to cents -/

/-- A finite double reads back as its value times a hundred, rounded to a whole number of
cents. -/
theorem storedAmount_of_parts {x : Binary64} {neg : Bool} {s : ℕ} {q : ℤ}
    (h : x.parts? = some (neg, s, q)) :
    storedAmount x = .finite neg (if 0 ≤ q then s * 100 * Nat.pow 2 q.toNat
      else roundHalfEven (s * 100) (Nat.pow 2 (-q).toNat)) (-2) := by
  cases x with
  | finite n e f =>
    simp only [Binary64.parts?, Option.some.injEq, Prod.mk.injEq] at h
    obtain ⟨rfl, rfl, rfl⟩ := h
    rfl
  | infinite => cases h
  | nan => cases h

/-- The cents read back from a double with significand `s` and a negative exponent `q` are
within a half of `100 · s · 2^q`. -/
theorem cents_near {s : ℕ} {q : ℤ} (hq : q < 0) :
    |(roundHalfEven (s * 100) (Nat.pow 2 (-q).toNat) : ℚ) - 100 * s * 2 ^ q| ≤ 1 / 2 := by
  have h := roundHalfEven_near (s * 100) (Nat.pow 2 (-q).toNat) (by simp [Nat.pow_eq])
  have hpow : ((Nat.pow 2 (-q).toNat : ℕ) : ℚ) = (2 : ℚ) ^ (-q) := by
    rw [Nat.pow_eq, Nat.cast_pow, Nat.cast_ofNat, ← zpow_natCast, Int.toNat_of_nonneg (by omega)]
  rw [hpow, zpow_neg, div_inv_eq_mul] at h
  push_cast at h
  rwa [show (s : ℚ) * 100 * 2 ^ q = 100 * s * 2 ^ q by ring] at h

/-! ## §7 — Two-place amounts through a money column -/

/-- The bound, in cents, below which an amount survives a money column: `2^46` units. -/
def centsBound : ℕ := 100 * 2 ^ 46

/-- The first power of two that the ratio `num / den` reaches is below `2^k` when the ratio is. -/
theorem floorLog2Ratio_lt {num den : ℕ} (hn : 0 < num) (hd : 0 < den) {k : ℤ}
    (h : (num / den : ℚ) < 2 ^ k) : floorLog2Ratio num den < k :=
  (zpow_lt_zpow_iff_right₀ (by norm_num : (1 : ℚ) < 2)).1
    (lt_of_le_of_lt (floorLog2Ratio_spec hn hd).1 h)

theorem le_floorLog2Ratio {num den : ℕ} (hn : 0 < num) (hd : 0 < den) {k : ℤ}
    (h : (2 : ℚ) ^ k ≤ num / den) : k ≤ floorLog2Ratio num den := by
  have := lt_of_le_of_lt h (floorLog2Ratio_spec hn hd).2
  have := (zpow_lt_zpow_iff_right₀ (by norm_num : (1 : ℚ) < 2)).1 this
  omega

/-- A zero keeps its sign through a money column and reads back with two places. -/
theorem storedAmount_toBinary64_zero (neg : Bool) (e : ℤ) :
    storedAmount (Decimal.toBinary64 (.finite neg 0 e)) = .finite neg 0 (-2) := by
  simp only [Decimal.toBinary64, Binary64.ofDecimal, if_true, Binary64.signedZero, storedAmount,
    Decimal.ofBinary64Cents, Binary64.significandOf, Binary64.exponentOf, zero_mul,
    roundHalfEven_zero, ite_self]

/-- **A two-place amount below the bound survives a money column**: the double nearest to it
reads back, rounded to cents, as the amount itself. -/
theorem storedAmount_toBinary64 (neg : Bool) {c : ℕ} (hc : c < centsBound) :
    storedAmount (Decimal.toBinary64 (.finite neg c (-2))) = .finite neg c (-2) := by
  simp only [Decimal.toBinary64]
  rcases Nat.eq_zero_or_pos c with rfl | hpos
  · exact storedAmount_toBinary64_zero neg (-2)
  have hlen : (natDigits c).length ≤ 16 :=
    (Nat.length_toDigits_le_iff (by norm_num) (by norm_num)).2 (by unfold centsBound at hc; omega)
  unfold Binary64.ofDecimal
  rw [if_neg hpos.ne', if_neg (by omega), if_neg (by omega), if_neg (by norm_num)]
  have hden : Nat.pow 10 (-(-2 : ℤ)).toNat = 100 := rfl
  rw [hden]
  -- the ratio `c / 100` lies between `2^-7` and `2^46`
  have hcq : (c / 100 : ℚ) < 2 ^ (46 : ℤ) := by
    have : (c : ℚ) < 100 * 2 ^ 46 := by exact_mod_cast hc
    rw [div_lt_iff₀ (by norm_num)]; norm_num at this ⊢; linarith
  have hcq' : (2 : ℚ) ^ (-7 : ℤ) ≤ c / 100 := by
    have : (1 : ℚ) ≤ c := by exact_mod_cast hpos
    rw [le_div_iff₀ (by norm_num)]; norm_num; linarith
  have hhi := @floorLog2Ratio_lt c 100 hpos (by norm_num) 46 (by exact_mod_cast hcq)
  have hlo := @le_floorLog2Ratio c 100 hpos (by norm_num) (-7) (by exact_mod_cast hcq')
  rcases @ofRatio_normal neg c 100 hpos (by norm_num) (by omega) with ⟨hinf, -⟩ | ⟨s, q, hparts, hval, -, hq⟩
  · omega
  have hlp : lastPlace c 100 ≤ -7 := by simp only [lastPlace]; omega
  rw [storedAmount_of_parts hparts, if_neg (by omega)]
  congr 1
  apply roundHalfEven_eq_of_near (by simp [Nat.pow_eq])
  have hpow : ((Nat.pow 2 (-q).toNat : ℕ) : ℚ) = (2 : ℚ) ^ (-q) := by
    rw [Nat.pow_eq, Nat.cast_pow, Nat.cast_ofNat, ← zpow_natCast, Int.toNat_of_nonneg (by omega)]
  rw [hpow, zpow_neg, div_inv_eq_mul, Nat.cast_mul, Nat.cast_ofNat, mul_assoc, mul_left_comm, hval]
  have hr := roundScaled_near c (by norm_num : 0 < 100) (lastPlace c 100)
  have hsmall : (2 : ℚ) ^ lastPlace c 100 ≤ 2 ^ (-7 : ℤ) :=
    zpow_le_zpow_right₀ (by norm_num) hlp
  have hpos' : (0 : ℚ) < 2 ^ lastPlace c 100 := by positivity
  -- the rounding error of the double, a hundred times over, stays below half a cent
  simp only [Nat.cast_ofNat] at hr
  calc |(c : ℚ) - 100 * (roundScaled c 100 (lastPlace c 100) * 2 ^ lastPlace c 100)|
      = |100 * 2 ^ lastPlace c 100 *
          ((roundScaled c 100 (lastPlace c 100) : ℚ) - c / 100 / 2 ^ lastPlace c 100)| := by
        rw [← abs_neg]
        congr 1
        field_simp
        ring
    _ = 100 * 2 ^ lastPlace c 100 *
          |(roundScaled c 100 (lastPlace c 100) : ℚ) - c / 100 / 2 ^ lastPlace c 100| := by
        rw [abs_mul, abs_of_pos (by positivity)]
    _ ≤ 100 * 2 ^ lastPlace c 100 * (1 / 2) := by gcongr
    _ ≤ 100 * 2 ^ (-7 : ℤ) * (1 / 2) := by gcongr
    _ < 1 / 2 := by norm_num

/-- Whether an amount read back from a money column has two places and is below the bound. -/
def Decimal.withinBound : Decimal → Bool
  | .finite _ c e => e == -2 && decide (c < centsBound)
  | _ => false

/-- A ratio of at least `2^46` reads back from a money column at or past the bound. -/
theorem withinBound_ofRatio_of_large (neg : Bool) {num den : ℕ} (hn : 0 < num) (hd : 0 < den)
    (hbig : (2 : ℚ) ^ (46 : ℤ) ≤ num / den) :
    (storedAmount (Binary64.ofRatio neg num den)).withinBound = false := by
  have hfl := le_floorLog2Ratio hn hd hbig
  rcases ofRatio_normal neg hn hd (by omega) with ⟨-, hinf⟩ | ⟨s, q, hparts, hval, hq, -⟩
  · rw [hinf]; rfl
  obtain ⟨hr, -⟩ := roundScaled_lastPlace_bounds hn hd
  -- the double is at least `2^52 · 2^(fl - 52) = 2^fl ≥ 2^46`
  have hlarge : (2 : ℚ) ^ (46 : ℤ) ≤ s * 2 ^ q := by
    rw [hval]
    calc (2 : ℚ) ^ (46 : ℤ) ≤ 2 ^ floorLog2Ratio num den := zpow_le_zpow_right₀ (by norm_num) hfl
      _ = 2 ^ 52 * 2 ^ lastPlace num den := by
        rw [← zpow_natCast, ← zpow_add₀ (by norm_num)]; congr 1; simp only [lastPlace]; omega
      _ ≤ roundScaled num den (lastPlace num den) * 2 ^ lastPlace num den := by
        gcongr; exact_mod_cast hr
  rw [storedAmount_of_parts hparts]
  simp only [Decimal.withinBound, beq_self_eq_true, Bool.true_and, decide_eq_false_iff_not, not_lt]
  have h46 : (2 : ℚ) ^ 46 ≤ s * 2 ^ q := by simpa using hlarge
  split_ifs with hq0
  · obtain ⟨n, rfl⟩ := Int.eq_ofNat_of_zero_le hq0
    rw [zpow_natCast] at h46
    have : ((100 * 2 ^ 46 : ℕ) : ℚ) ≤ ((s * 100 * Nat.pow 2 n : ℕ) : ℚ) := by
      push_cast [Nat.pow_eq]; nlinarith
    unfold centsBound
    exact_mod_cast this
  · apply le_roundHalfEven (by simp [Nat.pow_eq])
    have hpow : ((Nat.pow 2 (-q).toNat : ℕ) : ℚ) = (2 : ℚ) ^ (-q) := by
      rw [Nat.pow_eq, Nat.cast_pow, Nat.cast_ofNat, ← zpow_natCast, Int.toNat_of_nonneg (by omega)]
    have hs : (s : ℚ) = s * 2 ^ q * 2 ^ (-q) := by
      rw [mul_assoc, ← zpow_add₀ (by norm_num), add_neg_cancel, zpow_zero, mul_one]
    have : ((centsBound * Nat.pow 2 (-q).toNat : ℕ) : ℚ) ≤ ((s * 100 : ℕ) : ℚ) := by
      rw [Nat.cast_mul, hpow, centsBound]
      push_cast
      have h1 : (100 * 2 ^ 46 : ℚ) * 2 ^ (-q) ≤ 100 * (s * 2 ^ q) * 2 ^ (-q) := by gcongr
      rw [show (100 : ℚ) * (s * 2 ^ q) * 2 ^ (-q) = s * 100 by rw [mul_assoc 100, ← hs]; ring]
        at h1
      linarith
    exact_mod_cast this

/-- **What the bound says of an amount**: an amount of at least two places whose double reads
back from a money column below the bound is below the bound itself, counted in cents. -/
theorem lt_centsBound_of_withinBound {neg : Bool} {c : ℕ} {e : ℤ} (he : -2 ≤ e)
    (h : (storedAmount (Decimal.toBinary64 (.finite neg c e))).withinBound = true) :
    c * 10 ^ (e + 2).toNat < centsBound := by
  by_contra hbig
  rw [not_lt] at hbig
  have hc : 0 < c := by
    rcases Nat.eq_zero_or_pos c with rfl | hc
    · simp [centsBound] at hbig
    · exact hc
  have hlen : 1 ≤ (natDigits c).length := Nat.length_toDigits_pos
  have hbigq : ((centsBound : ℕ) : ℚ) ≤ c * 10 ^ (e + 2) := by
    have : ((centsBound : ℕ) : ℚ) ≤ ((c * 10 ^ (e + 2).toNat : ℕ) : ℚ) := by exact_mod_cast hbig
    rwa [Nat.cast_mul, Nat.cast_pow, Nat.cast_ofNat, ← zpow_natCast,
      Int.toNat_of_nonneg (by omega)] at this
  -- the value `c · 10^e` is at least `2^46`
  have hvalue : (2 : ℚ) ^ (46 : ℤ) ≤ c * 10 ^ e := by
    rw [zpow_add₀ (by norm_num), centsBound] at hbigq
    push_cast at hbigq
    norm_num at hbigq ⊢
    linarith
  simp only [Decimal.toBinary64] at h
  unfold Binary64.ofDecimal at h
  rw [if_neg hc.ne'] at h
  by_cases hsize : e + ((natDigits c).length : ℤ) > 400
  · rw [if_pos hsize] at h
    cases h
  rw [if_neg hsize, if_neg (by omega)] at h
  split_ifs at h with he0
  · obtain ⟨n, rfl⟩ := Int.eq_ofNat_of_zero_le he0
    rw [withinBound_ofRatio_of_large neg (by simp [Nat.pow_eq]; positivity) one_pos (by
      simp only [Int.toNat_natCast, Nat.pow_eq, Nat.cast_mul, Nat.cast_pow, Nat.cast_ofNat,
        Nat.cast_one, div_one]
      simpa using hvalue)] at h
    cases h
  · obtain ⟨n, hn⟩ := Int.exists_eq_neg_ofNat (le_of_lt (not_le.1 he0))
    subst hn
    rw [withinBound_ofRatio_of_large neg hc (by simp [Nat.pow_eq]) (by
      simp only [neg_neg, Int.toNat_natCast, Nat.pow_eq, Nat.cast_pow, Nat.cast_ofNat]
      rwa [zpow_neg, zpow_natCast, ← div_eq_mul_inv] at hvalue)] at h
    cases h

end Bistro
