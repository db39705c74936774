import Mathlib
import Bistro.Proofs.StoredMoney
import Bistro.Command.Rules
import Bistro.Http.Message

/-!
# Bistro — page counts through a double

A listing's page count is the ceiling of `total / perPage`, where the quotient is the double
nearest to the exact ratio. This module proves exactly where that is the integer ceiling:

* `ceilOf_parts`: the ceiling of a finite double is the ceiling of its value;
* `ofRatio_subnormal_parts`: below `2^-1022` the nearest double sits at the last exponent;
* `rounded_le_ceil`, `ceil_pred_lt_rounded`: rounding `a / b` to a grid of step `1 / P` lands in
  `(k - 1, k]` for `k = ⌈a / b⌉`, as long as `a ≤ 2^53` and the grid is at least as fine as the
  normal range makes it;
* `ceilOf_ofRatio`: for `a ≤ 2^53` the ceiling of the double nearest to `a / b` is `⌈a / b⌉`,
  except that a ratio of at most `2^-1075` rounds to zero;
* `page_count_float_ceiling`: the page metadata for every count and page size.

Past `2^53` the double can miss the ceiling: `far_count_pages_miss_ceiling` is such a count.
-/

namespace Bistro

open Rules

/-! ## §1 — The ceiling of a finite double -/

/-- The ceiling of `s / d`: the quotient, plus one unless `d` divides `s`. -/
theorem ceil_natCast_div (s d : ℕ) (hd : 0 < d) :
    ⌈(s : ℚ) / d⌉ = ((s / d : ℕ) : ℤ) + if s % d = 0 then 0 else 1 := by
  have hdq : (0 : ℚ) < d := by exact_mod_cast hd
  have hdm := Nat.div_add_mod' s d
  have hlt := Nat.mod_lt s hd
  generalize s / d = m at *
  generalize s % d = r at *
  subst hdm
  rw [Int.ceil_eq_iff]
  split_ifs with h
  · -- `d` divides `s`: the ratio is the quotient itself
    subst h
    push_cast
    constructor
    · rw [lt_div_iff₀ hdq]; linarith
    · rw [div_le_iff₀ hdq]; linarith
  · -- a remainder: the ratio lies strictly between the quotient and the next integer
    have hpos : (0 : ℚ) < r := by exact_mod_cast Nat.pos_of_ne_zero h
    have hrq : (r : ℚ) < d := by exact_mod_cast hlt
    push_cast
    constructor
    · rw [lt_div_iff₀ hdq]; linarith
    · rw [div_le_iff₀ hdq]; linarith

/-- **The ceiling of a finite nonnegative double is the ceiling of its value.** -/
theorem Binary64.ceil?_parts {x : Binary64} {s : ℕ} {q : ℤ} (h : x.parts? = some (false, s, q)) :
    x.ceil? = some ⌈(s : ℚ) * 2 ^ q⌉ := by
  simp only [Binary64.ceil?, h, Option.map_some, Bool.false_eq_true, ↓reduceIte, Option.some.injEq]
  by_cases hq : 0 ≤ q
  · -- a nonnegative exponent: the value is a whole number
    rw [if_pos hq]
    obtain ⟨n, rfl⟩ := Int.eq_ofNat_of_zero_le hq
    rw [zpow_natCast, show (s : ℚ) * 2 ^ n = ((s * Nat.pow 2 n : ℕ) : ℤ) by
      push_cast [Nat.pow_eq]; rfl, Int.ceil_intCast]
    simp
  · -- a negative exponent `-n`: the value is `s / 2^n`
    rw [if_neg hq]
    obtain ⟨n, rfl⟩ := Int.exists_eq_neg_ofNat (le_of_lt (not_le.1 hq))
    have hpow : (s : ℚ) * 2 ^ (-(n : ℤ)) = (s : ℚ) / ((Nat.pow 2 n : ℕ) : ℚ) := by
      rw [zpow_neg, zpow_natCast, Nat.pow_eq]; push_cast; ring
    rw [hpow, ceil_natCast_div s _ (by simp [Nat.pow_eq])]
    simp only [neg_neg, Int.toNat_natCast]
    split_ifs <;> rfl

theorem ceilOf_parts {x : Binary64} {s : ℕ} {q : ℤ} (h : x.parts? = some (false, s, q)) :
    ceilOf x = .ok ⌈(s : ℚ) * 2 ^ q⌉ := by
  cases x with
  | nan => cases h
  | infinite => cases h
  | finite neg e f => rw [ceilOf, Binary64.ceil?_parts h, Option.getD_some]

/-! ## §2 — The double nearest to a small ratio -/

/-- Below the normal range the double nearest to `num / den` sits at the last exponent `-1074`,
its significand the ratio rounded there. -/
theorem ofRatio_subnormal_parts (neg : Bool) {num den : ℕ} (hn : 0 < num) (hd : 0 < den)
    (hsmall : floorLog2Ratio num den < -1022) :
    (Binary64.ofRatio neg num den).parts? = some (neg, roundScaled num den (-1074), -1074) := by
  -- the scaled ratio is below `2^52`, so its rounding is at most `2^52`
  have hle : roundScaled num den (-1074) ≤ 2 ^ 52 := by
    apply roundScaled_le hd
    have hlt := (floorLog2Ratio_spec hn hd).2
    have hcap : (2 : ℚ) ^ (floorLog2Ratio num den + 1) ≤ 2 ^ (-1022 : ℤ) :=
      zpow_le_zpow_right₀ (by norm_num) (by omega)
    have hscale : (2 : ℚ) ^ (-1022 : ℤ) = 2 ^ 52 * 2 ^ (-1074 : ℤ) := by
      rw [← zpow_natCast, ← zpow_add₀ (by norm_num)]; norm_num
    rw [div_lt_iff₀ (by positivity)]
    push_cast
    linarith
  have hc : roundScaled num den (-1074) ≠ 2 * fractionCount := by rw [fractionCount_eq]; omega
  unfold Binary64.ofRatio
  rw [if_neg (by omega)]
  dsimp only
  rw [max_eq_right (by omega), if_neg hc]
  dsimp only
  rw [if_neg (by norm_num)]
  unfold Binary64.pack
  by_cases hs : roundScaled num den (-1074) < fractionCount
  · rw [if_pos hs, dif_pos hs]
    simp [Binary64.parts?, Binary64.significandOf, Binary64.exponentOf]
  · -- the significand rounded up to `2^52`: the least normal double, same value
    have h52 : roundScaled num den (-1074) = fractionCount := by rw [fractionCount_eq] at hs ⊢; omega
    rw [if_neg hs, dif_pos (by norm_num), dif_pos (by rw [h52]; norm_num [fractionCount])]
    simp [Binary64.parts?, Binary64.significandOf, Binary64.exponentOf, h52]

/-! ## §3 — Rounding to a grid keeps the ceiling

The ratio `a / b` is rounded to the nearest multiple of `1 / P`, giving `R / P` with
`|2·b·R - 2·a·P| ≤ b`; `k = ⌈a / b⌉`. -/

section Bracket

variable {a b P R k : ℤ}

/-- The rounded ratio stays at or below `k`: `k·P` is on the grid and not below the ratio. -/
theorem rounded_le_ceil (hb : 0 < b) (hP : 0 < P) (hk : a ≤ k * b)
    (hR : 2 * b * R ≤ 2 * (a * P) + b) : R ≤ k * P := by
  have h₁ : b * (2 * R) ≤ b * (2 * (k * P) + 1) := by
    nlinarith [mul_le_mul_of_nonneg_right hk hP.le]
  have h₂ : 2 * R ≤ 2 * (k * P) + 1 := le_of_mul_le_mul_left h₁ hb
  omega

/-- In the normal range (`b · 2^52 ≤ a · P`) and for `a ≤ 2^53`, the rounded ratio stays above
`k - 1`: the ratio is at least `1 / b` above `k - 1`, half a step is at most that, and the two
meet only at `a = 2^53`, `b = 2·P`, where `a - (k - 1)·b` would be both `1` and even. -/
theorem ceil_pred_lt_rounded (hb : 0 < b) (hP : 0 < P) (hk : (k - 1) * b < a)
    (ha : a ≤ 2 ^ 53) (hwide : b * 2 ^ 52 ≤ a * P) (hR : 2 * (a * P) ≤ 2 * b * R + b) :
    (k - 1) * P < R := by
  by_contra hle
  push Not at hle
  have hj : 2 * (a - (k - 1) * b) * P ≤ b := by
    nlinarith [mul_le_mul_of_nonneg_left hle (by positivity : (0 : ℤ) ≤ 2 * b)]
  have hb2 : b ≤ 2 * P := by nlinarith [mul_le_mul_of_nonneg_right ha hP.le]
  have hj1 : a - (k - 1) * b = 1 := by nlinarith
  have hbP : b = 2 * P := by nlinarith
  have ha' : a = 2 ^ 53 := by nlinarith
  have hodd : a = 1 + 2 * ((k - 1) * P) := by rw [hbP] at hj1; linarith
  omega

/-- Below the normal range (`k = 1`), the rounded ratio is positive once `b < 2·a·P`. -/
theorem zero_lt_rounded (hlarge : b < 2 * (a * P)) (hR : 2 * (a * P) ≤ 2 * b * R + b)
    (hb : 0 < b) : 0 < R := by
  by_contra hle
  push Not at hle
  nlinarith

/-- A grid point strictly above `k - 1` and at most `k` has ceiling `k`. -/
theorem ceil_div_of_bracket (hP : 0 < P) (h₁ : (k - 1) * P < R) (h₂ : R ≤ k * P) :
    ⌈(R : ℚ) / P⌉ = k := by
  have hPq : (0 : ℚ) < P := by exact_mod_cast hP
  rw [Int.ceil_eq_iff, lt_div_iff₀ hPq, div_le_iff₀ hPq]
  exact ⟨by exact_mod_cast h₁, by exact_mod_cast h₂⟩

end Bracket

/-- The ceiling `k` of `a / b` brackets the ratio: `(k - 1)·b < a ≤ k·b`. -/
theorem ceil_ratio_bracket (a : ℤ) {b : ℤ} (hb : 0 < b) :
    (⌈(a : ℚ) / b⌉ - 1) * b < a ∧ a ≤ ⌈(a : ℚ) / b⌉ * b := by
  have hbq : (0 : ℚ) < b := by exact_mod_cast hb
  have h₁ := Int.ceil_lt_add_one ((a : ℚ) / b)
  have h₂ := Int.le_ceil ((a : ℚ) / b)
  have h₁' : (⌈(a : ℚ) / b⌉ : ℚ) - 1 < a / b := by linarith
  rw [lt_div_iff₀ hbq] at h₁'
  rw [div_le_iff₀ hbq] at h₂
  exact ⟨by exact_mod_cast h₁', by exact_mod_cast h₂⟩

/-! ## §4 — The ceiling of the double nearest to a ratio -/

/-- Rounding at a last place `-E ≤ 0` is rounding `num · 2^E` over `den`. -/
theorem roundScaled_neg (num den E : ℕ) :
    roundScaled num den (-(E : ℤ)) = roundHalfEven (num * 2 ^ E) den := by
  unfold roundScaled
  split_ifs with h
  · have hE : E = 0 := by omega
    subst hE
    simp [Nat.pow_eq]
  · simp [Nat.pow_eq]

/-- Rounding `a / b` at last place `-E` lands on the ceiling of the ratio, given the two
conditions of §3: `b · 2^52 ≤ a · 2^E` (the normal range) or `k = 1` and `b < a · 2^(E+1)`. -/
theorem ceil_roundScaled {a b E : ℕ} (ha₀ : 0 < a) (hb : 0 < b) (ha : a ≤ 2 ^ 53)
    (hrange : b * 2 ^ 52 ≤ a * 2 ^ E ∨ (a < b ∧ b < a * 2 ^ (E + 1))) :
    ⌈(roundScaled a b (-(E : ℤ)) : ℚ) * 2 ^ (-(E : ℤ))⌉ = ⌈(a : ℚ) / b⌉ := by
  obtain ⟨hk₁, hk₂⟩ := ceil_ratio_bracket (a : ℤ) (b := b) (by exact_mod_cast hb)
  simp only [Int.cast_natCast] at hk₁ hk₂
  have hR := roundHalfEven_bounds (a * 2 ^ E) b hb
  rw [roundScaled_neg]
  set R := roundHalfEven (a * 2 ^ E) b
  have hval : (R : ℚ) * 2 ^ (-(E : ℤ)) = ((R : ℤ) : ℚ) / ((2 ^ E : ℕ) : ℤ) := by
    rw [zpow_neg, zpow_natCast]; push_cast; ring
  rw [hval]
  have hP : (0 : ℤ) < ((2 ^ E : ℕ) : ℤ) := by positivity
  have hR₁ : 2 * ((a : ℤ) * ((2 ^ E : ℕ) : ℤ)) ≤ 2 * b * R + b := by exact_mod_cast hR.1
  have hR₂ : 2 * b * (R : ℤ) ≤ 2 * (a * ((2 ^ E : ℕ) : ℤ)) + b := by exact_mod_cast hR.2
  apply ceil_div_of_bracket hP _ (rounded_le_ceil (by exact_mod_cast hb) hP hk₂ hR₂)
  rcases hrange with hwide | ⟨hab, hlarge⟩
  · exact ceil_pred_lt_rounded (by exact_mod_cast hb) hP hk₁ (by exact_mod_cast ha)
      (by exact_mod_cast hwide) hR₁
  · -- below one the ceiling is `1`
    have hk : ⌈(a : ℚ) / b⌉ = 1 := by
      rw [Int.ceil_eq_iff, div_le_iff₀ (by exact_mod_cast hb)]
      constructor
      · norm_num; positivity
      · rw [Int.cast_one, one_mul]; exact_mod_cast hab.le
    rw [hk, sub_self, zero_mul]
    apply zero_lt_rounded _ hR₁ (by exact_mod_cast hb)
    have : b < 2 * (a * 2 ^ E) := by rw [pow_succ] at hlarge; linarith
    exact_mod_cast this

/-- A ratio of at most a half rounds to zero, a tie going to the even zero. -/
theorem roundHalfEven_eq_zero {a b : ℕ} (hab : 2 * a ≤ b) : roundHalfEven a b = 0 := by
  rcases Nat.eq_zero_or_pos a with rfl | ha
  · exact roundHalfEven_zero b
  have hq : a / b = 0 := Nat.div_eq_of_lt (by omega)
  have hr : a % b = a := Nat.mod_eq_of_lt (by omega)
  unfold roundHalfEven
  simp only [hq, hr, Nat.zero_mod, if_true]
  split_ifs <;> omega

/-- **For a count of at most `2^53`, the double nearest to `a / b` has ceiling `⌈a / b⌉`**,
except that a ratio of at most `2^-1075` rounds to zero. -/
theorem ceilOf_ofRatio {a b : ℕ} (hb : 0 < b) (ha : a ≤ 2 ^ 53) :
    ceilOf (Binary64.ofRatio false a b) =
      .ok (if a = 0 ∨ b < a * 2 ^ 1075 then ⌈(a : ℚ) / b⌉ else 0) := by
  rcases Nat.eq_zero_or_pos a with rfl | ha₀
  · -- no rows: positive zero, no pages
    have hz : (Binary64.ofRatio false 0 b).parts? = some (false, 0, -1074) := by
      simp [Binary64.ofRatio, Binary64.signedZero, Binary64.parts?, Binary64.significandOf,
        Binary64.exponentOf]
    rw [ceilOf_parts hz, if_pos (.inl rfl)]
    simp
  by_cases htop : a = 2 ^ 53 ∧ b = 1
  · -- the largest count on one-row pages: `2^53` is a double
    obtain ⟨rfl, rfl⟩ := htop
    have h : ceilOf (Binary64.ofRatio false (2 ^ 53) 1) = .ok (2 ^ 53) := by rfl
    rw [h, if_pos (.inr (by have := Nat.two_pow_pos 1075; omega))]
    norm_num
  -- otherwise the ratio is below `2^53`, so its binary exponent is at most `52`
  have hbelow : a < 2 ^ 53 * b := by
    rcases Nat.lt_or_ge b 2 with h1 | h2
    · have : b = 1 := by omega
      subst this
      omega
    · nlinarith
  have hbq : (0 : ℚ) < b := by exact_mod_cast hb
  have hfl : floorLog2Ratio a b < 53 := by
    apply floorLog2Ratio_lt ha₀ hb
    rw [div_lt_iff₀ hbq]
    exact_mod_cast hbelow
  obtain ⟨hlow, hhigh⟩ := floorLog2Ratio_spec ha₀ hb
  by_cases hnormal : -1022 ≤ floorLog2Ratio a b
  · -- the normal range: the grid step `2^(fl - 52)` is at most `1 / 2`·`b`
    rcases ofRatio_normal false ha₀ hb hnormal with ⟨hinf, -⟩ | ⟨s, q, hparts, hval, -, -⟩
    · omega
    obtain ⟨E, hE⟩ : ∃ E : ℕ, lastPlace a b = -(E : ℤ) := ⟨(52 - floorLog2Ratio a b).toNat, by
      simp only [lastPlace]; omega⟩
    have hsplit : (2 : ℚ) ^ floorLog2Ratio a b * 2 ^ E = 2 ^ 52 := by
      rw [← zpow_natCast, ← zpow_add₀ (by norm_num)]
      simp only [lastPlace] at hE
      rw [show floorLog2Ratio a b + (E : ℤ) = 52 by omega]
      norm_num
    have hwide : b * 2 ^ 52 ≤ a * 2 ^ E := by
      have : (b : ℚ) * 2 ^ 52 ≤ a * 2 ^ E := by
        rw [← hsplit, ← mul_assoc]
        have := mul_le_mul_of_nonneg_right ((le_div_iff₀ hbq).1 hlow) (by positivity : (0 : ℚ) ≤ 2 ^ E)
        linarith
      exact_mod_cast this
    have hsmall : b < a * 2 ^ 1075 := by
      have h1 : (2 : ℚ) ^ (-1022 : ℤ) ≤ a / b :=
        le_trans (zpow_le_zpow_right₀ (by norm_num) hnormal) hlow
      rw [le_div_iff₀ hbq] at h1
      have hinv : (2 : ℚ) ^ (-1022 : ℤ) * 2 ^ (1022 : ℕ) = 1 := by
        rw [← zpow_natCast, ← zpow_add₀ two_ne_zero]; norm_num
      have h2 : b ≤ a * 2 ^ 1022 := by
        have : (b : ℚ) ≤ a * 2 ^ 1022 :=
          calc (b : ℚ) = 2 ^ (-1022 : ℤ) * b * 2 ^ 1022 := by rw [mul_right_comm, hinv, one_mul]
            _ ≤ a * 2 ^ 1022 := by gcongr
        exact_mod_cast this
      have h3 : a * 2 ^ 1022 < a * 2 ^ 1075 :=
        Nat.mul_lt_mul_of_pos_left (Nat.pow_lt_pow_right (by norm_num) (by norm_num)) ha₀
      omega
    rw [ceilOf_parts hparts, hval, hE, ceil_roundScaled ha₀ hb ha (.inl hwide),
      if_pos (.inr hsmall)]
  · -- below the normal range: the last exponent, where the ratio may round to zero
    rw [ceilOf_parts (ofRatio_subnormal_parts false ha₀ hb (by omega))]
    have hlt1 : a < b := by
      have h1 : (a : ℚ) / b < 1 := lt_of_lt_of_le hhigh (zpow_le_one_of_nonpos₀ (by norm_num) (by omega))
      rw [div_lt_one hbq] at h1
      exact_mod_cast h1
    split_ifs with hcase
    · have hlarge : b < a * 2 ^ (1074 + 1) := by omega
      exact congrArg _ (by exact_mod_cast ceil_roundScaled ha₀ hb ha (E := 1074) (.inr ⟨hlt1, hlarge⟩))
    · have hzero : roundScaled a b (-1074) = 0 := by
        rw [show (-1074 : ℤ) = -((1074 : ℕ) : ℤ) by norm_num, roundScaled_neg]
        apply roundHalfEven_eq_zero
        rw [pow_succ] at *
        omega
      simp [hzero]

/-! ## §5 — The page metadata -/

/-- The page metadata the command answers for the members `fs`, reporting `pages` pages. -/
def pageMetadata (fs : List (String × Json)) (pages : ℤ) : Json :=
  .obj [("page", arg fs "page"), ("per_page", arg fs "per_page"), ("total_pages", .int pages),
    ("total_count", arg fs "total_count")]

/-- A double whose ceiling is taken is finite. -/
theorem isFinite_of_ceilOf_eq_ok {x : Binary64} {p : ℤ} (h : ceilOf x = .ok p) : x.isFinite := by
  cases x with
  | finite => rfl
  | infinite => simp [ceilOf] at h
  | nan => simp [ceilOf] at h

/-- The ceiling `ceilOf` takes of a double is the double's own ceiling. -/
theorem ceil?_of_ceilOf {x : Binary64} {p : ℤ} (h : ceilOf x = .ok p) : x.ceil? = some p := by
  cases x with
  | finite neg e f =>
    simp only [ceilOf, Except.ok.injEq] at h
    rw [← h]
    rfl
  | infinite => simp [ceilOf] at h
  | nan => simp [ceilOf] at h

/-- **The page count of a listing is the ceiling of its ratio**: `t ≤ 2^53` rows at a page size
`0 < n < 2^1075` make `⌈t / n⌉` pages, the double nearest to `t / n` rounded up. -/
theorem Envelope.pageCount?_eq_ceil {t : ℕ} {n : ℤ} (hn : 0 < n) (htop : t ≤ 2 ^ 53)
    (hsmall : n < 2 ^ 1075) : Envelope.pageCount? n t = some ⌈(t : ℚ) / n⌉ := by
  have hceil := ceilOf_ofRatio (a := t) (b := n.natAbs) (by omega) htop
  have hcast : (t : ℚ) / (n.natAbs : ℕ) = (t : ℚ) / n := by
    rw [Nat.cast_natAbs, abs_of_pos hn]
  -- a positive count is never so small against a page size below `2^1075` that it rounds to zero
  have htest : t = 0 ∨ n.natAbs < t * 2 ^ 1075 := by
    rcases Nat.eq_zero_or_pos t with ht | ht
    · exact .inl ht
    · right
      have : n.natAbs < 2 ^ 1075 := by omega
      calc n.natAbs < 2 ^ 1075 := this
        _ ≤ t * 2 ^ 1075 := Nat.le_mul_of_pos_left _ ht
  rw [if_pos htest, hcast] at hceil
  simp only [Envelope.pageCount?, if_pos hn, Int.natAbs_natCast]
  have hsign : (decide ((t : ℤ) < 0) != decide (n < 0)) = false := by
    simp [not_lt.2 hn.le]
  rw [hsign]
  exact ceil?_of_ceilOf hceil

/-- A page size that is not positive gives no pages, whatever the count. -/
theorem paginationCmd_of_nonpos {fs : List (String × Json)} {n : ℤ}
    (hper : arg fs "per_page" = .int n) (hn : n ≤ 0) :
    paginationCmd fs = .ok (pageMetadata fs 0) := by
  simp [paginationCmd, hper, isPositive, not_lt.2 hn, pageMetadata, bind, Except.bind, pure,
    Except.pure]

/-- For `0 ≤ t ≤ 2^53` rows at `n > 0` a page the count is `⌈t / n⌉`, unless `t / n` is at most
`2^-1075` and its double is zero. -/
theorem paginationCmd_of_le {fs : List (String × Json)} {t n : ℤ}
    (hper : arg fs "per_page" = .int n) (htotal : arg fs "total_count" = .int t) (ht : 0 ≤ t)
    (hn : 0 < n) (htop : t ≤ 2 ^ 53) :
    paginationCmd fs =
      .ok (pageMetadata fs (if t = 0 ∨ n < t * 2 ^ 1075 then ⌈(t : ℚ) / n⌉ else 0)) := by
  have hceil := ceilOf_ofRatio (a := t.natAbs) (b := n.natAbs) (by omega) (by omega)
  have hdiv : trueDivide (.int t) (.int n) = .ok (Binary64.ofRatio false t.natAbs n.natAbs) := by
    simp [trueDivide, intOf?, hn.ne', not_lt.2 ht, not_lt.2 hn.le, isFinite_of_ceilOf_eq_ok hceil]
  -- the ratio and the test read the same in the integers
  have hcast : ((t.natAbs : ℕ) : ℚ) / (n.natAbs : ℕ) = (t : ℚ) / n := by
    rw [Nat.cast_natAbs, Nat.cast_natAbs, abs_of_nonneg ht, abs_of_pos hn]
  have htest : (t.natAbs = 0 ∨ n.natAbs < t.natAbs * 2 ^ 1075) ↔ (t = 0 ∨ n < t * 2 ^ 1075) := by
    constructor <;> rintro (h | h) <;> first | (left; omega) | (right; zify at h ⊢; simpa [abs_of_nonneg ht, abs_of_pos hn] using h)
  simp only [paginationCmd, hper, htotal, isPositive, hn, decide_true, if_true, hdiv, bind,
    Except.bind, pure, Except.pure, hceil, hcast, htest, pageMetadata]

/-- **The page count of the metadata.** A page size that is not positive gives no pages. For a
positive page size `n` and `0 ≤ total ≤ 2^53` rows, the count is the integer ceiling of
`total / n`, so the pages hold every row and the last one is not empty; the one exception is a
ratio of at most `2^-1075`, which rounds to the double zero and gives no pages. -/
theorem page_count_float_ceiling (fs : List (String × Json)) {t n : ℤ}
    (hper : arg fs "per_page" = .int n) (htotal : arg fs "total_count" = .int t) (ht : 0 ≤ t) :
    (n ≤ 0 → paginationCmd fs = .ok (pageMetadata fs 0)) ∧
      (0 < n → t ≤ 2 ^ 53 → paginationCmd fs =
        .ok (pageMetadata fs (if t = 0 ∨ n < t * 2 ^ 1075 then ⌈(t : ℚ) / n⌉ else 0))) ∧
      (0 < n → 0 < t → t ≤ 2 ^ 53 → n < t * 2 ^ 1075 →
        ∃ pages, paginationCmd fs = .ok (pageMetadata fs pages) ∧
          (pages - 1) * n < t ∧ t ≤ pages * n) := by
  refine ⟨paginationCmd_of_nonpos hper, paginationCmd_of_le hper htotal ht, ?_⟩
  intro hn ht₀ htop hlarge
  refine ⟨⌈(t : ℚ) / n⌉, ?_, ceil_ratio_bracket t hn⟩
  rw [paginationCmd_of_le hper htotal ht hn htop, if_pos (.inr hlarge)]

/-- Twenty-five rows at ten a page make three pages. -/
theorem twenty_five_rows_three_pages :
    paginationCmd [("page", .int 1), ("per_page", .int 10), ("total_count", .int 25)] =
      .ok (pageMetadata [("page", .int 1), ("per_page", .int 10), ("total_count", .int 25)] 3) := by
  rw [(page_count_float_ceiling _ rfl rfl (by norm_num)).2.1 (by norm_num) (by norm_num),
    if_pos (.inr (lt_of_lt_of_le (by norm_num) (le_mul_of_one_le_right (by norm_num) (one_le_pow₀ (by norm_num)))))]
  norm_num

/-- Past `2^53` the double misses the ceiling: `2^53 + 1` rows on one-row pages are reported as
`2^53` pages, the double nearest to `2^53 + 1` being `2^53`. -/
theorem far_count_pages_miss_ceiling :
    paginationCmd [("page", .int 1), ("per_page", .int 1), ("total_count", .int (2 ^ 53 + 1))] =
        .ok (pageMetadata [("page", .int 1), ("per_page", .int 1),
          ("total_count", .int (2 ^ 53 + 1))] (2 ^ 53)) ∧
      (2 ^ 53 : ℤ) ≠ ⌈((2 ^ 53 + 1 : ℤ) : ℚ) / (1 : ℤ)⌉ := by
  refine ⟨rfl, ?_⟩
  norm_num

end Bistro
