import Mathlib
import Bistro.Proofs.MoneySums
import Bistro.Command.Rules

/-!
# Bistro — money is rounding to cents, a half away from zero

`toMoney` quantizes a decimal to two places. This module states that rule without digit
strings: a finite decimal `±c · 10^e` becomes `±⌊c · 10^(e+2) + 1/2⌋` cents, and is refused when
those cents need more than 28 digits.

* `rescale_halfUp`: moving a coefficient to another exponent, a half going up, is
  `⌊c · 10^(e - target) + 1/2⌋`;
* `quantize_cents`: quantizing to two places is `Decimal.moneyOf`; the early refusal of an
  operand that is already too long refuses nothing whose cents would fit;
* `money_half_up_cents`: for every price, `toMoney` reads its decimal and applies `moneyOf`; only
  a text that is not a decimal fails to read; a falsy value is `0.00`; and an amount is its own
  amount again, a negative zero made positive.
-/

namespace Bistro

namespace Decimal

/-- The cents of `c · 10^e`, rounded to a whole number with a half going up. -/
def centsHalfUp (c : ℕ) (e : ℤ) : ℕ := ⌊(c : ℚ) * 10 ^ (e + 2) + 1 / 2⌋₊

/-- The two-place amount of a decimal: a finite value rounded to cents, a half away from zero,
while the cents have at most 28 digits; an infinity, a signalling NaN and a longer amount are
refused; a quiet NaN stays a NaN. -/
def moneyOf : Decimal → Except DecimalSignal Decimal
  | .finite neg c e =>
    if digitCount (centsHalfUp c e) ≤ precision then .ok (.finite neg (centsHalfUp c e) (-2))
    else .error .invalidOperation
  | .infinite _ => .error .invalidOperation
  | .nan _ true _ => .error .invalidOperation
  | .nan neg false p => .ok (fitNaN neg p)

/-! ## §1 — Rescaling with a half going up -/

/-- A whole number plus a fraction in `[1/2, 3/2)` has floor one more after adding a half. -/
theorem floor_add_half {q r p : ℕ} (hp : 0 < p) (hr : r < p) :
    ⌊((q * p + r : ℕ) : ℚ) / p + 1 / 2⌋₊ = if 2 * r ≥ p then q + 1 else q := by
  have hpq : (0 : ℚ) < p := by exact_mod_cast hp
  have hsplit : ((q * p + r : ℕ) : ℚ) / p = q + r / p := by
    push_cast; field_simp
  have hrp : (r : ℚ) / p < 1 := by rw [div_lt_one hpq]; exact_mod_cast hr
  have hr0 : (0 : ℚ) ≤ r / p := by positivity
  rw [hsplit]
  split_ifs with h
  · -- the fraction is at least a half: one up
    have hhalf : (1 : ℚ) / 2 ≤ r / p := by
      rw [div_le_div_iff₀ (by norm_num) hpq]; exact_mod_cast (by omega : 1 * p ≤ r * 2)
    rw [Nat.floor_eq_iff (by positivity)]
    push_cast
    constructor <;> linarith
  · have hhalf : (r : ℚ) / p < 1 / 2 := by
      rw [div_lt_div_iff₀ hpq (by norm_num)]; exact_mod_cast (by omega : r * 2 < 1 * p)
    rw [Nat.floor_eq_iff (by positivity)]
    constructor <;> linarith

/-- **Rescaling a coefficient with a half going up** is `⌊c · 10^(e - target) + 1/2⌋`. -/
theorem rescale_halfUp (c : ℕ) (e target : ℤ) :
    rescale .halfUp c e target = ⌊(c : ℚ) * 10 ^ (e - target) + 1 / 2⌋₊ := by
  unfold rescale
  split_ifs with h
  · -- a finer exponent: the coefficient gains zeros and nothing is rounded
    obtain ⟨n, hn⟩ : ∃ n : ℕ, e - target = n := ⟨(e - target).toNat, by omega⟩
    rw [hn, Int.toNat_natCast, zpow_natCast, Nat.pow_eq]
    symm
    rw [Nat.floor_eq_iff (by positivity)]
    push_cast
    constructor <;> linarith
  · -- a coarser exponent: `k` digits are dropped
    obtain ⟨k, hk⟩ : ∃ k : ℕ, target - e = k := ⟨(target - e).toNat, by omega⟩
    rw [hk, Int.toNat_natCast, show e - target = -(k : ℤ) by omega, zpow_neg, zpow_natCast,
      ← div_eq_mul_inv]
    have hp : 0 < 10 ^ k := by positivity
    have hc : c = c / 10 ^ k * 10 ^ k + c % 10 ^ k := by
      have := Nat.div_add_mod c (10 ^ k); linarith
    conv_rhs => rw [hc]
    rw [show ((10 : ℚ) ^ k) = ((10 ^ k : ℕ) : ℚ) by push_cast; rfl,
      floor_add_half hp (Nat.mod_lt c hp)]
    simp [dropDigits, Nat.pow_eq]

/-! ## §2 — Quantizing to two places -/

/-- A positive coefficient of `n` digits is at least `10^(n-1)`. -/
theorem pow_pred_digitCount_le {c : ℕ} (hc : 0 < c) : 10 ^ (digitCount c - 1) ≤ c := by
  have hpos : 0 < digitCount c := by
    simp only [digitCount, natDigits]
    exact List.length_pos_of_ne_nil (Nat.toDigits_ne_nil)
  by_contra h
  rcases Nat.eq_zero_or_pos (digitCount c - 1) with h0 | h0
  · rw [h0] at h; omega
  · have := (digitCount_le_iff (k := digitCount c - 1) h0).2 (not_le.1 h)
    omega

/-- **Quantizing a finite decimal to two places is `moneyOf`.** The early refusal, of an operand
whose adjusted exponent already puts more than 28 digits before the cents, only refuses values
whose cents are at least `10^28`. -/
theorem quantize_cents (neg : Bool) (c : ℕ) (e : ℤ) :
    quantize (-2) (.finite neg c e) = moneyOf (.finite neg c e) := by
  unfold quantize moneyOf
  dsimp only
  rcases Nat.eq_zero_or_pos c with rfl | hc
  · -- zero keeps its sign and takes two places
    have h0 : centsHalfUp 0 e = 0 := by norm_num [centsHalfUp]
    simp [h0, digitCount, natDigits, precision]
  rw [if_neg hc.ne']
  have hcents : rescale .halfUp c e (-2) = centsHalfUp c e := by
    rw [rescale_halfUp, centsHalfUp, sub_neg_eq_add]
  by_cases hbig : e + (digitCount c : ℤ) - 1 - -2 + 1 > precision
  · -- too long before rounding: the cents are at least `10^28`, so both refuse
    have hexp : (28 : ℤ) ≤ (digitCount c - 1 : ℕ) + (e + 2) := by
      simp only [precision] at hbig; omega
    have hlow : ((10 ^ 28 : ℕ) : ℚ) ≤ (c : ℚ) * 10 ^ (e + 2) + 1 / 2 := by
      have h₁ : ((10 ^ (digitCount c - 1) : ℕ) : ℚ) ≤ c := by
        exact_mod_cast pow_pred_digitCount_le hc
      have h₂ : (10 : ℚ) ^ (28 : ℤ) ≤ 10 ^ ((digitCount c - 1 : ℕ) + (e + 2)) :=
        zpow_le_zpow_right₀ (by norm_num) hexp
      rw [zpow_add₀ (by norm_num), zpow_natCast] at h₂
      push_cast at h₁ ⊢
      have h₃ : (10 : ℚ) ^ (digitCount c - 1) * 10 ^ (e + 2) ≤ c * 10 ^ (e + 2) :=
        mul_le_mul_of_nonneg_right h₁ (by positivity)
      norm_num at h₂ ⊢
      linarith
    have hlong : ¬digitCount (centsHalfUp c e) ≤ precision := by
      have := Nat.le_floor hlow
      rw [precision, digitCount_le_iff (by norm_num)]
      exact not_lt.2 this
    simp only [hbig, hlong, if_true, if_false]
  · -- otherwise the rescaled coefficient is the cents, and both test their digits
    simp only [hbig, if_false, hcents]
    by_cases hfit : digitCount (centsHalfUp c e) ≤ precision
    · rw [if_neg (by omega), if_pos hfit]
    · rw [if_pos (by omega), if_neg hfit]

/-- **Quantizing to two places is `moneyOf`**, for every decimal. -/
theorem quantize_two_places (d : Decimal) : quantize (-2) d = moneyOf d := by
  cases d with
  | finite neg c e => exact quantize_cents neg c e
  | infinite => rfl
  | nan neg signaling p => cases signaling <;> rfl

/-- A two-place amount that `moneyOf` gives has at most 28 digits. -/
theorem moneyOf_eq_finite {d : Decimal} {neg : Bool} {c : ℕ} {e : ℤ}
    (h : moneyOf d = .ok (.finite neg c e)) : e = -2 ∧ c < 10 ^ 28 := by
  cases d with
  | finite n c' e' =>
    simp only [moneyOf] at h
    split_ifs at h with hfit
    cases h
    exact ⟨rfl, (digitCount_le_iff (by norm_num)).1 hfit⟩
  | infinite => cases h
  | nan n signaling p => cases signaling <;> cases h

/-- Reading a text fails only with a syntax error. -/
theorem ofText_error {t : String} {s : DecimalSignal} (h : ofText t = .error s) :
    s = .conversionSyntax := by
  unfold ofText at h
  split at h <;> cases h
  rfl

end Decimal

/-- Reading a price fails only on a text, or a double's text, that is not a decimal. -/
theorem Amount.toDecimal_error {a : Amount} {s : DecimalSignal} (h : a.toDecimal = .error s) :
    s = .conversionSyntax := by
  cases a with
  | absent => cases h
  | integer => cases h
  | double x =>
    simp only [Amount.toDecimal] at h
    split_ifs at h
    exact Decimal.ofText_error h
  | exact d =>
    simp only [Amount.toDecimal] at h
    split_ifs at h
  | text t =>
    simp only [Amount.toDecimal] at h
    split_ifs at h
    exact Decimal.ofText_error h

/-- **Money is rounding to cents, a half away from zero.** For every price, `toMoney` reads the
price's decimal (an absent or zero price as `0`, a double through its shortest text) and rounds
it to cents: `±⌊c · 10^(e+2) + 1/2⌋` for a finite `±c · 10^e`, refused when that has more than
28 digits; an infinity and a signalling NaN are refused and a quiet NaN stays a NaN. Reading
fails only on a text that is not a decimal. A falsy value is `0.00`. A finite amount, priced
again, is itself, a negative zero becoming `0.00`. -/
theorem to_money_half_up_cents :
    (∀ a : Amount, toMoney a = (a.toDecimal >>= Decimal.moneyOf)) ∧
      (∀ (a : Amount) (s : DecimalSignal), a.toDecimal = .error s → s = .conversionSyntax) ∧
      (∀ fs, (Rules.arg fs "value").isFalsy → Rules.toMoneyCmd fs = .ok (.str "0.00")) ∧
      (∀ (a : Amount) (neg : Bool) (c : ℕ) (e : ℤ), toMoney a = .ok (.finite neg c e) →
        toMoney (.exact (.finite neg c e)) = .ok (if c = 0 then moneyZero else .finite neg c e)) := by
  have hmoney : ∀ a : Amount, toMoney a = (a.toDecimal >>= Decimal.moneyOf) := by
    intro a
    unfold toMoney
    congr 1
    funext d
    exact Decimal.quantize_two_places d
  refine ⟨hmoney, fun _ _ => Amount.toDecimal_error, ?_, ?_⟩
  · -- a falsy value is no price, whose amount is the positive two-place zero
    intro fs hfalsy
    simp only [Rules.toMoneyCmd, Rules.amountOf, hfalsy, if_true, bind, Except.bind, toMoney,
      Amount.toDecimal, Rules.liftDecimal, pure, Except.pure]
    rfl
  · -- an amount has two places and at most 28 digits, so it quantizes to itself
    intro a neg c e h
    rw [hmoney] at h
    cases hd : a.toDecimal with
    | error s => rw [hd] at h; cases h
    | ok d =>
      rw [hd] at h
      obtain ⟨rfl, hc⟩ := Decimal.moneyOf_eq_finite h
      rw [Decimal.toMoney_exact_twoPlaces neg hc]
      rcases Nat.eq_zero_or_pos c with rfl | hpos
      · simp
      · cases neg <;> simp [Decimal.ofCents, hpos.ne', hpos]

end Bistro
