import Bistro.Proofs.StoredMoney
import Bistro.Order.Pricing

/-!
# Bistro — sums and products of two-place amounts

An order total is a sum of two-place amounts, and a line total a unit price times a quantity.
Decimal arithmetic rounds to 28 significant digits, so both are exact only while the digits
last. This module states when they are:

* `sumTotals_eq_ofCents`: the two-place sum of amounts read back from money columns, whose
  sizes in cents add up to less than the bound, is the exact sum of their cents; so the sum does
  not depend on the order of the amounts (`sumTotals_perm`);
* `MoneyShaped`: the amounts that pricing produces have two places, or are a zero or a value of
  at least 27 digits at a coarser place; `mul_ofInt_shaped` carries that to a line total;
* `toMoney_exact_storedAmount` and `mul_storedAmount`: such an amount, and such a product,
  whose doubles read back below the bound, read back as themselves.
-/

namespace Bistro

/-! ## §1 — Digits -/

theorem digitCount_le_iff {c k : ℕ} (hk : 0 < k) : digitCount c ≤ k ↔ c < 10 ^ k :=
  Nat.length_toDigits_le_iff (by norm_num) hk

theorem centsBound_lt : centsBound < 10 ^ 27 := by norm_num [centsBound]

namespace Decimal

/-- A result of at most 28 digits is kept as it is. -/
theorem fitPrecision_of_lt {neg : Bool} {c : ℕ} (e : ℤ) (hc : c < 10 ^ 28) :
    fitPrecision neg c e = .finite neg c e := by
  have hd : digitCount c ≤ 28 := (digitCount_le_iff (by norm_num)).2 hc
  unfold fitPrecision
  simp only [precision, hd, if_true]

/-- **Rounding to the context** keeps a result of at most 28 digits; a longer one keeps 28
digits, at least `10^27`, at a coarser place. -/
theorem fitPrecision_cases (neg : Bool) (c : ℕ) (e : ℤ) :
    (c < 10 ^ 28 ∧ fitPrecision neg c e = .finite neg c e) ∨
      ∃ c' e', fitPrecision neg c e = .finite neg c' e' ∧ e < e' ∧ 10 ^ 27 ≤ c' := by
  by_cases hc : c < 10 ^ 28
  · exact .inl ⟨hc, fitPrecision_of_lt e hc⟩
  right
  have hn : 28 < digitCount c := by
    by_contra h
    exact hc ((digitCount_le_iff (by norm_num)).1 (not_lt.1 h))
  -- `c` has `n` digits, so it is at least `10^(n-1)`, and dropping `n - 28` leaves `10^27`
  have hlow : 10 ^ (digitCount c - 1) ≤ c := by
    by_contra h
    have := (digitCount_le_iff (k := digitCount c - 1) (by omega)).2 (not_le.1 h)
    omega
  have hpow : 10 ^ (digitCount c - 1) = 10 ^ 27 * 10 ^ (digitCount c - 28) := by
    rw [← pow_add]; congr 1; omega
  have hquot : 10 ^ 27 ≤ c / 10 ^ (digitCount c - 28) :=
    (Nat.le_div_iff_mul_le (by positivity)).2 (by rw [← hpow]; exact hlow)
  unfold fitPrecision
  simp only [precision, show ¬digitCount c ≤ 28 by omega, if_false]
  -- `k = n - 28` digits are dropped, rounding to the even neighbour
  set c' := dropDigits .halfEven c (digitCount c - 28) with hc'
  by_cases hcarry : digitCount c' > 28
  · -- a carry added a digit: the coefficient loses one more
    refine ⟨_, _, if_pos hcarry, by omega, ?_⟩
    have h28 : 10 ^ 28 ≤ c' := by
      by_contra h
      have := (digitCount_le_iff (by norm_num)).2 (not_le.1 h)
      omega
    omega
  · refine ⟨_, _, if_neg hcarry, by omega, ?_⟩
    have hge : c / 10 ^ (digitCount c - 28) ≤ c' := by
      rw [hc']
      unfold dropDigits
      simp only [Nat.pow_eq]
      split_ifs <;> omega
    omega

/-! ## §2 — Whole numbers of cents -/

/-- The two-place amount of a whole number of cents; zero is positive. -/
def ofCents (z : ℤ) : Decimal := .finite (decide (z < 0)) z.natAbs (-2)

/-- The signed coefficient of a finite decimal, a number of cents for a two-place amount; zero
for the values without digits. -/
def cents : Decimal → ℤ
  | .finite neg c _ => if neg then -(c : ℤ) else c
  | _ => 0

/-- The size in cents of an amount read back from a money column; a value that is not a finite
two-place amount counts as the whole bound. -/
def centsSize : Decimal → ℕ
  | .finite _ c e => if e = -2 then c else centsBound
  | _ => centsBound

@[simp] theorem ofCents_zero : ofCents 0 = moneyZero := rfl

theorem scaledTo_ofCents (z : ℤ) : scaledTo (decide (z < 0)) z.natAbs (-2) (-2) = z := by
  unfold scaledTo
  simp only [sub_self, Int.toNat_zero, Nat.pow_eq, pow_zero, mul_one]
  split_ifs with hz <;> simp at hz <;> omega

/-- **A two-place amount of at most 28 digits is its own amount**, a zero made positive. -/
theorem toMoney_exact_twoPlaces (neg : Bool) {c : ℕ} (hc : c < 10 ^ 28) :
    toMoney (.exact (.finite neg c (-2))) = .ok (ofCents (if neg then -(c : ℤ) else c)) := by
  rcases Nat.eq_zero_or_pos c with rfl | hpos
  · simp [toMoney, Amount.toDecimal, isZero, quantize, zero, ofCents, bind, Except.bind]
  have hdigits : digitCount c ≤ 28 := (digitCount_le_iff (by norm_num)).2 hc
  have hsign : decide ((if neg then -(c : ℤ) else c) < 0) = neg := by
    cases neg <;> simp; omega
  have habs : (if neg then -(c : ℤ) else c).natAbs = c := by
    cases neg <;> simp
  simp only [toMoney, Amount.toDecimal, isZero, beq_iff_eq, hpos.ne', if_false, bind,
    Except.bind, quantize, ofCents, hsign, habs]
  rw [if_neg (by simp only [precision]; omega)]
  simp only [rescale, le_refl, if_true, sub_self, Int.toNat_zero, Nat.pow_eq, pow_zero, mul_one]
  rw [if_neg (by simp only [precision]; omega)]

/-- **The sum of two amounts in cents** is the amount of the sum of the cents, while it has at
most 28 digits. -/
theorem add_ofCents {a b : ℤ} (h : (a + b).natAbs < 10 ^ 28) :
    add (ofCents a) (ofCents b) = .ok (ofCents (a + b)) := by
  simp only [ofCents, add, min_self, scaledTo_ofCents]
  split_ifs with hz
  · -- an exact zero is negative only when both amounts are, and then their sum is not zero
    have hneg : (decide (a < 0) && decide (b < 0)) = false := by
      simp only [Bool.and_eq_false_iff, decide_eq_false_iff_not, not_lt]; omega
    rw [hneg, hz]
    rfl
  · rw [fitPrecision_of_lt _ h]

/-- A run of the money sum from an amount in cents, over amounts that are their own whole
numbers of cents, ends at the amount of the total, while every partial sum is small. -/
theorem foldlM_money :
    ∀ (ds : List Decimal) (z : ℤ), (∀ d ∈ ds, toMoney (.exact d) = .ok (ofCents d.cents)) →
      z.natAbs + (ds.map fun d => d.cents.natAbs).sum < 10 ^ 28 →
      (ds.map Amount.exact).foldlM (fun acc a => do let m ← toMoney a; add acc m) (ofCents z) =
        .ok (ofCents (z + (ds.map cents).sum))
  | [], z, _, _ => by simp [pure, Except.pure]
  | d :: ds, z, hd, hsmall => by
    simp only [List.map_cons, List.sum_cons] at hsmall
    have hadd : (z + d.cents).natAbs < 10 ^ 28 := by
      have := Int.natAbs_add_le z d.cents; omega
    have hrest : (z + d.cents).natAbs + (ds.map fun d => d.cents.natAbs).sum < 10 ^ 28 := by
      have := Int.natAbs_add_le z d.cents; omega
    -- the first amount joins the partial sum, and the rest runs from there
    have hstep : (do let m ← toMoney (.exact d); add (ofCents z) m) =
        Except.ok (ofCents (z + d.cents)) := by
      rw [hd d List.mem_cons_self]
      exact add_ofCents hadd
    rw [List.map_cons, List.foldlM_cons, hstep]
    refine (foldlM_money ds (z + d.cents) (fun a ha => hd a (List.mem_cons_of_mem d ha)) hrest).trans ?_
    rw [List.map_cons, List.sum_cons, add_assoc]

end Decimal

open Decimal

/-- The sum of the sizes, in cents, of some amounts read back from money columns. -/
def grossCents (ds : List Decimal) : ℕ := (ds.map centsSize).sum

theorem centsSize_le_grossCents {ds : List Decimal} {d : Decimal} (hd : d ∈ ds) :
    centsSize d ≤ grossCents ds :=
  List.le_sum_of_mem (List.mem_map_of_mem hd)

/-- An amount whose size is below the bound is a two-place amount below it. -/
theorem eq_finite_of_centsSize {d : Decimal} (h : centsSize d < centsBound) :
    ∃ neg c, d = .finite neg c (-2) ∧ c < centsBound := by
  cases d with
  | finite neg c e =>
    simp only [centsSize] at h
    split_ifs at h with he
    · exact ⟨neg, c, by rw [he], h⟩
    · omega
  | infinite => simp [centsSize] at h
  | nan => simp [centsSize] at h

/-- The size of a two-place amount below the bound is the size of its cents. -/
theorem natAbs_cents_of_centsSize {d : Decimal} (h : centsSize d < centsBound) :
    d.cents.natAbs = centsSize d := by
  obtain ⟨neg, c, rfl, -⟩ := eq_finite_of_centsSize h
  cases neg <;> simp [cents, centsSize]

/-- An amount whose size is below the bound reads as within it. -/
theorem withinBound_of_centsSize {d : Decimal} (h : centsSize d < centsBound) :
    d.withinBound = true := by
  obtain ⟨neg, c, rfl, hc⟩ := eq_finite_of_centsSize h
  simp [withinBound, hc]

/-- The cents of amounts whose sizes add up to less than the bound add up to at most that sum. -/
theorem natAbs_sum_cents_le {ds : List Decimal} (h : grossCents ds < centsBound) :
    (ds.map cents).sum.natAbs ≤ grossCents ds := by
  induction ds with
  | nil => simp [grossCents]
  | cons d ds ih =>
    simp only [grossCents, List.map_cons, List.sum_cons] at h ih ⊢
    have hd := natAbs_cents_of_centsSize (show centsSize d < centsBound by omega)
    have := Int.natAbs_add_le d.cents (ds.map cents).sum
    have := ih (by omega)
    omega

/-- **The two-place sum of amounts read back from money columns**, whose sizes add up to less
than the bound, is the exact sum of their cents. -/
theorem sumTotals_eq_ofCents {ds : List Decimal} (h : grossCents ds < centsBound) :
    sumTotals ds = .ok (ofCents (ds.map cents).sum) := by
  -- every amount is a two-place amount below the bound, its own number of cents
  have hsize : ∀ d ∈ ds, centsSize d < centsBound := fun d hd =>
    lt_of_le_of_lt (centsSize_le_grossCents hd) h
  have hmoney : ∀ d ∈ ds, toMoney (.exact d) = .ok (ofCents d.cents) := by
    intro d hd
    obtain ⟨neg, c, rfl, hc⟩ := eq_finite_of_centsSize (hsize d hd)
    exact toMoney_exact_twoPlaces neg (lt_trans hc (lt_trans centsBound_lt (by norm_num)))
  have habs : (ds.map fun d => d.cents.natAbs) = ds.map centsSize :=
    List.map_congr_left fun d hd => natAbs_cents_of_centsSize (hsize d hd)
  have hsmall : (0 : ℤ).natAbs + (ds.map fun d => d.cents.natAbs).sum < 10 ^ 28 := by
    rw [habs]
    have := centsBound_lt
    simp only [grossCents] at h
    simp only [Int.natAbs_zero, zero_add]
    omega
  have hrun := foldlM_money ds 0 hmoney hsmall
  rw [zero_add, ofCents_zero] at hrun
  exact hrun

/-- A sum in cents below the bound survives a money column. -/
theorem storedAmount_ofCents {z : ℤ} (h : z.natAbs < centsBound) :
    storedAmount (ofCents z).toBinary64 = ofCents z :=
  storedAmount_toBinary64 _ h

/-- **The two-place sum of such amounts does not depend on their order.** -/
theorem sumTotals_perm {ds ds' : List Decimal} (hp : ds.Perm ds') (h : grossCents ds < centsBound) :
    sumTotals ds = sumTotals ds' := by
  have h' : grossCents ds' < centsBound := by
    rwa [grossCents, ← (hp.map centsSize).sum_eq]
  rw [sumTotals_eq_ofCents h, sumTotals_eq_ofCents h', (hp.map cents).sum_eq]

/-- Two lists of amounts, pairwise of the same two-place amount, have the same two-place sum. -/
theorem sumTotals_congr {ds ds' : List Decimal}
    (h : List.Forall₂ (fun d d' => toMoney (.exact d) = toMoney (.exact d')) ds ds') :
    sumTotals ds = sumTotals ds' := by
  -- the sum runs the same steps from every partial sum
  suffices hrun : ∀ acc, (ds.map Amount.exact).foldlM
      (fun acc a => do let m ← toMoney a; add acc m) acc =
      (ds'.map Amount.exact).foldlM (fun acc a => do let m ← toMoney a; add acc m) acc from
    hrun moneyZero
  induction h with
  | nil => intro acc; rfl
  | cons hd _ ih =>
    intro acc
    simp only [List.map_cons, List.foldlM_cons]
    rw [hd]
    congr 1
    funext acc'
    exact ih acc'

/-! ## §3 — What pricing produces -/

namespace Decimal

/-- An amount as `toMoney` gives it: two places, or a quiet NaN. -/
def IsMoney : Decimal → Prop
  | .finite _ _ e => e = -2
  | .infinite _ => False
  | .nan _ signaling _ => signaling = false

/-- The shape of an amount that pricing produces: two places; or, at a coarser place, a zero or
a value of at least 27 digits; or not a number. -/
def MoneyShaped : Decimal → Prop
  | .finite _ c e => e = -2 ∨ (-2 < e ∧ (c = 0 ∨ 10 ^ 27 ≤ c))
  | .infinite _ => False
  | .nan .. => True

theorem IsMoney.shaped {d : Decimal} (h : IsMoney d) : MoneyShaped d := by
  cases d with
  | finite => exact .inl h
  | infinite => exact h.elim
  | nan => trivial

/-- `toMoney` gives two places or a quiet NaN. -/
theorem toMoney_isMoney {a : Amount} {d : Decimal} (h : toMoney a = .ok d) : IsMoney d := by
  unfold toMoney at h
  cases hx : a.toDecimal with
  | error => rw [hx] at h; cases h
  | ok x =>
    rw [hx] at h
    change quantize (-2) x = .ok d at h
    cases x with
    | nan neg signaling p =>
      cases signaling with
      | false => cases h; rfl
      | true => cases h
    | infinite => cases h
    | finite neg c e =>
      simp only [quantize] at h
      split_ifs at h <;> cases h <;> rfl

/-- The sum of two amounts as `toMoney` gives them has the shape of a price. -/
theorem add_shaped {b d u : Decimal} (hb : IsMoney b) (hd : IsMoney d) (h : add b d = .ok u) :
    MoneyShaped u := by
  cases b with
  | infinite => exact hb.elim
  | nan nb sb pb =>
    simp only [IsMoney] at hb
    subst hb
    cases d with
    | infinite => exact hd.elim
    | nan nd sd pd =>
      simp only [IsMoney] at hd
      subst hd
      simp only [add] at h
      cases h
      trivial
    | finite => simp only [add] at h; cases h; trivial
  | finite nb cb eb =>
    simp only [IsMoney] at hb
    subst hb
    cases d with
    | infinite => exact hd.elim
    | nan nd sd pd =>
      simp only [IsMoney] at hd
      subst hd
      simp only [add] at h
      cases h
      trivial
    | finite nd cd ed =>
      simp only [IsMoney] at hd
      subst hd
      simp only [add, min_self] at h
      split_ifs at h
      · cases h; exact .inl rfl
      · rcases fitPrecision_cases _ _ (-2) with ⟨-, hfit⟩ | ⟨c', e', hfit, he, hc⟩ <;>
          rw [hfit] at h <;> cases h
        · exact .inl rfl
        · exact .inr ⟨he, .inr hc⟩

/-- **A line total has the shape of a price**: the product of a price and a quantity. -/
theorem mul_ofInt_shaped {u t : Decimal} {q : ℤ} (hu : MoneyShaped u)
    (h : mul u (ofInt q) = .ok t) : MoneyShaped t := by
  cases u with
  | infinite => exact hu.elim
  | nan n s p =>
    cases s with
    | true => simp [mul] at h
    | false => simp only [mul, ofInt] at h; cases h; trivial
  | finite n c e =>
    simp only [mul, ofInt, add_zero] at h
    injection h with h
    subst h
    rcases fitPrecision_cases (n != decide (q < 0)) (c * q.natAbs) e with ⟨-, hfit⟩ | ⟨c', e', hfit, he, hc⟩
    · rw [hfit]
      rcases hu with rfl | ⟨he, rfl | hc⟩
      · exact .inl rfl
      · exact .inr ⟨he, .inl (zero_mul _)⟩
      · -- a quantity of zero gives zero, any other keeps the 27 digits
        rcases Nat.eq_zero_or_pos q.natAbs with hq | hq
        · exact .inr ⟨he, .inl (by rw [hq, mul_zero])⟩
        · exact .inr ⟨he, .inr (le_trans hc (Nat.le_mul_of_pos_right c hq))⟩
    · rw [hfit]
      have he2 : -2 ≤ e := by rcases hu with rfl | ⟨he, -⟩ <;> omega
      exact .inr ⟨by omega, .inr hc⟩

end Decimal

/-! ## §4 — Prices through a money column -/

namespace Decimal

/-- An amount of at least 27 digits at a coarser place than cents never reads back below the
bound. -/
theorem withinBound_of_large {neg : Bool} {c : ℕ} {e : ℤ} (he : -2 < e) (hc : 10 ^ 27 ≤ c) :
    (storedAmount (Decimal.toBinary64 (.finite neg c e))).withinBound = false := by
  by_contra hw
  have hlt := lt_centsBound_of_withinBound (by omega) (Bool.not_eq_false _ ▸ hw)
  have hpow : 10 ≤ 10 ^ (e + 2).toNat := by
    calc 10 = 10 ^ 1 := by norm_num
      _ ≤ 10 ^ (e + 2).toNat := Nat.pow_le_pow_right (by norm_num) (by omega)
  have := centsBound_lt
  have : 10 ^ 27 * 10 ≤ c * 10 ^ (e + 2).toNat := Nat.mul_le_mul hc hpow
  omega

/-- **A price that reads back below the bound has the amount it had**: its two-place amount is
that of the amount read back. -/
theorem toMoney_exact_storedAmount {t : Decimal} (ht : MoneyShaped t)
    (hw : (storedAmount t.toBinary64).withinBound = true) :
    toMoney (.exact (storedAmount t.toBinary64)) = toMoney (.exact t) := by
  cases t with
  | infinite => exact ht.elim
  | nan => simp [toBinary64, storedAmount, ofBinary64Cents, withinBound] at hw
  | finite neg c e =>
    rcases ht with rfl | ⟨he, rfl | hc⟩
    · -- two places: below the bound the round trip is exact
      have hc : c < centsBound := by simpa using lt_centsBound_of_withinBound (le_refl _) hw
      rw [storedAmount_toBinary64 neg hc]
    · -- a zero reads back as the two-place zero, and both have the amount zero
      rw [storedAmount_toBinary64_zero]
      simp [toMoney, Amount.toDecimal, isZero]
    · rw [withinBound_of_large he hc] at hw
      cases hw

/-- **A line total that reads back below the bound is the product of its unit price and its
quantity read back**, when the unit price reads back below the bound too. -/
theorem mul_storedAmount {u t : Decimal} {q : ℤ} (hu : MoneyShaped u)
    (h : mul u (ofInt q) = .ok t) (hwu : (storedAmount u.toBinary64).withinBound = true)
    (hwt : (storedAmount t.toBinary64).withinBound = true) :
    mul (storedAmount u.toBinary64) (ofInt q) = .ok (storedAmount t.toBinary64) := by
  cases u with
  | infinite => exact hu.elim
  | nan => simp [toBinary64, storedAmount, ofBinary64Cents, withinBound] at hwu
  | finite n c e =>
    simp only [mul, ofInt, add_zero] at h
    injection h with h
    subst h
    rcases hu with rfl | ⟨he, rfl | hc⟩
    · -- a two-place unit price reads back as itself, and so does the product
      have hcu : c < centsBound := by simpa using lt_centsBound_of_withinBound (le_refl _) hwu
      rw [storedAmount_toBinary64 n hcu]
      rcases fitPrecision_cases (n != decide (q < 0)) (c * q.natAbs) (-2) with
        ⟨-, hfit⟩ | ⟨c', e', hfit, he', hc'⟩
      · rw [hfit] at hwt ⊢
        have hct : c * q.natAbs < centsBound := by
          simpa using lt_centsBound_of_withinBound (le_refl _) hwt
        rw [storedAmount_toBinary64 _ hct]
        simp only [mul, ofInt, add_zero, fitPrecision_of_lt (-2)
          (lt_trans hct (lt_trans centsBound_lt (by norm_num)))]
      · rw [hfit, withinBound_of_large he' hc'] at hwt
        cases hwt
    · -- a zero unit price reads back as the two-place zero of its sign, and so does the total
      rw [storedAmount_toBinary64_zero, zero_mul, fitPrecision_of_lt e (by norm_num),
        storedAmount_toBinary64_zero]
      simp only [mul, ofInt, add_zero, zero_mul, fitPrecision_of_lt (-2) (by norm_num : 0 < 10 ^ 28)]
    · rw [withinBound_of_large he hc] at hwu
      cases hwu

end Decimal

end Bistro
