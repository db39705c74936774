import Bistro.Proofs.LinePricing
import Bistro.Proofs.MoneyRounding
import Bistro.Catalog.Rules

/-!
# Bistro — which catalogue prices can be ordered

The catalogue and the order side define a valid price apart. A product is accepted with any
base price above zero, an infinity included, and the options of a variation with any prices at
all. An order line that names them is priced from the store: the base price read back to cents
and made a double again, or the default option's absolute price, or the base price shifted by
that option's modifier. Each of these goes through `toMoney`, which reads the double's shortest
text as a decimal and rounds it to cents, and refuses an infinity and any value whose cents need
more than 28 digits.

Main statement, `orderable_catalog_prices`: a line that names a stored product, and no variation
or a variation of that product, is priced exactly when the prices it reads are `Orderable`: zero,
a NaN, or a finite value whose text reads below `10^26 − 1/200`; otherwise pricing fails on a
price, never on a check of the line. `catalog_price_refused` shows a base price of `10^26`,
accepted by the catalogue, that no line can be priced with.

* §1 `moneyOf_ok_iff`: a decimal has a two-place amount exactly when it is `Payable`;
* §2 `toMoney_double_ok_iff`: a double has one exactly when it is `Orderable`;
* §3 `unitPriced_iff`: the unit price of a product line exists exactly when its prices have
  amounts;
* §4 the line and the main statement.
-/

namespace Bistro

open Decimal

/-! ## §1 — Decimals with a two-place amount -/

namespace Decimal

/-- A decimal with a two-place amount: a finite value below `10^26 − 1/200` in magnitude, whose
cents then have at most 28 digits, or a quiet NaN. -/
def Payable : Decimal → Prop
  | .finite _ c e => (c : ℚ) * 10 ^ e < 10 ^ 26 - 1 / 200
  | .infinite _ => False
  | .nan _ signaling _ => signaling = false

/-- **Cents fit in 28 digits exactly below `10^26 − 1/200`.** -/
theorem centsHalfUp_lt_iff (c : ℕ) (e : ℤ) :
    centsHalfUp c e < 10 ^ 28 ↔ (c : ℚ) * 10 ^ e < 10 ^ 26 - 1 / 200 := by
  have hscale : (c : ℚ) * 10 ^ (e + 2) = (c : ℚ) * 10 ^ e * 100 := by
    rw [zpow_add₀ (by norm_num)]
    ring
  rw [centsHalfUp, Nat.floor_lt (by positivity), hscale]
  push_cast
  constructor <;> intro h <;> linarith

theorem moneyOf_ok_iff (d : Decimal) : (∃ m, moneyOf d = .ok m) ↔ d.Payable := by
  cases d with
  | finite neg c e =>
    simp only [moneyOf, Payable]
    rw [← centsHalfUp_lt_iff, ← digitCount_le_iff (by norm_num : 0 < 28)]
    by_cases hfit : digitCount (centsHalfUp c e) ≤ precision
    · simp only [hfit, if_true, Except.ok.injEq, exists_eq', true_iff]
      exact hfit
    · simp only [hfit, if_false, reduceCtorEq, exists_false, false_iff]
      exact hfit
  | infinite neg => simp [moneyOf, Payable]
  | nan neg signaling p => cases signaling <;> simp [moneyOf, Payable]

end Decimal

/-! ## §2 — Doubles with a two-place amount -/

/-- **A double that can be priced**: a zero, or a double whose shortest text reads as a payable
decimal. A double's text is `inf` for an infinity, which no decimal context can quantize, and
`nan` for a NaN, which stays a NaN. -/
def Binary64.Orderable (y : Binary64) : Prop :=
  y.isZero = true ∨ ∃ d, Decimal.ofText (y.toText FloatStyle.plain) = .ok d ∧ d.Payable

theorem quantize_zero : quantize (-2) Decimal.zero = .ok (.finite false 0 (-2)) := rfl

theorem toMoney_double_ok_iff (y : Binary64) :
    (∃ m, toMoney (.double y) = .ok m) ↔ y.Orderable := by
  unfold toMoney Amount.toDecimal Binary64.Orderable
  by_cases hzero : y.isZero = true
  · simp only [hzero, if_true, true_or, iff_true]
    exact ⟨_, quantize_zero⟩
  · simp only [hzero, if_false, Bool.false_eq_true, false_or]
    cases hread : Decimal.ofText (y.toText FloatStyle.plain) with
    | error s => simp [bind, Except.bind]
    | ok d =>
      simp only [bind, Except.bind, Except.ok.injEq, exists_eq_left', quantize_two_places]
      exact moneyOf_ok_iff d

/-! ## §3 — The unit price of a product line -/

/-- **The prices a product line reads have amounts**: the default option's absolute price when
it has one; otherwise the base price, and the option's modifier when it has one. -/
def PricesOrderable (base : Binary64) : Option PriceOption → Prop
  | none => base.Orderable
  | some o =>
    match o.priceAbsolute, o.priceModifier with
    | some a, _ => a.Orderable
    | none, some m => base.Orderable ∧ m.Orderable
    | none, none => base.Orderable

section UnitPrice

variable {base : Binary64} {opt : Option PriceOption}

theorem unitPriced_iff : (∃ u, UnitPriced (.double base) opt u) ↔ PricesOrderable base opt := by
  cases opt with
  | none =>
    simp only [PricesOrderable, ← toMoney_double_ok_iff]
    constructor
    · rintro ⟨u, ⟨hu⟩⟩
      exact ⟨u, hu⟩
    · rintro ⟨u, hu⟩
      exact ⟨u, .base hu⟩
  | some o =>
    simp only [PricesOrderable]
    cases ha : o.priceAbsolute with
    | some a =>
      dsimp only
      rw [← toMoney_double_ok_iff a]
      constructor
      · rintro ⟨u, _ | ⟨ha', hu⟩ | ⟨ha', -⟩ | ⟨ha', -⟩⟩ <;> simp_all
      · rintro ⟨u, hu⟩
        exact ⟨u, .absolute ha hu⟩
    | none =>
      cases hm : o.priceModifier with
      | some m =>
        -- the base price and the modifier, whose two amounts always add up
        dsimp only
        rw [← toMoney_double_ok_iff base, ← toMoney_double_ok_iff m]
        constructor
        · rintro ⟨u, _ | ⟨ha', -⟩ | ⟨-, hm', hb, hd, -⟩ | ⟨-, hm', -⟩⟩
          · simp_all
          · rw [hm] at hm'
            cases hm'
            exact ⟨⟨_, hb⟩, ⟨_, hd⟩⟩
          · simp_all
        · rintro ⟨⟨b, hb⟩, ⟨d, hd⟩⟩
          obtain ⟨u, hu⟩ := add_ok_of_isMoney (toMoney_isMoney hb) (toMoney_isMoney hd)
          exact ⟨u, .shifted ha hm hb hd hu⟩
      | none =>
        dsimp only
        rw [← toMoney_double_ok_iff base]
        constructor
        · rintro ⟨u, _ | ⟨ha', -⟩ | ⟨-, hm', -⟩ | ⟨-, -, hu⟩⟩
          · simp_all
          · simp_all
          · exact ⟨u, hu⟩
        · rintro ⟨u, hu⟩
          exact ⟨u, .plain ha hm hu⟩

end UnitPrice

/-! ## §4 — A line that names a stored product -/

/-- **A line's reference to a variation** of the stored product `p`, with the options the line
prices with: none for an absent or an empty id; otherwise a stored variation of `p`. -/
inductive NamesVariationOf (s : Store) (p : Product) : Option String → List PriceOption → Prop
  | absent : NamesVariationOf s p none []
  | blank : NamesVariationOf s p (some "") []
  | found {vid : String} {w : Variation} : vid ≠ "" → s.variation? vid = some w →
      w.productId = p.id → NamesVariationOf s p (some vid) w.options

section Line

variable {cat : CatalogView} {pv : ProductView} {vid : Option String}

theorem VariationResolved.unique {v v' : Option VariationView}
    (h : VariationResolved cat pv vid v) (h' : VariationResolved cat pv vid v') : v = v' := by
  cases h with
  | absent => cases h'; rfl
  | blank => cases h' with
    | blank => rfl
    | found hne => exact absurd rfl hne
  | found hne hv _ =>
    cases h' with
    | blank => exact absurd rfl hne
    | found _ hv' _ => rw [hv] at hv'; rw [hv']

theorem VariationResolved.not_refused {v : Option VariationView} {e : PricingError}
    (h : VariationResolved cat pv vid v) : ¬VariationRefused cat pv vid e := by
  intro hr
  cases h with
  | absent => cases hr
  | blank => cases hr with
    | missing hne => exact hne rfl
    | elsewhere hne => exact hne rfl
  | found _ hv hof =>
    cases hr with
    | missing _ hnone => rw [hv] at hnone; cases hnone
    | elsewhere _ hv' hne => rw [hv] at hv'; cases hv'; exact hne hof

end Line

/-- The variation a store-level reference resolves to in the catalogue that pricing reads, and
its options. -/
theorem NamesVariationOf.resolved {s : Store} {p : Product} {vid : Option String}
    {opts : List PriceOption} (h : NamesVariationOf s p vid opts) :
    ∃ v, VariationResolved (Orders.catalogOf s)
        { id := p.id, name := p.name, basePrice := .double (storedDouble p.basePrice),
          isAvailable := p.isAvailable, imageUrl := p.imageUrl } vid v ∧
      optionsOf v = opts := by
  cases h with
  | absent => exact ⟨none, .absent, rfl⟩
  | blank => exact ⟨none, .blank, rfl⟩
  | @found vid w hne hw hof =>
    refine ⟨some
      { id := w.id, productId := w.productId, variationType := w.variationType,
        isAvailable := w.isAvailable, options := w.options }, .found hne ?_ hof, rfl⟩
    simp [Orders.catalogOf, hw]

/-- **Which catalogue prices can be ordered.** A line that names a stored product `p`, and no
variation or a stored variation of `p`, is priced exactly when the prices it reads have
two-place amounts: the absolute price of the first default option when it has one; otherwise
`p`'s base price as the store reads it back, and that option's modifier when it has one. A
price has one when it is zero, a NaN, or finite with a text that reads below `10^26 − 1/200`;
an infinity never has. When the line is not priced, pricing fails on a price, never on a check
of the line. -/
theorem orderable_catalog_prices (s : Store) (item : LineRequest) (pid : String) (p : Product)
    (opts : List PriceOption) (hpid : item.productId = some pid)
    (hstored : s.product? pid = some p) (hv : NamesVariationOf s p item.variationId opts) :
    ((∃ d, priceLine (Orders.catalogOf s) item = .ok d) ↔
      PricesOrderable (storedDouble p.basePrice) (opts.find? (·.isDefault))) ∧
    ∀ e, priceLine (Orders.catalogOf s) item = .error e → ∃ sig, e = .decimal sig := by
  obtain ⟨v, hres, hopts⟩ := hv.resolved
  have hcat : (Orders.catalogOf s).product? pid = some
      { id := p.id, name := p.name, basePrice := .double (storedDouble p.basePrice),
        isAvailable := p.isAvailable, imageUrl := p.imageUrl } := by
    simp [Orders.catalogOf, hstored]
  -- the option the line prices with is the first default among the options it names
  have hfirst : FirstDefault (optionsOf v) (opts.find? (·.isDefault)) := by
    rw [← defaultOption?_eq_iff]
    cases v <;> simp_all [defaultOption?, optionsOf]
  refine ⟨⟨?_, ?_⟩, ?_⟩
  · rintro ⟨d, hd⟩
    obtain ⟨hhead, -⟩ := priceLine_eq_ok.1 hd
    generalize d.productName = n at hhead
    generalize d.variationName = vn at hhead
    generalize d.unitPrice = u at hhead
    cases hhead with
    | unlisted hnone => rw [hpid] at hnone; cases hnone
    | listed hpid' hcat' hres' hfirst' hu =>
      rw [hpid] at hpid'
      cases hpid'
      rw [hcat] at hcat'
      cases hcat'
      cases hres.unique hres'
      have hopt := (defaultOption?_eq_iff.2 hfirst).symm.trans (defaultOption?_eq_iff.2 hfirst')
      rw [← hopt] at hu
      exact unitPriced_iff.1 ⟨_, hu⟩
  · intro hprices
    obtain ⟨u, hu⟩ := unitPriced_iff.2 hprices
    have hhead : LineHead (Orders.catalogOf s) item p.name
        ((opts.find? (·.isDefault)).map (·.label)) u :=
      .listed hpid hcat hres hfirst hu
    obtain ⟨t, ht⟩ := mul_ofInt_ok hhead.calm item.quantity
    exact ⟨
      { productId := item.productId, variationId := item.variationId, productName := p.name,
        variationName := (opts.find? (·.isDefault)).map (·.label), unitPrice := u,
        quantity := item.quantity, totalPrice := t, note := item.note },
      priceLine_eq_ok.2 ⟨hhead, ht, rfl, rfl, rfl, rfl⟩⟩
  · intro e he
    cases priceLine_eq_error.1 he with
    | variationWithoutProduct hnone => rw [hpid] at hnone; cases hnone
    | unnamed hnone => rw [hpid] at hnone; cases hnone
    | unpriced hnone => rw [hpid] at hnone; cases hnone
    | productMissing hpid' hmissing =>
      rw [hpid] at hpid'
      cases hpid'
      rw [hcat] at hmissing
      cases hmissing
    | variation hpid' hcat' hrefused =>
      rw [hpid] at hpid'
      cases hpid'
      rw [hcat] at hcat'
      cases hcat'
      exact absurd hrefused hres.not_refused
    | productUnpriced => exact ⟨_, rfl⟩

/-- A tea of the category `c1` whose base price is the double nearest `10^26`. -/
def pricyTea : Product :=
  { id := "p1", categoryId := some "c1", name := "Tea", description := none, imageUrl := none,
    basePrice := Binary64.ofDecimal false 1 26, isAvailable := true, position := 0 }

/-- A store holding the category `c1` and the tea of `10^26`. -/
def pricyTeaStore : Store :=
  { categories := [{ id := "c1", name := "Drinks", isActive := true, position := 0 }],
    products := [pricyTea] }

/-- A line of one tea `p1`, without a variation. -/
def pricyTeaLine : LineRequest :=
  { productId := some "p1", variationId := none, productName := none, variationName := none,
    unitPrice := Binary64.zero, quantity := 1, note := none }

/-- The tea line names the stored tea and no variation, so it is priced exactly when the tea's
base price, as the store reads it back, has a two-place amount. -/
theorem teaLine_orderable_iff :
    pricyTeaLine.productId = some "p1" ∧ pricyTeaStore.product? "p1" = some pricyTea ∧
      NamesVariationOf pricyTeaStore pricyTea pricyTeaLine.variationId [] ∧
      ((∃ d, priceLine (Orders.catalogOf pricyTeaStore) pricyTeaLine = .ok d) ↔
        PricesOrderable (storedDouble pricyTea.basePrice) none) :=
  ⟨rfl, rfl, .absent,
    (orderable_catalog_prices pricyTeaStore pricyTeaLine "p1" pricyTea [] rfl rfl .absent).1⟩

/-- **A catalogue price that cannot be ordered**: the catalogue accepts a tea at `10^26`, a base
price above zero, but a line of one such tea is not priced: its cents would need 29 digits. -/
theorem catalog_price_refused :
    Catalog.checkProduct pricyTeaStore pricyTea = .ok () ∧
      priceLine (Orders.catalogOf pricyTeaStore) pricyTeaLine = .error (.decimal .invalidOperation) := by
  -- the price read back is `10^26` itself, whose text `1e+26` has cents of 29 digits
  have hmoney : toMoney (.double (storedDouble pricyTea.basePrice)) = .error .invalidOperation := by
    decide +kernel
  refine ⟨by decide +kernel,
    priceLine_eq_error.2 (.productUnpriced rfl rfl .absent ?_ (.base hmoney))⟩
  simp [FirstDefault, optionsOf]

end Bistro
