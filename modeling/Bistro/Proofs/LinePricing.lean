import Bistro.Proofs.OrderLedger

/-!
# Bistro — what pricing makes of each line

Pricing turns the lines a customer sends into priced lines, one at a time and in order, and
stops at the first line it refuses. This module says what it makes of a line without the
code's search and its monad:

* `FirstDefault` — the option a variation prices with is the first of its options marked as
  default, and none when no option is marked;
* `UnitPriced` / `UnitUnpriced` — the unit price of a product line is the two-place amount of
  that option's absolute price, or the base price shifted by the option's modifier, or the
  base price; or it is the signal of the first of these prices that has no two-place amount;
* `LineHead` / `LinePriced` / `LineRefused` — a line is priced with the catalogue's name and
  price when it names a product and with its own otherwise, its total the unit price times its
  quantity; or it is refused for the first of its checks that fails.

Main statement, `priced_lines_in_order`: pricing a list of lines answers one priced line per
line, in order, exactly when each is the line priced so; and it fails exactly with the refusal
of the first line that is refused, every line before it priced.
-/

namespace Bistro

open Decimal

/-! ## §1 — Steps that stop at the first failure -/

section Except

variable {ε α β : Type}

/-- A bind that fails failed in its first step, or in the second after the first answered. -/
theorem except_bind_eq_error {x : Except ε α} {f : α → Except ε β} {e : ε} :
    x >>= f = .error e ↔ x = .error e ∨ ∃ a, x = .ok a ∧ f a = .error e := by
  cases x <;> simp [bind, Except.bind]

variable {f : α → Except ε β}

/-- A loop over a list answers exactly when every step does, each with its own answer. -/
theorem mapM_except_eq_ok : ∀ {xs : List α} {ys : List β},
    xs.mapM f = .ok ys ↔ List.Forall₂ (fun x y => f x = .ok y) xs ys
  | [], ys => by
    cases ys <;> simp [pure, Except.pure]
  | x :: xs, ys => by
    rw [List.mapM_cons, except_bind_eq_ok, List.forall₂_cons_left_iff]
    constructor
    · rintro ⟨y, hy, h⟩
      obtain ⟨rest, hrest, h⟩ := except_bind_eq_ok.1 h
      cases h
      exact ⟨y, rest, hy, mapM_except_eq_ok.1 hrest, rfl⟩
    · rintro ⟨y, rest, hy, hrest, rfl⟩
      exact ⟨y, hy, except_bind_eq_ok.2 ⟨rest, mapM_except_eq_ok.2 hrest, rfl⟩⟩

/-- A loop over a list fails exactly with the failure of the first step that fails, every step
before it having answered. -/
theorem mapM_except_eq_error : ∀ {xs : List α} {e : ε},
    xs.mapM f = .error e ↔ ∃ pre x post, xs = pre ++ x :: post ∧
      (∀ y ∈ pre, ∃ b, f y = .ok b) ∧ f x = .error e
  | [], e => by simp [pure, Except.pure]
  | x :: xs, e => by
    rw [List.mapM_cons, except_bind_eq_error]
    constructor
    · rintro (hx | ⟨b, hb, h⟩)
      · -- the first line fails
        exact ⟨[], x, xs, rfl, by simp, hx⟩
      · -- the first line answers, and the rest of the loop fails
        rcases except_bind_eq_error.1 h with hrest | ⟨rest, -, h⟩
        · obtain ⟨pre, y, post, rfl, hpre, hy⟩ := mapM_except_eq_error.1 hrest
          refine ⟨x :: pre, y, post, rfl, ?_, hy⟩
          simpa [hb] using hpre
        · cases h
    · rintro ⟨pre, y, post, hxs, hpre, hy⟩
      rcases List.cons_eq_append_iff.1 hxs with ⟨rfl, hcons⟩ | ⟨pre', rfl, rfl⟩
      · cases hcons
        exact .inl hy
      · obtain ⟨b, hb⟩ := hpre x (by simp)
        refine .inr ⟨b, hb, except_bind_eq_error.2 (.inl ?_)⟩
        exact mapM_except_eq_error.2 ⟨pre', y, post, rfl, fun z hz => hpre z (by simp [hz]), hy⟩

end Except

/-! ## §2 — The option a variation prices with -/

/-- The option a variation with the options `opts` prices a line with: the first of them marked
as default, or none when no option is marked. -/
def FirstDefault (opts : List PriceOption) : Option PriceOption → Prop
  | none => ∀ o ∈ opts, o.isDefault = false
  | some o => o.isDefault = true ∧ ∃ pre post, opts = pre ++ o :: post ∧
      ∀ p ∈ pre, p.isDefault = false

/-- The options of a variation, none for no variation. -/
def optionsOf (v : Option VariationView) : List PriceOption := (v.map (·.options)).getD []

theorem defaultOption?_eq_iff {v : Option VariationView} {opt : Option PriceOption} :
    defaultOption? v = opt ↔ FirstDefault (optionsOf v) opt := by
  have hsearch : defaultOption? v = (optionsOf v).find? (·.isDefault) := by
    cases v <;> rfl
  rw [hsearch]
  cases opt with
  | none => simp [FirstDefault, List.find?_eq_none]
  | some o => simp [FirstDefault, List.find?_eq_some_iff_append]

/-! ## §3 — The unit price of a product line

A price without a two-place amount signals; the sum of two amounts never does, as `toMoney`
gives two places or a quiet NaN. -/

/-- **The unit price of a product line** with the base price `base`, priced with the option
`opt`: the absolute price of the option when it has one, else the base price shifted by the
option's modifier when it has one, else the base price; each price taken as its two-place
amount. -/
inductive UnitPriced (base : Amount) : Option PriceOption → Decimal → Prop
  | base {u : Decimal} : toMoney base = .ok u → UnitPriced base none u
  | absolute {o : PriceOption} {a : Binary64} {u : Decimal} :
      o.priceAbsolute = some a → toMoney (.double a) = .ok u → UnitPriced base (some o) u
  | shifted {o : PriceOption} {m : Binary64} {b d u : Decimal} :
      o.priceAbsolute = none → o.priceModifier = some m → toMoney base = .ok b →
      toMoney (.double m) = .ok d → Decimal.add b d = .ok u → UnitPriced base (some o) u
  | plain {o : PriceOption} {u : Decimal} :
      o.priceAbsolute = none → o.priceModifier = none → toMoney base = .ok u →
      UnitPriced base (some o) u

/-- **A product line without a unit price**: the signal of the first price that the rule of
`UnitPriced` reads and that has no two-place amount. -/
inductive UnitUnpriced (base : Amount) : Option PriceOption → DecimalSignal → Prop
  | base {s : DecimalSignal} : toMoney base = .error s → UnitUnpriced base none s
  | absolute {o : PriceOption} {a : Binary64} {s : DecimalSignal} :
      o.priceAbsolute = some a → toMoney (.double a) = .error s → UnitUnpriced base (some o) s
  | shiftedBase {o : PriceOption} {m : Binary64} {s : DecimalSignal} :
      o.priceAbsolute = none → o.priceModifier = some m → toMoney base = .error s →
      UnitUnpriced base (some o) s
  | shiftedModifier {o : PriceOption} {m : Binary64} {b : Decimal} {s : DecimalSignal} :
      o.priceAbsolute = none → o.priceModifier = some m → toMoney base = .ok b →
      toMoney (.double m) = .error s → UnitUnpriced base (some o) s
  | plain {o : PriceOption} {s : DecimalSignal} :
      o.priceAbsolute = none → o.priceModifier = none → toMoney base = .error s →
      UnitUnpriced base (some o) s

/-- Two amounts as `toMoney` gives them always add up. -/
theorem add_ok_of_isMoney {b d : Decimal} (hb : IsMoney b) (hd : IsMoney d) :
    ∃ u, Decimal.add b d = .ok u := by
  cases b with
  | infinite => exact hb.elim
  | nan n sb p =>
    simp only [IsMoney] at hb
    subst hb
    cases d with
    | infinite => exact hd.elim
    | nan m sd q => simp only [IsMoney] at hd; subst hd; exact ⟨_, rfl⟩
    | finite => exact ⟨_, rfl⟩
  | finite n c e =>
    cases d with
    | infinite => exact hd.elim
    | nan m sd q => simp only [IsMoney] at hd; subst hd; exact ⟨_, rfl⟩
    | finite m c' e' =>
      simp only [Decimal.add]
      split <;> exact ⟨_, rfl⟩

/-- A decimal that is finite or a quiet NaN: what a unit price always is. -/
def Decimal.Calm : Decimal → Prop
  | .finite .. => True
  | .infinite _ => False
  | .nan _ signaling _ => signaling = false

theorem Decimal.IsMoney.calm {d : Decimal} (h : IsMoney d) : Calm d := by
  cases d with
  | finite => trivial
  | infinite => exact h.elim
  | nan => exact h

/-- A quiet NaN in the context is quiet. -/
theorem calm_fitNaN (n : Bool) (p : ℕ) : Calm (fitNaN n p) := rfl

theorem add_calm {b d u : Decimal} (hb : IsMoney b) (hd : IsMoney d) (h : Decimal.add b d = .ok u) :
    Calm u := by
  cases b with
  | infinite => exact hb.elim
  | nan n sb p =>
    simp only [IsMoney] at hb
    subst hb
    cases d with
    | infinite => exact hd.elim
    | nan m sd q =>
      simp only [IsMoney] at hd
      subst hd
      simp only [Decimal.add] at h
      cases h
      exact calm_fitNaN _ _
    | finite =>
      simp only [Decimal.add] at h
      cases h
      exact calm_fitNaN _ _
  | finite n c e =>
    cases d with
    | infinite => exact hd.elim
    | nan m sd q =>
      simp only [IsMoney] at hd
      subst hd
      simp only [Decimal.add] at h
      cases h
      exact calm_fitNaN _ _
    | finite m c' e' =>
      simp only [Decimal.add] at h
      split at h
      · cases h; trivial
      · cases h
        simp only [fitPrecision]
        split_ifs <;> trivial

/-- A calm unit price times a quantity always has a product. -/
theorem mul_ofInt_ok {u : Decimal} (hu : Calm u) (q : ℤ) : ∃ t, Decimal.mul u (ofInt q) = .ok t := by
  cases u with
  | finite => exact ⟨_, rfl⟩
  | infinite => exact hu.elim
  | nan n s p =>
    simp only [Calm] at hu
    subst hu
    exact ⟨_, rfl⟩

theorem UnitPriced.calm {base : Amount} {opt : Option PriceOption} {u : Decimal}
    (h : UnitPriced base opt u) : Calm u := by
  cases h with
  | base hu => exact (toMoney_isMoney hu).calm
  | absolute _ hu => exact (toMoney_isMoney hu).calm
  | shifted _ _ hb hd hu => exact add_calm (toMoney_isMoney hb) (toMoney_isMoney hd) hu
  | plain _ _ hu => exact (toMoney_isMoney hu).calm

section UnitPrice

variable {base : Amount} {v : Option VariationView}

/-- `unitPriceFor` prices by the option `defaultOption?` finds. -/
theorem unitPriceFor_eq_ok {u : Decimal} :
    unitPriceFor base v = .ok u ↔ UnitPriced base (defaultOption? v) u := by
  unfold unitPriceFor
  cases defaultOption? v with
  | none => exact ⟨.base, fun | .base h => h⟩
  | some o =>
    dsimp only
    cases ha : o.priceAbsolute with
    | some a =>
      refine ⟨.absolute ha, ?_⟩
      rintro (_ | ⟨ha', h⟩ | ⟨ha', -, -, -, -⟩ | ⟨ha', -, -⟩) <;> simp_all
    | none =>
      cases hm : o.priceModifier with
      | some m =>
        -- the base price shifted by the modifier
        dsimp only
        constructor
        · intro h
          obtain ⟨b, hb, h⟩ := except_bind_eq_ok.1 h
          obtain ⟨d, hd, h⟩ := except_bind_eq_ok.1 h
          exact .shifted ha hm hb hd h
        · rintro (_ | ⟨ha', -⟩ | ⟨-, hm', hb, hd, h⟩ | ⟨-, hm', -⟩)
          · simp_all
          · rw [hm] at hm'
            cases hm'
            exact except_bind_eq_ok.2 ⟨_, hb, except_bind_eq_ok.2 ⟨_, hd, h⟩⟩
          · simp_all
      | none =>
        refine ⟨.plain ha hm, ?_⟩
        rintro (_ | ⟨ha', -⟩ | ⟨-, hm', -, -, -⟩ | ⟨-, -, h⟩) <;> simp_all

/-- `unitPriceFor` fails with the signal of the first price that has no amount. -/
theorem unitPriceFor_eq_error {s : DecimalSignal} :
    unitPriceFor base v = .error s ↔ UnitUnpriced base (defaultOption? v) s := by
  unfold unitPriceFor
  cases defaultOption? v with
  | none => exact ⟨.base, fun | .base h => h⟩
  | some o =>
    dsimp only
    cases ha : o.priceAbsolute with
    | some a =>
      refine ⟨.absolute ha, ?_⟩
      rintro (_ | ⟨ha', h⟩ | ⟨ha', -, -⟩ | ⟨ha', -, -, -⟩ | ⟨ha', -, -⟩) <;> simp_all
    | none =>
      cases hm : o.priceModifier with
      | some m =>
        dsimp only
        constructor
        · intro h
          rcases except_bind_eq_error.1 h with hb | ⟨b, hb, h⟩
          · exact .shiftedBase ha hm hb
          · rcases except_bind_eq_error.1 h with hd | ⟨d, hd, h⟩
            · exact .shiftedModifier ha hm hb hd
            · -- two amounts always add up
              obtain ⟨u, hu⟩ := add_ok_of_isMoney (toMoney_isMoney hb) (toMoney_isMoney hd)
              rw [hu] at h
              cases h
        · rintro (_ | ⟨ha', -⟩ | ⟨-, hm', hb⟩ | ⟨-, hm', hb, hd⟩ | ⟨-, hm', -⟩)
          · simp_all
          · exact except_bind_eq_error.2 (.inl hb)
          · rw [hm] at hm'
            cases hm'
            exact except_bind_eq_error.2 (.inr ⟨_, hb, except_bind_eq_error.2 (.inl hd)⟩)
          · simp_all
      | none =>
        refine ⟨.plain ha hm, ?_⟩
        rintro (_ | ⟨ha', -⟩ | ⟨-, hm', -⟩ | ⟨-, hm', -, -⟩ | ⟨-, -, h⟩) <;> simp_all

end UnitPrice

/-! ## §4 — The variation a product line names -/

/-- **The variation a product line names** for the product `p`: none for an absent or empty id;
for another id, the variation of that id, which belongs to `p`. -/
inductive VariationResolved (cat : CatalogView) (p : ProductView) :
    Option String → Option VariationView → Prop
  | absent : VariationResolved cat p none none
  | blank : VariationResolved cat p (some "") none
  | found {vid : String} {v : VariationView} : vid ≠ "" → cat.variation? vid = some v →
      v.productId = p.id → VariationResolved cat p (some vid) (some v)

/-- **A variation id refused** for the product `p`: one that names no variation, or a variation
of another product. -/
inductive VariationRefused (cat : CatalogView) (p : ProductView) : Option String → PricingError → Prop
  | missing {vid : String} : vid ≠ "" → cat.variation? vid = none →
      VariationRefused cat p (some vid) (.rejected ("variation not found: " ++ vid))
  | elsewhere {vid : String} {v : VariationView} : vid ≠ "" → cat.variation? vid = some v →
      v.productId ≠ p.id →
      VariationRefused cat p (some vid) (.rejected "variation does not belong to product")

section Variation

variable {cat : CatalogView} {p : ProductView}

theorem lineVariation_eq_ok {vid : Option String} {v : Option VariationView} :
    lineVariation cat p vid = .ok v ↔ VariationResolved cat p vid v := by
  cases vid with
  | none =>
    simp only [lineVariation]
    refine ⟨fun h => (by cases h; exact .absent), ?_⟩
    rintro ⟨⟩
    rfl
  | some vid =>
    simp only [lineVariation]
    by_cases hempty : vid = ""
    · subst hempty
      refine ⟨fun h => (by cases h; exact .blank), ?_⟩
      rintro (_ | _ | ⟨hne, -, -⟩)
      · rfl
      · exact absurd rfl hne
    · have hne : vid.isEmpty = false := by simpa [String.isEmpty_iff] using hempty
      rw [hne, if_neg Bool.false_ne_true]
      cases hv : cat.variation? vid with
      | none =>
        refine ⟨fun h => (by cases h), ?_⟩
        rintro (_ | _ | ⟨-, hv', -⟩)
        · exact absurd rfl hempty
        · rw [hv] at hv'; cases hv'
      | some w =>
        dsimp only
        by_cases hown : w.productId = p.id
        · rw [if_neg (by simpa using hown)]
          refine ⟨fun h => (by cases h; exact .found hempty hv hown), ?_⟩
          rintro (_ | _ | ⟨-, hv', -⟩)
          · exact absurd rfl hempty
          · rw [hv] at hv'; cases hv'; rfl
        · rw [if_pos (by simpa using hown)]
          refine ⟨fun h => (by cases h), ?_⟩
          rintro (_ | _ | ⟨-, hv', hown'⟩)
          · exact absurd rfl hempty
          · rw [hv] at hv'; cases hv'; exact absurd hown' hown

theorem lineVariation_eq_error {vid : Option String} {e : PricingError} :
    lineVariation cat p vid = .error e ↔ VariationRefused cat p vid e := by
  cases vid with
  | none =>
    simp only [lineVariation]
    exact ⟨fun h => (by cases h), fun h => (by cases h)⟩
  | some vid =>
    simp only [lineVariation]
    by_cases hempty : vid = ""
    · subst hempty
      refine ⟨fun h => (by cases h), ?_⟩
      rintro (⟨hne, -⟩ | ⟨hne, -, -⟩) <;> exact absurd rfl hne
    · have hne : vid.isEmpty = false := by simpa [String.isEmpty_iff] using hempty
      rw [hne, if_neg Bool.false_ne_true]
      cases hv : cat.variation? vid with
      | none =>
        refine ⟨fun h => (by cases h; exact .missing hempty hv), ?_⟩
        rintro (⟨-, -⟩ | ⟨-, hv', -⟩)
        · rfl
        · rw [hv] at hv'; cases hv'
      | some w =>
        dsimp only
        by_cases hown : w.productId = p.id
        · rw [if_neg (by simpa using hown)]
          refine ⟨fun h => (by cases h), ?_⟩
          rintro (⟨-, hv'⟩ | ⟨-, hv', hown'⟩)
          · rw [hv] at hv'; cases hv'
          · rw [hv] at hv'; cases hv'; exact absurd hown hown'
        · rw [if_pos (by simpa using hown)]
          refine ⟨fun h => (by cases h; exact .elsewhere hempty hv hown), ?_⟩
          rintro (⟨-, hv'⟩ | ⟨-, -, -⟩)
          · rw [hv] at hv'; cases hv'
          · rfl

end Variation

/-! ## §5 — A line -/

/-- A variation id that counts as none: absent or empty. -/
theorem isFilled_eq_false_iff {vid : Option String} :
    isFilled vid = false ↔ vid = none ∨ vid = some "" := by
  cases vid with
  | none => simp [isFilled]
  | some s => simp [isFilled, String.isEmpty_iff]

theorem liftMoney_eq_error {α : Type} {x : Except DecimalSignal α} {e : PricingError} :
    liftMoney x = .error e ↔ ∃ s, x = .error s ∧ e = .decimal s := by
  cases x <;> simp [liftMoney, eq_comm]

/-- **What pricing reads off a line**: its name, its variation name and its unit price. A line
without a product and without a variation keeps its own name, stripped and not empty, its own
variation name and the two-place amount of its own price. A line that names a product takes the
product's name, the label of the option that its variation prices with, and the unit price of
that option. -/
inductive LineHead (cat : CatalogView) (item : LineRequest) : String → Option String → Decimal → Prop
  | unlisted {u : Decimal} : item.productId = none →
      (item.variationId = none ∨ item.variationId = some "") →
      trim (item.productName.getD "") ≠ "" → toMoney (.double item.unitPrice) = .ok u →
      LineHead cat item (trim (item.productName.getD "")) item.variationName u
  | listed {pid : String} {p : ProductView} {v : Option VariationView}
      {opt : Option PriceOption} {u : Decimal} :
      item.productId = some pid → cat.product? pid = some p →
      VariationResolved cat p item.variationId v → FirstDefault (optionsOf v) opt →
      UnitPriced p.basePrice opt u → LineHead cat item p.name (opt.map (·.label)) u

/-- **A priced line** of the line `item`: its head as `LineHead` reads it, its total the unit
price times the quantity, and the references, quantity and note the line was sent with. -/
structure LinePriced (cat : CatalogView) (item : LineRequest) (d : PricedLine) : Prop where
  head : LineHead cat item d.productName d.variationName d.unitPrice
  total : Decimal.mul d.unitPrice (Decimal.ofInt item.quantity) = .ok d.totalPrice
  productId : d.productId = item.productId
  variationId : d.variationId = item.variationId
  quantity : d.quantity = item.quantity
  note : d.note = item.note

/-- **A refused line**, with the refusal of the first check that fails: a variation without a
product, a line without a product and without a name, a product that does not exist, a
variation that does not exist or belongs to another product, or a price without a two-place
amount. -/
inductive LineRefused (cat : CatalogView) (item : LineRequest) : PricingError → Prop
  | variationWithoutProduct {vid : String} : item.productId = none →
      item.variationId = some vid → vid ≠ "" →
      LineRefused cat item (.rejected "product_id is required when variation_id is set")
  | unnamed : item.productId = none → (item.variationId = none ∨ item.variationId = some "") →
      trim (item.productName.getD "") = "" →
      LineRefused cat item (.rejected "product_name is required for lines without a product")
  | unpriced {s : DecimalSignal} : item.productId = none →
      (item.variationId = none ∨ item.variationId = some "") →
      trim (item.productName.getD "") ≠ "" → toMoney (.double item.unitPrice) = .error s →
      LineRefused cat item (.decimal s)
  | productMissing {pid : String} : item.productId = some pid → cat.product? pid = none →
      LineRefused cat item (.rejected ("product not found: " ++ pid))
  | variation {pid : String} {p : ProductView} {e : PricingError} : item.productId = some pid →
      cat.product? pid = some p → VariationRefused cat p item.variationId e → LineRefused cat item e
  | productUnpriced {pid : String} {p : ProductView} {v : Option VariationView}
      {opt : Option PriceOption} {s : DecimalSignal} :
      item.productId = some pid → cat.product? pid = some p →
      VariationResolved cat p item.variationId v → FirstDefault (optionsOf v) opt →
      UnitUnpriced p.basePrice opt s → LineRefused cat item (.decimal s)

section Line

variable {cat : CatalogView} {item : LineRequest}

/-- The unit price a line is read with is calm, so its total never signals. -/
theorem LineHead.calm {name : String} {vn : Option String} {u : Decimal}
    (h : LineHead cat item name vn u) : u.Calm := by
  cases h with
  | unlisted _ _ _ hu => exact (toMoney_isMoney hu).calm
  | listed _ _ _ _ hu => exact hu.calm

theorem lineHead_eq_ok {name : String} {vn : Option String} {u : Decimal} :
    lineHead cat item = .ok (name, vn, u) ↔ LineHead cat item name vn u := by
  unfold lineHead
  cases hp : item.productId with
  | none =>
    dsimp only
    constructor
    · intro h
      split_ifs at h with hfill hname
      obtain ⟨u', hu, h⟩ := except_bind_eq_ok.1 h
      cases h
      exact .unlisted hp (isFilled_eq_false_iff.1 (by simpa using hfill))
        (by simpa [String.isEmpty_iff] using hname) (liftMoney_eq_ok.1 hu)
    · rintro (⟨-, hv, hname, hu⟩ | ⟨hp', -⟩)
      · rw [if_neg (by simp [isFilled_eq_false_iff.2 hv]),
          if_neg (by simpa [String.isEmpty_iff] using hname)]
        exact except_bind_eq_ok.2 ⟨u, liftMoney_eq_ok.2 hu, rfl⟩
      · rw [hp] at hp'
        cases hp'
  | some pid =>
    dsimp only
    cases hc : cat.product? pid with
    | none =>
      refine ⟨fun h => (by cases h), ?_⟩
      rintro (⟨hp', -⟩ | ⟨hp', hc', -⟩) <;> simp_all
    | some p =>
      dsimp only
      constructor
      · intro h
        obtain ⟨v, hv, h⟩ := except_bind_eq_ok.1 h
        obtain ⟨u', hu, h⟩ := except_bind_eq_ok.1 h
        cases h
        exact .listed hp hc (lineVariation_eq_ok.1 hv) (defaultOption?_eq_iff.1 rfl)
          (unitPriceFor_eq_ok.1 (liftMoney_eq_ok.1 hu))
      · rintro (⟨hp', -⟩ | ⟨hp', hc', hv, hopt, hu⟩)
        · simp_all
        · -- the product named is the one found, and its default option the one priced with
          rw [hp] at hp'
          cases hp'
          rw [hc] at hc'
          cases hc'
          have hdefault := defaultOption?_eq_iff.2 hopt
          refine except_bind_eq_ok.2 ⟨_, lineVariation_eq_ok.2 hv, except_bind_eq_ok.2 ⟨u, ?_, ?_⟩⟩
          · exact liftMoney_eq_ok.2 (unitPriceFor_eq_ok.2 (hdefault ▸ hu))
          · rw [hdefault]
            rfl

theorem lineHead_eq_error {e : PricingError} : lineHead cat item = .error e ↔ LineRefused cat item e := by
  unfold lineHead
  cases hp : item.productId with
  | none =>
    dsimp only
    constructor
    · intro h
      split_ifs at h with hfill hname
      · -- a variation without a product
        cases h
        cases hv : item.variationId with
        | none => simp [hv, isFilled] at hfill
        | some vid =>
          exact .variationWithoutProduct hp hv (by simpa [hv, isFilled, String.isEmpty_iff] using hfill)
      · cases h
        exact .unnamed hp (isFilled_eq_false_iff.1 (by simpa using hfill))
          (by simpa [String.isEmpty_iff] using hname)
      · rcases except_bind_eq_error.1 h with hu | ⟨u, -, h⟩
        · obtain ⟨s, hs, rfl⟩ := liftMoney_eq_error.1 hu
          exact .unpriced hp (isFilled_eq_false_iff.1 (by simpa using hfill))
            (by simpa [String.isEmpty_iff] using hname) hs
        · cases h
    · rintro (⟨-, hv, hne⟩ | ⟨-, hv, hname⟩ | ⟨-, hv, hname, hs⟩ | ⟨hp', -⟩ | ⟨hp', -⟩ |
        ⟨hp', -⟩)
      · rw [if_pos (by simp [hv, isFilled, hne])]
      · rw [if_neg (by simp [isFilled_eq_false_iff.2 hv]),
          if_pos (by simpa [String.isEmpty_iff] using hname)]
      · rw [if_neg (by simp [isFilled_eq_false_iff.2 hv]),
          if_neg (by simpa [String.isEmpty_iff] using hname)]
        exact except_bind_eq_error.2 (.inl (liftMoney_eq_error.2 ⟨_, hs, rfl⟩))
      all_goals
        rw [hp] at hp'
        cases hp'
  | some pid =>
    dsimp only
    cases hc : cat.product? pid with
    | none =>
      constructor
      · intro h
        cases h
        exact .productMissing hp hc
      · rintro (⟨hp'⟩ | ⟨hp'⟩ | ⟨hp'⟩ | ⟨hp', -⟩ | ⟨hp', hc', -⟩ | ⟨hp', hc', -⟩) <;> simp_all
    | some p =>
      dsimp only
      constructor
      · intro h
        rcases except_bind_eq_error.1 h with hv | ⟨v, hv, h⟩
        · exact .variation hp hc (lineVariation_eq_error.1 hv)
        · rcases except_bind_eq_error.1 h with hu | ⟨u, -, h⟩
          · obtain ⟨s, hs, rfl⟩ := liftMoney_eq_error.1 hu
            exact .productUnpriced hp hc (lineVariation_eq_ok.1 hv) (defaultOption?_eq_iff.1 rfl)
              (unitPriceFor_eq_error.1 hs)
          · cases h
      · rintro (⟨hp'⟩ | ⟨hp'⟩ | ⟨hp'⟩ | ⟨hp', hc'⟩ | ⟨hp', hc', hv⟩ | ⟨hp', hc', hv, hopt, hs⟩)
        · simp_all
        · simp_all
        · simp_all
        · simp_all
        · rw [hp] at hp'
          cases hp'
          rw [hc] at hc'
          cases hc'
          exact except_bind_eq_error.2 (.inl (lineVariation_eq_error.2 hv))
        · rw [hp] at hp'
          cases hp'
          rw [hc] at hc'
          cases hc'
          have hdefault := defaultOption?_eq_iff.2 hopt
          refine except_bind_eq_error.2 (.inr ⟨_, lineVariation_eq_ok.2 hv, ?_⟩)
          exact except_bind_eq_error.2
            (.inl (liftMoney_eq_error.2 ⟨_, unitPriceFor_eq_error.2 (hdefault ▸ hs), rfl⟩))

theorem priceLine_eq_ok {d : PricedLine} : priceLine cat item = .ok d ↔ LinePriced cat item d := by
  constructor
  · intro h
    obtain ⟨⟨name, vn, u⟩, hhead, h⟩ := except_bind_eq_ok.1 h
    obtain ⟨t, ht, h⟩ := except_bind_eq_ok.1 h
    cases h
    exact ⟨lineHead_eq_ok.1 hhead, liftMoney_eq_ok.1 ht, rfl, rfl, rfl, rfl⟩
  · intro h
    refine except_bind_eq_ok.2 ⟨_, lineHead_eq_ok.2 h.head, except_bind_eq_ok.2
      ⟨_, liftMoney_eq_ok.2 h.total, ?_⟩⟩
    obtain ⟨pid, vid, name, vn, u, q, t, note⟩ := d
    obtain ⟨-, -, hpid, hvid, hq, hnote⟩ := h
    dsimp only at hpid hvid hq hnote
    subst hpid hvid hq hnote
    rfl

theorem priceLine_eq_error {e : PricingError} :
    priceLine cat item = .error e ↔ LineRefused cat item e := by
  constructor
  · intro h
    rcases except_bind_eq_error.1 h with hhead | ⟨⟨name, vn, u⟩, hhead, h⟩
    · exact lineHead_eq_error.1 hhead
    · -- a line whose head is read has a total
      obtain ⟨t, ht⟩ := mul_ofInt_ok (lineHead_eq_ok.1 hhead).calm item.quantity
      rcases except_bind_eq_error.1 h with htotal | ⟨_, -, h⟩
      · rw [ht] at htotal
        cases htotal
      · cases h
  · intro h
    exact except_bind_eq_error.2 (.inl (lineHead_eq_error.2 h))

end Line

/-! ## §6 — A list of lines -/

section Lines

variable {cat : CatalogView} {items : List LineRequest}

theorem priceLines_eq_ok {ds : List PricedLine} :
    priceLines cat items = .ok ds ↔ List.Forall₂ (LinePriced cat) items ds := by
  unfold priceLines
  rw [mapM_except_eq_ok]
  exact ⟨fun h => h.imp fun _ _ => priceLine_eq_ok.1, fun h => h.imp fun _ _ => priceLine_eq_ok.2⟩

theorem priceLines_eq_error {e : PricingError} :
    priceLines cat items = .error e ↔ ∃ pre item post, items = pre ++ item :: post ∧
      (∀ i ∈ pre, ∃ d, LinePriced cat i d) ∧ LineRefused cat item e := by
  unfold priceLines
  simp only [mapM_except_eq_error, priceLine_eq_ok, priceLine_eq_error]

end Lines

/-- **Pricing a list of lines**: it answers one priced line per line, in order, exactly when each
is that line priced as `LinePriced` says; and it fails exactly with the refusal of the first
line that is refused, as `LineRefused` says, every line before it priced. -/
theorem priced_lines_in_order (cat : CatalogView) (items : List LineRequest) :
    (∀ ds, priceLines cat items = .ok ds ↔ List.Forall₂ (LinePriced cat) items ds) ∧
    ∀ e, priceLines cat items = .error e ↔ ∃ pre item post, items = pre ++ item :: post ∧
      (∀ i ∈ pre, ∃ d, LinePriced cat i d) ∧ LineRefused cat item e :=
  ⟨fun _ => priceLines_eq_ok, fun _ => priceLines_eq_error⟩

end Bistro
