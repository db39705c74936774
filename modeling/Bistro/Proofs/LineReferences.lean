import Mathlib
import Bistro.Order.Ledger

/-!
# Bistro — the references of an order line

An order line may name a product and a variation of the catalogue. Pricing checks them before
anything is written: a product that does not exist, a variation that does not exist or belongs
to another product, and a variation without a product are refused with a 400. The store checks
them again when it inserts the line.

The two checks differ on one input. Pricing takes an empty variation id for no variation and
looks nothing up, but the line keeps the id it was sent, and no variation has the empty id. So
an accepted line whose variation id is empty breaks the store's check: placing the order then
answers the 400 `Order references a missing record`, and adding the line to an order answers a
500.

Main statement, `Orders.priced_line_links_eq`: a line that pricing accepts passes the store's
check exactly when its order exists and its variation id is not the empty one.
-/

namespace Bistro

/-! ## §1 — Inverting a successful step -/

/-- A bind that succeeds had a first step that succeeded. -/
theorem except_bind_eq_ok {ε α β : Type} {x : Except ε α} {f : α → Except ε β} {b : β} :
    x >>= f = .ok b ↔ ∃ a, x = .ok a ∧ f a = .ok b := by
  cases x <;> simp [bind, Except.bind]

/-! ## §2 — What an accepted line was checked against -/

section Pricing

variable {cat : CatalogView} {item : LineRequest}

/-- A variation id that is not empty is accepted only when the variation exists. -/
theorem lineVariation_found {product : ProductView} {vid : String} {v : Option VariationView}
    (h : lineVariation cat product (some vid) = .ok v) (hne : vid ≠ "") :
    (cat.variation? vid).isSome := by
  have hempty : vid.isEmpty = false := by simpa [String.isEmpty_iff] using hne
  simp only [lineVariation, hempty] at h
  cases hv : cat.variation? vid with
  | none => rw [hv] at h; cases h
  | some _ => rfl

/-- A line that names a product is accepted only when the product exists. -/
theorem lineHead_product {pid : String} {head : String × Option String × Decimal}
    (h : lineHead cat item = .ok head) (hp : item.productId = some pid) :
    (cat.product? pid).isSome := by
  unfold lineHead at h
  rw [hp] at h
  cases hc : cat.product? pid with
  | none => simp only [hc] at h; cases h
  | some _ => rfl

/-- A line whose variation id is not empty is accepted only when the variation exists. -/
theorem lineHead_variation {vid : String} {head : String × Option String × Decimal}
    (h : lineHead cat item = .ok head) (hv : item.variationId = some vid) (hne : vid ≠ "") :
    (cat.variation? vid).isSome := by
  unfold lineHead at h
  cases hp : item.productId with
  | none =>
    -- a variation without a product is refused before any lookup
    have hfilled : isFilled item.variationId = true := by simpa [hv, isFilled] using hne
    simp only [hp, hfilled, if_true] at h
    cases h
  | some pid =>
    simp only [hp] at h
    cases hc : cat.product? pid with
    | none => simp only [hc] at h; cases h
    | some product =>
      simp only [hc] at h
      obtain ⟨variation, hvar, -⟩ := except_bind_eq_ok.1 h
      rw [hv] at hvar
      exact lineVariation_found hvar hne

/-- An accepted line passed `lineHead` and keeps the references it was sent. -/
theorem priceLine_ok {l : PricedLine} (h : priceLine cat item = .ok l) :
    ∃ head, lineHead cat item = .ok head ∧ l.productId = item.productId ∧
      l.variationId = item.variationId := by
  obtain ⟨⟨name, variationName, unit⟩, hhead, h⟩ := except_bind_eq_ok.1 h
  obtain ⟨total, -, h⟩ := except_bind_eq_ok.1 h
  cases h
  exact ⟨_, hhead, rfl, rfl⟩

end Pricing

/-! ## §3 — The store's check of a stored line -/

namespace Orders

theorem catalogOf_product_isSome (s : Store) (pid : String) :
    ((catalogOf s).product? pid).isSome = (s.product? pid).isSome := by
  simp [catalogOf]

theorem catalogOf_variation_isSome (s : Store) (vid : String) :
    ((catalogOf s).variation? vid).isSome = (s.variation? vid).isSome := by
  simp [catalogOf]

/-- **The references of an accepted line**: priced against the store's catalogue, a line passes
the store's check of its references exactly when its order exists and its variation id is not
the empty one, which no variation has. -/
theorem priced_line_links_eq (s : Store) (item : LineRequest) (l : PricedLine)
    (id orderId : String) (now : Stamp) (hprice : priceLine (catalogOf s) item = .ok l)
    (hblank : s.variation? "" = none) :
    lineLinksExist s (lineRow l id orderId now) =
      ((s.order? orderId).isSome && item.variationId != some "") := by
  obtain ⟨head, hhead, hpid, hvid⟩ := priceLine_ok hprice
  have hproduct : (item.productId.all fun p => (s.product? p).isSome) = true := by
    cases hp : item.productId with
    | none => rfl
    | some pid => simpa [catalogOf_product_isSome] using lineHead_product hhead hp
  -- the empty variation id is the one reference that pricing lets through unchecked
  have hvariation :
      (item.variationId.all fun v => (s.variation? v).isSome) = (item.variationId != some "") := by
    cases hv : item.variationId with
    | none => rfl
    | some vid =>
      by_cases hne : vid = ""
      · subst hne
        simp [hblank]
      · have hfound := lineHead_variation hhead hv hne
        rw [catalogOf_variation_isSome] at hfound
        simp [hfound, hne]
  simp only [lineLinksExist, lineRow, hpid, hvid, hproduct, hvariation, Bool.and_true]

/-- A pending order of table 1. -/
def placedOrder : Order :=
  { id := "o1", userId := none, qrId := none, customerName := "A", customerPhone := "1",
    tableNumber := 1, status := "Pending", dishStatus := "In Process",
    totalAmount := Binary64.ofDecimal false 1 0, notes := none, createdAt := Stamp.ofEpoch 0,
    paidAt := none, cancelledAt := none }

/-- A line without a product, sent with an empty variation id. -/
def blankVariationLine : LineRequest :=
  { productId := none, variationId := some "", productName := some "Tea", variationName := none,
    unitPrice := Binary64.ofDecimal false 1 0, quantity := 1, note := none }

theorem blank_variation_line_unlinked :
    ∃ l, priceLine (catalogOf { orders := [placedOrder] }) blankVariationLine = .ok l ∧
      lineLinksExist { orders := [placedOrder] } (lineRow l "l1" "o1" (Stamp.ofEpoch 0)) = false := by
  have hok : (priceLine (catalogOf { orders := [placedOrder] }) blankVariationLine).toBool = true := by
    decide +kernel
  cases hprice : priceLine (catalogOf { orders := [placedOrder] }) blankVariationLine with
  | error e => rw [hprice] at hok; cases hok
  | ok l =>
    refine ⟨l, rfl, ?_⟩
    rw [priced_line_links_eq _ _ _ _ _ _ hprice rfl]
    decide

end Orders

end Bistro
