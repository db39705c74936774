import Bistro.Proofs.MoneySums
import Bistro.Proofs.LineReferences
import Bistro.Store.Session

/-!
# Bistro — the order ledger

An order's stored total is the two-place sum of its lines' totals, and a line's total is its
unit price times its quantity. The store keeps every amount as a double, so both facts can
hold only of the amounts read back, and only while those stay below `2^46` units
(`centsBound`). This module states them over the ledger of a store, the figures of its orders
and lines that the two facts read, and proves what keeps them:

* `Ledger.Sound` — every order balances with its lines and every line is priced, for amounts
  below the bound; and no order or line names an identifier still to be issued;
* `Ledger.Sound.of_frame` — a step that keeps the lines' figures and stores no new order figures
  keeps the ledger sound;
* `Ledger.Sound.retotal` — so does a step that drops some of one order's lines, adds newly
  priced ones and stores the total recomputed from what the order then holds.
-/

namespace Bistro

/-! ## §1 — Identifiers

An identifier is the hexadecimal text of a counter, padded to eight digits; reading the digits
back gives the counter, so no two counters give one identifier. -/

namespace Txn

/-- The value of a hexadecimal digit, as `Nat.toDigits 16` writes it. -/
def hexDigitValue (c : Char) : ℕ := if c.isDigit then c.toNat - 48 else c.toNat - 87

/-- The value of a list of hexadecimal digits, most significant first. -/
def hexValue (cs : List Char) : ℕ := cs.foldl (fun acc c => acc * 16 + hexDigitValue c) 0

theorem hexDigitValue_digitChar {d : ℕ} (hd : d < 16) : hexDigitValue (Nat.digitChar d) = d := by
  interval_cases d <;> rfl

theorem hexValue_append_digit (cs : List Char) (c : Char) :
    hexValue (cs ++ [c]) = hexValue cs * 16 + hexDigitValue c := by
  simp [hexValue, List.foldl_append]

theorem hexValue_toDigits (n : ℕ) : hexValue (Nat.toDigits 16 n) = n := by
  induction n using Nat.strong_induction_on with
  | _ n ih =>
    rw [Nat.toDigits_eq_if (by norm_num)]
    split_ifs with hn
    · simp [hexValue, hexDigitValue_digitChar hn]
    · rw [hexValue_append_digit, ih (n / 16) (by omega),
        hexDigitValue_digitChar (Nat.mod_lt _ (by norm_num))]
      omega

/-- Leading zeros do not change the value. -/
theorem hexValue_zeros (k : ℕ) (cs : List Char) :
    hexValue (List.replicate k '0' ++ cs) = hexValue cs := by
  have hz : ∀ k, (List.replicate k '0').foldl (fun acc c => acc * 16 + hexDigitValue c) 0 = 0 := by
    intro k
    induction k with
    | zero => rfl
    | succ k ih => rw [List.replicate_succ', List.foldl_append, ih]; rfl
  simp only [hexValue, List.foldl_append, hz]

/-- **Fresh identifiers are distinct**: the identifier of a counter gives the counter back. -/
theorem idText_injective : Function.Injective idText := by
  intro a b h
  have hl := congrArg String.toList h
  simp only [idText, String.toList_append, String.toList_ofList] at hl
  have hdigits := congrArg hexValue (List.append_cancel_right hl)
  rwa [hexValue_zeros, hexValue_zeros, hexValue_toDigits, hexValue_toDigits] at hdigits

end Txn

/-! ## §2 — What pricing produces -/

open Decimal

theorem liftMoney_eq_ok {α : Type} {x : Except DecimalSignal α} {a : α} :
    liftMoney x = .ok a ↔ x = .ok a := by
  cases x <;> simp [liftMoney]

/-- A unit price has the shape of a price: a two-place amount, or the sum of two. -/
theorem unitPriceFor_shaped {base : Amount} {v : Option VariationView} {u : Decimal}
    (h : unitPriceFor base v = .ok u) : u.MoneyShaped := by
  unfold unitPriceFor at h
  split at h
  · split at h
    · exact (toMoney_isMoney h).shaped
    · -- the base price shifted by the default option's modifier
      obtain ⟨b, hb, h⟩ := except_bind_eq_ok.1 h
      obtain ⟨d, hd, h⟩ := except_bind_eq_ok.1 h
      exact add_shaped (toMoney_isMoney hb) (toMoney_isMoney hd) h
    · exact (toMoney_isMoney h).shaped
  · exact (toMoney_isMoney h).shaped

section Pricing

variable {cat : CatalogView} {item : LineRequest}

theorem lineHead_shaped {head : String × Option String × Decimal}
    (h : lineHead cat item = .ok head) : head.2.2.MoneyShaped := by
  unfold lineHead at h
  cases hp : item.productId with
  | none =>
    simp only [hp] at h
    split_ifs at h
    obtain ⟨u, hu, h⟩ := except_bind_eq_ok.1 h
    cases h
    exact (toMoney_isMoney (liftMoney_eq_ok.1 hu)).shaped
  | some pid =>
    simp only [hp] at h
    cases hc : cat.product? pid with
    | none => simp only [hc] at h; cases h
    | some product =>
      simp only [hc] at h
      obtain ⟨variation, -, h⟩ := except_bind_eq_ok.1 h
      obtain ⟨u, hu, h⟩ := except_bind_eq_ok.1 h
      cases h
      exact unitPriceFor_shaped (liftMoney_eq_ok.1 hu)

/-- A priced line is consistent: its total is its unit price times its quantity, and the unit
price has the shape of a price. -/
structure PricedLine.Consistent (p : PricedLine) : Prop where
  shaped : p.unitPrice.MoneyShaped
  total : Decimal.mul p.unitPrice (Decimal.ofInt p.quantity) = .ok p.totalPrice

theorem priceLine_consistent {p : PricedLine} (h : priceLine cat item = .ok p) : p.Consistent := by
  unfold priceLine at h
  obtain ⟨⟨name, variationName, unit⟩, hhead, h⟩ := except_bind_eq_ok.1 h
  obtain ⟨total, htotal, h⟩ := except_bind_eq_ok.1 h
  cases h
  exact ⟨lineHead_shaped hhead, liftMoney_eq_ok.1 htotal⟩

/-- **Every line that pricing accepts is consistent.** -/
theorem priceLines_consistent :
    ∀ {items : List LineRequest} {ps : List PricedLine}, priceLines cat items = .ok ps →
      ∀ p ∈ ps, p.Consistent
  | [], ps, h => by
    cases h
    simp
  | item :: items, ps, h => by
    unfold priceLines at h
    rw [List.mapM_cons] at h
    obtain ⟨p, hp, h⟩ := except_bind_eq_ok.1 h
    obtain ⟨rest, hrest, h⟩ := except_bind_eq_ok.1 h
    cases h
    intro q hq
    rcases List.mem_cons.1 hq with rfl | hq
    · exact priceLine_consistent hp
    · exact priceLines_consistent (show priceLines cat items = .ok rest from hrest) q hq

end Pricing

/-! ## §3 — The ledger of a store -/

/-- The figures of an order that the ledger reads: its id and its stored total. -/
structure OrderFigures where
  id : String
  total : Binary64

/-- The figures of a line that the ledger reads. -/
structure LineFigures where
  id : String
  orderId : String
  unitPrice : Binary64
  quantity : Int
  totalPrice : Binary64

/-- The figures of an order. -/
def Order.figures (o : Order) : OrderFigures := ⟨o.id, o.totalAmount⟩

/-- The figures of a line. -/
def OrderLine.figures (l : OrderLine) : LineFigures :=
  ⟨l.id, l.orderId, l.unitPrice, l.quantity, l.totalPrice⟩

/-- The ledger of a store: the figures of its orders and of its lines, in store order. -/
structure Ledger where
  orders : List OrderFigures
  lines : List LineFigures

/-- The ledger of a store. -/
def Store.ledger (s : Store) : Ledger :=
  ⟨s.orders.map Order.figures, s.lines.map OrderLine.figures⟩

/-- The lines of an order, in store order. -/
def Ledger.linesOf (L : Ledger) (id : String) : List LineFigures :=
  L.lines.filter (·.orderId == id)

/-- The totals that lines read back from their money column. -/
def storedTotals (ls : List LineFigures) : List Decimal := ls.map fun l => storedAmount l.totalPrice

/-- **An order balances with its lines** when, the sizes of its lines' stored totals adding up
to less than the bound, its stored total reads back as the two-place sum of theirs. -/
def Balances (ls : List LineFigures) (total : Binary64) : Prop :=
  grossCents (storedTotals ls) < centsBound →
    sumTotals (storedTotals ls) = .ok (storedAmount total)

/-- **A line is priced** when, its unit price and its total reading back below the bound, the
total read back is the unit price read back times the quantity. -/
def LineFigures.Priced (l : LineFigures) : Prop :=
  (storedAmount l.unitPrice).withinBound = true → (storedAmount l.totalPrice).withinBound = true →
    Decimal.mul (storedAmount l.unitPrice) (Decimal.ofInt l.quantity) = .ok (storedAmount l.totalPrice)

/-- **The ledger invariant**, with `n` the next counter to be issued: no order or line names an
identifier still to be issued, every line is priced and every order balances with its lines. -/
structure Ledger.Sound (L : Ledger) (n : ℕ) : Prop where
  fresh_orders : ∀ o ∈ L.orders, ∀ m, n ≤ m → o.id ≠ Txn.idText m
  fresh_lines : ∀ l ∈ L.lines, ∀ m, n ≤ m → l.orderId ≠ Txn.idText m
  priced : ∀ l ∈ L.lines, l.Priced
  balanced : ∀ o ∈ L.orders, Balances (L.linesOf o.id) o.total

/-- A ledger without orders or lines is sound. -/
theorem Ledger.sound_empty (n : ℕ) : Ledger.Sound ⟨[], []⟩ n :=
  ⟨by simp, by simp, by simp, by simp⟩

/-- The line a consistent priced line is stored as is priced. -/
theorem PricedLine.Consistent.row_priced {p : PricedLine} (hp : p.Consistent) (id orderId : String)
    (now : Stamp) : (Orders.lineRow p id orderId now).figures.Priced :=
  fun hu ht => mul_storedAmount hp.shaped hp.total hu ht

/-! ## §4 — What keeps the ledger sound -/

namespace Ledger.Sound

variable {L L' : Ledger} {n n' : ℕ}

/-- **A frame keeps the ledger sound**: a change that keeps the lines' figures, stores no order
figures that were not there, and moves the counter only forward. -/
theorem of_frame (h : L.Sound n) (hl : L'.lines = L.lines) (ho : ∀ o ∈ L'.orders, o ∈ L.orders)
    (hn : n ≤ n') : L'.Sound n' where
  fresh_orders o ho' m hm := h.fresh_orders o (ho o ho') m (by omega)
  fresh_lines l hl' m hm := h.fresh_lines l (hl ▸ hl') m (by omega)
  priced l hl' := h.priced l (hl ▸ hl')
  balanced o ho' := by
    have hb := h.balanced o (ho o ho')
    unfold Ledger.linesOf at hb ⊢
    rwa [hl]

end Ledger.Sound

/-- The new lines of an order, each the row of a priced line. -/
abbrev RowsOf (oid : String) : List LineFigures → List PricedLine → Prop :=
  List.Forall₂ fun l p => ∃ id t, l = (Orders.lineRow p id oid t).figures

theorem RowsOf.orderId {oid : String} {N : List LineFigures} {P : List PricedLine}
    (hN : RowsOf oid N P) : ∀ l ∈ N, l.orderId = oid := by
  induction hN with
  | nil => simp
  | cons hlp _ ih =>
    obtain ⟨id, t, rfl⟩ := hlp
    simpa [OrderLine.figures, Orders.lineRow] using ih

theorem RowsOf.priced {oid : String} {N : List LineFigures} {P : List PricedLine}
    (hN : RowsOf oid N P) (hP : ∀ p ∈ P, p.Consistent) : ∀ l ∈ N, l.Priced := by
  induction hN with
  | nil => simp
  | @cons l p N P hlp _ ih =>
    obtain ⟨id, t, rfl⟩ := hlp
    intro l' hl'
    rcases List.mem_cons.1 hl' with rfl | hl'
    · exact (hP p List.mem_cons_self).row_priced id oid t
    · exact ih (fun q hq => hP q (List.mem_cons_of_mem p hq)) l' hl'

/-- New lines whose totals read back below the bound have the amounts they were priced at. -/
theorem RowsOf.toMoney_totals {oid : String} {N : List LineFigures} {P : List PricedLine}
    (hN : RowsOf oid N P) (hP : ∀ p ∈ P, p.Consistent)
    (hw : ∀ l ∈ N, (storedAmount l.totalPrice).withinBound = true) :
    List.Forall₂ (fun d d' => toMoney (.exact d) = toMoney (.exact d'))
      (P.map (·.totalPrice)) (storedTotals N) := by
  induction hN with
  | nil => exact .nil
  | @cons l p N P hlp _ ih =>
    obtain ⟨id, t, rfl⟩ := hlp
    refine .cons ?_ (ih (fun q hq => hP q (List.mem_cons_of_mem p hq))
      (fun l hl => hw l (List.mem_cons_of_mem _ hl)))
    have hc := hP p List.mem_cons_self
    exact (toMoney_exact_storedAmount (mul_ofInt_shaped hc.shaped hc.total)
      (hw _ List.mem_cons_self)).symm

/-- **A recomputed total balances**: an order whose kept lines are `kept` and whose new lines
are the rows of the priced lines `P` balances with the total summed from its kept lines' stored
totals, in any order, and the new lines' exact totals. -/
theorem balances_retotal {oid : String} {kept N : List LineFigures} {P : List PricedLine}
    {K : List Decimal} {S : Decimal} (hN : RowsOf oid N P) (hP : ∀ p ∈ P, p.Consistent)
    (hK : K.Perm (storedTotals kept)) (hS : sumTotals (K ++ P.map (·.totalPrice)) = .ok S) :
    Balances (kept ++ N) S.toBinary64 := by
  intro hgross
  have hsplit : storedTotals (kept ++ N) = storedTotals kept ++ storedTotals N := List.map_append
  -- the new lines read back below the bound, so at the amounts they were priced at
  have hw : ∀ l ∈ N, (storedAmount l.totalPrice).withinBound = true := by
    intro l hl
    have hmem : storedAmount l.totalPrice ∈ storedTotals (kept ++ N) :=
      List.mem_map_of_mem (List.mem_append_right kept hl)
    exact withinBound_of_centsSize (lt_of_le_of_lt (centsSize_le_grossCents hmem) hgross)
  have hgross' : grossCents (K ++ storedTotals N) < centsBound := by
    rwa [grossCents, ((hK.append_right _).map centsSize).sum_eq, ← hsplit]
  have hsame : List.Forall₂ (fun d d' => toMoney (.exact d) = toMoney (.exact d')) K K :=
    List.forall₂_same.2 fun _ _ => rfl
  have hsum : sumTotals (K ++ P.map (·.totalPrice)) = sumTotals (storedTotals (kept ++ N)) := by
    calc sumTotals (K ++ P.map (·.totalPrice))
        = sumTotals (K ++ storedTotals N) :=
          sumTotals_congr (List.rel_append hsame (hN.toMoney_totals hP hw))
      _ = sumTotals (storedTotals (kept ++ N)) := by
          rw [hsplit]; exact sumTotals_perm (hK.append_right _) hgross'
  rw [hS, sumTotals_eq_ofCents hgross] at hsum
  cases hsum
  rw [sumTotals_eq_ofCents hgross,
    storedAmount_ofCents (lt_of_le_of_lt (natAbs_sum_cents_le hgross) hgross)]

/-- A change of one order's lines leaves the lines of every other order as they were. -/
theorem linesOf_retotal_ne {L : Ledger} {oid x : String} {drop : LineFigures → Bool}
    {N : List LineFigures} (hN : ∀ l ∈ N, l.orderId = oid) (hx : x ≠ oid) :
    (L.lines.filter (fun l => !(l.orderId == oid && drop l)) ++ N).filter (·.orderId == x) =
      L.linesOf x := by
  have hnil : N.filter (·.orderId == x) = [] :=
    List.filter_eq_nil_iff.2 fun l hl => by simp [hN l hl, Ne.symm hx]
  rw [List.filter_append, hnil, List.append_nil, List.filter_filter]
  unfold Ledger.linesOf
  apply List.filter_congr
  intro l _
  by_cases hl : l.orderId = x
  · simp [hl, hx]
  · simp [hl]

/-- After a change of one order's lines, the order holds the lines it kept and the new ones. -/
theorem linesOf_retotal_eq {L : Ledger} {oid : String} {drop : LineFigures → Bool}
    {N : List LineFigures} (hN : ∀ l ∈ N, l.orderId = oid) :
    (L.lines.filter (fun l => !(l.orderId == oid && drop l)) ++ N).filter (·.orderId == oid) =
      (L.linesOf oid).filter (fun l => !drop l) ++ N := by
  have hself : N.filter (·.orderId == oid) = N :=
    List.filter_eq_self.2 fun l hl => by simp [hN l hl]
  rw [List.filter_append, hself, List.filter_filter]
  unfold Ledger.linesOf
  rw [List.filter_filter]
  congr 1
  apply List.filter_congr
  intro l _
  cases l.orderId == oid <;> simp

namespace Ledger.Sound

variable {L L' : Ledger} {n n' : ℕ}

/-- **Recomputing one order keeps the ledger sound.** The change drops the lines of order `oid`
that `drop` picks, adds the rows `N` of the priced lines `P`, and stores for `oid` the total
summed from the stored totals `K` of its kept lines, in any order, and the new lines' totals;
`oid` is an order already there or a counter the change issued. -/
theorem retotal (h : L.Sound n) (oid : String) (drop : LineFigures → Bool) (K : List Decimal)
    {N : List LineFigures} {P : List PricedLine} {S : Decimal}
    (hoid : (∃ o ∈ L.orders, o.id = oid) ∨ ∃ k, n ≤ k ∧ k < n' ∧ oid = Txn.idText k)
    (hn : n ≤ n')
    (hlines : L'.lines = L.lines.filter (fun l => !(l.orderId == oid && drop l)) ++ N)
    (horders : ∀ o ∈ L'.orders, (o ∈ L.orders ∧ o.id ≠ oid) ∨ o = ⟨oid, S.toBinary64⟩)
    (hN : RowsOf oid N P) (hP : ∀ p ∈ P, p.Consistent)
    (hK : K.Perm (storedTotals ((L.linesOf oid).filter fun l => !drop l)))
    (hS : sumTotals (K ++ P.map (·.totalPrice)) = .ok S) : L'.Sound n' := by
  have hNoid := hN.orderId
  -- `oid` is an order already there or a counter issued by the change, so no later counter
  have hfresh : ∀ m, n' ≤ m → oid ≠ Txn.idText m := by
    intro m hm
    rcases hoid with ⟨o, ho, rfl⟩ | ⟨k, -, hk, rfl⟩
    · exact h.fresh_orders o ho m (by omega)
    · intro heq
      have := Txn.idText_injective heq
      omega
  have hmem : ∀ l ∈ L'.lines, l ∈ L.lines ∨ l ∈ N := by
    intro l hl
    rw [hlines, List.mem_append] at hl
    exact hl.imp List.mem_of_mem_filter id
  refine ⟨?_, ?_, ?_, ?_⟩
  · intro o ho m hm
    rcases horders o ho with ⟨ho', -⟩ | rfl
    · exact h.fresh_orders o ho' m (by omega)
    · exact hfresh m hm
  · intro l hl m hm
    rcases hmem l hl with hl | hl
    · exact h.fresh_lines l hl m (by omega)
    · rw [hNoid l hl]
      exact hfresh m hm
  · intro l hl
    rcases hmem l hl with hl | hl
    · exact h.priced l hl
    · exact hN.priced hP l hl
  · intro o ho
    unfold Ledger.linesOf
    rw [hlines]
    rcases horders o ho with ⟨ho', hne⟩ | rfl
    · -- another order keeps its lines and its total
      rw [linesOf_retotal_ne hNoid hne]
      exact h.balanced o ho'
    · rw [linesOf_retotal_eq hNoid]
      exact balances_retotal hN hP hK hS

end Ledger.Sound

end Bistro
