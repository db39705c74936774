import Bistro.Proofs.OrderBook

/-!
# Bistro — what the routes that write the order book do

`Bistro.Proofs.OrderBook` sets apart eleven routes that write the order book. This module says,
for each of them, what a request it answers leaves behind: one effect lemma per route, stating
the store after a success in terms of the store before. A failure of any of them leaves the
commit point, which is the store it found (`FailsClean`).

The effects are built from exact triples of the shared order steps:

* `Api.priceAll_spec` — pricing lines is a decision on the store (`Api.pricedOn`);
* `Api.insertLines_spec` — storing priced lines appends one row per line, each the row of its
  priced line (`RowsFor`), and keeps the commit point;

and from lookups of a row after a row is replaced (`Store.find?_replaceRow_ne`,
`Store.find?_replaceRow_self`).
-/

open Std.Do

set_option mvcgen.warning false

namespace Bistro

/-! ## §1 — Looking a row up after a write -/

namespace Store

variable {α : Type} (key : α → String)

/-- Replacing the rows of one id leaves the lookup of any other id as it was. -/
theorem find?_replaceRow_ne (row : α) {id : String} (h : key row ≠ id) :
    ∀ rows : List α, (replaceRow key row rows).find? (fun r => key r == id) =
      rows.find? (fun r => key r == id)
  | [] => rfl
  | r :: rows => by
    have ih := find?_replaceRow_ne row h rows
    unfold replaceRow at ih ⊢
    rw [List.map_cons]
    by_cases hid : key r = id
    · -- the row looked up is not the one replaced
      have hne : ¬ key r = key row := fun e => h (e ▸ hid)
      rw [if_neg (by simpa using hne), List.find?_cons_of_pos (by simpa using hid),
        List.find?_cons_of_pos (by simpa using hid)]
    · have hskip : ¬ (key (if (key r == key row) = true then row else r) == id) = true := by
        split <;> simp_all
      rw [List.find?_cons_of_neg (p := fun r => key r == id) hskip,
        List.find?_cons_of_neg (by simpa using hid), ih]

/-- Replacing the rows of an id that is there makes the lookup of that id find the new row. -/
theorem find?_replaceRow_self (row : α) {id : String} (h : key row = id) :
    ∀ {rows : List α} {old : α}, rows.find? (fun r => key r == id) = some old →
      (replaceRow key row rows).find? (fun r => key r == id) = some row
  | [], _, hfind => by simp at hfind
  | r :: rows, old, hfind => by
    unfold replaceRow
    rw [List.map_cons]
    by_cases hid : key r = id
    · rw [if_pos (by simpa [h] using hid), List.find?_cons_of_pos (by simpa using h)]
    · -- the first row is not of the id, so the lookup goes on in the rest
      have hne : ¬ key r = key row := h ▸ hid
      rw [List.find?_cons_of_neg (by simpa using hid)] at hfind
      rw [if_neg (by simpa using hne), List.find?_cons_of_neg (by simpa using hid)]
      exact find?_replaceRow_self row h hfind

/-- Rows added at the end do not change the lookup of an id that is there. -/
theorem find?_append_of_some {rows : List α} (more : List α) {id : String} {old : α}
    (h : rows.find? (fun r => key r == id) = some old) :
    (rows ++ more).find? (fun r => key r == id) = some old := by
  rw [List.find?_append, h]
  rfl

end Store

/-! ## §2 — The shared order steps, exactly -/

namespace Api

open Orders

/-- The lines of a request priced against a store, or the refusal of the first that fails. -/
def pricedOn (s : Store) (items : List LineRequest) : Except Fault (List PricedLine) :=
  match priceLines (catalogOf s) items with
  | .ok ls => .ok ls
  | .error (.rejected detail) => .error (Fault.refuse 400 detail)
  | .error (.decimal _) => .error .internal

theorem priceAll_exec (items : List LineRequest) (σ : Session) :
    (priceAll items).exec σ = (pricedOn σ.store items, σ) := by
  unfold priceAll pricedOn
  rw [Txn.exec_bind, Txn.exec_store]
  dsimp only
  cases priceLines (catalogOf σ.store) items with
  | ok ls => rfl
  | error e => cases e <;> rfl

/-- **Pricing lines** decides on the store and writes nothing. -/
@[spec 4000] theorem priceAll_spec (items : List LineRequest)
    (Q : PostCond (List PricedLine) (.except Fault (.arg Session .pure))) :
    ⦃fun σ => wp⟦Txn.ofExcept (pricedOn σ.store items)⟧ Q σ⦄ priceAll items ⦃Q⦄ :=
  Txn.spec_of_exec (priceAll_exec items) Q

theorem pricedOn_eq_ok {s : Store} {items : List LineRequest} {ls : List PricedLine} :
    pricedOn s items = .ok ls ↔ priceLines (catalogOf s) items = .ok ls := by
  unfold pricedOn
  split <;> simp_all

/-- The rows that store priced lines of the order `oid`: each is the row of its priced line. -/
def RowsFor (oid : String) : List OrderLine → List PricedLine → Prop :=
  List.Forall₂ fun l p => ∃ id t, l = lineRow p id oid t

theorem RowsFor.orderId {oid : String} {rows : List OrderLine} {priced : List PricedLine}
    (h : RowsFor oid rows priced) : ∀ l ∈ rows, l.orderId = oid := by
  induction h with
  | nil => simp
  | cons hlp _ ih =>
    obtain ⟨id, t, rfl⟩ := hlp
    simpa [lineRow] using ih

/-- Storing one priced line appends its row and keeps the commit point. -/
theorem insertLine_spec (oid : String) (p : PricedLine) (σ₀ : Session) :
    ⦃fun σ => ⌜σ = σ₀⌝⦄ insertLine oid p
    ⦃post⟨fun row σ => ⌜σ.saved = σ₀.saved ∧
        σ.store = { σ₀.store with lines := σ₀.store.lines ++ [row] } ∧
        row = lineRow p (Txn.idText σ₀.nextId) oid { σ₀.now with micro := 0, offset := none } ∧
        σ₀.nextId ≤ σ.nextId⌝,
      fun _ σ => ⌜σ.saved = σ₀.saved ∧ σ₀.nextId ≤ σ.nextId⌝⟩⦄ := by
  mvcgen -trivial [insertLine]
  all_goals simp_all +zetaDelta

/-- What storing priced lines leaves behind, run by run. -/
def InsertRun (oid : String) (priced : List PricedLine) (σ : Session) :
    Except Fault (List OrderLine) × Session → Prop
  | (.ok rows, σ') => σ'.saved = σ.saved ∧
      σ'.store = { σ.store with lines := σ.store.lines ++ rows } ∧ RowsFor oid rows priced ∧
      σ.nextId ≤ σ'.nextId
  | (.error _, σ') => σ'.saved = σ.saved ∧ σ.nextId ≤ σ'.nextId

theorem insertLines_run (oid : String) :
    ∀ (priced : List PricedLine) (σ : Session),
      InsertRun oid priced σ ((insertLines oid priced).exec σ)
  | [], σ => by
    refine ⟨rfl, ?_, .nil, le_refl _⟩
    simp
  | p :: ps, σ => by
    unfold insertLines
    rw [List.mapM_cons, Txn.exec_bind]
    have hone := Txn.triple_iff.1 (insertLine_spec oid p σ) σ rfl
    rcases hx : (insertLine oid p).exec σ with ⟨_ | row, σ₁⟩ <;> rw [hx] at hone
    · exact hone
    · -- the first line is stored; the rest are stored from where it left the session
      obtain ⟨hs₁, hst₁, hrow, hn₁⟩ := hone
      dsimp only
      rw [Txn.exec_bind]
      have hrest := insertLines_run oid ps σ₁
      unfold insertLines at hrest
      rcases hy : (ps.mapM (insertLine oid)).exec σ₁ with ⟨_ | rows, σ₂⟩ <;> rw [hy] at hrest
      · exact ⟨hrest.1.trans hs₁, hn₁.trans hrest.2⟩
      · obtain ⟨hs₂, hst₂, hrows, hn₂⟩ := hrest
        refine ⟨hs₂.trans hs₁, ?_, .cons ⟨_, _, hrow⟩ hrows, hn₁.trans hn₂⟩
        rw [hst₂, hst₁]
        simp

/-- **Storing priced lines** appends one row per line, each the row of its priced line, and
keeps the commit point; a failure keeps the commit point too. -/
@[spec 4000] theorem insertLines_spec (oid : String) (priced : List PricedLine) (σ₀ : Session) :
    ⦃fun σ => ⌜σ = σ₀⌝⦄ insertLines oid priced
    ⦃post⟨fun rows σ => ⌜σ.saved = σ₀.saved ∧
        σ.store = { σ₀.store with lines := σ₀.store.lines ++ rows } ∧ RowsFor oid rows priced ∧
        σ₀.nextId ≤ σ.nextId⌝,
      fun _ σ => ⌜σ.saved = σ₀.saved ∧ σ₀.nextId ≤ σ.nextId⌝⟩⦄ := by
  refine Txn.triple_iff.2 fun σ hσ => ?_
  subst hσ
  have h := insertLines_run oid priced σ
  rcases hx : (insertLines oid priced).exec σ with ⟨_ | rows, σ'⟩ <;> rw [hx] at h <;> exact h

/-- **Storing a changed order** replaces the rows of its id, or fails on a column and writes
nothing. -/
@[spec 4000] theorem saveOrder_spec (o : Order) (σ₀ : Session) :
    ⦃fun σ => ⌜σ = σ₀⌝⦄ saveOrder o
    ⦃post⟨fun _ σ => ⌜σ = { σ₀ with store :=
        { σ₀.store with orders := Store.replaceRow (·.id) o σ₀.store.orders } }⌝,
      fun _ σ => ⌜σ = σ₀⌝⟩⦄ := by
  mvcgen -trivial [saveOrder, -saveOrder_keepsAt]
  all_goals simp_all +zetaDelta

end Api

/-! ## §3 — What a handler does -/

/-- The body a route reads as JSON, checked by `check`: nothing when it cannot be read or does
not pass. -/
def Input.bodyAs {α : Type} (r : Request) (check : List (String × Json) → Validated α) :
    Option α :=
  match Input.bodyOf r with
  | .ok p =>
    match Input.model p check with
    | .ok a => some a
    | .fail _ => none
  | .error _ => none

/-- The time a row records when a request runs at `t`: its wall time to the second. -/
def Stamp.row (t : Stamp) : Stamp := { t with micro := 0, offset := none }

/-- **What a handler does**, as a relation `E r ps t S k S' k'` between the store `S` and counter
`k` it starts from at the time `t` and the store and counter of an answer; a failure keeps the
commit point and moves the counter only on. -/
def Does (h : Request → List String → Txn Response)
    (E : Request → List String → Stamp → Store → Nat → Store → Nat → Prop) : Prop :=
  ∀ r ps t S k, ⦃fun σ => ⌜σ.saved = S ∧ σ.store = S ∧ σ.nextId = k ∧ σ.now = t⌝⦄ h r ps
    ⦃post⟨fun _ σ => ⌜E r ps t S k σ.store σ.nextId⌝, fun _ σ => ⌜σ.saved = S ∧ k ≤ σ.nextId⌝⟩⦄

/-- **A request that a route answers** leaves the store and counter it found, or those of the
route's effect. -/
theorem serve_does {s : Store} {n : Nat} {now : Stamp} {r : Request} {route : Route}
    {ps : List String} {E : Request → List String → Stamp → Store → Nat → Store → Nat → Prop}
    (hsel : Route.select Api.routes r = .ok (route, ps)) (h : Does route.handle E) :
    ((serve Api.routes s n now r).store = s ∧ n ≤ (serve Api.routes s n now r).nextId) ∨
      E r ps now s n (serve Api.routes s n now r).store (serve Api.routes s n now r).nextId := by
  rw [serve_eq, Route.dispatch_eq_handle hsel]
  have hrun := Txn.triple_iff.1 (h r ps now s n)
    { store := s, saved := s, nextId := n, now := now } ⟨rfl, rfl, rfl, rfl⟩
  generalize (route.handle r ps).exec { store := s, saved := s, nextId := n, now := now } = run
    at hrun ⊢
  rcases run with ⟨_ | _, σ'⟩
  · exact .inl hrun
  · exact .inr hrun

namespace Api

open Orders

/-! ## §4 — Orders that change their header -/

/-- **Cancelling** the order of the path: an order neither cancelled nor with its dishes completed
is stored cancelled, dishes included, and its payments are refunded. -/
def Cancels (_ : Request) (ps : List String) (t : Stamp) (S : Store) (k : Nat) (S' : Store)
    (k' : Nat) : Prop :=
  ∃ o, S.order? (Route.param ps) = some o ∧ o.status ≠ "Cancelled" ∧
    o.dishStatus ≠ "Completed" ∧
    S'.orders = Store.replaceRow (·.id)
      { o with status := "Cancelled", dishStatus := "Cancelled", cancelledAt := some t.row }
      S.orders ∧
    S'.lines = S.lines ∧
    S'.payments = S.payments.map (fun p =>
      if p.orderId == o.id then { p with status := "Refunded" } else p) ∧
    S'.invoices = S.invoices ∧ k ≤ k'

theorem cancelOrder_does : Does cancelOrder Cancels := by
  intro r ps t S k
  mvcgen -trivial [cancelOrder]
  all_goals simp_all +zetaDelta [Cancels, Stamp.row]

/-- **Completing** the order of the path: an order whose dishes are in process has them stored
completed. -/
def Completes (_ : Request) (ps : List String) (_ : Stamp) (S : Store) (k : Nat) (S' : Store)
    (k' : Nat) : Prop :=
  ∃ o, S.order? (Route.param ps) = some o ∧ o.dishStatus = "In Process" ∧
    S'.orders = Store.replaceRow (·.id) { o with dishStatus := "Completed" } S.orders ∧
    S'.lines = S.lines ∧ S'.payments = S.payments ∧ S'.invoices = S.invoices ∧ k ≤ k'

theorem completeOrder_does : Does completeOrder Completes := by
  intro r ps t S k
  mvcgen -trivial [completeOrder]
  all_goals simp_all +zetaDelta [Completes]

/-- **Paying** the order of the path: an order neither paid nor cancelled, paid an amount equal to
its two-place total, is stored paid and gets one successful payment of that amount. -/
def Pays (r : Request) (ps : List String) (t : Stamp) (S : Store) (k : Nat) (S' : Store)
    (k' : Nat) : Prop :=
  ∃ d o amount total p, Input.bodyAs r PaymentInput.validateSettling = some d ∧
    S.order? (Route.param ps) = some o ∧ o.status ≠ "Paid" ∧ o.status ≠ "Cancelled" ∧
    toMoney (.double d.amount) = .ok amount ∧
    toMoney (.exact (storedAmount o.totalAmount)) = .ok total ∧ Decimal.numEq amount total = true ∧
    S'.orders = Store.replaceRow (·.id) { o with status := "Paid", paidAt := some t.row } S.orders ∧
    S'.lines = S.lines ∧ S'.payments = S.payments ++ [p] ∧ p.orderId = o.id ∧
    p.status = "Success" ∧ p.amount = amount.toBinary64 ∧ S'.invoices = S.invoices ∧ k ≤ k'

theorem payOrder_does : Does payOrder Pays := by
  intro r ps t S k
  mvcgen -trivial [payOrder]
  all_goals simp_all +zetaDelta [Pays, Input.bodyAs, Stamp.row]
  all_goals omega

/-! ## §5 — Invoices and payments recorded directly -/

/-- **Issuing an invoice** adds one invoice and leaves orders, lines and payments as they were. -/
def Invoices (_ : Request) (_ : List String) (_ : Stamp) (S : Store) (k : Nat) (S' : Store)
    (k' : Nat) : Prop :=
  ∃ i, S'.orders = S.orders ∧ S'.lines = S.lines ∧ S'.payments = S.payments ∧
    S'.invoices = S.invoices ++ [i] ∧ k ≤ k'

theorem createInvoice_does : Does createInvoice Invoices := by
  intro r ps t S k
  mvcgen -trivial [createInvoice]
  all_goals simp_all +zetaDelta [Invoices]
  all_goals omega

/-- **Recording a payment** adds one payment, of an order that is there, and leaves orders,
lines and invoices as they were. -/
def RecordsPayment (_ : Request) (_ : List String) (_ : Stamp) (S : Store) (k : Nat)
    (S' : Store) (k' : Nat) : Prop :=
  ∃ p, S.order? p.orderId ≠ none ∧ S'.orders = S.orders ∧ S'.lines = S.lines ∧
    S'.payments = S.payments ++ [p] ∧ S'.invoices = S.invoices ∧ k ≤ k'

theorem createPayment_does : Does createPayment RecordsPayment := by
  intro r ps t S k
  mvcgen -trivial [createPayment]
  all_goals simp_all +zetaDelta [RecordsPayment]

/-! ## §6 — Orders that take lines -/

/-- **Adding lines** to the order of the path: an order that is not cancelled gets one row per
priced line and the total summed from its lines' stored totals and the new lines' totals. -/
def AddsLines (r : Request) (ps : List String) (_ : Stamp) (S : Store) (k : Nat) (S' : Store)
    (k' : Nat) : Prop :=
  ∃ items o priced total rows, Input.bodyAs r addedLines = some items ∧
    S.order? (Route.param ps) = some o ∧ o.status ≠ "Cancelled" ∧
    pricedOn S items = .ok priced ∧ orderTotal (sortedLines S o.id) priced = .ok total ∧
    S'.orders = Store.replaceRow (·.id) { o with totalAmount := total.toBinary64 } S.orders ∧
    S'.lines = S.lines ++ rows ∧ RowsFor o.id rows priced ∧
    S'.payments = S.payments ∧ S'.invoices = S.invoices ∧ k ≤ k'

theorem addOrderLines_does : Does addOrderLines AddsLines := by
  intro r ps t S k
  mvcgen -trivial [addOrderLines]
  all_goals simp_all +zetaDelta [AddsLines, Input.bodyAs]

/-- **Placing an order**: the order gets the next counter's id and the total summed from its
priced lines, and one row per line. -/
def Places (r : Request) (_ : List String) (_ : Stamp) (S : Store) (k : Nat) (S' : Store)
    (k' : Nat) : Prop :=
  ∃ d priced total o rows, Input.bodyAs r OrderDraft.validate = some d ∧
    pricedOn S d.lines = .ok priced ∧ sumTotals (priced.map (·.totalPrice)) = .ok total ∧
    o.id = Txn.idText k ∧ o.totalAmount = total.toBinary64 ∧ o.status = "Pending" ∧
    o.dishStatus = "In Process" ∧ S'.orders = S.orders ++ [o] ∧ S'.lines = S.lines ++ rows ∧
    RowsFor o.id rows priced ∧ S'.payments = S.payments ∧ S'.invoices = S.invoices ∧ k < k'

theorem createOrder_does : Does createOrder Places := by
  intro r ps t S k
  mvcgen -trivial [createOrder]
  all_goals simp_all +zetaDelta [Places, Input.bodyAs]
  all_goals omega

end Api

namespace Api

open Orders

/-! ## §7 — Changing an order -/

/-- **What storing a change writes**: the order replaced, the lines of the order that the change
names deleted, one row per new line added, the payment the change edits replaced and new
successful payments of the order added. -/
def ChangeWritten (d : OrderPatch) (o : Order) (added : List PricedLine)
    (changed : Option Payment) (S S' : Store) : Prop :=
  ∃ rows extra, S'.orders = Store.replaceRow (·.id) o S.orders ∧
    S'.lines = S.lines.filter (fun l => !(l.orderId == o.id && d.deletedItemIds.contains l.id)) ++
      rows ∧ RowsFor o.id rows added ∧
    S'.payments = (match changed with
      | some p => Store.replaceRow (·.id) p S.payments
      | none => S.payments) ++ extra ∧
    (∀ p ∈ extra, p.orderId = o.id ∧ p.status = "Success") ∧ S'.invoices = S.invoices

@[spec 4000] theorem writeChange_spec (d : OrderPatch) (o : Order) (added : List PricedLine)
    (changed : Option Payment) (fresh : Option (PaymentInput × Decimal)) (now : Stamp)
    (σ₀ : Session) :
    ⦃fun σ => ⌜σ = σ₀⌝⦄ writeChange d o added changed fresh now
    ⦃post⟨fun _ σ => ⌜σ.saved = σ₀.saved ∧ ChangeWritten d o added changed σ₀.store σ.store ∧
        σ₀.nextId ≤ σ.nextId⌝,
      fun _ σ => ⌜σ.saved = σ₀.saved ∧ σ₀.nextId ≤ σ.nextId⌝⟩⦄ := by
  mvcgen -trivial [writeChange]
  all_goals simp_all +zetaDelta [ChangeWritten]
  all_goals omega

/-- Merging a change into an order keeps its id. -/
@[simp] theorem mergeHeader_id (d : OrderPatch) (o : Order) : (mergeHeader d o).id = o.id := rfl

/-- **Changing the order of the path**: its header merged with the change, its total summed
from the lines it keeps and the new ones, its state settled by its payments, and the change
written. -/
def Changes (r : Request) (ps : List String) (t : Stamp) (S : Store) (k : Nat) (S' : Store)
    (k' : Nat) : Prop :=
  ∃ d o₀ added total pay o,
    Input.bodyAs r OrderPatch.validate = some d ∧ S.order? (Route.param ps) = some o₀ ∧
    pricedOn S d.items = .ok added ∧
    orderTotal ((sortedLines S o₀.id).filter fun l => !d.deletedItemIds.contains l.id) added =
      .ok total ∧
    paymentChange (sortedPayments S o₀.id) d.payment = .ok pay ∧
    settleChange d { mergeHeader d o₀ with totalAmount := total.toBinary64 }
      (sortedPayments S o₀.id) pay.2.2 total t.row = .ok o ∧
    ChangeWritten d o added pay.1 S S' ∧ k ≤ k'

theorem updateOrder_does : Does updateOrder Changes := by
  intro r ps t S k
  mvcgen -trivial [updateOrder]
  all_goals simp_all +zetaDelta [Changes, Input.bodyAs, Stamp.row, -Prod.exists]

end Api

/-! ## §8 — Catalogue deletions and the lines that named them

Deleting a product or a variation keeps every line, with its link to the deleted row cleared.
`OrderLine.Relinked` says what a line may become: the same line, but for links cleared to rows
the store no longer has. -/

/-- A line without its links to the catalogue. -/
def OrderLine.unlinked (l : OrderLine) : OrderLine := { l with productId := none, variationId := none }

/-- **A line relinked** in the store `S'`: `l'` is `l` but for links to the catalogue cleared to
rows that `S'` does not have. -/
structure OrderLine.Relinked (S' : Store) (l l' : OrderLine) : Prop where
  same : l'.unlinked = l.unlinked
  product : l'.productId = l.productId ∨
    l'.productId = none ∧ ∀ pid, l.productId = some pid → S'.product? pid = none
  variation : l'.variationId = l.variationId ∨
    l'.variationId = none ∧ ∀ vid, l.variationId = some vid → S'.variation? vid = none

/-- **The book kept up to links**: `S'` has the orders, payments and invoices of `S`, and each
line of `S`, in place, relinked in `S'`. -/
def Relinks (S S' : Store) : Prop :=
  S'.orders.map Order.unlinked = S.orders.map Order.unlinked ∧ S'.payments = S.payments ∧
    S'.invoices = S.invoices ∧ List.Forall₂ (OrderLine.Relinked S') S.lines S'.lines

namespace OrderLine.Relinked

variable {S₁ S₂ : Store} {l l₁ : OrderLine}

theorem refl (S' : Store) (l : OrderLine) : Relinked S' l l :=
  ⟨rfl, .inl rfl, .inl rfl⟩

/-- A relinked line stays relinked in a store that lacks every catalogue row the first lacks. -/
theorem mono (h : Relinked S₁ l l₁)
    (hp : ∀ pid, S₁.product? pid = none → S₂.product? pid = none)
    (hv : ∀ vid, S₁.variation? vid = none → S₂.variation? vid = none) : Relinked S₂ l l₁ where
  same := h.same
  product := h.product.imp_right fun ⟨hn, hgone⟩ => ⟨hn, fun pid hpid => hp pid (hgone pid hpid)⟩
  variation := h.variation.imp_right fun ⟨hn, hgone⟩ =>
    ⟨hn, fun vid hvid => hv vid (hgone vid hvid)⟩

/-- Clearing a line's link to a product the store does not have keeps it relinked. -/
theorem clearProduct (h : Relinked S₂ l l₁) {pid : String} (hgone : S₂.product? pid = none) :
    Relinked S₂ l (if l₁.productId == some pid then { l₁ with productId := none } else l₁) := by
  by_cases hl : l₁.productId = some pid
  · -- the link cleared is the line's own, or one already cleared before
    refine ⟨by simpa [hl, OrderLine.unlinked] using h.same, .inr ⟨by simp [hl], ?_⟩, by
      simpa [hl] using h.variation⟩
    intro pid' hpid'
    rcases h.product with he | ⟨hn, -⟩
    · rw [hl, hpid'] at he
      cases he
      exact hgone
    · rw [hn] at hl
      cases hl
  · simpa [hl] using h

/-- Clearing a line's link to a variation the store does not have keeps it relinked. -/
theorem clearVariation (h : Relinked S₂ l l₁) {vid : String} (hgone : S₂.variation? vid = none) :
    Relinked S₂ l
      (if l₁.variationId == some vid then { l₁ with variationId := none } else l₁) := by
  by_cases hl : l₁.variationId = some vid
  · refine ⟨by simpa [hl, OrderLine.unlinked] using h.same, by simpa [hl] using h.product,
      .inr ⟨by simp [hl], ?_⟩⟩
    intro vid' hvid'
    rcases h.variation with he | ⟨hn, -⟩
    · rw [hl, hvid'] at he
      cases he
      exact hgone
    · rw [hn] at hl
      cases hl
  · simpa [hl] using h

end OrderLine.Relinked

namespace Store

variable {α : Type} (key : α → String)

/-- Dropping the rows of an id leaves none of that id to look up. -/
theorem find?_filter_self (rows : List α) (id : String) :
    (rows.filter (fun r => key r != id)).find? (fun r => key r == id) = none := by
  simp [List.find?_eq_none]

/-- Dropping rows leaves no row to look up that was not there before. -/
theorem find?_filter_of_none {rows : List α} {id : String} (keep : α → Bool)
    (h : rows.find? (fun r => key r == id) = none) :
    (rows.filter keep).find? (fun r => key r == id) = none := by
  rw [List.find?_eq_none] at h ⊢
  intro r hr
  exact h r (List.mem_of_mem_filter hr)

end Store

/-- The store after a variation is dropped keeps the book up to links. -/
theorem Relinks.dropVariation {S S₁ : Store} (h : Relinks S S₁) (vid : String) :
    Relinks S { S₁ with
      variations := S₁.variations.filter (·.id != vid)
      lines := S₁.lines.map fun l =>
        if l.variationId = some vid then { l with variationId := none } else l } := by
  obtain ⟨ho, hp, hi, hl⟩ := h
  set S₂ : Store := { S₁ with
    variations := S₁.variations.filter (·.id != vid)
    lines := S₁.lines.map fun l =>
      if l.variationId = some vid then { l with variationId := none } else l }
  have hgone : S₂.variation? vid = none :=
    Store.find?_filter_self (fun v : Variation => v.id) S₁.variations vid
  have hfewer : ∀ vid', S₁.variation? vid' = none → S₂.variation? vid' = none :=
    fun _ h => Store.find?_filter_of_none (fun v : Variation => v.id) _ h
  have hproducts : ∀ pid, S₁.product? pid = none → S₂.product? pid = none := fun _ h => h
  refine ⟨ho, hp, hi, List.forall₂_map_right_iff.2 (hl.imp fun l l₁ hrel => ?_)⟩
  -- each line is relinked in the smaller store, and then loses its link to `vid`
  simpa using (hrel.mono hproducts hfewer).clearVariation hgone

/-- The store after a product is dropped keeps the book up to links. -/
theorem Relinks.dropProduct {S S₁ : Store} (h : Relinks S S₁) (pid : String) :
    Relinks S { S₁ with
      products := S₁.products.filter (·.id != pid)
      lines := S₁.lines.map fun l =>
        if l.productId = some pid then { l with productId := none } else l } := by
  obtain ⟨ho, hp, hi, hl⟩ := h
  set S₂ : Store := { S₁ with
    products := S₁.products.filter (·.id != pid)
    lines := S₁.lines.map fun l =>
      if l.productId = some pid then { l with productId := none } else l }
  have hgone : S₂.product? pid = none :=
    Store.find?_filter_self (fun p : Product => p.id) S₁.products pid
  have hfewer : ∀ pid', S₁.product? pid' = none → S₂.product? pid' = none :=
    fun _ h => Store.find?_filter_of_none (fun p : Product => p.id) _ h
  have hvariations : ∀ vid, S₁.variation? vid = none → S₂.variation? vid = none := fun _ h => h
  refine ⟨ho, hp, hi, List.forall₂_map_right_iff.2 (hl.imp fun l l₁ hrel => ?_)⟩
  simpa using (hrel.mono hfewer hvariations).clearProduct hgone

/-- A store with the book of `S` keeps it up to links. -/
theorem Relinks.of_book {S S' : Store} (h : S'.book = S.book) : Relinks S S' := by
  obtain ⟨ho, hl, hp, hi⟩ := Store.book_eq_iff.1 h
  refine ⟨ho, hp, hi, ?_⟩
  rw [hl]
  exact List.forall₂_same.2 fun l _ => OrderLine.Relinked.refl _ l

namespace Api

open Catalog

/-- **A catalogue deletion** keeps the book up to links. -/
def RelinksBook (_ : Request) (_ : List String) (_ : Stamp) (S : Store) (k : Nat) (S' : Store)
    (k' : Nat) : Prop :=
  Relinks S S' ∧ k ≤ k'

theorem deleteProduct_does : Does deleteProduct RelinksBook := by
  intro r ps t S k
  mvcgen -trivial [deleteProduct]
  all_goals simp_all +zetaDelta [RelinksBook]
  all_goals exact (Relinks.of_book rfl).dropProduct _

theorem deleteVariation_does : Does deleteVariation RelinksBook := by
  intro r ps t S k
  mvcgen -trivial [deleteVariation, dropVariation, -dropVariation_keepsAt]
  all_goals simp_all +zetaDelta [RelinksBook]
  all_goals exact (Relinks.of_book rfl).dropVariation _

/-- Changing a product keeps the book up to links: the steps before the variations it no longer
lists are dropped keep the book, and each drop keeps it up to links. -/
theorem updateProductBundle_does : Does updateProductBundle RelinksBook := by
  intro r ps t S k
  mvcgen -trivial [updateProductBundle, dropVariation, -dropVariation_keepsAt, -Txn.forIn_bookAt,
    -Txn.forIn_keepsAt] invariants
  · post⟨fun _ σ => ⌜σ.saved = S ∧ Relinks S σ.store ∧ k ≤ σ.nextId⌝,
      fun _ σ => ⌜σ.saved = S ∧ k ≤ σ.nextId⌝⟩
  all_goals simp_all +zetaDelta [RelinksBook, Relinks.dropVariation, Relinks.of_book]
  all_goals (intros; omega)

end Api

end Bistro
