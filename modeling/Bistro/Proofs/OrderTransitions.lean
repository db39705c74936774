import Bistro.Proofs.TableCodes

/-!
# Bistro — the guarded transitions of an order

Three routes move an order on from its current state, each after a guard on that state:
cancelling (`POST /api/v1/orders/{id}/cancel`) refuses an order already cancelled or whose
dishes are completed; completing (`POST /api/v1/orders/{id}/complete`) wants the dishes in
process; paying (`POST /api/v1/orders/{id}/payment`) refuses an order paid or cancelled, and an
amount whose two-place value is not the order's two-place total.

For a member of staff, each of them answers `200` exactly when its guards hold, and then writes
exactly its effect: cancelling stores the order and its dishes cancelled at the time of the
request, refunds every payment of the order and records one audit entry; completing stores the
dishes completed; paying stores the order paid at the time of the request, adds one successful
payment of the amount and records one audit entry. Every other answer is the refusal of the
first guard that fails, `404` for an order that does not exist, or a `500` for an amount
without a two-place value, and leaves the store as it was.

That a request whose guards hold is answered rests on the store: the route writes the order
again, and the store refuses a table number outside its integer column or a total that is not a
number. No reachable store holds such an order (`Reachable.orders_storable`), as every write of
an order goes through those checks.

Main statement, `guarded_order_transitions`.
-/

open Std.Do

set_option mvcgen.warning false

namespace Bistro

open Orders

/-! ## §1 — Orders the store can keep -/

/-- **An order row the store keeps**: its table number fits an integer column and its total is a
number. -/
structure Order.Storable (o : Order) : Prop where
  table : Txn.intRange.1 ≤ o.tableNumber ∧ o.tableNumber ≤ Txn.intRange.2
  total : o.totalAmount ≠ .nan

/-- Whether an order can be kept reads only its table number and its total. -/
theorem Order.Storable.of_columns {o o' : Order} (h : o.Storable)
    (ht : o'.tableNumber = o.tableNumber) (ha : o'.totalAmount = o.totalAmount) : o'.Storable :=
  ⟨ht ▸ h.table, ha ▸ h.total⟩

theorem Order.storable_iff {o : Order} : o.Storable ↔
    (Txn.intRange.1 ≤ o.tableNumber ∧ o.tableNumber ≤ Txn.intRange.2) ∧ o.totalAmount ≠ .nan :=
  ⟨fun h => ⟨h.table, h.total⟩, fun h => ⟨h.1, h.2⟩⟩

/-- The successful payment of the order `oid` with the method and reference of `d`, of the
amount `amount`, under the id `id`, at the time `t`. -/
def settlement (oid : String) (d : PaymentInput) (amount : Decimal) (id : String) (t : Stamp) :
    Payment :=
  { id := id, orderId := oid, method := d.method, amount := amount.toBinary64,
    status := "Success", transactionRef := d.transactionRef, paidAt := t, createdAt := t }

/-- The payments a change adds to the order `oid` at `t`: none, or the settlement of the payment
it sends when the order had none. -/
def FreshPayment (oid : String) (t : Stamp) : Option (PaymentInput × Decimal) → List Payment → Prop
  | none, extra => extra = []
  | some (pi, amount), extra => ∃ id, extra = [settlement oid pi amount id t]

namespace Api

/-- **Storing a changed order**, with the store's checks: it replaces the rows of the order's id
when the order can be kept, and otherwise fails writing nothing, with a `500`. -/
theorem saveOrder_checks (o : Order) (σ₀ : Session) :
    ⦃fun σ => ⌜σ = σ₀⌝⦄ saveOrder o
    ⦃post⟨fun _ σ => ⌜o.Storable ∧ σ = { σ₀ with store :=
        { σ₀.store with orders := Store.replaceRow (·.id) o σ₀.store.orders } }⌝,
      fun e σ => ⌜¬ o.Storable ∧ (e = .internal ∨ e = .integrity) ∧ σ = σ₀⌝⟩⦄ := by
  mvcgen -trivial [saveOrder, -saveOrder_spec, -saveOrder_keepsAt]
  all_goals simp_all +zetaDelta [Order.storable_iff]

/-- **A handler that writes orders only through the store's checks**: every order after a request
it answers is one of the store before, or one the store can keep. -/
def ChecksOrders (_ : Request) (_ : List String) (_ : Stamp) (S : Store) (_ : Nat) (S' : Store)
    (_ : Nat) : Prop :=
  ∀ o ∈ S'.orders, o ∈ S.orders ∨ o.Storable

/-- Replacing the row of an order the store can keep adds no order it could not keep. -/
theorem replaceRow_checked {os : List Order} {o : Order} (ho : o.Storable) :
    ∀ x ∈ Store.replaceRow (·.id) o os, x ∈ os ∨ x.Storable := by
  intro x hx
  rcases Store.mem_replaceRow hx with ⟨hx, -⟩ | rfl
  · exact .inl hx
  · exact .inr ho

theorem createOrder_checks : Does createOrder ChecksOrders := by
  intro r ps t S k
  mvcgen -trivial [createOrder]
  all_goals simp_all +zetaDelta [ChecksOrders, Session.Within, Store.outside, Part.keep,
    Order.storable_iff, or_imp]
  -- a failure once the order is stored has drawn its id
  all_goals omega

/-- **Storing a priced line fails only on the store's checks of its row**, with a `500`. -/
theorem insertLine_faults (oid : String) (p : PricedLine) (σ₀ : Session) :
    ⦃fun σ => ⌜σ = σ₀⌝⦄ insertLine oid p
    ⦃post⟨fun _ _ => ⌜True⌝, fun e _ => ⌜e = .internal ∨ e = .integrity⌝⟩⦄ := by
  mvcgen -trivial [insertLine, -insertLine_withinAt]
  all_goals simp_all

/-- A run that stores priced lines and fails, fails on the store's checks of a row. -/
theorem insertLines_fault (oid : String) :
    ∀ (priced : List PricedLine) (σ : Session) {e : Fault} {σ' : Session},
      (insertLines oid priced).exec σ = (.error e, σ') → e = .internal ∨ e = .integrity
  | [], σ, e, σ', h => by simp [insertLines] at h
  | p :: ps, σ, e, σ', h => by
    unfold insertLines at h
    rw [List.mapM_cons, Txn.exec_bind] at h
    have hone := Txn.triple_iff.1 (insertLine_faults oid p σ) σ rfl
    rcases hx : (insertLine oid p).exec σ with ⟨_ | row, σ₁⟩ <;> rw [hx] at h hone
    · cases h
      exact hone
    · -- the first line is stored: the failure is one of the rest
      dsimp only at h
      rw [Txn.exec_bind] at h
      rcases hy : (ps.mapM (insertLine oid)).exec σ₁ with ⟨_ | rows, σ₂⟩ <;> rw [hy] at h
      · cases h
        exact insertLines_fault oid ps σ₁ hy
      · cases h

/-- **Storing priced lines**, as `insertLines_spec` says, and failing only on the store's checks. -/
theorem insertLines_checks (oid : String) (priced : List PricedLine) (σ₀ : Session) :
    ⦃fun σ => ⌜σ = σ₀⌝⦄ insertLines oid priced
    ⦃post⟨fun rows σ => ⌜σ.saved = σ₀.saved ∧
        σ.store = { σ₀.store with lines := σ₀.store.lines ++ rows } ∧ RowsFor oid rows priced ∧
        σ₀.nextId ≤ σ.nextId⌝,
      fun e σ => ⌜σ.saved = σ₀.saved ∧ σ₀.nextId ≤ σ.nextId ∧
        (e = .internal ∨ e = .integrity)⌝⟩⦄ := by
  refine Txn.triple_iff.2 fun σ hσ => ?_
  subst hσ
  have h := insertLines_run oid priced σ
  rcases hx : (insertLines oid priced).exec σ with ⟨_ | rows, σ'⟩ <;> rw [hx] at h
  · exact ⟨h.1, h.2, insertLines_fault oid priced σ hx⟩
  · exact h

/-- **What storing a change writes**: the order replaced, the lines of the order that the change
names deleted, one row per new line added, the payment the change edits replaced and the new one
added; nothing else. -/
def ChangeStored (d : OrderPatch) (o : Order) (added : List PricedLine) (changed : Option Payment)
    (fresh : Option (PaymentInput × Decimal)) (t : Stamp) (S S' : Store) : Prop :=
  ∃ rows extra, S' = { S with
      orders := Store.replaceRow (·.id) o S.orders
      lines := S.lines.filter
        (fun l => !(l.orderId == o.id && d.deletedItemIds.contains l.id)) ++ rows
      payments := (match changed with
        | some p => Store.replaceRow (·.id) p S.payments
        | none => S.payments) ++ extra } ∧
    RowsFor o.id rows added ∧ FreshPayment o.id t fresh extra

/-- **Storing a change** writes what `ChangeStored` says, through the store's checks of the
changed order and of its new rows; a failure is one of those checks, with a `500`. -/
theorem writeChange_checks (d : OrderPatch) (o : Order) (added : List PricedLine)
    (changed : Option Payment) (fresh : Option (PaymentInput × Decimal)) (now : Stamp)
    (σ₀ : Session) :
    ⦃fun σ => ⌜σ = σ₀⌝⦄ writeChange d o added changed fresh now
    ⦃post⟨fun _ σ => ⌜σ.saved = σ₀.saved ∧ o.Storable ∧
        ChangeStored d o added changed fresh now σ₀.store σ.store ∧ σ₀.nextId ≤ σ.nextId⌝,
      fun e σ => ⌜σ.saved = σ₀.saved ∧ σ₀.nextId ≤ σ.nextId ∧
        (e = .internal ∨ e = .integrity)⌝⟩⦄ := by
  mvcgen -trivial [writeChange, -writeChange_withinAt, -writeChange_logsAt, -writeChange_registryAt,
    -writeChange_spec, -saveOrder_spec, -saveOrder_keepsAt, saveOrder_checks,
    -insertLines_withinAt, -insertLines_logsAt, -insertLines_registryAt, -insertLines_spec,
    -insertLines_keepsAt, insertLines_checks]
  all_goals simp_all +zetaDelta [ChangeStored, FreshPayment, settlement]
  -- a new payment draws an id after the lines
  all_goals omega

theorem updateOrder_checks : Does updateOrder ChecksOrders := by
  intro r ps t S k
  mvcgen -trivial [updateOrder, -writeChange_spec, -writeChange_withinAt, -writeChange_logsAt,
    -writeChange_registryAt, writeChange_checks]
  all_goals simp_all +zetaDelta [ChecksOrders]
  -- the one answer that writes: the changed order passed the store's checks
  rename_i hw
  obtain ⟨-, hs, ⟨rows, extra, hst, -⟩, -⟩ := hw
  rw [hst]
  exact replaceRow_checked hs

theorem addOrderLines_checks : Does addOrderLines ChecksOrders := by
  intro r ps t S k
  mvcgen -trivial [addOrderLines, -saveOrder_spec, -saveOrder_keepsAt, saveOrder_checks]
  all_goals simp_all +zetaDelta [ChecksOrders, Session.Within, Store.outside, Part.keep]
  -- the lines are written after the order, and leave the orders as the order's write left them
  rename_i hw _
  exact replaceRow_checked hw.1

end Api

/-! ## §2 — Every reachable store keeps its orders -/

/-- An order kept up to its links keeps its table and its total. -/
theorem Order.Storable.of_unlinked {o o' : Order} (h : o.Storable) (hu : o'.unlinked = o.unlinked) :
    o'.Storable :=
  h.of_columns (congrArg Order.tableNumber hu :) (congrArg Order.totalAmount hu :)

section Storable

variable {S S' : Store}

theorem storable_of_unlinked (hS : ∀ o ∈ S.orders, o.Storable)
    (h : S'.orders.map Order.unlinked = S.orders.map Order.unlinked) :
    ∀ o' ∈ S'.orders, o'.Storable := by
  intro o' ho'
  have hmem : o'.unlinked ∈ S.orders.map Order.unlinked := h ▸ List.mem_map_of_mem ho'
  obtain ⟨o, ho, hu⟩ := List.mem_map.1 hmem
  exact (hS o ho).of_unlinked hu.symm

/-- Replacing an order by a row of the same table and total keeps every order storable. -/
theorem storable_of_replaceRow {o₁ o' : Order} (hS : ∀ o ∈ S.orders, o.Storable)
    (horders : S'.orders = Store.replaceRow (·.id) o' S.orders) (ho₁ : o₁ ∈ S.orders)
    (ht : o'.tableNumber = o₁.tableNumber) (ha : o'.totalAmount = o₁.totalAmount) :
    ∀ x ∈ S'.orders, x.Storable := by
  intro x hx
  rw [horders] at hx
  rcases Store.mem_replaceRow hx with ⟨hx, -⟩ | rfl
  · exact hS x hx
  · exact (hS o₁ ho₁).of_columns ht ha

/-- A route that writes orders only through the store's checks keeps every order storable. -/
theorem storable_of_does {s : Store} {n : Nat} {now : Stamp} {r : Request} {route : Route}
    {ps : List String} (hsel : Route.select Api.routes r = .ok (route, ps))
    (h : Does route.handle Api.ChecksOrders) (hs : ∀ o ∈ s.orders, o.Storable) :
    ∀ o ∈ (serve Api.routes s n now r).store.orders, o.Storable := by
  rcases serve_does hsel h with ⟨hst, -⟩ | hc
  · rw [hst]
    exact hs
  · intro o ho
    exact (hc o ho).elim (hs o) id

end Storable

/-- A writer of the order book after which every order is storable, when every order was. -/
def Api.Writer.KeepsStorable (w : Api.Writer) : Prop :=
  ∀ r ps now s n, Route.select Api.routes r = .ok (w.route, ps) →
    w.effect r ps now s n (serve Api.routes s n now r).store (serve Api.routes s n now r).nextId →
    (∀ o ∈ s.orders, o.Storable) → ∀ o ∈ (serve Api.routes s n now r).store.orders, o.Storable

/-- **Every writer keeps the orders storable.** Placing, changing and adding lines store an order
through the store's checks; cancelling, completing and paying replace an order by a row of the
same table and total; the others keep the orders up to their links. -/
theorem writers_keep_storable : ∀ w ∈ Api.writers, w.KeepsStorable := by
  simp only [Api.writers, List.forall_mem_cons, List.not_mem_nil, IsEmpty.forall_iff,
    implies_true, and_true]
  refine ⟨?places, ?changes, ?cancels, ?completes, ?pays, ?adds, ?invoices, ?payments, ?bundle,
    ?product, ?variation⟩
  case places => exact fun r ps now s n hsel _ => storable_of_does hsel Api.createOrder_checks
  case changes => exact fun r ps now s n hsel _ => storable_of_does hsel Api.updateOrder_checks
  case adds => exact fun r ps now s n hsel _ => storable_of_does hsel Api.addOrderLines_checks
  case cancels =>
    rintro r ps now s n - ⟨o₁, ho₁, -, -, horders, -⟩ hs
    exact storable_of_replaceRow hs horders (Store.mem_of_order? ho₁) rfl rfl
  case completes =>
    rintro r ps now s n - ⟨o₁, ho₁, -, horders, -⟩ hs
    exact storable_of_replaceRow hs horders (Store.mem_of_order? ho₁) rfl rfl
  case pays =>
    rintro r ps now s n - ⟨_, o₁, _, _, _, -, ho₁, -, -, -, -, -, horders, -⟩ hs
    exact storable_of_replaceRow hs horders (Store.mem_of_order? ho₁) rfl rfl
  case invoices =>
    rintro r ps now s n - ⟨_, horders, -⟩ hs
    exact storable_of_unlinked hs (by rw [horders])
  case payments =>
    rintro r ps now s n - ⟨_, -, horders, -⟩ hs
    exact storable_of_unlinked hs (by rw [horders])
  case bundle =>
    rintro r ps now s n - ⟨⟨horders, -⟩, -⟩ hs
    exact storable_of_unlinked hs horders
  case product =>
    rintro r ps now s n - ⟨⟨horders, -⟩, -⟩ hs
    exact storable_of_unlinked hs horders
  case variation =>
    rintro r ps now s n - ⟨⟨horders, -⟩, -⟩ hs
    exact storable_of_unlinked hs horders

/-- **Every request keeps the orders storable.** -/
theorem serve_orders_storable (s : Store) (n : Nat) (now : Stamp) (r : Request)
    (hs : ∀ o ∈ s.orders, o.Storable) :
    ∀ o ∈ (serve Api.routes s n now r).store.orders, o.Storable := by
  rcases serve_cases s n now r with ⟨hbook, -⟩ | ⟨w, hw, ps, hsel, heff⟩
  · exact storable_of_unlinked hs (Store.book_eq_iff.1 hbook).1
  · exact writers_keep_storable w hw r ps now s n hsel heff hs

/-- **No reachable store holds an order it could not store again.** -/
theorem Reachable.orders_storable {w : World} (hw : Reachable w) :
    ∀ o ∈ w.store.orders, o.Storable := by
  induction hw with
  | fresh =>
    intro o ho
    rw [Scenario.fresh_orders] at ho
    cases ho
  | step j _ ih =>
    rcases Scenario.step_cases _ j with ⟨hbook, -⟩ | ⟨now, r, hs, -⟩
    · exact storable_of_unlinked ih (Store.book_eq_iff.1 hbook).1
    · rw [hs]
      exact serve_orders_storable _ _ now r ih

/-! ## §3 — Answers decided by guards on the store -/

namespace Guard

variable {s : Store} {r : Request} {g : Gate} {e : Fault}

theorem passes_iff_isOk : Passes s r g ↔ (decision s r g).isOk = true := by
  constructor
  · rintro ⟨u, hu⟩
    simp [decision_eq_ok.2 hu, Except.isOk, Except.toBool]
  · intro h
    cases hd : decision s r g with
    | error f => simp [hd, Except.isOk, Except.toBool] at h
    | ok u => exact ⟨u, decision_eq_ok.1 hd⟩

theorem not_passes_of_error (h : decision s r g = .error e) : ¬ Passes s r g := by
  simp [passes_iff_isOk, h, Except.isOk, Except.toBool]

/-- A guard that refuses refuses as `Refusal` says. -/
theorem refusal_of_decision (h : decision s r g = .error e) : Refusal s r g e := by
  obtain ⟨f, hf, hr⟩ := decision_of_not_passes (not_passes_of_error h)
  rw [h] at hf
  cases hf
  exact hr

/-- A guard's refusal is never answered `200`. -/
theorem Refusal.status_ne_ok (h : Refusal s r g e) (now : Stamp) :
    (Route.faultResponse now e).status ≠ 200 := by
  rcases h with ⟨-, d, rfl⟩ | ⟨-, d, rfl⟩ <;> simp [Route.faultResponse]

end Guard

/-- A write of an order the store refuses: the order of the path is one it could not keep. -/
def Unstorable (S : Store) (id : String) (e : Fault) : Prop :=
  (e = .internal ∨ e = .integrity) ∧ ∃ o, S.order? id = some o ∧ ¬ o.Storable

theorem not_unstorable {S : Store} {id : String} {e : Fault} (hS : ∀ o ∈ S.orders, o.Storable) :
    ¬ Unstorable S id e := by
  rintro ⟨-, o, ho, hno⟩
  exact hno (hS o (Store.mem_of_order? ho))

/-- **A request answered by guards on the store it finds**: it succeeds exactly when some order is
`allowed`, and then writes what `writes` says of that order; otherwise it fails with a refusal that
`refusal` describes, and leaves the store as it was. -/
structure GuardedAnswer (S : Store) (now : Stamp) (allowed : Order → Prop)
    (writes : Order → Store → Prop) (refusal : Fault → Prop) (out : Outcome) : Prop where
  ok_iff : out.response.status = 200 ↔ ∃ o, allowed o
  written : out.response.status = 200 → ∃ o, allowed o ∧ writes o out.store
  refused : out.response.status ≠ 200 →
    out.store = S ∧ ∃ e, refusal e ∧ out.response = Route.faultResponse now e

/-- **A handler that answers `200` when an order is allowed and otherwise refuses, or fails writing
an order the store refuses**, answers as `GuardedAnswer` says from a store whose orders are all
storable. -/
theorem GuardedAnswer.of_handler {s : Store} {n : Nat} {now : Stamp} {r : Request} {route : Route}
    {ps : List String} {id : String} {allowed : Order → Prop} {writes : Order → Store → Prop}
    {refusal : Fault → Prop} (hsel : Route.select Api.routes r = .ok (route, ps))
    (hs : ∀ o ∈ s.orders, o.Storable)
    (hrefused : ∀ e, refusal e → (Route.faultResponse now e).status ≠ 200 ∧ ∀ o, ¬ allowed o)
    (h : ⦃fun σ => ⌜σ.saved = s ∧ σ.store = s ∧ σ.nextId = n ∧ σ.now = now⌝⦄ route.handle r ps
      ⦃post⟨fun resp σ => ⌜resp.status = 200 ∧ ∃ o, allowed o ∧ writes o σ.store⌝,
        fun e σ => ⌜σ.saved = s ∧ (refusal e ∨ Unstorable s id e)⌝⟩⦄) :
    GuardedAnswer s now allowed writes refusal (serve Api.routes s n now r) := by
  rcases serve_of_triple n now hsel ⟨rfl, rfl, rfl, rfl⟩ h with
    ⟨σ, ⟨hok, o, ha, hw⟩, hout⟩ | ⟨e, σ, ⟨hsaved, he⟩, hresp, hout⟩
  · exact ⟨⟨fun _ => ⟨o, ha⟩, fun _ => hok⟩, fun _ => ⟨o, ha, hout ▸ hw⟩,
      fun hne => absurd hok hne⟩
  · -- a failure is a refusal: the store keeps every order it holds
    have hr : refusal e := he.resolve_right (not_unstorable hs)
    obtain ⟨hne, hno⟩ := hrefused e hr
    rw [← hresp] at hne
    exact ⟨⟨fun h => absurd h hne, fun ⟨o, ha⟩ => absurd ha (hno o)⟩, fun h => absurd h hne,
      fun _ => ⟨hout.trans hsaved, e, hr, hresp⟩⟩

/-! ## §4 — Cancelling an order -/

/-- **Cancelling the order `id` is allowed** for a member of staff, on an order that is there, not
cancelled, and whose dishes are not completed. -/
def CancelAllowed (S : Store) (r : Request) (id : String) (o : Order) : Prop :=
  Guard.Passes S r .staff ∧ S.order? id = some o ∧ o.status ≠ "Cancelled" ∧
    o.dishStatus ≠ "Completed"

/-- **What cancelling writes** at the row time `t`: the order stored cancelled, dishes included, at
`t`; every payment of the order refunded; one audit entry of the cancellation; nothing else. -/
def CancelWrite (S : Store) (t : Stamp) (o : Order) (S' : Store) : Prop :=
  ∃ e : LogEntry, e.kind = "audit" ∧ e.action = "cancel" ∧ e.entityId = some o.id ∧
    S' = { S with
      orders := Store.replaceRow (·.id)
        { o with status := "Cancelled", dishStatus := "Cancelled", cancelledAt := some t } S.orders
      payments := S.payments.map fun p =>
        if p.orderId == o.id then { p with status := "Refunded" } else p
      logs := S.logs ++ [e] }

/-- **How cancelling refuses**, by the first guard that fails: the staff guard; a `404` for an
order that is not there; a `400` for an order already cancelled, or whose dishes are completed. -/
def CancelRefusal (S : Store) (r : Request) (id : String) (e : Fault) : Prop :=
  Guard.decision S r .staff = .error e ∨
    Guard.Passes S r .staff ∧
      (S.order? id = none ∧ e = Fault.refuse 404 "Order not found" ∨
        ∃ o, S.order? id = some o ∧
          (o.status = "Cancelled" ∧ e = Fault.refuse 400 "order is already cancelled" ∨
            o.status ≠ "Cancelled" ∧ o.dishStatus = "Completed" ∧
              e = Fault.refuse 400 "cannot cancel order that is already completed"))

theorem CancelRefusal.refused {S : Store} {r : Request} {id : String} {e : Fault}
    (h : CancelRefusal S r id e) (now : Stamp) :
    (Route.faultResponse now e).status ≠ 200 ∧ ∀ o, ¬ CancelAllowed S r id o := by
  rcases h with hg | ⟨-, ⟨hnone, rfl⟩ | ⟨o, ho, ⟨hc, rfl⟩ | ⟨-, hd, rfl⟩⟩⟩
  · exact ⟨(Guard.refusal_of_decision hg).status_ne_ok now,
      fun _ ha => Guard.not_passes_of_error hg ha.1⟩
  all_goals refine ⟨by simp [Route.faultResponse, Fault.refuse], ?_⟩
  all_goals rintro o' ⟨-, ho', hc', hd'⟩
  all_goals simp_all

namespace Api

/-- **The cancel route** answers `200` and writes the cancellation when it is allowed; otherwise it
refuses as `CancelRefusal` says, or fails storing an order the store refuses, keeping the commit
point. -/
theorem cancelOrder_answers (r : Request) (ps : List String) (S : Store) (k : Nat) (now : Stamp) :
    ⦃fun σ => ⌜σ.saved = S ∧ σ.store = S ∧ σ.nextId = k ∧ σ.now = now⌝⦄ cancelOrder r ps
    ⦃post⟨fun resp σ => ⌜resp.status = 200 ∧
        ∃ o, CancelAllowed S r (Route.param ps) o ∧ CancelWrite S now.row o σ.store⌝,
      fun e σ => ⌜σ.saved = S ∧
        (CancelRefusal S r (Route.param ps) e ∨ Unstorable S (Route.param ps) e)⌝⟩⦄ := by
  mvcgen -trivial [cancelOrder, -saveOrder_spec, -saveOrder_keepsAt, saveOrder_checks]
  all_goals simp_all +zetaDelta [CancelAllowed, CancelWrite, CancelRefusal, Unstorable,
    Guard.passes_iff_isOk, Except.isOk, Except.toBool, Order.storable_iff, Stamp.row,
    ActivityNote.entry, ActivityNote.audit]

end Api

/-! ## §5 — Completing an order's dishes -/

/-- **Completing the dishes of the order `id` is allowed** for a member of staff, on an order that
is there with its dishes in process. -/
def CompleteAllowed (S : Store) (r : Request) (id : String) (o : Order) : Prop :=
  Guard.Passes S r .staff ∧ S.order? id = some o ∧ o.dishStatus = "In Process"

/-- **What completing writes**: the order's dishes completed, and nothing else. -/
def CompleteWrite (S : Store) (o : Order) (S' : Store) : Prop :=
  S' = { S with orders := Store.replaceRow (·.id) { o with dishStatus := "Completed" } S.orders }

/-- **How completing refuses**: the staff guard; a `404` for an order that is not there; a `400`
naming the dishes' state when it is not in process. -/
def CompleteRefusal (S : Store) (r : Request) (id : String) (e : Fault) : Prop :=
  Guard.decision S r .staff = .error e ∨
    Guard.Passes S r .staff ∧
      (S.order? id = none ∧ e = Fault.refuse 404 "Order not found" ∨
        ∃ o, S.order? id = some o ∧ o.dishStatus ≠ "In Process" ∧
          e = Fault.refuse 400
            ("dish status must be 'In Process' to mark as completed, current status: " ++
              o.dishStatus))

theorem CompleteRefusal.refused {S : Store} {r : Request} {id : String} {e : Fault}
    (h : CompleteRefusal S r id e) (now : Stamp) :
    (Route.faultResponse now e).status ≠ 200 ∧ ∀ o, ¬ CompleteAllowed S r id o := by
  rcases h with hg | ⟨-, ⟨hnone, rfl⟩ | ⟨o, ho, hd, rfl⟩⟩
  · exact ⟨(Guard.refusal_of_decision hg).status_ne_ok now,
      fun _ ha => Guard.not_passes_of_error hg ha.1⟩
  all_goals refine ⟨by simp [Route.faultResponse, Fault.refuse], ?_⟩
  all_goals rintro o' ⟨-, ho', hd'⟩
  all_goals simp_all

namespace Api

/-- **The completion route** answers `200` and completes the dishes when it is allowed; otherwise
it refuses as `CompleteRefusal` says, or fails storing an order the store refuses, keeping the
commit point. -/
theorem completeOrder_answers (r : Request) (ps : List String) (S : Store) (k : Nat) (now : Stamp) :
    ⦃fun σ => ⌜σ.saved = S ∧ σ.store = S ∧ σ.nextId = k ∧ σ.now = now⌝⦄ completeOrder r ps
    ⦃post⟨fun resp σ => ⌜resp.status = 200 ∧
        ∃ o, CompleteAllowed S r (Route.param ps) o ∧ CompleteWrite S o σ.store⌝,
      fun e σ => ⌜σ.saved = S ∧
        (CompleteRefusal S r (Route.param ps) e ∨ Unstorable S (Route.param ps) e)⌝⟩⦄ := by
  mvcgen -trivial [completeOrder, -saveOrder_spec, -saveOrder_keepsAt, saveOrder_checks]
  all_goals simp_all +zetaDelta [CompleteAllowed, CompleteWrite, CompleteRefusal, Unstorable,
    Guard.passes_iff_isOk, Except.isOk, Except.toBool, Order.storable_iff]

end Api

/-! ## §6 — Paying an order -/

/-- **Paying the order `id` is allowed** for a member of staff whose body gives a method and a
positive amount, on an order that is there, neither paid nor cancelled, when the amount and the
order's stored total have two-place values and these are equal. -/
def PayAllowed (S : Store) (r : Request) (id : String) (o : Order) : Prop :=
  ∃ d amount total, Input.bodyAs r PaymentInput.validateSettling = some d ∧
    Guard.Passes S r .staff ∧ S.order? id = some o ∧ o.status ≠ "Paid" ∧
    o.status ≠ "Cancelled" ∧ toMoney (.double d.amount) = .ok amount ∧
    toMoney (.exact (storedAmount o.totalAmount)) = .ok total ∧ Decimal.numEq amount total = true

/-- **What paying writes** with the counter at `k` at the row time `t`: the order stored paid at
`t`; one successful payment of the order with the body's method and reference, of the two-place
amount, at `t`, under the counter's id; one audit entry of the payment; nothing else. -/
def PayWrite (S : Store) (r : Request) (t : Stamp) (k : Nat) (o : Order) (S' : Store) : Prop :=
  ∃ d amount, Input.bodyAs r PaymentInput.validateSettling = some d ∧
    toMoney (.double d.amount) = .ok amount ∧
    ∃ e : LogEntry, e.kind = "audit" ∧ e.action = "pay" ∧ e.entityId = some o.id ∧
      S' = { S with
        orders := Store.replaceRow (·.id) { o with status := "Paid", paidAt := some t } S.orders
        payments := S.payments ++ [settlement o.id d amount (Txn.idText k) t]
        logs := S.logs ++ [e] }

/-- **How an amount is refused** for an order: a `500` when the amount or the order's stored total
has no two-place value, and a `400` naming both two-place values when they differ. -/
def AmountRefusal (d : PaymentInput) (o : Order) (e : Fault) : Prop :=
  (∃ sig, toMoney (.double d.amount) = .error sig) ∧ e = .internal ∨
    ∃ amount, toMoney (.double d.amount) = .ok amount ∧
      ((∃ sig, toMoney (.exact (storedAmount o.totalAmount)) = .error sig) ∧ e = .internal ∨
        ∃ total, toMoney (.exact (storedAmount o.totalAmount)) = .ok total ∧
          Decimal.numEq amount total = false ∧
          e = Fault.refuse 400 ("payment amount (" ++ amount.toText ++
            ") does not match order total (" ++ total.toText ++ ")"))

/-- **How a route that reads a body refuses before its own checks**: a body that is not JSON; the
staff guard; a body whose fields `check` refuses, with one message per problem. -/
def BodyRefusal {α : Type} (S : Store) (r : Request) (check : List (String × Json) → Validated α)
    (e : Fault) : Prop :=
  Input.bodyOf r = .error e ∨
    (Input.bodyOf r).isOk ∧ Guard.decision S r .staff = .error e ∨
    ∃ p es, Input.bodyOf r = .ok p ∧ Guard.Passes S r .staff ∧ Input.model p check = .fail es ∧
      e = .invalid (es.map Input.problemText)

/-- **How paying refuses**, by the first check that fails: the body and the staff guard; a `404`
for an order that is not there; a `400` for an order paid, or cancelled; and the refusal of the
amount. -/
def PayRefusal (S : Store) (r : Request) (id : String) (e : Fault) : Prop :=
  BodyRefusal S r PaymentInput.validateSettling e ∨
    ∃ d, Input.bodyAs r PaymentInput.validateSettling = some d ∧ Guard.Passes S r .staff ∧
      (S.order? id = none ∧ e = Fault.refuse 404 "Order not found" ∨
        ∃ o, S.order? id = some o ∧
          (o.status = "Paid" ∧ e = Fault.refuse 400 "order already paid" ∨
            o.status ≠ "Paid" ∧ o.status = "Cancelled" ∧
              e = Fault.refuse 400 "cannot pay for cancelled order" ∨
            o.status ≠ "Paid" ∧ o.status ≠ "Cancelled" ∧ AmountRefusal d o e))

/-- A refusal before a route's own checks is never answered `200`, and comes from a request
whose body is not accepted or that the guard does not let through. -/
theorem BodyRefusal.refused {α : Type} {S : Store} {r : Request}
    {check : List (String × Json) → Validated α} {e : Fault} (h : BodyRefusal S r check e)
    (now : Stamp) :
    (Route.faultResponse now e).status ≠ 200 ∧
      ∀ d, Input.bodyAs r check = some d → ¬ Guard.Passes S r .staff := by
  rcases h with hb | ⟨-, hg⟩ | ⟨p, es, hb, -, hm, rfl⟩
  · -- a body that is not JSON: no fields
    obtain ⟨-, ms, rfl⟩ := Guard.bodyOf_error hb
    refine ⟨by simp [Route.faultResponse], fun d hd => ?_⟩
    obtain ⟨p, hp, -⟩ := Input.bodyAs_eq_some hd
    simp_all
  · exact ⟨(Guard.refusal_of_decision hg).status_ne_ok now,
      fun _ _ => Guard.not_passes_of_error hg⟩
  · refine ⟨by simp [Route.faultResponse], fun d hd => ?_⟩
    obtain ⟨p', hp', hm'⟩ := Input.bodyAs_eq_some hd
    simp_all

theorem AmountRefusal.refused {d : PaymentInput} {o : Order} {e : Fault}
    (h : AmountRefusal d o e) (now : Stamp) :
    (Route.faultResponse now e).status ≠ 200 ∧
      ¬ ∃ amount total, toMoney (.double d.amount) = .ok amount ∧
        toMoney (.exact (storedAmount o.totalAmount)) = .ok total ∧
        Decimal.numEq amount total = true := by
  rcases h with ⟨⟨sig, hs⟩, rfl⟩ | ⟨amount, ha, ⟨⟨sig, hs⟩, rfl⟩ | ⟨total, ht, hne, rfl⟩⟩
  all_goals refine ⟨by simp [Route.faultResponse, Fault.refuse], ?_⟩
  all_goals rintro ⟨amount', total', ha', ht', heq'⟩
  all_goals simp_all

theorem PayRefusal.refused {S : Store} {r : Request} {id : String} {e : Fault}
    (h : PayRefusal S r id e) (now : Stamp) :
    (Route.faultResponse now e).status ≠ 200 ∧ ∀ o, ¬ PayAllowed S r id o := by
  rcases h with hb | ⟨d, hd, -, ⟨hnone, rfl⟩ | ⟨o, ho, hrest⟩⟩
  · exact ⟨(hb.refused now).1, fun _ ⟨d, _, _, hd, hp, _⟩ => (hb.refused now).2 d hd hp⟩
  · refine ⟨by simp [Route.faultResponse, Fault.refuse], ?_⟩
    rintro o' ⟨-, -, -, -, -, ho', -⟩
    simp_all
  · rcases hrest with ⟨hpaid, rfl⟩ | ⟨-, hc, rfl⟩ | ⟨-, -, ha⟩
    · refine ⟨by simp [Route.faultResponse, Fault.refuse], ?_⟩
      rintro o' ⟨-, -, -, -, -, ho', hpaid', -⟩
      simp_all
    · refine ⟨by simp [Route.faultResponse, Fault.refuse], ?_⟩
      rintro o' ⟨-, -, -, -, -, ho', -, hc', -⟩
      simp_all
    · -- the amount's refusal, for the body's amount and this order's total
      refine ⟨(ha.refused now).1, ?_⟩
      rintro o' ⟨d', amount, total, hd', -, ho', -, -, hamount, htotal, heq⟩
      have hdd : d' = d := Option.some.inj (hd'.symm.trans hd)
      have hoo : o' = o := Option.some.inj (ho'.symm.trans ho)
      subst hdd hoo
      exact (ha.refused now).2 ⟨amount, total, hamount, htotal, heq⟩

namespace Api

/-- **The payment route** answers `200` and writes the payment when it is allowed; otherwise it
refuses as `PayRefusal` says, or fails storing an order the store refuses, keeping the commit
point. -/
theorem payOrder_answers (r : Request) (ps : List String) (S : Store) (k : Nat) (now : Stamp) :
    ⦃fun σ => ⌜σ.saved = S ∧ σ.store = S ∧ σ.nextId = k ∧ σ.now = now⌝⦄ payOrder r ps
    ⦃post⟨fun resp σ => ⌜resp.status = 200 ∧
        ∃ o, PayAllowed S r (Route.param ps) o ∧ PayWrite S r now.row k o σ.store⌝,
      fun e σ => ⌜σ.saved = S ∧
        (PayRefusal S r (Route.param ps) e ∨ Unstorable S (Route.param ps) e)⌝⟩⦄ := by
  mvcgen -trivial [payOrder, -saveOrder_spec, -saveOrder_keepsAt, saveOrder_checks]
  all_goals simp_all +zetaDelta [PayAllowed, PayWrite, PayRefusal, BodyRefusal, AmountRefusal,
    Unstorable, Input.bodyAs, Guard.passes_iff_isOk, Except.isOk, Except.toBool,
    Order.storable_iff, Stamp.row, ActivityNote.entry, ActivityNote.audit, settlement]

end Api

/-! ## §7 — The transitions across requests -/

section Answers

variable {s : Store} {n : Nat} {now : Stamp} {r : Request} {ps : List String}

theorem cancel_answers (hs : ∀ o ∈ s.orders, o.Storable)
    (hsel : Route.select Api.routes r =
      .ok (Route.of "POST" "/api/v1/orders/\x7bid\x7d/cancel" Api.cancelOrder, ps)) :
    GuardedAnswer s now (CancelAllowed s r (Route.param ps)) (CancelWrite s now.row)
      (CancelRefusal s r (Route.param ps)) (serve Api.routes s n now r) :=
  GuardedAnswer.of_handler hsel hs (fun _ he => he.refused now)
    (Api.cancelOrder_answers r ps s n now)

theorem complete_answers (hs : ∀ o ∈ s.orders, o.Storable)
    (hsel : Route.select Api.routes r =
      .ok (Route.of "POST" "/api/v1/orders/\x7bid\x7d/complete" Api.completeOrder, ps)) :
    GuardedAnswer s now (CompleteAllowed s r (Route.param ps)) (CompleteWrite s)
      (CompleteRefusal s r (Route.param ps)) (serve Api.routes s n now r) :=
  GuardedAnswer.of_handler hsel hs (fun _ he => he.refused now)
    (Api.completeOrder_answers r ps s n now)

theorem pay_answers (hs : ∀ o ∈ s.orders, o.Storable)
    (hsel : Route.select Api.routes r =
      .ok (Route.of "POST" "/api/v1/orders/\x7bid\x7d/payment" Api.payOrder, ps)) :
    GuardedAnswer s now (PayAllowed s r (Route.param ps)) (PayWrite s r now.row n)
      (PayRefusal s r (Route.param ps)) (serve Api.routes s n now r) :=
  GuardedAnswer.of_handler hsel hs (fun _ he => he.refused now)
    (Api.payOrder_answers r ps s n now)

end Answers

/-- **Guarded order transitions.** In every reachable world, a request that cancels
(`POST /api/v1/orders/{id}/cancel`), completes (`.../complete`) or pays (`.../payment`) the order
of its path answers `200` exactly when its guards allow it, and then writes exactly the
transition: the order cancelled at the request's time with its payments refunded and one audit
entry; the dishes completed; the order paid at the request's time with one successful payment of
the two-place amount, equal to the two-place total, and one audit entry. Otherwise it answers the
refusal of the first guard that fails, a `404` for a missing order and a `400` for a refused
state or amount, a `500` for an amount or total without a two-place value, and leaves the store as
it was. -/
theorem guarded_order_transitions {w : World} (hw : Reachable w) (now : Stamp) (r : Request)
    (ps : List String) :
    (Route.select Api.routes r =
        .ok (Route.of "POST" "/api/v1/orders/\x7bid\x7d/cancel" Api.cancelOrder, ps) →
      GuardedAnswer w.store now (CancelAllowed w.store r (Route.param ps))
        (CancelWrite w.store now.row) (CancelRefusal w.store r (Route.param ps))
        (serve Api.routes w.store w.nextId now r)) ∧
    (Route.select Api.routes r =
        .ok (Route.of "POST" "/api/v1/orders/\x7bid\x7d/complete" Api.completeOrder, ps) →
      GuardedAnswer w.store now (CompleteAllowed w.store r (Route.param ps))
        (CompleteWrite w.store) (CompleteRefusal w.store r (Route.param ps))
        (serve Api.routes w.store w.nextId now r)) ∧
    (Route.select Api.routes r =
        .ok (Route.of "POST" "/api/v1/orders/\x7bid\x7d/payment" Api.payOrder, ps) →
      GuardedAnswer w.store now (PayAllowed w.store r (Route.param ps))
        (PayWrite w.store r now.row w.nextId) (PayRefusal w.store r (Route.param ps))
        (serve Api.routes w.store w.nextId now r)) :=
  ⟨cancel_answers hw.orders_storable, complete_answers hw.orders_storable,
    pay_answers hw.orders_storable⟩

/-- A staff request on the tea order placed in `teaPlaced`, by the route `route`. -/
def teaOrderRequest (route : String) : Request :=
  { method := "POST", path := "/api/v1/orders/" ++ Txn.idText 41 ++ "/" ++ route,
    headers := staffHeaders, query := [], storageFails := false, clock := 0,
    body := .json (.obj [("method", .str "Cash"), ("amount", .int 25)]) }

theorem placed_tea_transitions :
    Reachable teaPlaced ∧
      Route.select Api.routes (teaOrderRequest "cancel") =
        .ok (Route.of "POST" "/api/v1/orders/\x7bid\x7d/cancel" Api.cancelOrder, [Txn.idText 41]) ∧
      GuardedAnswer teaPlaced.store Scenario.start
        (CancelAllowed teaPlaced.store (teaOrderRequest "cancel") (Txn.idText 41))
        (CancelWrite teaPlaced.store Scenario.start.row)
        (CancelRefusal teaPlaced.store (teaOrderRequest "cancel") (Txn.idText 41))
        (serve Api.routes teaPlaced.store teaPlaced.nextId Scenario.start
          (teaOrderRequest "cancel")) :=
  ⟨teaPlaced_reachable, rfl,
    (guarded_order_transitions teaPlaced_reachable Scenario.start (teaOrderRequest "cancel")
      [Txn.idText 41]).1 rfl⟩

end Bistro
