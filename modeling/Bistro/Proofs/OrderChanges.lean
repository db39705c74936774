import Bistro.Proofs.OrderTransitions

/-!
# Bistro — what a change of an order does

The change of an order (`PUT /api/v1/orders/{id}`) merges its body into the order's header,
deletes the lines it names, prices and adds the lines it sends, totals the order again, records
the payment it sends and settles the order's state. This module says what a change that succeeds
leaves, field by field and as the whole store, and how one that fails refuses:

* `HeaderMerged` — the name, the phone, the table and the notes are the ones sent when they count
  (a text that is not empty, a table that is not zero), the order's otherwise;
* `StateSettled` — a change that names no state, of an order that is not cancelled and that has
  or gets a payment, leaves the order paid at the time of the change, with its dishes in process
  unless it names their state, when its successful payments settle its total, and pending
  otherwise; any other change sets the state it names, if any;
* `PaymentUpserted` — a payment sent changes the method, amount and reference of the order's
  oldest payment and keeps its state, or is added as a successful payment when the order has none;
* `ChangeApplied` — all of this, with the lines of the order that the change names deleted, one
  row per new line added, and nothing else written;
* `ChangeRefusal` — the refusal of the first check that fails.

Main statement, `order_change_postcondition`: every request that the change route answers either
applies the change and answers `200`, or leaves the store as it was and answers the refusal.
-/

open Std.Do

set_option mvcgen.warning false

namespace Bistro

open Orders Api

/-! ## §1 — The header -/

/-- **The header a change leaves**: each of the name, the phone, the table and the notes is the one
sent when it counts, a text that is not empty or a table that is not zero, and the order's
otherwise; the order keeps its id, its links and its times of creation and cancellation. -/
structure HeaderMerged (d : OrderPatch) (o₀ o : Order) : Prop where
  id : o.id = o₀.id
  customerName : o.customerName = (d.customerName.filter (!·.isEmpty)).getD o₀.customerName
  customerPhone : o.customerPhone = (d.customerPhone.filter (!·.isEmpty)).getD o₀.customerPhone
  tableNumber : o.tableNumber = (d.tableNumber.filter (· != 0)).getD o₀.tableNumber
  notes : o.notes = (d.notes.filter (!·.isEmpty)).or o₀.notes
  links : o.userId = o₀.userId ∧ o.qrId = o₀.qrId
  times : o.createdAt = o₀.createdAt ∧ o.cancelledAt = o₀.cancelledAt

/-- A text sent counts when it is not empty. -/
theorem filled_text (v : Option String) (old : String) :
    (match v with
      | some s => if s.isEmpty then old else s
      | none => old) = (v.filter (!·.isEmpty)).getD old := by
  cases v with
  | none => rfl
  | some s => by_cases h : s.isEmpty <;> simp [h, Option.filter]

theorem mergeHeader_merged (d : OrderPatch) (o : Order) : HeaderMerged d o (mergeHeader d o) := by
  refine ⟨rfl, filled_text _ _, filled_text _ _, ?table, ?notes, ⟨rfl, rfl⟩, ⟨rfl, rfl⟩⟩
  case table =>
    cases h : d.tableNumber with
    | none => simp [mergeHeader, h]
    | some n => by_cases hn : n = 0 <;> simp [mergeHeader, h, hn, Option.filter]
  case notes =>
    cases h : d.notes with
    | none => simp [mergeHeader, h]
    | some n => by_cases hn : n.isEmpty <;> simp [mergeHeader, h, hn, Option.filter]

/-- A header merged into the order stays merged when only the order's state, its payment time, its
dishes' state and its total change. -/
theorem HeaderMerged.restate {d : OrderPatch} {o₀ m : Order} (h : HeaderMerged d o₀ m)
    (status : String) (paidAt : Option Stamp) (dishStatus : String) (total : Binary64) :
    HeaderMerged d o₀
      { m with status := status, paidAt := paidAt, dishStatus := dishStatus, totalAmount := total } :=
  ⟨h.id, h.customerName, h.customerPhone, h.tableNumber, h.notes, h.links, h.times⟩

/-! ## §2 — The state -/

/-- **A change settles the state** of an order when it names no state, the order is not cancelled,
and the order has a payment or the change sends one. -/
def Recomputes (d : OrderPatch) (o₀ : Order) (had : List Payment) : Prop :=
  d.status = none ∧ o₀.status ≠ "Cancelled" ∧ (d.payment.isSome ∨ had ≠ [])

/-- **The state a change leaves**, `settled` being whether the order's successful payments settle
its total: a change that settles the state leaves the order paid at `t`, with its dishes in process
unless it names their state, or pending; any other change sets the states it names and keeps the
rest. -/
def StateSettled (d : OrderPatch) (o₀ : Order) (had : List Payment)
    (settled : Except DecimalSignal Bool) (t : Stamp) (o : Order) : Prop :=
  ¬ Recomputes d o₀ had ∧ o.status = d.status.getD o₀.status ∧ o.paidAt = o₀.paidAt ∧
      o.dishStatus = d.dishStatus.getD o₀.dishStatus ∨
    Recomputes d o₀ had ∧ settled = .ok true ∧ o.status = "Paid" ∧ o.paidAt = some t ∧
      o.dishStatus = d.dishStatus.getD "In Process" ∨
    Recomputes d o₀ had ∧ settled = .ok false ∧ o.status = "Pending" ∧ o.paidAt = o₀.paidAt ∧
      o.dishStatus = d.dishStatus.getD o₀.dishStatus

/-- The test with which the change route decides to settle the state is `Recomputes`. -/
theorem recomputes_iff {d : OrderPatch} {o₀ : Order} {x : Binary64} {had : List Payment} :
    (d.status.isNone && ({ mergeHeader d o₀ with totalAmount := x } : Order).status != "Cancelled" &&
        (d.payment.isSome || !had.isEmpty)) = true ↔ Recomputes d o₀ had := by
  simp only [Recomputes, Bool.and_eq_true, Option.isNone_iff_eq_none, bne_iff_ne, ne_eq,
    Bool.or_eq_true, Bool.not_eq_true', List.isEmpty_eq_false_iff]
  constructor
  · rintro ⟨⟨hs, hc⟩, hp⟩
    exact ⟨hs, by simpa [mergeHeader, hs] using hc, hp⟩
  · rintro ⟨hs, hc, hp⟩
    exact ⟨⟨hs, by simpa [mergeHeader, hs] using hc⟩, hp⟩

/-- **Settling the merged order** keeps its header and its total, and leaves the state that
`StateSettled` says. -/
theorem settleChange_settled {d : OrderPatch} {o₀ o : Order} {x : Binary64} {had : List Payment}
    {amounts : List (String × Decimal)} {total : Decimal} {t : Stamp}
    (h : settleChange d { mergeHeader d o₀ with totalAmount := x } had amounts total t = .ok o) :
    HeaderMerged d o₀ o ∧ o.totalAmount = x ∧ StateSettled d o₀ had (settles amounts total) t o := by
  have hm := mergeHeader_merged d o₀
  unfold settleChange at h
  split at h
  · -- the state is settled by the payments
    rename_i hre
    have hrec : Recomputes d o₀ had := recomputes_iff.1 hre
    cases hpaid : settles amounts total with
    | error e => simp [hpaid, bind, Except.bind] at h
    | ok paid =>
      simp only [hpaid, bind, Except.bind, pure, Except.pure, Except.ok.injEq] at h
      subst h
      cases paid with
      | true =>
        refine ⟨hm.restate _ _ _ _, rfl, .inr (.inl ⟨hrec, rfl, rfl, rfl, ?_⟩)⟩
        cases hd : d.dishStatus <;> simp [mergeHeader, hd]
      | false => exact ⟨hm.restate _ _ _ _, rfl, .inr (.inr ⟨hrec, rfl, rfl, rfl, rfl⟩)⟩
  · -- the state is the one the change names, if any
    rename_i hre
    simp only [pure, Except.pure, Except.ok.injEq] at h
    subst h
    exact ⟨hm.restate _ _ _ _, rfl, .inl ⟨fun hr => hre (recomputes_iff.2 hr), rfl, rfl, rfl⟩⟩

/-! ## §3 — The payment -/

/-- **How a change records the payment it sends** among the store's payments `ps`, `had` being
the order's payments oldest first: nothing sent keeps them; a payment sent of two-place amount
`amount` changes the method, the amount and the reference of the oldest of `had`, keeping its
state, or, when the order has none, is added as the order's successful payment at `t`. -/
def PaymentUpserted (ps had : List Payment) (oid : String) (sent : Option PaymentInput) (t : Stamp)
    (ps' : List Payment) : Prop :=
  sent = none ∧ ps' = ps ∨
    ∃ pi amount, sent = some pi ∧ toMoney (.double pi.amount) = .ok amount ∧
      ((∃ first rest, had = first :: rest ∧ ps' = Store.replaceRow (·.id)
          { first with
            method := pi.method, amount := amount.toBinary64, transactionRef := pi.transactionRef }
          ps) ∨
        had = [] ∧ ∃ id, ps' = ps ++ [settlement oid pi amount id t])

theorem paymentChange_upserted {ps had : List Payment} {oid : String} {sent : Option PaymentInput}
    {t : Stamp} {pay : Option Payment × Option (PaymentInput × Decimal) × List (String × Decimal)}
    {extra : List Payment} (h : paymentChange had sent = .ok pay)
    (hfresh : FreshPayment oid t pay.2.1 extra) :
    PaymentUpserted ps had oid sent t ((match pay.1 with
      | some p => Store.replaceRow (·.id) p ps
      | none => ps) ++ extra) := by
  cases sent with
  | none =>
    simp only [paymentChange, pure, Except.pure, Except.ok.injEq] at h
    subst h
    simp only [FreshPayment] at hfresh
    exact .inl ⟨rfl, by simp [hfresh]⟩
  | some pi =>
    cases hm : toMoney (.double pi.amount) with
    | error e => simp [paymentChange, hm, bind, Except.bind] at h
    | ok amount =>
      cases had with
      | nil =>
        -- the order has no payment: the one sent is added
        simp only [paymentChange, hm, bind, Except.bind, pure, Except.pure, Except.ok.injEq] at h
        subst h
        obtain ⟨id, rfl⟩ := hfresh
        exact .inr ⟨pi, amount, rfl, hm, .inr ⟨rfl, id, rfl⟩⟩
      | cons first rest =>
        -- the oldest payment takes the one sent
        simp only [paymentChange, hm, bind, Except.bind, pure, Except.pure, Except.ok.injEq] at h
        subst h
        simp only [FreshPayment] at hfresh
        exact .inr ⟨pi, amount, rfl, hm, .inl ⟨first, rest, rfl, by simp [hfresh]⟩⟩

/-! ## §4 — A change, run to its end or refused -/

/-- **A change run to its end** from the store `S` at the row time `t`: the checked body, the
order of the path, the new lines priced, the total of the lines kept and the new ones, the payment
recorded, the state settled, and the change stored. -/
def ChangeRun (S : Store) (r : Request) (id : String) (t : Stamp) (S' : Store) : Prop :=
  ∃ d o₀ added total pay o,
    Input.bodyAs r OrderPatch.validate = some d ∧ Guard.Passes S r .staff ∧
    S.order? id = some o₀ ∧ pricedOn S d.items = .ok added ∧
    orderTotal ((sortedLines S o₀.id).filter fun l => !d.deletedItemIds.contains l.id) added =
      .ok total ∧
    paymentChange (sortedPayments S o₀.id) d.payment = .ok pay ∧
    settleChange d { mergeHeader d o₀ with totalAmount := total.toBinary64 }
      (sortedPayments S o₀.id) pay.2.2 total t = .ok o ∧
    ChangeStored d o added pay.1 pay.2.1 t S S'

/-- **What a change that succeeds leaves**, from the store `S` at the row time `t`: the order `o`
of the header merged, of the total of the lines it keeps and the new ones, and of the state
settled by the payments; the lines of the order that the change names deleted and one row per new
line added; the payment sent recorded; and nothing else written. -/
def ChangeApplied (S : Store) (r : Request) (id : String) (t : Stamp) (S' : Store) : Prop :=
  ∃ d o₀ added total pay o rows ps,
    Input.bodyAs r OrderPatch.validate = some d ∧ Guard.Passes S r .staff ∧
    S.order? id = some o₀ ∧ pricedOn S d.items = .ok added ∧
    orderTotal ((sortedLines S o₀.id).filter fun l => !d.deletedItemIds.contains l.id) added =
      .ok total ∧
    paymentChange (sortedPayments S o₀.id) d.payment = .ok pay ∧
    HeaderMerged d o₀ o ∧ o.totalAmount = total.toBinary64 ∧
    StateSettled d o₀ (sortedPayments S o₀.id) (settles pay.2.2 total) t o ∧
    RowsFor o₀.id rows added ∧
    PaymentUpserted S.payments (sortedPayments S o₀.id) o₀.id d.payment t ps ∧
    S' = { S with
      orders := Store.replaceRow (·.id) o S.orders
      lines := S.lines.filter
        (fun l => !(l.orderId == o₀.id && d.deletedItemIds.contains l.id)) ++ rows
      payments := ps }

theorem ChangeRun.applied {S S' : Store} {r : Request} {id : String} {t : Stamp}
    (h : ChangeRun S r id t S') : ChangeApplied S r id t S' := by
  obtain ⟨d, o₀, added, total, pay, o, hd, hp, ho₀, hadded, htotal, hpay, hsettle,
    rows, extra, hS', hrows, hfresh⟩ := h
  obtain ⟨hm, hx, hstate⟩ := settleChange_settled hsettle
  -- the settled order keeps the id of the order of the path
  rw [hm.id] at hS' hrows hfresh
  exact ⟨d, o₀, added, total, pay, o, rows, _, hd, hp, ho₀, hadded, htotal, hpay, hm, hx, hstate,
    hrows, paymentChange_upserted hpay hfresh, hS'⟩

/-- **The lines of the changed order** are the lines it had that the change does not name,
followed by the rows of the new lines; the lines of other orders stay. -/
theorem ChangeApplied.lines {S S' : Store} {r : Request} {id : String} {t : Stamp}
    (h : ChangeApplied S r id t S') :
    ∃ d o₀ added rows, Input.bodyAs r OrderPatch.validate = some d ∧ S.order? id = some o₀ ∧
      pricedOn S d.items = .ok added ∧ RowsFor o₀.id rows added ∧
      S'.orderLines o₀.id =
        (S.orderLines o₀.id).filter (fun l => !d.deletedItemIds.contains l.id) ++ rows ∧
      ∀ oid, oid ≠ o₀.id → S'.orderLines oid = S.orderLines oid := by
  obtain ⟨d, o₀, added, -, -, -, rows, -, hd, -, ho₀, hadded, -, -, -, -, -, hrows, -, rfl⟩ := h
  have hown := hrows.orderId
  refine ⟨d, o₀, added, rows, hd, ho₀, hadded, hrows, ?_, fun oid hne => ?_⟩
  · simp only [Store.orderLines, List.filter_append, List.filter_filter]
    congr 1
    · congr 1
      funext l
      by_cases hl : l.orderId = o₀.id
      · simp [hl]
      · have hf : (l.orderId == o₀.id) = false := by simpa using hl
        simp [hf]
    · exact List.filter_eq_self.2 fun l hl => by simp [hown l hl]
  · simp only [Store.orderLines, List.filter_append, List.filter_filter]
    have hnone : rows.filter (·.orderId == oid) = [] :=
      List.filter_eq_nil_iff.2 fun l hl => by simp [hown l hl, Ne.symm hne]
    rw [hnone, List.append_nil]
    congr 1
    funext l
    by_cases hl : l.orderId = oid
    · simp [hl, hne]
    · simp [hl]

/-- **How a change refuses**, by the first check that fails: the body and the staff guard; a
`404` for an order that is not there; the refusal of the first line that cannot be priced; and a
`500` for a sum or an amount without a two-place value, or a row the store refuses. -/
def ChangeRefusal (S : Store) (r : Request) (id : String) (e : Fault) : Prop :=
  BodyRefusal S r OrderPatch.validate e ∨
    ∃ d, Input.bodyAs r OrderPatch.validate = some d ∧ Guard.Passes S r .staff ∧
      (S.order? id = none ∧ e = Fault.refuse 404 "Order not found" ∨
        ∃ o₀, S.order? id = some o₀ ∧
          (pricedOn S d.items = .error e ∨
            (pricedOn S d.items).isOk ∧ (e = .internal ∨ e = .integrity)))

namespace Api

/-- **The change route** answers `200` with the change run to its end, or refuses as
`ChangeRefusal` says, keeping the commit point. -/
theorem updateOrder_answers (r : Request) (ps : List String) (S : Store) (k : Nat) (now : Stamp) :
    ⦃fun σ => ⌜σ.saved = S ∧ σ.store = S ∧ σ.nextId = k ∧ σ.now = now⌝⦄ updateOrder r ps
    ⦃post⟨fun resp σ => ⌜resp.status = 200 ∧ ChangeRun S r (Route.param ps) now.row σ.store⌝,
      fun e σ => ⌜σ.saved = S ∧ ChangeRefusal S r (Route.param ps) e⌝⟩⦄ := by
  mvcgen -trivial [updateOrder, -writeChange_spec, -writeChange_withinAt, -writeChange_logsAt,
    -writeChange_registryAt, writeChange_checks]
  all_goals simp_all +zetaDelta [ChangeRun, ChangeRefusal, BodyRefusal, Input.bodyAs, Stamp.row,
    Guard.passes_iff_isOk, Except.isOk, Except.toBool, -Prod.exists]

end Api

/-- **A change of an order.** Every request that the change route (`PUT /api/v1/orders/{id}`)
answers either applies the change as `ChangeApplied` says and answers `200`, or leaves the store as
it was and answers the refusal of the first check that fails. -/
theorem order_change_postcondition (s : Store) (n : Nat) (now : Stamp) {r : Request}
    {ps : List String}
    (hsel : Route.select Api.routes r =
      .ok (Route.of "PUT" "/api/v1/orders/\x7bid\x7d" Api.updateOrder, ps)) :
    ((serve Api.routes s n now r).response.status = 200 ∧
        ChangeApplied s r (Route.param ps) now.row (serve Api.routes s n now r).store) ∨
      (serve Api.routes s n now r).store = s ∧ ∃ e, ChangeRefusal s r (Route.param ps) e ∧
        (serve Api.routes s n now r).response = Route.faultResponse now e := by
  rcases serve_of_triple n now hsel ⟨rfl, rfl, rfl, rfl⟩ (Api.updateOrder_answers r ps s n now)
    with ⟨σ, ⟨hok, hrun⟩, hout⟩ | ⟨e, σ, ⟨hsaved, he⟩, hresp, hout⟩
  · exact .inl ⟨hok, hout ▸ hrun.applied⟩
  · exact .inr ⟨hout.trans hsaved, e, he, hresp⟩

theorem note_change_postcondition :
    Route.select Api.routes noteChange =
        .ok (Route.of "PUT" "/api/v1/orders/\x7bid\x7d" Api.updateOrder, ["o1"]) ∧
      (((serve Api.routes servedTea 0 (Stamp.ofEpoch 60) noteChange).response.status = 200 ∧
          ChangeApplied servedTea noteChange "o1" (Stamp.ofEpoch 60).row
            (serve Api.routes servedTea 0 (Stamp.ofEpoch 60) noteChange).store) ∨
        (serve Api.routes servedTea 0 (Stamp.ofEpoch 60) noteChange).store = servedTea ∧
          ∃ e, ChangeRefusal servedTea noteChange "o1" e ∧
            (serve Api.routes servedTea 0 (Stamp.ofEpoch 60) noteChange).response =
              Route.faultResponse (Stamp.ofEpoch 60) e) :=
  ⟨rfl, @order_change_postcondition servedTea 0 (Stamp.ofEpoch 60) noteChange ["o1"] rfl⟩

end Bistro
