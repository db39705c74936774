import Bistro.Proofs.OrderRequests
import Bistro.Proofs.SignedTokens

/-!
# Bistro — the states of an order across requests

Cancelling refuses an order whose dishes are completed, and marking dishes completed takes
dishes in process, so a completed kitchen state looks final. It is not: a change of an order
that sets no state of its own recomputes the order's state from its payments, and when they
settle the total it stores the order paid at the time of the change with its dishes back in
process, even when they were completed and the order was paid already.

Main statement, `completed_dishes_reopened_only_by_settling_change`: for every store and every
request, an order whose dishes are completed still has them completed afterwards, unless the
request is the change of that order (`PUT /api/v1/orders/{id}`) and it names the dishes' state,
or settles the order, which it then stores paid at the request's time with its dishes in process.

The proof reads every request through `serve_cases`: the routes that keep the order book keep
the order up to its links, and `writers_keep_completed` takes the eleven writers one by one.
`note_reopens_completed_dishes` runs such a change, one that only adds a note.

Paying an order through its payment route compares the amount with the order's total and never
reads the payments the order has already (`settling_payment_ignores_earlier_payments`), so an
order that a change paid in part is charged its whole total again
(`payment_route_overcharges_partly_paid_order`).
-/

namespace Bistro

open Orders

namespace Api

/-! ## §1 — What a change does to the kitchen state -/

@[simp] theorem mergeHeader_dishStatus (d : OrderPatch) (o : Order) :
    (mergeHeader d o).dishStatus = d.dishStatus.getD o.dishStatus := rfl

/-- **Settling a change** keeps the order's dishes' state unless the change names no dish state
and the payments settle the order, which is then stored paid at `now` with its dishes in
process. -/
theorem settleChange_dishes {d : OrderPatch} {m o : Order} {had : List Payment}
    {amounts : List (String × Decimal)} {total : Decimal} {now : Stamp}
    (h : settleChange d m had amounts total now = .ok o) :
    o.dishStatus = m.dishStatus ∨
      d.dishStatus = none ∧ o.status = "Paid" ∧ o.dishStatus = "In Process" ∧ o.paidAt = some now := by
  unfold settleChange at h
  split at h
  · -- the payments decide between paid and pending
    cases hs : settles amounts total with
    | error e => simp [hs] at h
    | ok paid =>
      cases paid <;> cases hd : d.dishStatus <;> simp_all [bind, Except.bind, pure, Except.pure] <;>
        (subst h; simp)
  · cases h
    exact .inl rfl

end Api

/-! ## §2 — Completed dishes, writer by writer -/

/-- **Completed dishes after a request** at `now`: the order `oid` is still there with its
dishes completed, or the request is the change of that order and it names the dishes' state or
settles the order, paid at the request's time with its dishes in process. -/
def CompletedAfter (r : Request) (now : Stamp) (oid : String) (S' : Store) : Prop :=
  ∃ o', S'.order? oid = some o' ∧
    (o'.dishStatus = "Completed" ∨
      Api.addressOf r = some ("PUT", Segment.parse "/api/v1/orders/\x7bid\x7d", oid) ∧
        ((∃ d, Input.bodyAs r OrderPatch.validate = some d ∧ d.dishStatus.isSome) ∨
          o'.status = "Paid" ∧ o'.dishStatus = "In Process" ∧ o'.paidAt = some now.row))

/-- A writer that keeps completed dishes completed, but for the change of their order. -/
def Api.Writer.KeepsCompleted (w : Api.Writer) : Prop :=
  ∀ r ps now S k S' k' oid o, Route.select Api.routes r = .ok (w.route, ps) →
    w.effect r ps now S k S' k' → S.order? oid = some o → o.dishStatus = "Completed" →
    CompletedAfter r now oid S'

/-- Orders kept up to their links keep their dishes' state. -/
theorem completedAfter_of_unlinked {r : Request} {now : Stamp} {oid : String} {S S' : Store}
    {o : Order} (h : S'.orders.map Order.unlinked = S.orders.map Order.unlinked)
    (ho : S.order? oid = some o) (hc : o.dishStatus = "Completed") : CompletedAfter r now oid S' := by
  obtain ⟨o', ho', hsame⟩ := Store.order?_of_unlinked h ho
  exact ⟨o', ho', .inl ((Order.same_of_unlinked hsame).2.2.1.trans hc)⟩

/-- A write that replaces the order of the path with a row keeping its dishes' state keeps
completed dishes completed. -/
theorem completedAfter_of_replaceRow {r : Request} {now : Stamp} {oid x : String} {S S' : Store}
    {o o₁ o' : Order} (horders : S'.orders = Store.replaceRow (·.id) o' S.orders)
    (ho₁ : S.order? x = some o₁) (hid : o'.id = o₁.id) (hdish : o'.dishStatus = o₁.dishStatus)
    (ho : S.order? oid = some o) (hc : o.dishStatus = "Completed") : CompletedAfter r now oid S' := by
  rw [CompletedAfter, Store.order?_replaceRow horders ho]
  by_cases hx : o'.id = oid
  · -- the row replaced is the completed order itself
    have hsame : o₁ = o := Store.order?_eq_of_id ho₁ ho (hid ▸ hx)
    rw [if_pos hx]
    exact ⟨o', rfl, .inl (by rw [hdish, hsame, hc])⟩
  · rw [if_neg hx]
    exact ⟨o, rfl, .inl hc⟩

/-- **Every writer keeps completed dishes completed, but the change of their order.** Cancelling
and completing refuse completed dishes, paying and adding lines keep the kitchen state, placing
an order adds another one, and the rest keep the orders up to their links. -/
theorem writers_keep_completed : ∀ w ∈ Api.writers, w.KeepsCompleted := by
  simp only [Api.writers, List.forall_mem_cons, List.not_mem_nil, IsEmpty.forall_iff,
    implies_true, and_true]
  refine ⟨?places, ?changes, ?cancels, ?completes, ?pays, ?adds, ?invoices, ?payments, ?bundle,
    ?product, ?variation⟩
  case places =>
    rintro r ps now S k S' k' oid o - ⟨_, _, _, _, _, -, -, -, -, -, -, -, horders, -⟩ ho hc
    exact ⟨o, Store.order?_append horders ho, .inl hc⟩
  case changes =>
    rintro r ps now S k S' k' oid o hsel
      ⟨d, o₀, _, _, _, o', hd, ho₀, -, -, -, hsettle, ⟨_, _, horders, -⟩, -⟩ ho hc
    have hid := (Api.settleChange_figures hsettle).1
    have hdish := Api.settleChange_dishes hsettle
    rw [CompletedAfter, Store.order?_replaceRow horders ho]
    by_cases hx : o'.id = oid
    · -- the change of this very order
      have hsame : o₀ = o := Store.order?_eq_of_id ho₀ ho (hid ▸ hx)
      subst hsame
      have haddr := Api.addressOf_change hsel ho₀
      rw [if_pos hx, ← Store.order?_id ho]
      refine ⟨o', rfl, ?_⟩
      rcases hdish with hkeep | ⟨hnone, hpaid, hproc, hat⟩
      · cases hnamed : d.dishStatus with
        | none => exact .inl (by simp [hkeep, hnamed, hc])
        | some x => exact .inr ⟨haddr, .inl ⟨d, hd, by simp [hnamed]⟩⟩
      · exact .inr ⟨haddr, .inr ⟨hpaid, hproc, hat⟩⟩
    · rw [if_neg hx]
      exact ⟨o, rfl, .inl hc⟩
  case cancels =>
    rintro r ps now S k S' k' oid o - ⟨o₁, ho₁, -, hnc, horders, -⟩ ho hc
    -- a completed order is refused, so the order cancelled is another one
    have hne : o₁ ≠ o := by
      rintro rfl
      exact hnc hc
    exact ⟨o, Store.order?_replaceRow_of_ne horders ho₁ rfl hne ho, .inl hc⟩
  case completes =>
    rintro r ps now S k S' k' oid o - ⟨o₁, ho₁, hproc, horders, -⟩ ho hc
    -- completing takes dishes in process, so the order completed is another one
    have hne : o₁ ≠ o := by
      rintro rfl
      rw [hc] at hproc
      exact absurd hproc (by decide)
    exact ⟨o, Store.order?_replaceRow_of_ne horders ho₁ rfl hne ho, .inl hc⟩
  case pays =>
    rintro r ps now S k S' k' oid o - ⟨_, o₁, _, _, _, -, ho₁, -, -, -, -, -, horders, -⟩ ho hc
    exact completedAfter_of_replaceRow horders ho₁ rfl rfl ho hc
  case adds =>
    rintro r ps now S k S' k' oid o - ⟨_, o₁, _, _, _, -, ho₁, -, -, -, horders, -⟩ ho hc
    exact completedAfter_of_replaceRow horders ho₁ rfl rfl ho hc
  case invoices =>
    rintro r ps now S k S' k' oid o - ⟨_, horders, -⟩ ho hc
    exact completedAfter_of_unlinked (by rw [horders]) ho hc
  case payments =>
    rintro r ps now S k S' k' oid o - ⟨_, -, horders, -⟩ ho hc
    exact completedAfter_of_unlinked (by rw [horders]) ho hc
  case bundle =>
    rintro r ps now S k S' k' oid o - ⟨⟨horders, -⟩, -⟩ ho hc
    exact completedAfter_of_unlinked horders ho hc
  case product =>
    rintro r ps now S k S' k' oid o - ⟨⟨horders, -⟩, -⟩ ho hc
    exact completedAfter_of_unlinked horders ho hc
  case variation =>
    rintro r ps now S k S' k' oid o - ⟨⟨horders, -⟩, -⟩ ho hc
    exact completedAfter_of_unlinked horders ho hc

/-! ## §3 — Completed dishes across a request -/

/-- **Completed dishes are reopened only by a change that settles their order.** For every store
and every request, an order whose dishes are completed is still there after it with its dishes
completed, unless the request is the change of that order (`PUT /api/v1/orders/{id}`) and it
names the dishes' state, or settles the order: then it is stored paid at the request's time
with its dishes back in process, whatever its state was before. -/
theorem completed_dishes_reopened_only_by_settling_change (s : Store) (n : Nat) (now : Stamp)
    (r : Request) {oid : String} {o : Order} (ho : s.order? oid = some o)
    (hc : o.dishStatus = "Completed") :
    CompletedAfter r now oid (serve Api.routes s n now r).store := by
  rcases serve_cases s n now r with ⟨hbook, -⟩ | ⟨w, hw, ps, hsel, heff⟩
  · exact completedAfter_of_unlinked (Store.book_eq_iff.1 hbook).1 ho hc
  · exact writers_keep_completed w hw r ps now s n _ _ oid o hsel heff ho hc

/-- The staff member `u1`. -/
def staffMember : User :=
  { id := "u1", name := "staff", email := "staff@test.io", passwordDigest := none, isStaff := true,
    roleId := none, createdAt := Stamp.ofEpoch 0, lastLoginAt := none }

/-- The headers of a request signed by the staff member `u1`, with a token of the service that
expires an hour after the epoch. -/
def staffHeaders : List (String × String) :=
  [("Authorization", "Bearer " ++ Token.sign Config.service.secretKey
    [("sub", .str "u1"), ("exp", .int 3600)])]

/-- **The staff member's token signs a request in with its claims** until it expires, read back,
keys sorted, without computing its signature again. -/
theorem staffHeaders_claimsOf {r : Request} (hr : r.headers = staffHeaders) (hc : r.clock ≤ 3600) :
    Guard.claimsOf r = .ok [("exp", .int 3600), ("sub", .str "u1")] := by
  have hheader : r.header? "Authorization" = some ("Bearer " ++ Token.sign Config.service.secretKey
      [("sub", .str "u1"), ("exp", .int 3600)]) := by
    rw [Request.header?, hr, staffHeaders]
    simp only [List.find?_cons, beq_self_eq_true, Option.map_some]
  -- the claims' text is read by the kernel: a fixed text, and no digest
  have hparse := Json.parse_eq_of_sameUpTo (d := 3) (s := Json.render (.obj
    [("sub", .str "u1"), ("exp", .int 3600)]))
    (v := .obj [("exp", .int 3600), ("sub", .str "u1")]) (by decide +kernel)
  have htimes : Token.checkTimes r.clock [("exp", .int 3600), ("sub", .str "u1")] = .ok () := by
    simp only [Token.checkTimes, List.lookup, Token.seconds?]
    simp [show ¬ (3600 < r.clock) by omega]
    rfl
  exact Guard.claimsOf_signed hheader hparse htimes rfl rfl

/-- The guard's claims of a request with the staff headers, as a step. -/
theorem staffHeaders_claims (r : Request) (hr : r.headers = staffHeaders) (hc : r.clock ≤ 3600) :
    Guard.claims r = pure [("exp", .int 3600), ("sub", .str "u1")] :=
  Guard.claims_eq_pure (staffHeaders_claimsOf hr hc)

/-- **A request with the staff headers is signed in as `u1`**, until its token expires, in every
store that has `u1`. -/
theorem staffHeaders_userOf {s : Store} {r : Request} {u : User} (hr : r.headers = staffHeaders)
    (hc : r.clock ≤ 3600) (hu : s.user? "u1" = some u) : Guard.userOf s r = .ok u := by
  rw [Guard.userOf, staffHeaders_claimsOf hr hc]
  have hsub : ((List.lookup "sub" [("exp", Json.int 3600), ("sub", Json.str "u1")]).getD
      Json.null).show = "u1" := rfl
  simp only [hsub, hu]

/-- The order `o1` of table 1, paid, with its dishes completed. -/
def completedOrder : Order :=
  { id := "o1", userId := none, qrId := none, customerName := "A", customerPhone := "1",
    tableNumber := 1, status := "Paid", dishStatus := "Completed",
    totalAmount := Binary64.ofDecimal false 25 0, notes := none, createdAt := Stamp.ofEpoch 0,
    paidAt := some (Stamp.ofEpoch 0), cancelledAt := none }

/-- The line of one tea at 25 on the order `o1`. -/
def orderedTea : OrderLine :=
  { id := "d1", orderId := "o1", productName := "Tea", variationName := none,
    unitPrice := Binary64.ofDecimal false 25 0, quantity := 1,
    totalPrice := Binary64.ofDecimal false 25 0, note := none, productId := none,
    variationId := none, createdAt := Stamp.ofEpoch 0, updatedAt := Stamp.ofEpoch 0 }

/-- A successful cash payment of `amount` towards the order `o1`. -/
def cashTowardsTea (amount : Nat) : Payment :=
  { id := "p1", orderId := "o1", method := "Cash", amount := Binary64.ofDecimal false amount 0,
    status := "Success", transactionRef := none, paidAt := Stamp.ofEpoch 0,
    createdAt := Stamp.ofEpoch 0 }

/-- What placing an order of one tea, paying it and completing its dishes leaves. -/
def servedTea : Store :=
  { users := [staffMember], orders := [completedOrder], lines := [orderedTea],
    payments := [cashTowardsTea 25] }

/-- A change of the order `o1` by the staff member, that only adds a note. -/
def noteChange : Request :=
  { method := "PUT", path := "/api/v1/orders/o1", headers := staffHeaders, query := [],
    body := .json (.obj [("notes", .str "window")]), storageFails := false, clock := 0 }

theorem completed_order_after_note :
    servedTea.order? "o1" = some completedOrder ∧ completedOrder.dishStatus = "Completed" ∧
      CompletedAfter noteChange (Stamp.ofEpoch 60) "o1"
        (serve Api.routes servedTea 0 (Stamp.ofEpoch 60) noteChange).store :=
  ⟨rfl, rfl, completed_dishes_reopened_only_by_settling_change _ _ _ _ rfl rfl⟩

/-- **A note reopens completed dishes.** The change of a paid order with completed dishes that
only adds a note stores the order paid again at the time of the change, with its dishes back in
process. -/
theorem note_reopens_completed_dishes :
    (servedTea.order? "o1").map (·.dishStatus) = some "Completed" ∧
      ((serve Api.routes servedTea 0 (Stamp.ofEpoch 60) noteChange).store.order? "o1").map
        (fun o => (o.dishStatus, o.paidAt)) = some ("In Process", some (Stamp.ofEpoch 60)) := by
  constructor
  · rfl
  · -- the staff member's token is read back by `staffHeaders_claims`; the rest is computed
    rw [serve_eq, Route.dispatch_eq_handle (show Route.select Api.routes noteChange =
      .ok (Route.of "PUT" "/api/v1/orders/\x7bid\x7d" Api.updateOrder, ["o1"]) from rfl)]
    simp only [Route.of, Api.updateOrder, Guard.staff, Guard.require, Guard.currentUser,
      staffHeaders_claims noteChange rfl (by decide)]
    decide +kernel

/-! ## §4 — Paying an order -/

/-- **A settling payment counts only itself.** A request that the payment route of an order
answers leaves the store as it was, or adds one successful payment to that order, of an amount
equal to the order's two-place total: the order's successful payments afterwards are those it
had, which the route does not read, and the new one. -/
theorem settling_payment_ignores_earlier_payments (s : Store) (n : Nat) (now : Stamp)
    (r : Request) {ps : List String}
    (hsel : Route.select Api.routes r =
      .ok (Route.of "POST" "/api/v1/orders/\x7bid\x7d/payment" Api.payOrder, ps)) :
    (serve Api.routes s n now r).store = s ∨
      ∃ o p amount total, s.order? (Route.param ps) = some o ∧
        toMoney (.exact (storedAmount o.totalAmount)) = .ok total ∧
        p.amount = amount.toBinary64 ∧ Decimal.numEq amount total = true ∧
        ((serve Api.routes s n now r).store.orderPayments o.id).filter (·.status == "Success") =
          (s.orderPayments o.id).filter (·.status == "Success") ++ [p] := by
  rcases serve_does hsel Api.payOrder_does with ⟨hs, -⟩ |
    ⟨_, o, amount, total, p, -, ho, -, -, -, htotal, heq, -, -, hpay, hpid, hps, hamt, -⟩
  · exact .inl hs
  · -- the new payment is the order's and successful, so it ends both filters
    refine .inr ⟨o, p, amount, total, ho, htotal, hamt, heq, ?_⟩
    simp [Store.orderPayments, hpay, hpid, hps, List.filter_append]

/-- The order `o1`, placed and not paid. -/
def pendingTea : Order :=
  { completedOrder with status := "Pending", dishStatus := "In Process", paidAt := none }

/-- What placing an order of one tea at 25 and a change of it that pays 10 leave. -/
def partlyPaidTea : Store :=
  { users := [staffMember], orders := [pendingTea], lines := [orderedTea],
    payments := [cashTowardsTea 10] }

/-- A request by the staff member to pay 25 in cash towards the order `o1`. -/
def payRequest : Request :=
  { method := "POST", path := "/api/v1/orders/o1/payment", headers := staffHeaders, query := [],
    body := .json (.obj [("method", .str "Cash"), ("amount", .int 25)]), storageFails := false, clock := 0 }

theorem paying_placed_order :
    Route.select Api.routes payRequest =
        .ok (Route.of "POST" "/api/v1/orders/\x7bid\x7d/payment" Api.payOrder, ["o1"]) ∧
      ((serve Api.routes partlyPaidTea 0 (Stamp.ofEpoch 60) payRequest).store = partlyPaidTea ∨
        ∃ o p amount total, partlyPaidTea.order? (Route.param ["o1"]) = some o ∧
          toMoney (.exact (storedAmount o.totalAmount)) = .ok total ∧
          p.amount = amount.toBinary64 ∧ Decimal.numEq amount total = true ∧
          ((serve Api.routes partlyPaidTea 0 (Stamp.ofEpoch 60) payRequest).store.orderPayments
              o.id).filter (·.status == "Success") =
            (partlyPaidTea.orderPayments o.id).filter (·.status == "Success") ++ [p]) :=
  ⟨rfl, settling_payment_ignores_earlier_payments _ _ _ _ rfl⟩

/-- **A partly paid order is charged its whole total again.** Paying 25 towards an order of
total 25 that has a successful payment of 10 already is accepted, and the order's successful
payments then come to 35. -/
theorem payment_route_overcharges_partly_paid_order :
    (partlyPaidTea.order? "o1").map (·.totalAmount) = some (Binary64.ofDecimal false 25 0) ∧
      (((serve Api.routes partlyPaidTea 0 (Stamp.ofEpoch 60) payRequest).store.orderPayments
          "o1").filter (·.status == "Success")).map (·.amount) =
        [Binary64.ofDecimal false 10 0, Binary64.ofDecimal false 25 0] := by
  constructor
  · rfl
  · -- the staff member's token is read back by `staffHeaders_claims`; the rest is computed
    rw [serve_eq, Route.dispatch_eq_handle (show Route.select Api.routes payRequest =
      .ok (Route.of "POST" "/api/v1/orders/\x7bid\x7d/payment" Api.payOrder, ["o1"]) from rfl)]
    simp only [Route.of, Api.payOrder, Guard.staff, Guard.require, Guard.currentUser,
      staffHeaders_claims payRequest rfl (by decide)]
    decide +kernel

end Bistro
