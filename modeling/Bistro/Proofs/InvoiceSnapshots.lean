import Bistro.Proofs.ScenarioRuns
import Bistro.Proofs.RoleNames
import Bistro.Proofs.InvoiceNumbers

/-!
# Bistro — invoices are unique, frozen snapshots

One route writes invoices: issuing the invoice of an order (`POST /api/v1/orders/{id}/invoice`).
It refuses an order that is not there with a 404 and an order that has an invoice with a 409;
otherwise it appends one invoice, which copies the order's customer, its lines as they are then,
in order, and its total, and takes a number of the issue date that no invoice has
(`IssuesInvoice`). Every other request leaves the invoices as they were.

Main statement, `invoices_unique_frozen_snapshots`: in every reachable world each order has at
most one invoice, and the invoice numbers are pairwise different and of the form
`INV-YYYYMMDD-XXXXXXXX` of their issue date (`Store.InvoicesSound`); every request keeps the
invoices there as a prefix of the invoices after it, so that no field of an invoice ever
changes; and issuing an invoice answers as the route says, as long as fewer than `16^8` invoices
exist. The witness `tea_invoice_snapshot` issues the invoice of a served order of one tea.
-/

open Std.Do

set_option mvcgen.warning false

namespace Bistro

open Orders

/-! ## §1 — Issuing an invoice -/

/-- **Issuing the invoice of the order of the path**, from the store `S` with the counter at `k`
at the issue time `issued`: the order is there and has no invoice, a number of the date is
free, and one invoice is appended, with the order's customer, its lines in order and its total
read back from the store, that number and that time. -/
def IssuesInvoice (S : Store) (ps : List String) (issued : Stamp) (k : Nat) (S' : Store) : Prop :=
  ∃ o number inv, S.order? (Route.param ps) = some o ∧ S.orderInvoice? o.id = none ∧
    freeInvoiceNumber (S.invoices.map (·.invoiceNumber)) issued (Txn.idText k) = some number ∧
    S' = { S with invoices := S.invoices ++ [inv] } ∧ inv.orderId = some o.id ∧
    inv.customerSnapshot = customerSnapshot o ∧ inv.itemsSnapshot = itemsSnapshot (sortedLines S o.id) ∧
    inv.total = storedDouble o.totalAmount ∧ inv.invoiceNumber = number ∧ inv.issuedAt = issued

/-- **How issuing an invoice fails**, run from the store `S` with the counter at `k`: the guard
refuses; or the order of the path is not there; or it has an invoice; or every number of the
issue date is taken. -/
def InvoiceRefusal (S : Store) (r : Request) (ps : List String) (issued : Stamp) (k : Nat)
    (e : Fault) : Prop :=
  Guard.decision S r .staff = .error e ∨
    (Guard.decision S r .staff).isOk ∧
      (S.order? (Route.param ps) = none ∧ e = Fault.refuse 404 "Order not found" ∨
        ∃ o, S.order? (Route.param ps) = some o ∧
          ((S.orderInvoice? o.id).isSome ∧
              e = Fault.refuse 409 "Invoice already exists for this order" ∨
            S.orderInvoice? o.id = none ∧
              freeInvoiceNumber (S.invoices.map (·.invoiceNumber)) issued (Txn.idText k) = none ∧
              e = .internal))

namespace Api

/-- **The invoice route** issues the invoice as `IssuesInvoice` says, for a staff member, or fails
as `InvoiceRefusal` says, keeping the commit point. -/
theorem createInvoice_outcome (r : Request) (ps : List String) (S : Store) (k : Nat) (now : Stamp) :
    ⦃fun σ => ⌜σ.saved = S ∧ σ.store = S ∧ σ.nextId = k ∧ σ.now = now⌝⦄ createInvoice r ps
    ⦃post⟨fun resp σ => ⌜resp.status = 201 ∧ (Guard.decision S r .staff).isOk ∧
        IssuesInvoice S ps now.row k σ.store⌝,
      fun e σ => ⌜σ.saved = S ∧ InvoiceRefusal S r ps now.row k e⌝⟩⦄ := by
  mvcgen -trivial [createInvoice]
  all_goals simp_all +zetaDelta [IssuesInvoice, InvoiceRefusal, Stamp.row, Except.isOk,
    Except.toBool]

end Api

/-! ## §2 — The requests that leave the invoices alone -/

/-- A writer of the order book that leaves the invoices as they were. -/
def Api.Writer.KeepsInvoices (w : Api.Writer) : Prop :=
  ∀ r ps now S k S' k', w.effect r ps now S k S' k' → S'.invoices = S.invoices

/-- **Every writer of the order book but the invoice route leaves the invoices alone.** -/
theorem writers_keep_invoices : ∀ w ∈ Api.writers, w.KeepsInvoices ∨
    w.route = Route.of "POST" "/api/v1/orders/\x7bid\x7d/invoice" Api.createInvoice := by
  simp only [Api.writers, List.forall_mem_cons, List.not_mem_nil, IsEmpty.forall_iff,
    implies_true, and_true]
  refine ⟨.inl ?places, .inl ?changes, .inl ?cancels, .inl ?completes, .inl ?pays, .inl ?adds,
    .inr trivial, .inl ?payments, .inl ?bundle, .inl ?product, .inl ?variation⟩
  case places =>
    rintro r ps now S k S' k' ⟨_, _, _, _, _, _, _, _, _, _, _, _, _, _, _, _, h, _⟩
    exact h
  case changes =>
    rintro r ps now S k S' k' ⟨_, _, _, _, _, _, _, _, _, _, _, _, ⟨_, _, _, _, _, _, _, h⟩, _⟩
    exact h
  case cancels =>
    rintro r ps now S k S' k' ⟨_, _, _, _, _, _, _, h, _⟩
    exact h
  case completes =>
    rintro r ps now S k S' k' ⟨_, _, _, _, _, _, h, _⟩
    exact h
  case pays =>
    rintro r ps now S k S' k' ⟨_, _, _, _, _, _, _, _, _, _, _, _, _, _, _, _, _, _, h, _⟩
    exact h
  case adds =>
    rintro r ps now S k S' k' ⟨_, _, _, _, _, _, _, _, _, _, _, _, _, _, h, _⟩
    exact h
  case payments =>
    rintro r ps now S k S' k' ⟨_, _, _, _, _, h, _⟩
    exact h
  case bundle =>
    rintro r ps now S k S' k' ⟨⟨_, _, h, _⟩, _⟩
    exact h
  case product =>
    rintro r ps now S k S' k' ⟨⟨_, _, h, _⟩, _⟩
    exact h
  case variation =>
    rintro r ps now S k S' k' ⟨⟨_, _, h, _⟩, _⟩
    exact h

/-- **Every request leaves the invoices as they were, or issues one invoice** as `IssuesInvoice`
says. -/
theorem serve_invoices_cases (s : Store) (n : Nat) (now : Stamp) (r : Request) :
    (serve Api.routes s n now r).store.invoices = s.invoices ∨
      ∃ ps, Route.select Api.routes r =
          .ok (Route.of "POST" "/api/v1/orders/\x7bid\x7d/invoice" Api.createInvoice, ps) ∧
        IssuesInvoice s ps now.row n (serve Api.routes s n now r).store := by
  rcases serve_cases s n now r with ⟨hbook, -⟩ | ⟨w, hw, ps, hsel, heff⟩
  · exact .inl (Store.book_eq_iff.1 hbook).2.2.2
  rcases writers_keep_invoices w hw with hkeep | hroute
  · exact .inl (hkeep _ _ _ _ _ _ _ heff)
  -- the invoice route: its own triple says what it wrote
  rw [hroute] at hsel
  rcases serve_of_triple n now hsel ⟨rfl, rfl, rfl, rfl⟩ (Api.createInvoice_outcome r ps s n now)
    with ⟨σ, ⟨-, -, hiss⟩, hout⟩ | ⟨e, σ, ⟨hsaved, -⟩, -, hout⟩
  · exact .inr ⟨ps, hsel, hout ▸ hiss⟩
  · exact .inl (by rw [hout, hsaved])

/-- **No request changes an invoice**: the invoices before a request are the first invoices after
it, each in its place with all its fields. -/
theorem serve_invoices_prefix (s : Store) (n : Nat) (now : Stamp) (r : Request) :
    s.invoices <+: (serve Api.routes s n now r).store.invoices := by
  rcases serve_invoices_cases s n now r with heq | ⟨ps, -, _, _, inv, -, -, -, hs, -⟩
  · exact heq ▸ List.prefix_refl _
  · rw [hs]
    exact List.prefix_append _ _

/-! ## §3 — Invoices in every reachable world -/

/-- **The invoices of a store are sound**: each order has at most one, and their numbers are
pairwise different and of the form of their issue date. -/
structure Store.InvoicesSound (s : Store) : Prop where
  oneEach : ∀ oid, (s.invoices.filter (·.orderId == some oid)).length ≤ 1
  numbersApart : (s.invoices.map (·.invoiceNumber)).Nodup
  numbered : ∀ i ∈ s.invoices, IsInvoiceNumber i.issuedAt i.invoiceNumber

namespace Store.InvoicesSound

variable {S S' : Store}

/-- Soundness is a fact about the invoices alone. -/
theorem of_invoices (h : S.InvoicesSound) (heq : S'.invoices = S.invoices) : S'.InvoicesSound where
  oneEach := heq ▸ h.oneEach
  numbersApart := heq ▸ h.numbersApart
  numbered := heq ▸ h.numbered

/-- **Issuing an invoice keeps the invoices sound**: the order had none, and the number is free
and of the issue date's form. -/
theorem issue {ps : List String} {issued : Stamp} {k : Nat} (h : S.InvoicesSound)
    (hiss : IssuesInvoice S ps issued k S') : S'.InvoicesSound := by
  obtain ⟨o, number, inv, -, hnone, hfree, rfl, horder, -, -, -, hnum, hat⟩ := hiss
  obtain ⟨hnew, hform⟩ := freeInvoiceNumber_fresh hfree
  -- no invoice of the store names the order
  have hnoinv : ∀ i ∈ S.invoices, i.orderId ≠ some o.id := fun i hi hid =>
    List.find?_eq_none.1 hnone i hi (by simp [hid])
  refine ⟨fun oid => ?_, ?_, ?_⟩
  · rw [List.filter_append, List.length_append]
    by_cases hoid : o.id = oid
    · subst hoid
      rw [List.filter_eq_nil_iff.2 (fun i hi => by simpa using hnoinv i hi)]
      simp [horder]
    · have hone := h.oneEach oid
      simp [horder, hoid, hone]
  · rw [List.map_append, List.nodup_append]
    refine ⟨h.numbersApart, List.nodup_singleton _, fun a ha b hb hab => hnew ?_⟩
    rw [List.map_singleton, List.mem_singleton] at hb
    rwa [← hnum, ← hb, ← hab]
  · intro i hi
    rcases List.mem_append.1 hi with hi | hi
    · exact h.numbered i hi
    · rw [List.mem_singleton.1 hi, hat, hnum]
      exact hform

end Store.InvoicesSound

/-- **Every request keeps the invoices sound.** -/
theorem serve_keeps_invoices_sound (s : Store) (n : Nat) (now : Stamp) (r : Request)
    (h : s.InvoicesSound) : (serve Api.routes s n now r).store.InvoicesSound := by
  rcases serve_invoices_cases s n now r with heq | ⟨ps, -, hiss⟩
  · exact h.of_invoices heq
  · exact h.issue hiss

/-- The new service has no invoice. -/
theorem Scenario.fresh_invoices : Scenario.fresh.store.invoices = [] := by
  have h : Scenario.fresh.store.invoices.isEmpty = true := by
    decide +kernel
  simpa using h

/-- **The invoices are sound in every reachable world**: each step keeps the order book or is a
request, and each request keeps the invoices sound. -/
theorem Reachable.invoices_sound {w : World} (hw : Reachable w) : w.store.InvoicesSound := by
  induction hw with
  | fresh => exact ⟨by simp [Scenario.fresh_invoices], by simp [Scenario.fresh_invoices],
      by simp [Scenario.fresh_invoices]⟩
  | step j _ ih =>
    rcases Scenario.step_cases _ j with ⟨hbook, -⟩ | ⟨now, r, hs, -⟩
    · exact ih.of_invoices (Store.book_eq_iff.1 hbook).2.2.2
    · rw [hs]
      exact serve_keeps_invoices_sound _ _ now r ih

/-! ## §4 — What issuing an invoice answers -/

/-- **The answers of the invoice route**, for the outcome `out` of a request run from `s` at
`now`: the 404 of a missing order and the 409 of an order that has an invoice, each keeping the
store; and for an order without one, while fewer than `16^8` invoices exist, a 201 and one
invoice appended, with the order's customer, its lines as they are, in order, and its total,
issued at the request's time under a free number of that date. -/
def InvoiceAnswers (s : Store) (now : Stamp) (ps : List String) (out : Outcome) : Prop :=
  (s.order? (Route.param ps) = none →
    out.response = Route.faultResponse now (.refuse 404 "Order not found") ∧ out.store = s) ∧
  (∀ o, s.order? (Route.param ps) = some o → (s.orderInvoice? o.id).isSome →
    out.response =
        Route.faultResponse now (.refuse 409 "Invoice already exists for this order") ∧
      out.store = s) ∧
  (∀ o, s.order? (Route.param ps) = some o → s.orderInvoice? o.id = none →
    s.invoices.length < 16 ^ 8 →
    out.response.status = 201 ∧ ∃ inv, out.store = { s with invoices := s.invoices ++ [inv] } ∧
      inv.orderId = some o.id ∧ inv.customerSnapshot = customerSnapshot o ∧
      inv.itemsSnapshot = itemsSnapshot (sortedLines s o.id) ∧
      inv.total = storedDouble o.totalAmount ∧ inv.issuedAt = now.row ∧
      inv.invoiceNumber ∉ s.invoices.map (·.invoiceNumber) ∧
      IsInvoiceNumber now.row inv.invoiceNumber)

/-- For a staff member, the invoice route answers as `InvoiceAnswers` says. -/
theorem createInvoice_answers (s : Store) (n : Nat) (now : Stamp) (r : Request)
    (ps : List String)
    (hsel : Route.select Api.routes r =
      .ok (Route.of "POST" "/api/v1/orders/\x7bid\x7d/invoice" Api.createInvoice, ps))
    (hpass : Guard.Passes s r .staff) : InvoiceAnswers s now ps (serve Api.routes s n now r) := by
  obtain ⟨u, hu⟩ := hpass
  have hdec := Guard.decision_eq_ok.2 hu
  rcases serve_of_triple n now hsel ⟨rfl, rfl, rfl, rfl⟩ (Api.createInvoice_outcome r ps s n now)
    with ⟨σ, ⟨hst, -, o', number, inv, ho', hnone', hfree, hσ, hord, hcust, hitems, htotal, hnum,
        hat⟩, hout⟩ |
      ⟨e, σ, ⟨hsaved, hdeny | ⟨-, ⟨hnone', rfl⟩ | ⟨o', ho', ⟨hinv', rfl⟩ | ⟨hnone', hfull, rfl⟩⟩⟩⟩,
        hresp, hout⟩
  case inl =>
    -- issued: the order found is the order of the path
    have hsame : ∀ o, s.order? (Route.param ps) = some o → o = o' :=
      fun o ho => Option.some.inj (ho.symm.trans ho')
    refine ⟨fun h => by simp [h] at ho', fun o ho hinv => ?_, fun o ho _ _ => ?_⟩
    · rw [hsame o ho, hnone'] at hinv
      simp at hinv
    · obtain rfl := hsame o ho
      obtain ⟨hnew, hform⟩ := freeInvoiceNumber_fresh hfree
      exact ⟨hst, inv, hout.trans hσ, hord, hcust, hitems, htotal, hat, hnum ▸ hnew,
        hnum ▸ hform⟩
  case inr.inl => simp [hdec] at hdeny
  case inr.inr.inl =>
    have hkept : (serve Api.routes s n now r).store = s := hout.trans hsaved
    refine ⟨fun _ => ⟨hresp, hkept⟩, fun o ho _ => ?_, fun o ho _ _ => ?_⟩ <;> simp [ho] at hnone'
  case inr.inr.inr.inl =>
    have hkept : (serve Api.routes s n now r).store = s := hout.trans hsaved
    refine ⟨fun h => by simp [h] at ho', fun _ _ _ => ⟨hresp, hkept⟩, fun o ho hnone _ => ?_⟩
    obtain rfl := Option.some.inj (ho.symm.trans ho')
    simp [hnone] at hinv'
  case inr.inr.inr.inr =>
    -- every number of the date taken: not while fewer than `16^8` invoices exist
    refine ⟨fun h => by simp [h] at ho', fun o ho hinv => ?_, fun o ho _ hfew => ?_⟩
    · rw [Option.some.inj (ho.symm.trans ho'), hnone'] at hinv
      simp at hinv
    · have hsome := @freeInvoiceNumber_isSome (s.invoices.map (·.invoiceNumber)) now.row
        (Txn.idText n) (by simpa using hfew)
      simp [hfull] at hsome

/-! ## §5 — Invoices are unique, frozen snapshots -/

/-- **Invoices are unique, frozen snapshots.** In every reachable world each order has at most
one invoice, and the invoice numbers are pairwise different, each `INV-`, its issue date as
`YYYYMMDD`, a hyphen and eight hexadecimal digits in capitals. Every request keeps the invoices
there as the first invoices after it, so no field of an invoice changes once it is issued. And
for a staff member, issuing the invoice of an order answers the 404 of a missing order, the 409
of an order that has an invoice, and otherwise, while fewer than `16^8` invoices exist, a 201
with one invoice appended, which copies the order's customer, its lines as they are then, in
order, and its total. -/
theorem invoices_unique_frozen_snapshots :
    (∀ w, Reachable w → w.store.InvoicesSound) ∧
    (∀ s n now r, s.invoices <+: (serve Api.routes s n now r).store.invoices) ∧
    (∀ s n now r ps, Route.select Api.routes r =
        .ok (Route.of "POST" "/api/v1/orders/\x7bid\x7d/invoice" Api.createInvoice, ps) →
      Guard.Passes s r .staff → InvoiceAnswers s now ps (serve Api.routes s n now r)) :=
  ⟨fun _ hw => hw.invoices_sound, serve_invoices_prefix, createInvoice_answers⟩

/-- A request of the staff member `u1` to issue the invoice of the order `o1`. -/
def teaInvoice : Request :=
  { method := "POST", path := "/api/v1/orders/o1/invoice", headers := staffHeaders, query := [],
    body := .empty, storageFails := false, clock := 0 }

theorem teaInvoice_selects : Route.select Api.routes teaInvoice =
    .ok (Route.of "POST" "/api/v1/orders/\x7bid\x7d/invoice" Api.createInvoice, ["o1"]) :=
  Route.select_eq_of_first 34 (by decide +kernel) (by decide +kernel) (by decide +kernel)
    (by decide +kernel)

/-- **The invoice of a served order of one tea**, in the reachable world where that order was
placed the invoices are sound; issuing the invoice of the served order `o1` answers a 201 and
appends the one invoice of the store, which copies the order's customer, its line and its
total, under a number of the issue date. -/
theorem tea_invoice_snapshot :
    Reachable teaPlaced ∧ teaPlaced.store.InvoicesSound ∧
      (serve Api.routes servedTea 0 (Stamp.ofEpoch 60) teaInvoice).response.status = 201 ∧
      ∃ inv, (serve Api.routes servedTea 0 (Stamp.ofEpoch 60) teaInvoice).store =
          { servedTea with invoices := [inv] } ∧
        inv.customerSnapshot = customerSnapshot completedOrder ∧
        inv.itemsSnapshot = itemsSnapshot (sortedLines servedTea completedOrder.id) ∧
        inv.total = storedDouble completedOrder.totalAmount ∧
        IsInvoiceNumber (Stamp.ofEpoch 60).row inv.invoiceNumber := by
  obtain ⟨hsound, -, hissue⟩ := invoices_unique_frozen_snapshots
  -- the staff member's token is checked once, for another request with the same headers
  have hpass : Guard.Passes servedTea teaInvoice .staff := by
    apply Guard.passes_of_isOk
    rw [Guard.decision, staffHeaders_userOf rfl (by decide) rfl]
    rfl
  obtain ⟨-, -, hnew⟩ := hissue servedTea 0 (Stamp.ofEpoch 60) teaInvoice ["o1"]
    teaInvoice_selects hpass
  obtain ⟨hst, inv, hs, -, hcust, hitems, htotal, -, -, hform⟩ :=
    hnew completedOrder rfl rfl (by simp [servedTea])
  exact ⟨teaPlaced_reachable, hsound _ teaPlaced_reachable, hst, inv, hs, hcust, hitems, htotal,
    hform⟩

end Bistro
