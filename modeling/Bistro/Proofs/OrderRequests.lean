import Bistro.Proofs.OrderWrites

/-!
# Bistro — what a request does to the order book

Every route keeps the order book (`Bistro.Proofs.OrderBook`) or is one of eleven writers, each
with the effect that `Bistro.Proofs.OrderWrites` proves of its handler. This module puts the two
together, so that a property of the order book over every request is proved once for the routes
that keep the book and once for each writer:

* `Api.Writer` — a route that writes the book, with its effect and the proof that its handler
  has that effect, and `Api.writers`, the eleven of them;
* `serve_cases` — a request leaves the book as it was, or is answered by a writer, whose effect
  relates the store before to the store after;
* the lookups of an order after the writes that the effects name (`Store.order?_replaceRow`,
  `Store.order?_append`, `Store.order?_of_book`).
-/

namespace Bistro

namespace Api

open Orders Catalog

/-- **A route that writes the order book**, with what a request it answers does to the store and
the counter, and the proof that its handler does that. -/
structure Writer where
  route : Route
  effect : Request → List String → Stamp → Store → Nat → Store → Nat → Prop
  does : Does route.handle effect

/-- The routes that write the order book, each with its effect. -/
def writers : List Writer :=
  [ ⟨Route.of "POST" "/api/v1/orders" createOrder, Places, createOrder_does⟩,
    ⟨Route.of "PUT" "/api/v1/orders/\x7bid\x7d" updateOrder, Changes, updateOrder_does⟩,
    ⟨Route.of "POST" "/api/v1/orders/\x7bid\x7d/cancel" cancelOrder, Cancels, cancelOrder_does⟩,
    ⟨Route.of "POST" "/api/v1/orders/\x7bid\x7d/complete" completeOrder, Completes,
      completeOrder_does⟩,
    ⟨Route.of "POST" "/api/v1/orders/\x7bid\x7d/payment" payOrder, Pays, payOrder_does⟩,
    ⟨Route.of "POST" "/api/v1/orders/\x7bid\x7d/details" addOrderLines, AddsLines,
      addOrderLines_does⟩,
    ⟨Route.of "POST" "/api/v1/orders/\x7bid\x7d/invoice" createInvoice, Invoices,
      createInvoice_does⟩,
    ⟨Route.of "POST" "/api/v1/payments" createPayment, RecordsPayment, createPayment_does⟩,
    ⟨Route.of "PUT" "/api/v1/products/\x7bid\x7d/with-variations" updateProductBundle, RelinksBook,
      updateProductBundle_does⟩,
    ⟨Route.of "DELETE" "/api/v1/products/\x7bid\x7d" deleteProduct, RelinksBook,
      deleteProduct_does⟩,
    ⟨Route.of "DELETE" "/api/v1/variations/\x7bid\x7d" deleteVariation, RelinksBook,
      deleteVariation_does⟩ ]

/-- The writers are the routes set apart as writing the book. -/
theorem writers_routes : writers.map (·.route) = bookWriters := rfl

/-- The route a request is answered by, as its method, its path pattern and its first path
parameter, or nothing when no route answers it. -/
def addressOf (r : Request) : Option (String × List Segment × String) :=
  match Route.select routes r with
  | .ok (route, ps) => some (route.method, route.pattern, Route.param ps)
  | .error _ => none

theorem addressOf_eq {r : Request} {route : Route} {ps : List String}
    (h : Route.select routes r = .ok (route, ps)) :
    addressOf r = some (route.method, route.pattern, Route.param ps) := by
  rw [addressOf, h]

/-- The change of an order found under the path's parameter is addressed to that order. -/
theorem addressOf_change {r : Request} {ps : List String} {S : Store} {o : Order}
    (hsel : Route.select routes r =
      .ok (Route.of "PUT" "/api/v1/orders/\x7bid\x7d" updateOrder, ps))
    (ho : S.order? (Route.param ps) = some o) :
    addressOf r = some ("PUT", Segment.parse "/api/v1/orders/\x7bid\x7d", o.id) := by
  have hid : o.id = Route.param ps := by simpa using List.find?_some ho
  rw [addressOf_eq hsel, hid]
  rfl

/-- **Settling a change** keeps the order's id and total. -/
theorem settleChange_figures {d : OrderPatch} {m o : Order} {had : List Payment}
    {amounts : List (String × Decimal)} {total : Decimal} {now : Stamp}
    (h : settleChange d m had amounts total now = .ok o) :
    o.id = m.id ∧ o.totalAmount = m.totalAmount := by
  unfold settleChange at h
  split at h
  · cases hs : settles amounts total with
    | error e => simp [hs] at h
    | ok paid => cases paid <;> simp_all [bind, Except.bind, pure, Except.pure] <;> (subst h; simp)
  · cases h
    exact ⟨rfl, rfl⟩

end Api

/-- **Every request leaves the order book as it was, or has the effect of the writer that answers
it.** A failure of a writer leaves the store it found, so it falls under the first case. -/
theorem serve_cases (s : Store) (n : Nat) (now : Stamp) (r : Request) :
    ((serve Api.routes s n now r).store.book = s.book ∧ n ≤ (serve Api.routes s n now r).nextId) ∨
      ∃ w ∈ Api.writers, ∃ ps, Route.select Api.routes r = .ok (w.route, ps) ∧
        w.effect r ps now s n (serve Api.routes s n now r).store
          (serve Api.routes s n now r).nextId := by
  rcases hsel : Route.select Api.routes r with f | ⟨route, ps⟩
  · have hout : (serve Api.routes s n now r).store = s ∧ (serve Api.routes s n now r).nextId = n :=
      serve_unrouted hsel
    exact .inl ⟨by rw [hout.1], hout.2.ge⟩
  · rcases Api.routes_book_frame route (Route.select_mem hsel) with hframe | hw
    · exact .inl (serve_book_frame hsel hframe)
    · -- a writer: it failed and left the store, or it had its effect
      rw [← Api.writers_routes, List.mem_map] at hw
      obtain ⟨w, hw, rfl⟩ := hw
      rcases serve_does hsel w.does with ⟨hs, hn⟩ | heff
      · exact .inl ⟨by rw [hs], hn⟩
      · exact .inr ⟨w, hw, ps, rfl, heff⟩

/-- Rows related one by one: each row on the left has its partner on the right. -/
theorem exists_rel_of_forall₂ {α β : Type} {R : α → β → Prop} :
    ∀ {xs : List α} {ys : List β}, List.Forall₂ R xs ys → ∀ x ∈ xs, ∃ y ∈ ys, R x y
  | _, _, .nil, _, hx => absurd hx List.not_mem_nil
  | _, _, .cons hxy hrest, x, hx => by
    rcases List.mem_cons.1 hx with rfl | hx
    · exact ⟨_, List.mem_cons_self, hxy⟩
    · obtain ⟨y, hy, hr⟩ := exists_rel_of_forall₂ hrest x hx
      exact ⟨y, List.mem_cons_of_mem _ hy, hr⟩

/-- Rows related one by one: each row on the right has its partner on the left. -/
theorem exists_rel_of_forall₂_right {α β : Type} {R : α → β → Prop} {xs : List α} {ys : List β}
    (h : List.Forall₂ R xs ys) : ∀ y ∈ ys, ∃ x ∈ xs, R x y :=
  exists_rel_of_forall₂ (List.Forall₂.flip (R := flip R) h)

/-! ## Orders after a write -/

namespace Store

variable {S S' : Store} {x : String} {o : Order}

/-- The order found under an id has that id. -/
theorem order?_id (h : S.order? x = some o) : o.id = x := by
  simpa using List.find?_some h

/-- Two lookups that find orders of one id find the same order. -/
theorem order?_eq_of_id {y : String} {o₁ : Order} (h₁ : S.order? y = some o₁)
    (h : S.order? x = some o) (hid : o₁.id = x) : o₁ = o := by
  have hy : y = x := (order?_id h₁).symm.trans hid
  subst hy
  exact Option.some.inj (h₁.symm.trans h)

/-- Replacing an order leaves every other order where it was, and puts the new row under its id. -/
theorem order?_replaceRow {o' : Order} (h : S'.orders = replaceRow (·.id) o' S.orders)
    (ho : S.order? x = some o) : S'.order? x = some (if o'.id = x then o' else o) := by
  unfold order? at ho ⊢
  rw [h]
  by_cases hx : o'.id = x
  · rw [if_pos hx]
    exact find?_replaceRow_self (·.id) o' hx ho
  · rw [if_neg hx, find?_replaceRow_ne (·.id) o' hx]
    exact ho

/-- Replacing an order other than `o`, by a row of the same id, leaves `o` where it was. -/
theorem order?_replaceRow_of_ne {y : String} {o₁ o' : Order}
    (h : S'.orders = replaceRow (·.id) o' S.orders) (ho₁ : S.order? y = some o₁)
    (hid : o'.id = o₁.id) (hne : o₁ ≠ o) (ho : S.order? x = some o) : S'.order? x = some o := by
  rw [order?_replaceRow h ho]
  by_cases hx : o'.id = x
  · exact absurd (order?_eq_of_id ho₁ ho (hid ▸ hx)) hne
  · rw [if_neg hx]

/-- Adding orders leaves the orders there where they were. -/
theorem order?_append {more : List Order} (h : S'.orders = S.orders ++ more)
    (ho : S.order? x = some o) : S'.order? x = some o := by
  unfold order? at ho ⊢
  rw [h]
  exact find?_append_of_some (·.id) more ho

/-- Orders kept up to their links are found as they were, up to their links. -/
theorem order?_of_unlinked (h : S'.orders.map Order.unlinked = S.orders.map Order.unlinked)
    (ho : S.order? x = some o) : ∃ o', S'.order? x = some o' ∧ o'.unlinked = o.unlinked := by
  -- unlinking keeps the id, so it commutes with the lookup
  have hlook : ∀ os : List Order, (os.find? (·.id == x)).map Order.unlinked =
      (os.map Order.unlinked).find? (·.id == x) := by
    intro os
    rw [List.find?_map]
    rfl
  have hmap : (S'.order? x).map Order.unlinked = (S.order? x).map Order.unlinked := by
    unfold order?
    rw [hlook, hlook, h]
  rw [ho] at hmap
  cases ho' : S'.order? x with
  | none => rw [ho'] at hmap; cases hmap
  | some o' =>
    rw [ho'] at hmap
    exact ⟨o', rfl, Option.some.inj hmap⟩

/-- A store with the book of `S` has its orders, up to their links. -/
theorem order?_of_book (h : S'.book = S.book) (ho : S.order? x = some o) :
    ∃ o', S'.order? x = some o' ∧ o'.unlinked = o.unlinked :=
  order?_of_unlinked (Store.book_eq_iff.1 h).1 ho

end Store

/-- Orders equal up to their links have the same id, states and total. -/
theorem Order.same_of_unlinked {o o' : Order} (h : o'.unlinked = o.unlinked) :
    o'.id = o.id ∧ o'.status = o.status ∧ o'.dishStatus = o.dishStatus ∧
      o'.totalAmount = o.totalAmount := by
  have hid := congrArg Order.id h
  have hstatus := congrArg Order.status h
  have hdish := congrArg Order.dishStatus h
  have htotal := congrArg Order.totalAmount h
  exact ⟨hid, hstatus, hdish, htotal⟩

end Bistro
