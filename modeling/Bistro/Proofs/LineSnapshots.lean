import Bistro.Proofs.OrderRequests
import Bistro.Proofs.OrderStates

/-!
# Bistro — the lines of an order are snapshots

A line copies what it sold when it is stored: the product's and variation's names, the unit
price, the quantity, the total and the note. Nothing later changes that copy. Changing or
deleting products and variations, changing orders, paying, cancelling, completing and invoicing
all leave every line as it was, but for two things: deleting a product or a variation clears
the links of the lines that named it, and the change of an order may delete lines of that order
that it lists by id.

Main statement, `line_snapshot_frozen`: for every store, every request and every line of the
store, the store after the request has the line with everything but its links as it was, each
link kept or cleared to a row the store no longer has (`OrderLine.Relinked`), unless the request
is the change of the line's order (`PUT /api/v1/orders/{id}`) and lists the line's id among the
lines to delete.

As for the kitchen state in `Bistro.Proofs.OrderStates`, the routes that keep the order book keep
every line, and `writers_keep_lines` takes the eleven writers one by one.
-/

namespace Bistro

open Orders

/-- **What a request leaves of a line**: the line, relinked in the store after it, or nothing,
when the request is the change of the line's order and lists its id among the lines to delete. -/
def LineAfter (r : Request) (l : OrderLine) (S' : Store) : Prop :=
  (∃ l' ∈ S'.lines, OrderLine.Relinked S' l l') ∨
    Api.addressOf r = some ("PUT", Segment.parse "/api/v1/orders/\x7bid\x7d", l.orderId) ∧
      ∃ d, Input.bodyAs r OrderPatch.validate = some d ∧ l.id ∈ d.deletedItemIds

/-- A writer that keeps every line, but those the change of their order deletes. -/
def Api.Writer.KeepsLines (w : Api.Writer) : Prop :=
  ∀ r ps now S k S' k' l, Route.select Api.routes r = .ok (w.route, ps) →
    w.effect r ps now S k S' k' → l ∈ S.lines → LineAfter r l S'

/-- A line that stays in the store is kept. -/
theorem lineAfter_of_mem {r : Request} {l : OrderLine} {S' : Store} (hl : l ∈ S'.lines) :
    LineAfter r l S' :=
  .inl ⟨l, hl, OrderLine.Relinked.refl S' l⟩

/-- A catalogue deletion keeps every line, relinked in place. -/
theorem lineAfter_of_relinks {r : Request} {l : OrderLine} {S S' : Store} (h : Relinks S S')
    (hl : l ∈ S.lines) : LineAfter r l S' :=
  .inl (exists_rel_of_forall₂ h.2.2.2 l hl)

/-- **Every writer keeps every line, but those the change of their order deletes.** Placing an
order and adding lines only add lines, a catalogue deletion relinks them, and the other writers
leave them as they were. -/
theorem writers_keep_lines : ∀ w ∈ Api.writers, w.KeepsLines := by
  simp only [Api.writers, List.forall_mem_cons, List.not_mem_nil, IsEmpty.forall_iff,
    implies_true, and_true]
  refine ⟨?places, ?changes, ?cancels, ?completes, ?pays, ?adds, ?invoices, ?payments, ?bundle,
    ?product, ?variation⟩
  case places =>
    rintro r ps now S k S' k' l - ⟨_, _, _, _, _, -, -, -, -, -, -, -, -, hlines, -⟩ hl
    exact lineAfter_of_mem (hlines ▸ List.mem_append_left _ hl)
  case changes =>
    rintro r ps now S k S' k' l hsel
      ⟨d, o₀, _, _, _, o', hd, ho₀, -, -, -, hsettle, ⟨_, _, -, hlines, -⟩, -⟩ hl
    have hid : o'.id = o₀.id := (Api.settleChange_figures hsettle).1
    by_cases hdrop : l.orderId = o₀.id ∧ l.id ∈ d.deletedItemIds
    · -- the change of the line's order lists it: the line is deleted on purpose
      rw [LineAfter, hdrop.1]
      exact .inr ⟨Api.addressOf_change hsel ho₀, d, hd, hdrop.2⟩
    · apply lineAfter_of_mem
      rw [hlines, hid]
      exact List.mem_append_left _ (List.mem_filter.2 ⟨hl, by simpa [imp_iff_not_or] using hdrop⟩)
  case cancels =>
    rintro r ps now S k S' k' l - ⟨_, -, -, -, -, hlines, -⟩ hl
    exact lineAfter_of_mem (hlines ▸ hl)
  case completes =>
    rintro r ps now S k S' k' l - ⟨_, -, -, -, hlines, -⟩ hl
    exact lineAfter_of_mem (hlines ▸ hl)
  case pays =>
    rintro r ps now S k S' k' l - ⟨_, _, _, _, _, -, -, -, -, -, -, -, -, hlines, -⟩ hl
    exact lineAfter_of_mem (hlines ▸ hl)
  case adds =>
    rintro r ps now S k S' k' l - ⟨_, _, _, _, _, -, -, -, -, -, -, hlines, -⟩ hl
    exact lineAfter_of_mem (hlines ▸ List.mem_append_left _ hl)
  case invoices =>
    rintro r ps now S k S' k' l - ⟨_, -, hlines, -⟩ hl
    exact lineAfter_of_mem (hlines ▸ hl)
  case payments =>
    rintro r ps now S k S' k' l - ⟨_, -, -, hlines, -⟩ hl
    exact lineAfter_of_mem (hlines ▸ hl)
  case bundle =>
    rintro r ps now S k S' k' l - ⟨hrel, -⟩ hl
    exact lineAfter_of_relinks hrel hl
  case product =>
    rintro r ps now S k S' k' l - ⟨hrel, -⟩ hl
    exact lineAfter_of_relinks hrel hl
  case variation =>
    rintro r ps now S k S' k' l - ⟨hrel, -⟩ hl
    exact lineAfter_of_relinks hrel hl

/-- **A line is a snapshot.** For every store, every request and every line of the store, the
store after the request holds the line with everything but its links as it was (its product and
variation names, unit price, quantity, total, note, id and order), each link kept or cleared to a
product or variation the store no longer has; unless the request is the change of the line's
order (`PUT /api/v1/orders/{id}`) and lists the line's id among the lines to delete. -/
theorem line_snapshot_frozen (s : Store) (n : Nat) (now : Stamp) (r : Request) {l : OrderLine}
    (hl : l ∈ s.lines) : LineAfter r l (serve Api.routes s n now r).store := by
  rcases serve_cases s n now r with ⟨hbook, -⟩ | ⟨w, hw, ps, hsel, heff⟩
  · exact lineAfter_of_mem ((Store.book_eq_iff.1 hbook).2.1 ▸ hl)
  · exact writers_keep_lines w hw r ps now s n _ _ l hsel heff hl

/-- A line of one tea, sold from the product `p1`. -/
def teaLine : OrderLine :=
  { id := "d1", orderId := "o1", productName := "Tea", variationName := none,
    unitPrice := Binary64.ofDecimal false 25 0, quantity := 1,
    totalPrice := Binary64.ofDecimal false 25 0, note := none, productId := some "p1",
    variationId := none, createdAt := Stamp.ofEpoch 0, updatedAt := Stamp.ofEpoch 0 }

/-- The tea `p1`, at 25. -/
def teaProduct : Product :=
  { id := "p1", categoryId := none, name := "Tea", description := none, imageUrl := none,
    basePrice := Binary64.ofDecimal false 25 0, isAvailable := true, position := 0 }

/-- The tea of the menu, a line that sold one, and the administrator `u1`, of the role
`System`. -/
def teaMenu : Store :=
  { users := [{ staffMember with roleId := some "r1" }],
    roles := [⟨"r1", "System", none, Stamp.ofEpoch 0, Stamp.ofEpoch 0⟩],
    products := [teaProduct], lines := [teaLine] }

/-- The administrator's request to delete the product `p1`. -/
def deleteTea : Request :=
  { method := "DELETE", path := "/api/v1/products/p1", headers := staffHeaders, query := [],
    body := .empty, storageFails := false, clock := 0 }

theorem deleteTea_selects : Route.select Api.routes deleteTea =
    .ok (Route.of "DELETE" "/api/v1/products/\x7bid\x7d" Api.deleteProduct, ["p1"]) :=
  Route.select_eq_of_first 18 (by decide +kernel) (by decide +kernel) (by decide +kernel)
    (by decide +kernel)

/-- The deletion of the tea goes through: the menu is left empty and the line that sold it keeps
its name and loses its link. -/
theorem deleteTea_unlinks :
    (serve Api.routes teaMenu 0 (Stamp.ofEpoch 60) deleteTea).store.products.isEmpty = true ∧
      (serve Api.routes teaMenu 0 (Stamp.ofEpoch 60) deleteTea).store.lines.map
        (fun l => (l.id, l.productName, l.productId)) = [("d1", "Tea", none)] := by
  -- the administrator's token is read back by `staffHeaders_claims`; the rest is computed
  rw [serve_eq, Route.dispatch_eq_handle deleteTea_selects]
  simp only [Route.of, Api.deleteProduct, Guard.admin, Guard.require, Guard.currentUser,
    staffHeaders_claims deleteTea rfl (by decide)]
  decide +kernel

theorem tea_line_after_product_deletion :
    teaLine ∈ teaMenu.lines ∧
      (serve Api.routes teaMenu 0 (Stamp.ofEpoch 60) deleteTea).store.products.isEmpty = true ∧
      (serve Api.routes teaMenu 0 (Stamp.ofEpoch 60) deleteTea).store.lines.map
        (fun l => (l.id, l.productName, l.productId)) = [("d1", "Tea", none)] ∧
      LineAfter deleteTea teaLine (serve Api.routes teaMenu 0 (Stamp.ofEpoch 60) deleteTea).store :=
  ⟨List.mem_singleton_self _, deleteTea_unlinks.1, deleteTea_unlinks.2,
    line_snapshot_frozen _ _ _ _ (List.mem_singleton_self _)⟩

/-- A relinked line keeps what was sold: the names, the prices, the quantity and the note. -/
theorem OrderLine.Relinked.snapshot {S' : Store} {l l' : OrderLine}
    (h : OrderLine.Relinked S' l l') :
    l'.productName = l.productName ∧ l'.variationName = l.variationName ∧
      l'.unitPrice = l.unitPrice ∧ l'.quantity = l.quantity ∧ l'.totalPrice = l.totalPrice ∧
      l'.note = l.note := by
  have hname := congrArg OrderLine.productName h.same
  have hvariation := congrArg OrderLine.variationName h.same
  have hunit := congrArg OrderLine.unitPrice h.same
  have hquantity := congrArg OrderLine.quantity h.same
  have htotal := congrArg OrderLine.totalPrice h.same
  have hnote := congrArg OrderLine.note h.same
  exact ⟨hname, hvariation, hunit, hquantity, htotal, hnote⟩

end Bistro
