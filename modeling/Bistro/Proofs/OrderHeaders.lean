import Bistro.Proofs.ScenarioRuns
import Bistro.Proofs.OrderStates
import Bistro.Proofs.PermissionNames
import Bistro.Proofs.NameRules

/-!
# Bistro — the header of an order

An order is placed with a header: the customer's name and phone, trimmed, neither of them empty,
of at most 150 and 30 characters, and a table number of at least one (`Order.HeaderValid`). A
change of the order (`PUT /api/v1/orders/{id}`) merges a name or a phone only when it is not
empty, and a table number only when it is not zero, but it neither trims the name and the phone
nor bounds their length: a name of blanks is stored as it is sent
(`blank_name_change_breaks_header`).

What every request keeps is weaker (`Order.HeaderFilled`): a name and a phone that are not empty
and a table number of at least one. Main statement, `order_headers_filled`: in every world
reached from the seeded store every order's header is filled, and a request leaves each order's
header as it was, or as the change of that order merges it, or places an order whose header
meets the constraints of a new order.

The proof reads a request through `serve_cases`: the routes that keep the order book keep the
orders up to their links, the writers other than the change replace an order by a row of the
same header, and placing an order is read through a triple of its own
(`Api.createOrder_places_header`).
-/

namespace Bistro

open Orders

/-! ## §1 — Headers -/

/-- The header of an order: its customer's name and phone, and its table. -/
def Order.header (o : Order) : String × String × Int :=
  (o.customerName, o.customerPhone, o.tableNumber)

/-- **The header of a new order**: a name and a phone that are not empty once trimmed, of at most
150 and 30 characters, and a table number of at least one. -/
structure Order.HeaderValid (o : Order) : Prop where
  name_filled : trim o.customerName ≠ ""
  name_short : o.customerName.length ≤ 150
  phone_filled : trim o.customerPhone ≠ ""
  phone_short : o.customerPhone.length ≤ 30
  table_pos : 1 ≤ o.tableNumber

/-- **A filled header**: a name and a phone that are not empty, and a table number of at least
one. -/
structure Order.HeaderFilled (o : Order) : Prop where
  name_filled : o.customerName ≠ ""
  phone_filled : o.customerPhone ≠ ""
  table_pos : 1 ≤ o.tableNumber

namespace Order

variable {o o' : Order}

theorem HeaderFilled.of_header (h : o.HeaderFilled) (he : o'.header = o.header) :
    o'.HeaderFilled := by
  simp only [header, Prod.mk.injEq] at he
  obtain ⟨hn, hp, ht⟩ := he
  exact ⟨hn ▸ h.name_filled, hp ▸ h.phone_filled, ht ▸ h.table_pos⟩

/-- A text that is not empty once trimmed is not empty. -/
theorem HeaderValid.filled (h : o.HeaderValid) : o.HeaderFilled := by
  refine ⟨fun hn => h.name_filled ?_, fun hp => h.phone_filled ?_, h.table_pos⟩
  · rw [hn]
    rfl
  · rw [hp]
    rfl

/-- Orders equal up to their links have one header. -/
theorem header_of_unlinked (h : o'.unlinked = o.unlinked) : o'.header = o.header := by
  have hn := congrArg Order.customerName h
  have hp := congrArg Order.customerPhone h
  have ht := congrArg Order.tableNumber h
  simp only [unlinked] at hn hp ht
  simp [header, hn, hp, ht]

end Order

/-! ## §2 — The header a body gives -/

/-- Trimming never lengthens a text. -/
theorem trim_length_le (s : String) : (trim s).length ≤ s.length := by
  simp only [trim, trimChars, dropBlanks, String.length_ofList, List.length_reverse]
  calc ((s.toList.dropWhile isBlank).reverse.dropWhile isBlank).length
      ≤ (s.toList.dropWhile isBlank).reverse.length := List.length_dropWhile_le _ _
    _ = (s.toList.dropWhile isBlank).length := List.length_reverse
    _ ≤ s.toList.length := List.length_dropWhile_le _ _
    _ = s.length := String.length_toList

/-- A text with an upper bound passed is at most that long. -/
theorem Field.boundedText_le {lo n : Nat} {j : Json} {s : String}
    (h : Field.boundedText lo (some n) j = .ok s) : s.length ≤ n := by
  unfold Field.boundedText at h
  cases ht : Field.text j with
  | fail e => simp [ht, Validated.andThen] at h
  | ok t =>
    simp only [ht, Validated.andThen, Field.minLength, Field.maxLength] at h
    by_cases hlo : t.length < lo
    · simp [hlo, Validated.here] at h
    · -- past the lower bound, the upper one decides
      by_cases hhi : t.length > n
      · simp [hlo, hhi, Validated.here] at h
      · simp only [hlo, hhi, if_false] at h
        cases h
        omega

/-- A trimmed text field holds a trimmed text of at most its bound. -/
theorem trimmedText_ok {n : Nat} {j : Json} {s : String} (h : trimmedText n j = .ok s) :
    trim s = s ∧ s.length ≤ n := by
  obtain ⟨t, ht, rfl⟩ := Validated.map_eq_ok h
  exact ⟨trim_trim t, (trim_length_le t).trans (Field.boundedText_le ht)⟩

/-- An integer that passed a lower bound of one is at least one. -/
theorem Field.integer_atLeast_one {j : Json} {n : Int}
    (h : (Field.integer j).andThen (Field.atLeast 1) = .ok n) : 1 ≤ n := by
  cases hi : Field.integer j with
  | fail e => simp [hi, Validated.andThen] at h
  | ok m =>
    simp only [hi, Validated.andThen, Field.atLeast] at h
    split_ifs at h with hlt
    · simp [Validated.here] at h
    · cases h
      omega

/-- **A new order's body** gives a trimmed name and phone of at most 150 and 30 characters and a
table number of at least one. -/
theorem OrderDraft.validate_header {fs : List (String × Json)} {d : OrderDraft}
    (h : OrderDraft.validate fs = .ok d) :
    trim d.customerName = d.customerName ∧ d.customerName.length ≤ 150 ∧
      trim d.customerPhone = d.customerPhone ∧ d.customerPhone.length ≤ 30 ∧
      1 ≤ d.tableNumber := by
  -- peel the seven members off the applicative chain, last first
  obtain ⟨g₆, -, hg₆, -, rfl⟩ := Validated.seq_eq_ok h
  obtain ⟨g₅, -, hg₅, -, rfl⟩ := Validated.seq_eq_ok hg₆
  obtain ⟨g₄, -, hg₄, -, rfl⟩ := Validated.seq_eq_ok hg₅
  obtain ⟨g₃, -, hg₃, -, rfl⟩ := Validated.seq_eq_ok hg₄
  obtain ⟨g₂, table, hg₂, htable, rfl⟩ := Validated.seq_eq_ok hg₃
  obtain ⟨g₁, phone, hg₁, hphone, rfl⟩ := Validated.seq_eq_ok hg₂
  obtain ⟨name, hname, rfl⟩ := Validated.map_eq_ok hg₁
  obtain ⟨jn, hjn⟩ := Field.required_ok hname
  obtain ⟨jp, hjp⟩ := Field.required_ok hphone
  obtain ⟨jt, hjt⟩ := Field.required_ok htable
  obtain ⟨hn, hnl⟩ := trimmedText_ok hjn
  obtain ⟨hp, hpl⟩ := trimmedText_ok hjp
  exact ⟨hn, hnl, hp, hpl, Field.integer_atLeast_one hjt⟩

/-- **A change's body** gives a table number of at least one, when it gives one. -/
theorem OrderPatch.validate_table {fs : List (String × Json)} {d : OrderPatch}
    (h : OrderPatch.validate fs = .ok d) : ∀ n, d.tableNumber = some n → 1 ≤ n := by
  obtain ⟨g₈, -, hg₈, -, rfl⟩ := Validated.seq_eq_ok h
  obtain ⟨g₇, -, hg₇, -, rfl⟩ := Validated.seq_eq_ok hg₈
  obtain ⟨g₆, -, hg₆, -, rfl⟩ := Validated.seq_eq_ok hg₇
  obtain ⟨g₅, -, hg₅, -, rfl⟩ := Validated.seq_eq_ok hg₆
  obtain ⟨g₄, -, hg₄, -, rfl⟩ := Validated.seq_eq_ok hg₅
  obtain ⟨g₃, -, hg₃, -, rfl⟩ := Validated.seq_eq_ok hg₄
  obtain ⟨g₂, table, hg₂, htable, rfl⟩ := Validated.seq_eq_ok hg₃
  obtain ⟨g₁, -, hg₁, -, rfl⟩ := Validated.seq_eq_ok hg₂
  obtain ⟨-, -, rfl⟩ := Validated.map_eq_ok hg₁
  intro n hn
  rcases Field.optional_ok htable with rfl | ⟨j, m, hj, rfl⟩
  · cases hn
  · cases hn
    exact Field.integer_atLeast_one hj

/-! ## §3 — The header of a change -/

namespace Api

/-- Settling a change moves the order's states and times only. -/
theorem settleChange_header {d : OrderPatch} {m o : Order} {had : List Payment}
    {amounts : List (String × Decimal)} {total : Decimal} {now : Stamp}
    (h : settleChange d m had amounts total now = .ok o) : o.header = m.header := by
  unfold settleChange at h
  split at h
  · cases hs : settles amounts total with
    | error e => simp [hs] at h
    | ok paid =>
      cases paid <;> simp_all [bind, Except.bind, pure, Except.pure] <;> (subst h; rfl)
  · cases h
    rfl

/-- **Merging a change keeps a header filled**, when the change's table number is at least one:
an empty name or phone is not merged, nor a table number of zero. -/
theorem mergeHeader_filled {d : OrderPatch} {o : Order} (hd : ∀ n, d.tableNumber = some n → 1 ≤ n)
    (h : o.HeaderFilled) : (mergeHeader d o).HeaderFilled := by
  refine ⟨?name, ?phone, ?table⟩
  case name =>
    cases hn : d.customerName with
    | none => simpa [mergeHeader, hn] using h.name_filled
    | some s =>
      by_cases hs : s.isEmpty
      · simpa [mergeHeader, hn, hs] using h.name_filled
      · have hs' : s ≠ "" := fun he => hs (by simp [he])
        simpa [mergeHeader, hn, hs] using hs'
  case phone =>
    cases hp : d.customerPhone with
    | none => simpa [mergeHeader, hp] using h.phone_filled
    | some s =>
      by_cases hs : s.isEmpty
      · simpa [mergeHeader, hp, hs] using h.phone_filled
      · have hs' : s ≠ "" := fun he => hs (by simp [he])
        simpa [mergeHeader, hp, hs] using hs'
  case table =>
    cases ht : d.tableNumber with
    | none => simpa [mergeHeader, ht] using h.table_pos
    | some n =>
      have hn := hd n ht
      by_cases h0 : n = 0
      · omega
      · simpa [mergeHeader, ht, h0] using hn

/-! ## §4 — Placing an order -/

/-- **Placing an order, as it reads the header**: a body that passed its check, with a name and a
phone that are not empty, and the new order stored last with the body's header. -/
def PlacesHeader (r : Request) (_ : List String) (_ : Stamp) (S : Store) (_ : Nat) (S' : Store)
    (_ : Nat) : Prop :=
  ∃ d o, Input.bodyAs r OrderDraft.validate = some d ∧ d.customerName ≠ "" ∧
    d.customerPhone ≠ "" ∧ S'.orders = S.orders ++ [o] ∧
    o.header = (d.customerName, d.customerPhone, d.tableNumber)

theorem createOrder_places_header : Does createOrder PlacesHeader := by
  intro r ps t S k
  mvcgen -trivial [createOrder, -insertLines_registryAt]
  all_goals simp_all +zetaDelta [PlacesHeader, Input.bodyAs, Order.header]
  -- a failure once the order is stored has drawn its id
  all_goals exact Nat.le_of_lt ‹_ ∧ k < _›.2

/-- The order placed has the header of a new order. -/
theorem PlacesHeader.valid {r : Request} {ps : List String} {t : Stamp} {S S' : Store}
    {k k' : Nat} (h : PlacesHeader r ps t S k S' k') :
    ∃ o, S'.orders = S.orders ++ [o] ∧ o.HeaderValid := by
  obtain ⟨d, o, hd, hname, hphone, horders, hheader⟩ := h
  obtain ⟨fs, hfs⟩ := Input.bodyAs_some hd
  obtain ⟨hn, hnl, hp, hpl, ht⟩ := OrderDraft.validate_header hfs
  simp only [Order.header, Prod.mk.injEq] at hheader
  obtain ⟨hon, hop, hot⟩ := hheader
  refine ⟨o, horders, ⟨?_, ?_, ?_, ?_, ?_⟩⟩
  · rw [hon, hn]
    exact hname
  · rw [hon]
    exact hnl
  · rw [hop, hp]
    exact hphone
  · rw [hop]
    exact hpl
  · rw [hot]
    exact ht

end Api

/-! ## §5 — Headers, writer by writer -/

/-- **Where an order's header comes from after a request `r` on the store `S`**: it is the header
of the order of the same id in `S`, or the change of that order (`PUT /api/v1/orders/{id}`)
merged into it, or the order is a new one with the header of a new order. -/
def HeaderFrom (r : Request) (S : Store) (o' : Order) : Prop :=
  (∃ o ∈ S.orders, o.id = o'.id ∧
    (o'.header = o.header ∨
      Api.addressOf r = some ("PUT", Segment.parse "/api/v1/orders/\x7bid\x7d", o.id) ∧
        ∃ d, Input.bodyAs r OrderPatch.validate = some d ∧
          o'.header = (Api.mergeHeader d o).header)) ∨
    o'.HeaderValid

/-- Orders kept up to their links keep their ids and headers. -/
theorem exists_header_of_unlinked {S S' : Store}
    (h : S'.orders.map Order.unlinked = S.orders.map Order.unlinked) :
    ∀ o' ∈ S'.orders, ∃ o ∈ S.orders, o.id = o'.id ∧ o'.header = o.header := by
  intro o' ho'
  -- the order at the same place, before
  have hmem : o'.unlinked ∈ S.orders.map Order.unlinked := h ▸ List.mem_map_of_mem ho'
  obtain ⟨o, ho, hsame⟩ := List.mem_map.1 hmem
  exact ⟨o, ho, (Order.same_of_unlinked hsame.symm).1.symm, Order.header_of_unlinked hsame.symm⟩

theorem headerFrom_of_unlinked {r : Request} {S S' : Store}
    (h : S'.orders.map Order.unlinked = S.orders.map Order.unlinked) :
    ∀ o' ∈ S'.orders, HeaderFrom r S o' := by
  intro o' ho'
  obtain ⟨o, ho, hid, hheader⟩ := exists_header_of_unlinked h o' ho'
  exact .inl ⟨o, ho, hid, .inl hheader⟩

/-- Replacing an order by a row of its id and header keeps every header. -/
theorem headerFrom_of_replaceRow {r : Request} {S S' : Store} {o₁ o' : Order}
    (horders : S'.orders = Store.replaceRow (·.id) o' S.orders) (ho₁ : o₁ ∈ S.orders)
    (hid : o'.id = o₁.id) (hheader : o'.header = o₁.header) :
    ∀ x ∈ S'.orders, HeaderFrom r S x := by
  intro x hx
  rw [horders] at hx
  rcases Store.mem_replaceRow hx with ⟨hx, -⟩ | rfl
  · exact .inl ⟨x, hx, rfl, .inl rfl⟩
  · exact .inl ⟨o₁, ho₁, hid.symm, .inl hheader⟩

/-- A writer, other than placing an order, whose orders afterwards have their headers from the
store before. -/
def Api.Writer.KeepsHeaders (w : Api.Writer) : Prop :=
  ∀ r ps now S k S' k', Route.select Api.routes r = .ok (w.route, ps) →
    w.effect r ps now S k S' k' → w.route ≠ Route.of "POST" "/api/v1/orders" Api.createOrder →
    ∀ o' ∈ S'.orders, HeaderFrom r S o'

/-- **Every writer but placing an order takes its headers from the store before.** The change
merges its body into the order of the path; cancelling, completing, paying and adding lines
replace an order by a row of the same header; the others keep the orders up to their links. -/
theorem writers_keep_headers : ∀ w ∈ Api.writers, w.KeepsHeaders := by
  simp only [Api.writers, List.forall_mem_cons, List.not_mem_nil, IsEmpty.forall_iff,
    implies_true, and_true]
  refine ⟨?places, ?changes, ?cancels, ?completes, ?pays, ?adds, ?invoices, ?payments, ?bundle,
    ?product, ?variation⟩
  case places =>
    intro r ps now S k S' k' _ _ hne
    exact absurd rfl hne
  case changes =>
    rintro r ps now S k S' k' hsel
      ⟨d, o₀, _, _, _, o, hd, ho₀, -, -, -, hsettle, ⟨_, _, horders, -⟩, -⟩ - x hx
    rw [horders] at hx
    rcases Store.mem_replaceRow hx with ⟨hx, -⟩ | rfl
    · exact .inl ⟨x, hx, rfl, .inl rfl⟩
    · -- the changed order: its header is the change merged into the order of the path
      have hid : x.id = o₀.id := (Api.settleChange_figures hsettle).1
      have hheader := Api.settleChange_header hsettle
      exact .inl ⟨o₀, Store.mem_of_order? ho₀, hid.symm,
        .inr ⟨Api.addressOf_change hsel ho₀, d, hd, hheader⟩⟩
  case cancels =>
    rintro r ps now S k S' k' - ⟨o₁, ho₁, -, -, horders, -⟩ -
    exact headerFrom_of_replaceRow horders (Store.mem_of_order? ho₁) rfl rfl
  case completes =>
    rintro r ps now S k S' k' - ⟨o₁, ho₁, -, horders, -⟩ -
    exact headerFrom_of_replaceRow horders (Store.mem_of_order? ho₁) rfl rfl
  case pays =>
    rintro r ps now S k S' k' - ⟨_, o₁, _, _, _, -, ho₁, -, -, -, -, -, horders, -⟩ -
    exact headerFrom_of_replaceRow horders (Store.mem_of_order? ho₁) rfl rfl
  case adds =>
    rintro r ps now S k S' k' - ⟨_, o₁, _, _, _, -, ho₁, -, -, -, horders, -⟩ -
    exact headerFrom_of_replaceRow horders (Store.mem_of_order? ho₁) rfl rfl
  case invoices =>
    rintro r ps now S k S' k' - ⟨_, horders, -⟩ -
    exact headerFrom_of_unlinked (by rw [horders])
  case payments =>
    rintro r ps now S k S' k' - ⟨_, -, horders, -⟩ -
    exact headerFrom_of_unlinked (by rw [horders])
  case bundle =>
    rintro r ps now S k S' k' - ⟨⟨horders, -⟩, -⟩ -
    exact headerFrom_of_unlinked horders
  case product =>
    rintro r ps now S k S' k' - ⟨⟨horders, -⟩, -⟩ -
    exact headerFrom_of_unlinked horders
  case variation =>
    rintro r ps now S k S' k' - ⟨⟨horders, -⟩, -⟩ -
    exact headerFrom_of_unlinked horders

/-! ## §6 — Headers across requests -/

/-- **Every request takes each order's header from the store before**, or merges the change of
that order into it, or places an order with the header of a new one. -/
theorem serve_headers (s : Store) (n : Nat) (now : Stamp) (r : Request) :
    ∀ o' ∈ (serve Api.routes s n now r).store.orders, HeaderFrom r s o' := by
  rcases serve_cases s n now r with ⟨hbook, -⟩ | ⟨w, hw, ps, hsel, heff⟩
  · exact headerFrom_of_unlinked (Store.book_eq_iff.1 hbook).1
  · by_cases hplace : w.route = Route.of "POST" "/api/v1/orders" Api.createOrder
    · -- placing an order is read through its own triple
      rw [hplace] at hsel
      rcases serve_does hsel Api.createOrder_places_header with ⟨hs, -⟩ | hp
      · rw [hs]
        intro o' ho'
        exact .inl ⟨o', ho', rfl, .inl rfl⟩
      · obtain ⟨o, horders, hvalid⟩ := hp.valid
        intro o' ho'
        rw [horders] at ho'
        rcases List.mem_append.1 ho' with ho' | ho'
        · exact .inl ⟨o', ho', rfl, .inl rfl⟩
        · rw [List.mem_singleton.1 ho']
          exact .inr hvalid
    · exact writers_keep_headers w hw r ps now s n _ _ hsel heff hplace

/-- A header taken from a store whose headers are filled is filled. -/
theorem HeaderFrom.filled {r : Request} {S : Store} {o' : Order}
    (hS : ∀ o ∈ S.orders, o.HeaderFilled) (h : HeaderFrom r S o') : o'.HeaderFilled := by
  rcases h with ⟨o, ho, -, hkept | ⟨-, d, hd, hmerged⟩⟩ | hvalid
  · exact (hS o ho).of_header hkept
  · -- the change's table number passed its lower bound
    obtain ⟨fs, hfs⟩ := Input.bodyAs_some hd
    exact (Api.mergeHeader_filled (OrderPatch.validate_table hfs) (hS o ho)).of_header hmerged
  · exact hvalid.filled

/-- The seeded store has no orders. -/
theorem Scenario.fresh_orders : Scenario.fresh.store.orders = [] := by
  have h := congrArg Ledger.orders Scenario.fresh_ledger
  simpa [Store.ledger] using h

/-- **Every order of a reachable world has a filled header.** -/
theorem Reachable.headers_filled {w : World} (hw : Reachable w) :
    ∀ o ∈ w.store.orders, o.HeaderFilled := by
  induction hw with
  | fresh =>
    intro o ho
    rw [Scenario.fresh_orders] at ho
    cases ho
  | step j _ ih =>
    rcases Scenario.step_cases _ j with ⟨hbook, -⟩ | ⟨now, r, hs, -⟩
    · intro o' ho'
      obtain ⟨o, ho, -, hheader⟩ :=
        exists_header_of_unlinked (Store.book_eq_iff.1 hbook).1 o' ho'
      exact (ih o ho).of_header hheader
    · intro o' ho'
      rw [hs] at ho'
      exact (serve_headers _ _ now r o' ho').filled ih

/-- **Order headers stay filled.** In every world reached from the seeded store, every order has
a name and a phone that are not empty and a table number of at least one; and every request
leaves each order's header as it was, or as the change of that order (`PUT /api/v1/orders/{id}`)
merges its body into it, or places an order whose name and phone are not empty once trimmed and
of at most 150 and 30 characters, at a table of at least one. The change neither trims nor
bounds what it merges, so the constraints of a new order are not kept. -/
theorem order_headers_filled {w : World} (hw : Reachable w) (now : Stamp) (r : Request) :
    (∀ o ∈ w.store.orders, o.HeaderFilled) ∧
      ∀ o' ∈ (serve Api.routes w.store w.nextId now r).store.orders, HeaderFrom r w.store o' :=
  ⟨hw.headers_filled, serve_headers w.store w.nextId now r⟩

/-! ## §7 — A change of blanks -/

/-- A change of the order `o1` by the staff member that sends a name of three blanks. -/
def blankNameChange : Request :=
  { method := "PUT", path := "/api/v1/orders/o1", headers := staffHeaders, query := [],
    body := .json (.obj [("customer_name", .str "   ")]), storageFails := false, clock := 0 }

theorem blankNameChange_selects : Route.select Api.routes blankNameChange =
    .ok (Route.of "PUT" "/api/v1/orders/\x7bid\x7d" Api.updateOrder, ["o1"]) :=
  Route.select_eq_of_first 27 (by decide +kernel) (by decide +kernel) (by decide +kernel)
    (by decide +kernel)

/-- The change of blanks sent in the world where one tea was placed: the orders there have filled
headers, and each order after it comes from one of them or from the change. -/
theorem placed_tea_headers_filled :
    Reachable teaPlaced ∧ (∀ o ∈ teaPlaced.store.orders, o.HeaderFilled) ∧
      ∀ o' ∈ (serve Api.routes teaPlaced.store teaPlaced.nextId (Stamp.ofEpoch 60)
          blankNameChange).store.orders, HeaderFrom blankNameChange teaPlaced.store o' :=
  ⟨teaPlaced_reachable,
    order_headers_filled teaPlaced_reachable (Stamp.ofEpoch 60) blankNameChange⟩

/-- The placed order `o1` with the header of a new order, and the staff member. -/
def placedTea : Store :=
  { users := [staffMember], orders := [pendingTea], lines := [orderedTea] }

/-- **A change stores a name of blanks.** The change of an order whose header meets the
constraints of a new one, sending a name of three blanks, stores that name, which is empty once
trimmed. -/
theorem blank_name_change_breaks_header :
    pendingTea.HeaderValid ∧
      ((serve Api.routes placedTea 0 (Stamp.ofEpoch 60) blankNameChange).store.order? "o1").map
        (·.customerName) = some "   " ∧ trim "   " = "" := by
  refine ⟨⟨by decide, by decide, by decide, by decide, by decide⟩, ?_, by decide⟩
  -- the staff member's token is read back by `staffHeaders_claims`; the rest is computed
  rw [serve_eq, Route.dispatch_eq_handle blankNameChange_selects]
  simp only [Route.of, Api.updateOrder, Guard.staff, Guard.require, Guard.currentUser,
    staffHeaders_claims blankNameChange rfl (by decide)]
  decide +kernel

end Bistro
