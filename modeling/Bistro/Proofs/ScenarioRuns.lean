import Bistro.Proofs.OrderRequests
import Bistro.Command.Scenario
import Bistro.Proofs.OrderLedger
import Bistro.Proofs.OrderStates

/-!
# Bistro — what holds in every world a scenario reaches

A scenario starts from the seeded store and goes on step by step: a step adds a user, issues a
token, moves the clock, or sends a request. `Reachable` is the set of worlds it reaches. The
steps other than requests keep the order book, and a request is served from the world's store
and counter (`Scenario.step_cases`), so every fact about the order book that each request keeps
holds in every reachable world.

Main statements:

* `reachable_orders_balance` — in every reachable world, every order's stored total reads back
  as the two-place sum of the totals its lines read back, and every line's total reads back as
  its unit price times its quantity, as long as the amounts stay below `2^46` units, the range
  in which a double holds every amount of cents exactly (`centsBound`);
* `cancelled_order_extended_only_by_change` — in every reachable world, a request adds no line
  to a cancelled order and leaves its total as it was, unless it is the change of that order
  (`PUT /api/v1/orders/{id}`), which adds lines and recomputes the total whatever the order's
  state (`change_extends_cancelled_order`).

Both rest on the ledger invariant `Ledger.Sound` of `Bistro.Proofs.OrderLedger`, which each
writer keeps (`writers_keep_ledger`); its part that no order holds an identifier still to be
issued is what makes a newly placed order another one.

A request step signed with a token the scenario issued is signed in with that token's claims
(`Scenario.sent_claims`), read back without computing a signature; the worlds built here and in
later modules take their signed-in steps through it.
-/

namespace Bistro

/-! ## §1 — The worlds a scenario reaches -/

/-- **The worlds a scenario reaches**: the new service, and every world one more step makes. -/
inductive Reachable : World → Prop
  | fresh : Reachable Scenario.fresh
  | step {w : World} (j : Json) : Reachable w → Reachable (Scenario.step w j).2

namespace Scenario

/-- Saving variables from an answer changes no other part of the world: each of them, `P`, is
kept by every save. -/
theorem foldl_keeps {β γ : Type} (P : World → γ) (f : World → β → World)
    (hf : ∀ w b, P (f w b) = P w) : ∀ (bs : List β) (w : World), P (bs.foldl f w) = P w
  | [], _ => rfl
  | b :: bs, w => by
    rw [List.foldl_cons, foldl_keeps P f hf bs (f w b)]
    exact hf w b

/-- The request a request step of the world `w` sends, its clock one second on. -/
def sent (w : World) (fs : List (String × Json)) : Request :=
  requestOf { w with clock := w.clock.addSeconds 1 } fs

/-- **A request step is served** from the world's store and counter, a second on, with the
request it sends. -/
theorem request_serves (w : World) (fs : List (String × Json)) :
    (request w fs).2.store =
        (serve Api.routes w.store w.nextId (w.clock.addSeconds 1) (sent w fs)).store ∧
      (request w fs).2.nextId =
        (serve Api.routes w.store w.nextId (w.clock.addSeconds 1) (sent w fs)).nextId := by
  -- the request goes through the cross-origin layer, which leaves what the routes leave
  obtain ⟨hstore, hnext⟩ := respond_as_serve w.store w.nextId (w.clock.addSeconds 1) (sent w fs)
  rw [← hstore, ← hnext]
  unfold request
  dsimp only
  split
  · -- the answer's values saved as variables
    refine ⟨foldl_keeps World.store _ (fun w' b => ?_) _ _,
      foldl_keeps World.nextId _ (fun w' b => ?_) _ _⟩
    all_goals
      rcases b with ⟨name, p⟩
      dsimp only
      split
      · split <;> rfl
      · rfl
  · exact ⟨rfl, rfl⟩

/-- A request step leaves the store and the counter of the request's outcome. -/
theorem request_outcome (w : World) (fs : List (String × Json)) :
    ∃ now r, (request w fs).2.store = (serve Api.routes w.store w.nextId now r).store ∧
      (request w fs).2.nextId = (serve Api.routes w.store w.nextId now r).nextId :=
  ⟨_, _, request_serves w fs⟩

/-- A request step keeps the tokens issued. -/
theorem request_tokens (w : World) (fs : List (String × Json)) :
    (request w fs).2.tokens = w.tokens := by
  unfold request
  dsimp only
  split
  · refine foldl_keeps World.tokens _ (fun w' b => ?_) _ _
    rcases b with ⟨name, p⟩
    dsimp only
    split
    · split <;> rfl
    · rfl
  · rfl

/-- Adding a user keeps the order book and moves the counter only on. -/
theorem addUser_keeps_book (w : World) (fs : List (String × Json)) :
    (addUser w fs).2.store.book = w.store.book ∧ w.nextId ≤ (addUser w fs).2.nextId := by
  unfold addUser
  dsimp only
  split
  · exact ⟨rfl, le_refl _⟩
  · exact ⟨rfl, Nat.le_succ _⟩

/-- **A step of a scenario keeps the order book, or is a request served from the world's store
and counter.** -/
theorem step_cases (w : World) (j : Json) :
    ((step w j).2.store.book = w.store.book ∧ w.nextId ≤ (step w j).2.nextId) ∨
      ∃ now r, (step w j).2.store = (serve Api.routes w.store w.nextId now r).store ∧
        (step w j).2.nextId = (serve Api.routes w.store w.nextId now r).nextId := by
  unfold step
  split
  · split
    · exact .inl (addUser_keeps_book w _)
    · exact .inl ⟨rfl, le_refl _⟩
    · exact .inl ⟨rfl, le_refl _⟩
    · exact .inr (request_outcome w _)
    · exact .inl ⟨rfl, le_refl _⟩
  · exact .inl ⟨rfl, le_refl _⟩

/-- The step of an object whose `do` is `req` sends a request. -/
theorem step_req {w : World} {fs : List (String × Json)} (h : fs.lookup "do" = some (.str "req")) :
    step w (.obj fs) = request w fs := by
  simp only [step, h]

/-- The step of an object whose `do` is `user` adds a user. -/
theorem step_user {w : World} {fs : List (String × Json)}
    (h : fs.lookup "do" = some (.str "user")) : step w (.obj fs) = addUser w fs := by
  simp only [step, h]

/-- **A request step of a scenario is served** from the world's store and counter, a second on,
with the request it sends. -/
theorem step_serves {w : World} {fs : List (String × Json)}
    (h : fs.lookup "do" = some (.str "req")) :
    (step w (.obj fs)).2.store =
        (serve Api.routes w.store w.nextId (w.clock.addSeconds 1) (sent w fs)).store ∧
      (step w (.obj fs)).2.nextId =
        (serve Api.routes w.store w.nextId (w.clock.addSeconds 1) (sent w fs)).nextId := by
  rw [step_req h]
  exact request_serves w fs

end Scenario

/-! ## §1a — Requests signed in with an issued token

A user step issues the new account the service's token; a request step that names it under
`auth` carries it. Its claims are known without computing a signature (`sent_claims`), so a run
of such a step can be evaluated once the guard's step is replaced by its answer. -/

/-- Setting a token makes it the one found under its name. -/
theorem World.setToken_lookup (w : World) (name token : String) :
    (w.setToken name token).tokens.lookup name = some token := by
  simp only [World.setToken, List.lookup_append]
  rw [List.lookup_eq_none_iff.2]
  · simp
  · -- the older tokens of that name were all dropped
    intro p hp
    have hne := (List.mem_filter.1 hp).2
    simp only [bne_iff_ne, ne_eq] at hne
    exact bne_iff_ne.2 (Ne.symm hne)

namespace Scenario

/-- The claims of the token issued to the account `id`, as they read back: keys sorted. -/
def issuedClaims (id : String) : List (String × Json) :=
  [("exp", .int (wallClock + Api.tokenLifetime)), ("sub", .str id)]

/-- **Adding a user under a new address issues it the service's token**, for the account's
fresh identifier and the configured lifetime. -/
theorem addUser_token {w : World} {fs : List (String × Json)} {name : String}
    (hname : fs.lookup "name" = some (.str name)) (hemail : fs.lookup "email" = none)
    (hfree : w.store.users.any (·.email == name ++ "@test.io") = false) :
    (addUser w fs).2.tokens.lookup name = some (serviceToken (Txn.idText w.nextId) none) := by
  unfold addUser
  simp only [hname, hemail]
  rw [if_neg (by simpa using hfree)]
  exact World.setToken_lookup _ _ _

/-- The first user a scenario adds to the new service is the account `40`, and is issued its
token. -/
theorem firstUser_token {fs : List (String × Json)} {name : String}
    (hdo : fs.lookup "do" = some (.str "user")) (hname : fs.lookup "name" = some (.str name))
    (hemail : fs.lookup "email" = none) :
    (step fresh (.obj fs)).2.tokens.lookup name = some (serviceToken (Txn.idText 40) none) := by
  have hnext : fresh.nextId = 40 := by decide +kernel
  have hnobody : fresh.store.users.isEmpty = true := by decide +kernel
  rw [step_user hdo, addUser_token hname hemail (by simp [List.isEmpty_iff.1 hnobody]), hnext]

/-- The claims of the token of the account `40`, as they read back. -/
theorem firstUser_parse :
    Json.parse (Json.render (.obj (claimsFor (some (.str (Txn.idText 40))) Api.tokenLifetime))) =
      .ok (.obj (issuedClaims (Txn.idText 40))) :=
  Json.parse_eq_of_sameUpTo (d := 3) (by decide +kernel)

/-- A request step naming a token under `auth`, and no headers of its own, sends that token. -/
theorem sent_authorization {w : World} {fs : List (String × Json)} {name : String}
    (hauth : fs.lookup "auth" = some (.str name)) (hheaders : fs.lookup "headers" = none) :
    (sent w fs).header? "Authorization" = some ("Bearer " ++ (w.tokens.lookup name).getD "") := by
  simp only [sent, requestOf, hauth, hheaders, Request.header?, List.filter_nil, List.nil_append,
    List.find?_cons, beq_self_eq_true, Option.map_some]

/-- **A request step signed with an issued token is signed in** with the token's claims, read
back without computing its signature: the wall clock is inside their lifetime. -/
theorem sent_claims (w : World) (fs : List (String × Json)) {name id : String}
    (hauth : fs.lookup "auth" = some (.str name)) (hheaders : fs.lookup "headers" = none)
    (htoken : w.tokens.lookup name = some (serviceToken id none))
    (hparse : Json.parse (Json.render (.obj (claimsFor (some (.str id)) Api.tokenLifetime))) =
      .ok (.obj (issuedClaims id)))
    (hid : Guard.isPresent (.str id) = true) :
    Guard.claims (sent w fs) = pure (issuedClaims id) := by
  have hheader : (sent w fs).header? "Authorization" = some ("Bearer " ++
      Token.sign Config.service.secretKey (claimsFor (some (.str id)) Api.tokenLifetime)) := by
    rw [sent_authorization hauth hheaders, htoken]
    rfl
  have htimes : Token.checkTimes (sent w fs).clock (issuedClaims id) = .ok () := rfl
  exact Guard.claims_eq_pure (Guard.claimsOf_signed hheader hparse htimes rfl hid)

end Scenario

/-- The route a request selects reads only its method and path. -/
theorem Route.select_congr {routes : List Route} {r r' : Request} (hp : r.path = r'.path)
    (hm : r.method = r'.method) : Route.select routes r = Route.select routes r' := by
  unfold Route.select
  rw [hm, hp]

/-- An administrator of the new service, in the seeded `System` role. -/
def adminUser : Json :=
  .obj [("do", .str "user"), ("name", .str "admin"), ("role", .str "System")]

/-- The new service with its administrator, the account `40`. -/
def adminWorld : World :=
  (Scenario.step Scenario.fresh adminUser).2

theorem adminWorld_token :
    adminWorld.tokens.lookup "admin" = some (Scenario.serviceToken (Txn.idText 40) none) := by
  rw [adminWorld, adminUser]
  exact Scenario.firstUser_token rfl rfl rfl

/-! ## §2 — Every request keeps the ledger sound -/

namespace Store

variable {S S' : Store}

/-- The ledger reads only what the order book holds. -/
theorem ledger_of_book (h : S'.book = S.book) : S'.ledger = S.ledger := by
  obtain ⟨ho, hl, -, -⟩ := Store.book_eq_iff.1 h
  -- an order's figures do not read its links
  have hfig : ∀ os : List Order, os.map Order.figures = (os.map Order.unlinked).map Order.figures := by
    intro os
    rw [List.map_map]
    rfl
  unfold ledger
  rw [hfig S'.orders, hfig S.orders, ho, hl]

theorem mem_replaceRow {α : Type} {key : α → String} {row x : α} {rows : List α}
    (h : x ∈ replaceRow key row rows) : (x ∈ rows ∧ key x ≠ key row) ∨ x = row := by
  unfold replaceRow at h
  obtain ⟨y, hy, rfl⟩ := List.mem_map.1 h
  by_cases hk : key y = key row
  · exact .inr (by simp [hk])
  · exact .inl (by simp [hk, hy])

/-- After an order is replaced, the ledger holds the figures it had of the other orders, and the
new row's. -/
theorem ledger_orders_replaceRow {o' : Order} (h : S'.orders = replaceRow (·.id) o' S.orders) :
    ∀ x ∈ S'.ledger.orders, (x ∈ S.ledger.orders ∧ x.id ≠ o'.id) ∨ x = o'.figures := by
  intro x hx
  obtain ⟨y, hy, rfl⟩ := List.mem_map.1 hx
  rw [h] at hy
  rcases mem_replaceRow hy with ⟨hy, hne⟩ | rfl
  · exact .inl ⟨List.mem_map_of_mem hy, hne⟩
  · exact .inr rfl

/-- The stored totals of the lines of an order that a change keeps, read off the store. -/
theorem storedTotals_linesOf (oid : String) (drop : LineFigures → Bool) :
    storedTotals ((S.ledger.linesOf oid).filter fun l => !drop l) =
      ((S.orderLines oid).filter fun l => !drop l.figures).map fun l => storedAmount l.totalPrice := by
  simp only [Ledger.linesOf, ledger, storedTotals, orderLines, List.filter_map, List.map_map,
    List.filter_filter]
  rfl

/-- The order found under an id is one of the store's orders. -/
theorem mem_of_order? {x : String} {o : Order} (h : S.order? x = some o) : o ∈ S.orders :=
  List.mem_of_find?_eq_some h

end Store

/-- The rows of priced lines, read as the ledger reads them. -/
theorem Api.RowsFor.figures {oid : String} {rows : List OrderLine} {P : List PricedLine}
    (h : Api.RowsFor oid rows P) : RowsOf oid (rows.map OrderLine.figures) P :=
  List.forall₂_map_left_iff.2 (h.imp fun _ _ ⟨id, t, hl⟩ => ⟨id, t, hl ▸ rfl⟩)

/-- Lines relinked one by one have the figures they had. -/
theorem figures_of_relinked {S' : Store} :
    ∀ {ls ls' : List OrderLine}, List.Forall₂ (OrderLine.Relinked S') ls ls' →
      ls'.map OrderLine.figures = ls.map OrderLine.figures
  | _, _, .nil => rfl
  | _, _, .cons hl hrest => by
    -- a line's figures do not read its links
    have hsame : OrderLine.figures _ = OrderLine.figures _ := congrArg OrderLine.figures hl.same
    rw [List.map_cons, List.map_cons, figures_of_relinked hrest]
    exact congrArg (· :: _) hsame

namespace Ledger.Sound

variable {S S' : Store} {k k' : Nat}

/-- **A write that keeps the lines' figures and stores no new order figures keeps the ledger
sound**, read off the stores. -/
theorem of_store_frame (h : S.ledger.Sound k)
    (hlines : S'.lines.map OrderLine.figures = S.lines.map OrderLine.figures)
    (horders : ∀ o' ∈ S'.orders, ∃ o ∈ S.orders, o.figures = o'.figures) (hk : k ≤ k') :
    S'.ledger.Sound k' := by
  refine h.of_frame hlines (fun x hx => ?_) hk
  obtain ⟨o', ho', rfl⟩ := List.mem_map.1 hx
  obtain ⟨o, ho, hfig⟩ := horders o' ho'
  exact hfig ▸ List.mem_map_of_mem ho

/-- A write that replaces an order with a row of the same figures keeps the ledger sound. -/
theorem of_replaceRow {x : String} {o₁ o' : Order} (h : S.ledger.Sound k)
    (horders : S'.orders = Store.replaceRow (·.id) o' S.orders) (hlines : S'.lines = S.lines)
    (ho₁ : S.order? x = some o₁) (hfig : o'.figures = o₁.figures) (hk : k ≤ k') :
    S'.ledger.Sound k' := by
  refine h.of_store_frame (by rw [hlines]) (fun y hy => ?_) hk
  rw [horders] at hy
  rcases Store.mem_replaceRow hy with ⟨hy, -⟩ | rfl
  · exact ⟨y, hy, rfl⟩
  · exact ⟨o₁, Store.mem_of_order? ho₁, hfig.symm⟩

/-- A write that keeps the orders up to their links and the lines' figures keeps the ledger
sound. -/
theorem of_unlinked (h : S.ledger.Sound k)
    (horders : S'.orders.map Order.unlinked = S.orders.map Order.unlinked)
    (hlines : S'.lines.map OrderLine.figures = S.lines.map OrderLine.figures) (hk : k ≤ k') :
    S'.ledger.Sound k' := by
  refine h.of_store_frame hlines (fun o' ho' => ?_) hk
  -- the order at the same place, before
  have hmem : o'.unlinked ∈ S.orders.map Order.unlinked := horders ▸ List.mem_map_of_mem ho'
  obtain ⟨o, ho, hsame⟩ := List.mem_map.1 hmem
  -- an order's figures do not read its links
  have hfig := congrArg Order.figures hsame
  exact ⟨o, ho, hfig⟩

/-- A catalogue deletion keeps the ledger sound: it keeps the orders up to their links and
relinks the lines in place. -/
theorem of_relinks (h : S.ledger.Sound k) (hrel : Relinks S S') (hk : k ≤ k') :
    S'.ledger.Sound k' :=
  h.of_unlinked hrel.1 (figures_of_relinked hrel.2.2.2) hk

end Ledger.Sound

/-- A writer that keeps the ledger sound. -/
def Api.Writer.KeepsLedger (w : Api.Writer) : Prop :=
  ∀ r ps now S k S' k', w.effect r ps now S k S' k' → S.ledger.Sound k → S'.ledger.Sound k'

open Orders in
/-- **Every writer keeps the ledger sound.** Placing an order, adding lines and changing an order
recompute one order's total from the lines it then holds (`Ledger.Sound.retotal`); the other
writers keep every order's figures and every line's. -/
theorem writers_keep_ledger : ∀ w ∈ Api.writers, w.KeepsLedger := by
  simp only [Api.writers, List.forall_mem_cons, List.not_mem_nil, IsEmpty.forall_iff,
    implies_true, and_true]
  refine ⟨?places, ?changes, ?cancels, ?completes, ?pays, ?adds, ?invoices, ?payments, ?bundle,
    ?product, ?variation⟩
  case places =>
    rintro r ps now S k S' k'
      ⟨d, priced, total, o, rows, -, hpriced, hsum, hid, htotal, -, -, horders, hlines, hrows, -,
        -, hk⟩ h
    -- the new order takes the next counter, which no line names yet
    have hnone : S.ledger.linesOf (Txn.idText k) = [] :=
      List.filter_eq_nil_iff.2 fun l hl => by
        simpa using h.fresh_lines l hl k (le_refl k)
    refine h.retotal (Txn.idText k) (fun _ => false) [] (N := rows.map OrderLine.figures)
      (P := priced) (S := total) (.inr ⟨k, le_refl k, hk, rfl⟩) hk.le ?_ ?_
      (hid ▸ hrows.figures) (priceLines_consistent (Api.pricedOn_eq_ok.1 hpriced)) ?_
      (by simpa using hsum)
    · simp [Store.ledger, hlines]
    · intro x hx
      simp only [Store.ledger, horders, List.map_append, List.mem_append, List.mem_map,
        List.mem_singleton] at hx
      rcases hx with ⟨y, hy, rfl⟩ | ⟨_, rfl, rfl⟩
      · exact .inl ⟨List.mem_map_of_mem hy, h.fresh_orders _ (List.mem_map_of_mem hy) k (le_refl k)⟩
      · exact .inr (by simp [Order.figures, hid, htotal])
    · rw [hnone]
      simp [storedTotals]
  case changes =>
    rintro r ps now S k S' k'
      ⟨d, o₀, added, total, pay, o', -, ho₀, hpriced, htotal, -, hsettle,
        ⟨rows, extra, horders, hlines, hrows, -⟩, hk⟩ h
    obtain ⟨hid, hamount⟩ := Api.settleChange_figures hsettle
    have hfig : o'.figures = ⟨o₀.id, total.toBinary64⟩ := by
      simp [Order.figures, hid, hamount]
    refine h.retotal o₀.id (fun l => d.deletedItemIds.contains l.id)
      (((sortedLines S o₀.id).filter fun l => !d.deletedItemIds.contains l.id).map
        fun l => storedAmount l.totalPrice)
      (N := rows.map OrderLine.figures) (P := added) (S := total)
      (.inl ⟨o₀.figures, List.mem_map_of_mem (Store.mem_of_order? ho₀), rfl⟩) hk ?_ ?_
      (hid ▸ hrows.figures) (priceLines_consistent (Api.pricedOn_eq_ok.1 hpriced)) ?_ htotal
    · rw [Store.ledger, hlines, hid]
      simp [Store.ledger, List.filter_map]
      rfl
    · intro x hx
      rcases Store.ledger_orders_replaceRow horders x hx with ⟨hx, hne⟩ | rfl
      · exact .inl ⟨hx, hid ▸ hne⟩
      · exact .inr hfig
    · -- the kept lines, sorted or not, have the same stored totals
      rw [Store.storedTotals_linesOf]
      exact (((List.mergeSort_perm _ _).filter _).map _)
  case cancels =>
    rintro r ps now S k S' k' ⟨o₁, ho₁, -, -, horders, hlines, -, -, hk⟩ h
    exact h.of_replaceRow horders hlines ho₁ rfl hk
  case completes =>
    rintro r ps now S k S' k' ⟨o₁, ho₁, -, horders, hlines, -, -, hk⟩ h
    exact h.of_replaceRow horders hlines ho₁ rfl hk
  case pays =>
    rintro r ps now S k S' k'
      ⟨_, o₁, _, _, _, -, ho₁, -, -, -, -, -, horders, hlines, -, -, -, -, -, hk⟩ h
    exact h.of_replaceRow horders hlines ho₁ rfl hk
  case adds =>
    rintro r ps now S k S' k'
      ⟨items, o₁, priced, total, rows, -, ho₁, -, hpriced, htotal, horders, hlines, hrows, -, -,
        hk⟩ h
    refine h.retotal o₁.id (fun _ => false)
      ((sortedLines S o₁.id).map fun l : OrderLine => storedAmount l.totalPrice)
      (N := rows.map OrderLine.figures) (P := priced) (S := total)
      (.inl ⟨o₁.figures, List.mem_map_of_mem (Store.mem_of_order? ho₁), rfl⟩) hk ?_ ?_
      hrows.figures (priceLines_consistent (Api.pricedOn_eq_ok.1 hpriced)) ?_ htotal
    · simp [Store.ledger, hlines]
    · intro x hx
      rcases Store.ledger_orders_replaceRow horders x hx with ⟨hx, hne⟩ | rfl
      · exact .inl ⟨hx, hne⟩
      · exact .inr rfl
    · -- every line is kept, so the sorted lines are the order's lines in another order
      rw [Store.storedTotals_linesOf]
      simp only [Bool.not_false, List.filter_true]
      exact (List.mergeSort_perm _ _).map _
  case invoices =>
    rintro r ps now S k S' k' ⟨_, horders, hlines, -, -, hk⟩ h
    exact h.of_store_frame (by rw [hlines]) (fun o ho => ⟨o, horders ▸ ho, rfl⟩) hk
  case payments =>
    rintro r ps now S k S' k' ⟨_, -, horders, hlines, -, -, hk⟩ h
    exact h.of_store_frame (by rw [hlines]) (fun o ho => ⟨o, horders ▸ ho, rfl⟩) hk
  case bundle =>
    rintro r ps now S k S' k' ⟨hrel, hk⟩ h
    exact h.of_relinks hrel hk
  case product =>
    rintro r ps now S k S' k' ⟨hrel, hk⟩ h
    exact h.of_relinks hrel hk
  case variation =>
    rintro r ps now S k S' k' ⟨hrel, hk⟩ h
    exact h.of_relinks hrel hk

/-- **Every request keeps the ledger sound**, whether it keeps the order book or is answered by
a writer. -/
theorem serve_keeps_ledger (s : Store) (n : Nat) (now : Stamp) (r : Request)
    (h : s.ledger.Sound n) :
    (serve Api.routes s n now r).store.ledger.Sound (serve Api.routes s n now r).nextId := by
  rcases serve_cases s n now r with ⟨hbook, hn⟩ | ⟨w, hw, ps, -, heff⟩
  · rw [Store.ledger_of_book hbook]
    exact h.of_frame rfl (fun _ hx => hx) hn
  · exact writers_keep_ledger w hw r ps now s n _ _ heff h

/-! ## §3 — Order totals in every reachable world -/

/-- The new service has neither orders nor lines. -/
theorem Scenario.fresh_ledger : Scenario.fresh.store.ledger = ⟨[], []⟩ := by
  have h : (Scenario.fresh.store.orders.isEmpty && Scenario.fresh.store.lines.isEmpty) = true := by
    decide +kernel
  simp only [Bool.and_eq_true, List.isEmpty_iff] at h
  simp [Store.ledger, h.1, h.2]

/-- **The ledger is sound in every reachable world**: each step keeps the order book or is a
request, and each request keeps the ledger sound. -/
theorem Reachable.ledger_sound {w : World} (hw : Reachable w) : w.store.ledger.Sound w.nextId := by
  induction hw with
  | fresh =>
    rw [Scenario.fresh_ledger]
    exact Ledger.sound_empty _
  | step j _ ih =>
    rcases Scenario.step_cases _ j with ⟨hbook, hn⟩ | ⟨now, r, hs, hn⟩
    · rw [Store.ledger_of_book hbook]
      exact ih.of_frame rfl (fun _ hx => hx) hn
    · rw [hs, hn]
      exact serve_keeps_ledger _ _ now r ih

/-- **The totals of a store balance**, as far as a double holds them: every order's stored total
reads back as the two-place sum of the totals its lines read back, when the sizes of those totals
add up to less than `centsBound` cents; and every line's total reads back as its unit price
times its quantity, when the unit price and the total are within that bound. -/
structure Store.TotalsBalance (s : Store) : Prop where
  orders : ∀ o ∈ s.orders,
    grossCents ((s.orderLines o.id).map fun l => storedAmount l.totalPrice) < centsBound →
      sumTotals ((s.orderLines o.id).map fun l => storedAmount l.totalPrice) =
        .ok (storedAmount o.totalAmount)
  lines : ∀ l ∈ s.lines, (storedAmount l.unitPrice).withinBound = true →
    (storedAmount l.totalPrice).withinBound = true →
      Decimal.mul (storedAmount l.unitPrice) (Decimal.ofInt l.quantity) =
        .ok (storedAmount l.totalPrice)

/-- A store whose ledger is sound has balanced totals: the ledger holds the figures of its orders
and lines. -/
theorem Ledger.Sound.totalsBalance {s : Store} {k : Nat} (h : s.ledger.Sound k) :
    s.TotalsBalance := by
  refine ⟨fun o ho => ?_, fun l hl => h.priced l.figures (List.mem_map_of_mem hl)⟩
  -- the ledger's lines of an order are the figures of the store's lines of it
  have hlines : storedTotals (s.ledger.linesOf o.id) =
      (s.orderLines o.id).map fun l => storedAmount l.totalPrice := by
    simpa using Store.storedTotals_linesOf (S := s) o.id fun _ => false
  have hb := h.balanced o.figures (List.mem_map_of_mem ho)
  rw [Balances] at hb
  rw [← hlines]
  exact hb

/-- **Order totals balance in every reachable world**, as long as the amounts stay below `2^46`
units (`centsBound`), the range in which a double holds every amount of cents exactly. -/
theorem reachable_orders_balance {w : World} (hw : Reachable w) : w.store.TotalsBalance :=
  hw.ledger_sound.totalsBalance

/-- A staff user of the new service. -/
def staffUser : Json :=
  .obj [("do", .str "user"), ("name", .str "staff")]

/-- A request placing an order of one tea at 25, its identifier saved as `oid`. -/
def placeTea : Json :=
  .obj [("do", .str "req"), ("method", .str "POST"), ("path", .str "/api/v1/orders"),
    ("json", .obj [("customer_name", .str "A"), ("customer_phone", .str "1"),
      ("table_number", .int 1),
      ("details", .arr [.obj [("product_name", .str "Tea"), ("unit_price", .int 25),
        ("quantity", .int 1)]])]),
    ("save", .obj [("oid", .str "data.id")])]

/-- The new service with a staff user and an order of one tea. -/
def teaPlaced : World :=
  (Scenario.step (Scenario.step Scenario.fresh staffUser).2 placeTea).2

theorem teaPlaced_reachable : Reachable teaPlaced :=
  .step _ (.step _ .fresh)

theorem placed_tea_totals_balance : Reachable teaPlaced ∧ teaPlaced.store.TotalsBalance :=
  ⟨teaPlaced_reachable, reachable_orders_balance teaPlaced_reachable⟩

/-! ## §4 — Cancelled orders -/

/-- **A cancelled order after a request**: every line of it is one that was there, and its total
is as it was; or the request is the change of that order. -/
def ClosedAfter (r : Request) (oid : String) (o : Order) (S S' : Store) : Prop :=
  ((∀ l' ∈ S'.lines, l'.orderId = oid → ∃ l ∈ S.lines, l.id = l'.id) ∧
    ∃ o', S'.order? oid = some o' ∧ o'.totalAmount = o.totalAmount) ∨
  Api.addressOf r = some ("PUT", Segment.parse "/api/v1/orders/\x7bid\x7d", oid)

/-- A writer that adds no line to a cancelled order and keeps its total, but the change of that
order; its identifier is one already issued. -/
def Api.Writer.KeepsCancelled (w : Api.Writer) : Prop :=
  ∀ r ps now S k S' k' oid o, Route.select Api.routes r = .ok (w.route, ps) →
    w.effect r ps now S k S' k' → (∀ m, k ≤ m → oid ≠ Txn.idText m) →
    S.order? oid = some o → o.status = "Cancelled" → ClosedAfter r oid o S S'

/-- A write that keeps the lines keeps a cancelled order closed when the order keeps its total. -/
theorem closedAfter_of_lines {r : Request} {oid : String} {o o' : Order} {S S' : Store}
    (hlines : S'.lines = S.lines) (ho' : S'.order? oid = some o')
    (htotal : o'.totalAmount = o.totalAmount) : ClosedAfter r oid o S S' :=
  .inl ⟨fun l' hl' _ => ⟨l', hlines ▸ hl', rfl⟩, o', ho', htotal⟩

/-- A write that replaces an order with a row of the same id and total, and keeps the lines,
keeps a cancelled order closed. -/
theorem closedAfter_of_replaceRow {r : Request} {oid x : String} {S S' : Store} {o o₁ o' : Order}
    (horders : S'.orders = Store.replaceRow (·.id) o' S.orders) (hlines : S'.lines = S.lines)
    (ho₁ : S.order? x = some o₁) (hid : o'.id = o₁.id) (htotal : o'.totalAmount = o₁.totalAmount)
    (ho : S.order? oid = some o) : ClosedAfter r oid o S S' := by
  have hafter := Store.order?_replaceRow horders ho
  by_cases hx : o'.id = oid
  · rw [if_pos hx] at hafter
    refine closedAfter_of_lines hlines hafter ?_
    rw [htotal, Store.order?_eq_of_id ho₁ ho (hid ▸ hx)]
  · rw [if_neg hx] at hafter
    exact closedAfter_of_lines hlines hafter rfl

/-- A catalogue deletion keeps a cancelled order closed: its lines are relinked in place and its
total is kept. -/
theorem closedAfter_of_relinks {r : Request} {oid : String} {o : Order} {S S' : Store}
    (h : Relinks S S') (ho : S.order? oid = some o) : ClosedAfter r oid o S S' := by
  obtain ⟨horders, -, -, hlines⟩ := h
  obtain ⟨o', ho', hsame⟩ := Store.order?_of_unlinked horders ho
  refine .inl ⟨fun l' hl' _ => ?_, o', ho', (Order.same_of_unlinked hsame).2.2.2⟩
  obtain ⟨l, hl, hrel⟩ := exists_rel_of_forall₂_right hlines l' hl'
  have hid := congrArg OrderLine.id hrel.same
  exact ⟨l, hl, hid.symm⟩

/-- **Every writer adds no line to a cancelled order and keeps its total, but the change of that
order.** Adding lines, paying and cancelling refuse a cancelled order, a placed order is another
one since its identifier is new, and the rest keep the lines and the totals. -/
theorem writers_keep_cancelled : ∀ w ∈ Api.writers, w.KeepsCancelled := by
  simp only [Api.writers, List.forall_mem_cons, List.not_mem_nil, IsEmpty.forall_iff,
    implies_true, and_true]
  refine ⟨?places, ?changes, ?cancels, ?completes, ?pays, ?adds, ?invoices, ?payments, ?bundle,
    ?product, ?variation⟩
  case places =>
    rintro r ps now S k S' k' oid o -
      ⟨_, _, _, o', rows, -, -, -, hid, -, -, -, horders, hlines, hrows, -, -, -⟩ hfresh ho -
    refine .inl ⟨fun l' hl' hoid => ?_, o, Store.order?_append horders ho, rfl⟩
    rw [hlines, List.mem_append] at hl'
    rcases hl' with hl' | hl'
    · exact ⟨l', hl', rfl⟩
    · -- the new lines are of the new order, whose identifier no order had
      rw [hrows.orderId l' hl', hid] at hoid
      exact absurd hoid.symm (hfresh k (le_refl k))
  case changes =>
    rintro r ps now S k S' k' oid o hsel
      ⟨d, o₀, _, _, _, o', -, ho₀, -, -, -, hsettle, ⟨rows, _, horders, hlines, hrows, -⟩, -⟩
      - ho -
    have hid := (Api.settleChange_figures hsettle).1
    by_cases hx : o₀.id = oid
    · -- the change of this very order
      rw [ClosedAfter, ← hx]
      exact .inr (Api.addressOf_change hsel ho₀)
    · have hne : o'.id ≠ oid := hid ▸ hx
      have hafter := Store.order?_replaceRow horders ho
      rw [if_neg hne] at hafter
      refine .inl ⟨fun l' hl' hoid => ?_, o, hafter, rfl⟩
      rw [hlines, List.mem_append] at hl'
      rcases hl' with hl' | hl'
      · exact ⟨l', List.mem_of_mem_filter hl', rfl⟩
      · exact absurd ((hrows.orderId l' hl').symm.trans hoid) hne
  case cancels =>
    rintro r ps now S k S' k' oid o - ⟨o₁, ho₁, hnc, -, horders, hlines, -⟩ - ho hc
    -- a cancelled order is refused, so the order cancelled is another one
    have hne : o₁ ≠ o := by
      rintro rfl
      exact hnc hc
    exact closedAfter_of_lines hlines (Store.order?_replaceRow_of_ne horders ho₁ rfl hne ho) rfl
  case completes =>
    rintro r ps now S k S' k' oid o - ⟨o₁, ho₁, -, horders, hlines, -⟩ - ho -
    exact closedAfter_of_replaceRow horders hlines ho₁ rfl rfl ho
  case pays =>
    rintro r ps now S k S' k' oid o -
      ⟨_, o₁, _, _, _, -, ho₁, -, -, -, -, -, horders, hlines, -⟩ - ho -
    exact closedAfter_of_replaceRow horders hlines ho₁ rfl rfl ho
  case adds =>
    rintro r ps now S k S' k' oid o -
      ⟨_, o₁, _, _, rows, -, ho₁, hnc, -, -, horders, hlines, hrows, -⟩ - ho hc
    by_cases hx : o₁.id = oid
    · -- lines are not added to a cancelled order
      exact absurd (Store.order?_eq_of_id ho₁ ho hx ▸ hc) hnc
    · have hafter := Store.order?_replaceRow horders ho
      rw [if_neg hx] at hafter
      refine .inl ⟨fun l' hl' hoid => ?_, o, hafter, rfl⟩
      rw [hlines, List.mem_append] at hl'
      rcases hl' with hl' | hl'
      · exact ⟨l', hl', rfl⟩
      · exact absurd ((hrows.orderId l' hl').symm.trans hoid) hx
  case invoices =>
    rintro r ps now S k S' k' oid o - ⟨_, horders, hlines, -⟩ - ho -
    exact closedAfter_of_lines hlines (by rw [Store.order?, horders]; exact ho) rfl
  case payments =>
    rintro r ps now S k S' k' oid o - ⟨_, -, horders, hlines, -⟩ - ho -
    exact closedAfter_of_lines hlines (by rw [Store.order?, horders]; exact ho) rfl
  case bundle =>
    rintro r ps now S k S' k' oid o - ⟨hrel, -⟩ - ho -
    exact closedAfter_of_relinks hrel ho
  case product =>
    rintro r ps now S k S' k' oid o - ⟨hrel, -⟩ - ho -
    exact closedAfter_of_relinks hrel ho
  case variation =>
    rintro r ps now S k S' k' oid o - ⟨hrel, -⟩ - ho -
    exact closedAfter_of_relinks hrel ho

/-- **A cancelled order takes lines only from the change of that order.** In every reachable
world, a request adds no line to a cancelled order and leaves its total as it was, unless it is
the change of that order (`PUT /api/v1/orders/{id}`): adding lines refuses a cancelled order,
but the change adds the lines it sends and recomputes the total whatever the order's state. -/
theorem cancelled_order_extended_only_by_change {w : World} (hw : Reachable w) (now : Stamp)
    (r : Request) {oid : String} {o : Order} (ho : w.store.order? oid = some o)
    (hc : o.status = "Cancelled") :
    ClosedAfter r oid o w.store (serve Api.routes w.store w.nextId now r).store := by
  -- the order's identifier was issued before
  have hfresh : ∀ m, w.nextId ≤ m → oid ≠ Txn.idText m := by
    intro m hm
    rw [← Store.order?_id ho]
    exact hw.ledger_sound.fresh_orders o.figures (List.mem_map_of_mem (Store.mem_of_order? ho)) m hm
  rcases serve_cases w.store w.nextId now r with ⟨hbook, -⟩ | ⟨wr, hwr, ps, hsel, heff⟩
  · obtain ⟨o', ho', hsame⟩ := Store.order?_of_book hbook ho
    exact closedAfter_of_lines (Store.book_eq_iff.1 hbook).2.1 ho'
      (Order.same_of_unlinked hsame).2.2.2
  · exact writers_keep_cancelled wr hwr r ps now _ _ _ _ oid o hsel heff hfresh ho hc

/-- The staff user's token in the world of the placed tea order: the token issued to the
account `40`. -/
theorem teaPlaced_staffToken :
    teaPlaced.tokens.lookup "staff" = some (Scenario.serviceToken (Txn.idText 40) none) := by
  simp only [teaPlaced, placeTea, staffUser]
  rw [Scenario.step_req rfl, Scenario.request_tokens, Scenario.firstUser_token rfl rfl rfl]

/-- The staff user's cancellation of the tea order. -/
def cancelTea : List (String × Json) :=
  [("do", .str "req"), ("auth", .str "staff"), ("method", .str "POST"),
    ("path", .str "/api/v1/orders/$\x7boid\x7d/cancel")]

/-- The tea order cancelled by the staff user. -/
def teaCancelled : World :=
  (Scenario.step teaPlaced (.obj cancelTea)).2

/-- The cancellation's method and path, with the order's identifier in place. -/
def cancelTeaTarget : Request :=
  { method := "POST", path := "/api/v1/orders/" ++ Txn.idText 41 ++ "/cancel", headers := [],
    query := [], body := .empty, storageFails := false, clock := 0 }

/-- The cancellation is signed in as the staff user and cancels the order: the guard's step is
replaced by the token's claims, the rest is computed. -/
theorem teaCancelled_status :
    (teaCancelled.store.order? (Txn.idText 41)).map (·.status) = some "Cancelled" := by
  have hsel : Route.select Api.routes (Scenario.sent teaPlaced cancelTea) =
      .ok (Route.of "POST" "/api/v1/orders/\x7bid\x7d/cancel" Api.cancelOrder, [Txn.idText 41]) :=
    (Route.select_congr (by decide +kernel) (by decide +kernel)).trans
      (show Route.select Api.routes cancelTeaTarget =
        .ok (Route.of "POST" "/api/v1/orders/\x7bid\x7d/cancel" Api.cancelOrder, [Txn.idText 41])
        from rfl)
  have hclaims := Scenario.sent_claims teaPlaced cancelTea rfl rfl
    teaPlaced_staffToken Scenario.firstUser_parse rfl
  rw [teaCancelled, (Scenario.step_serves rfl).1, serve_eq, Route.dispatch_eq_handle hsel]
  simp only [Route.of, Api.cancelOrder, Guard.staff, Guard.require, Guard.currentUser, hclaims]
  decide +kernel

/-- The staff user's request adding a second tea to the cancelled order. -/
def addTea : List (String × Json) :=
  [("do", .str "req"), ("auth", .str "staff"), ("method", .str "POST"),
    ("path", .str "/api/v1/orders/$\x7boid\x7d/details"),
    ("json", .obj [("items", .arr [.obj [("product_name", .str "Tea"),
      ("unit_price", .int 25), ("quantity", .int 1)]])])]

theorem cancelled_tea_takes_no_lines :
    Reachable teaCancelled ∧
      Guard.claims (Scenario.sent teaCancelled addTea) =
        pure (Scenario.issuedClaims (Txn.idText 40)) ∧
      ∃ o, teaCancelled.store.order? (Txn.idText 41) = some o ∧ o.status = "Cancelled" ∧
        ClosedAfter (Scenario.sent teaCancelled addTea) (Txn.idText 41) o teaCancelled.store
          (serve Api.routes teaCancelled.store teaCancelled.nextId
            (teaCancelled.clock.addSeconds 1) (Scenario.sent teaCancelled addTea)).store := by
  have hw : Reachable teaCancelled := .step _ teaPlaced_reachable
  -- the request carries the staff user's token, which the cancellation kept
  have htoken : teaCancelled.tokens.lookup "staff" =
      some (Scenario.serviceToken (Txn.idText 40) none) := by
    rw [teaCancelled, Scenario.step_req rfl, Scenario.request_tokens, teaPlaced_staffToken]
  obtain ⟨o, ho, hs⟩ := Option.map_eq_some_iff.1 teaCancelled_status
  exact ⟨hw, Scenario.sent_claims teaCancelled addTea rfl rfl htoken Scenario.firstUser_parse rfl,
    o, ho, hs, cancelled_order_extended_only_by_change hw _ _ ho hs⟩

/-- The order `o1` of one tea at 25, cancelled. -/
def cancelledTea : Order :=
  { pendingTea with
    status := "Cancelled", dishStatus := "Cancelled", cancelledAt := some (Stamp.ofEpoch 0) }

/-- The store of a staff member and a cancelled order of one tea. -/
def cancelledTeaStore : Store :=
  { users := [staffMember], orders := [cancelledTea], lines := [orderedTea] }

/-- A change of the order `o1` by the staff member that adds two cakes at 5. -/
def cakeChange : Request :=
  { method := "PUT", path := "/api/v1/orders/o1", headers := staffHeaders, query := [],
    storageFails := false, clock := 0,
    body := .json (.obj [("items", .arr [.obj [("product_name", .str "Cake"),
      ("unit_price", .int 5), ("quantity", .int 2)]])]) }

/-- **The change of a cancelled order adds lines to it.** Two cakes at 5 sent by the change of
a cancelled order of one tea at 25 are stored as a second line of it, and its total goes from 25
to 35, while it stays cancelled. -/
theorem change_extends_cancelled_order :
    ((cancelledTeaStore.order? "o1").map fun o =>
        (o.status, o.totalAmount, (cancelledTeaStore.orderLines "o1").length)) =
      some ("Cancelled", Binary64.ofDecimal false 25 0, 1) ∧
    (((serve Api.routes cancelledTeaStore 0 (Stamp.ofEpoch 60) cakeChange).store.order? "o1").map
        fun o => (o.status, o.totalAmount,
          ((serve Api.routes cancelledTeaStore 0 (Stamp.ofEpoch 60) cakeChange).store.orderLines
            "o1").length)) =
      some ("Cancelled", Binary64.ofDecimal false 35 0, 2) := by
  constructor
  · rfl
  · -- the staff member's token is read back by `staffHeaders_claims`; the rest is computed
    rw [serve_eq, Route.dispatch_eq_handle (show Route.select Api.routes cakeChange =
      .ok (Route.of "PUT" "/api/v1/orders/\x7bid\x7d" Api.updateOrder, ["o1"]) from rfl)]
    simp only [Route.of, Api.updateOrder, Guard.staff, Guard.require, Guard.currentUser,
      staffHeaders_claims cakeChange rfl (by decide)]
    decide +kernel

end Bistro
