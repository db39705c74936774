import Bistro.Proofs.Guard
import Bistro.Proofs.PageCounts

/-!
# Bistro — paged listings

Four listings answer a page at a time: the orders (by status), the products (by category), the
table codes (all, or those of one store) and the activity log (by level, entity and source).
Each selects its rows with its filter, puts them in its own order, and answers the rows from
position `(page - 1) · perPage` on, at most `perPage` of them, with metadata that counts the
selected rows and the pages they fill. The number of pages is the ceiling of the double nearest
to `total / perPage`; for at most `2^53` rows it is the integer ceiling.

* §1 `pageOf` and `pageCount` over any list: page `p` holds the rows `(p - 1) · n` to
  `p · n - 1`; pages `1` to `pageCount` are the list, each row once (`pages_concat`); a page past
  the count is empty (`pageOf_beyond`); the count is the ceiling of the ratio
  (`pageCount_eq_ceil`), which the double gives for at most `2^53` rows.
* §2 `Listed`: what a listing request comes to, the store kept and the answer the page and its
  metadata, or the 500 of an offset the store's integer column cannot hold or of a ratio no
  double holds.
* §3 the run of each listing handler, read off as a `listingResult`.
* §4 `paginated_listings_partition`, the five listing routes at once. A page past the last is
  empty only while its offset fits in 64 bits: `far_products_page_fails`.
-/

namespace Bistro

/-! ## §1 — Pages of a list -/

/-- **A page of a listing**: the rows from position `(page - 1) · perPage` on, at most `perPage`
of them. -/
def pageOf {α : Type} (rows : List α) (page perPage : Int) : List α :=
  (rows.drop ((page - 1) * perPage).toNat).take perPage.toNat

/-- The number of pages of `total` rows, `perPage` to a page: `total / perPage` rounded up. -/
def pageCount (total perPage : Nat) : Nat := (total + perPage - 1) / perPage

/-- Page `p` holds the rows `(p - 1) · n` to `p · n - 1`, those that exist. -/
theorem pageOf_getElem? {α : Type} (rows : List α) {p n : Int} (hp : 1 ≤ p) (hn : 1 ≤ n)
    (i : Nat) :
    (pageOf rows p n)[i]? =
      if i < n.toNat then rows[(p - 1).toNat * n.toNat + i]? else none := by
  have hoff : ((p - 1) * n).toNat = (p - 1).toNat * n.toNat := by
    rw [Int.toNat_mul (by omega) (by omega)]
  unfold pageOf
  rw [hoff, List.getElem?_take]
  split
  · rw [List.getElem?_drop]
  · rfl

/-- Pages of `n` rows cover `total` rows. -/
theorem length_le_pageCount_mul (total : Nat) {n : Nat} (hn : 0 < n) :
    total ≤ pageCount total n * n := by
  have h := Nat.lt_div_mul_add (a := total + n - 1) hn
  unfold pageCount
  generalize (total + n - 1) / n * n = m at h ⊢
  omega

/-- A page past the count starts at or after the last row. -/
theorem pageCount_mul_le {total n p : Nat} (hn : 0 < n) (hp : pageCount total n < p) :
    total ≤ (p - 1) * n := by
  calc total ≤ pageCount total n * n := length_le_pageCount_mul total hn
    _ ≤ (p - 1) * n := Nat.mul_le_mul_right n (by omega)

/-- The page count as the metadata computes it, over the integers. -/
theorem pageCount_cast (total : Nat) {n : Int} (hn : 1 ≤ n) :
    ((pageCount total n.toNat : Nat) : Int) = ((total : Int) + n - 1) / n := by
  have hsum : ((total + n.toNat - 1 : Nat) : Int) = (total : Int) + n - 1 := by omega
  rw [pageCount, Int.natCast_div, hsum, Int.toNat_of_nonneg (by omega)]

/-- The first `k` pages, one after the other, are the first `k · n` rows. -/
theorem flatMap_pages {α : Type} (rows : List α) (n : Nat) :
    ∀ k, (List.range k).flatMap (fun j => (rows.drop (j * n)).take n) = rows.take (k * n)
  | 0 => by simp
  | k + 1 => by
    rw [List.range_succ, List.flatMap_append, flatMap_pages rows n k, List.flatMap_singleton,
      Nat.succ_mul, List.take_add]

/-- **The pages partition the rows**: pages `1` to `pageCount`, one after the other, are the
rows, each once. -/
theorem pages_concat {α : Type} (rows : List α) {n : Int} (hn : 1 ≤ n) :
    (List.range (pageCount rows.length n.toNat)).flatMap
      (fun k : Nat => pageOf rows ((k : Int) + 1) n) =
      rows := by
  have hpage : ∀ k : Nat, pageOf rows (k + 1) n = (rows.drop (k * n.toNat)).take n.toNat := by
    intro k
    unfold pageOf
    congr 2
    rw [add_sub_cancel_right, Int.toNat_mul (by omega) (by omega), Int.toNat_natCast]
  simp only [hpage]
  rw [flatMap_pages, List.take_of_length_le]
  -- the last page reaches the end: `pageCount · n ≥ length`
  exact length_le_pageCount_mul rows.length (by omega)

/-- **A page past the last is empty.** -/
theorem pageOf_beyond {α : Type} (rows : List α) {p n : Int} (hn : 1 ≤ n)
    (hp : (pageCount rows.length n.toNat : Int) < p) : pageOf rows p n = [] := by
  have hoff : rows.length ≤ ((p - 1) * n).toNat := by
    rw [Int.toNat_mul (by omega) (by omega)]
    have h := @pageCount_mul_le rows.length n.toNat ((p - 1).toNat + 1) (by omega) (by omega)
    simpa using h
  unfold pageOf
  rw [List.drop_eq_nil_of_le hoff, List.take_nil]

/-- **The count of pages is the ceiling of the ratio.** -/
theorem pageCount_eq_ceil (total : Nat) {n : Nat} (hn : 0 < n) :
    ((pageCount total n : Nat) : Int) = ⌈(total : ℚ) / n⌉ := by
  have hup := length_le_pageCount_mul total hn
  have hdown : pageCount total n * n ≤ total + n - 1 := Nat.div_mul_le_self _ _
  have hnq : (0 : ℚ) < n := by exact_mod_cast hn
  -- `pageCount` lies in `[total / n, total / n + 1)`
  rw [eq_comm, Int.ceil_eq_iff]
  constructor
  · rw [lt_div_iff₀ hnq]
    have hlt : pageCount total n * n < total + n := by omega
    have : ((pageCount total n : ℚ)) * n < total + n := by exact_mod_cast hlt
    push_cast
    linarith
  · rw [div_le_iff₀ hnq]
    exact_mod_cast hup

/-- **The count of pages of a listing**: at most `2^53` rows at a positive page size of at most
200 fill `pageCount` pages, through the double. -/
theorem Envelope.pageCount?_eq_pageCount {total : Nat} {n : Int} (hn : 1 ≤ n) (hsmall : n ≤ 200)
    (htop : total ≤ 2 ^ 53) :
    Envelope.pageCount? n total = some ((pageCount total n.toNat : Nat) : Int) := by
  have hcast : ((n.toNat : ℕ) : ℚ) = (n : ℚ) := by
    rw [← Int.cast_natCast, Int.toNat_of_nonneg (by omega)]
  rw [Envelope.pageCount?_eq_ceil (by omega) htop (by omega), pageCount_eq_ceil total (by omega),
    hcast]

/-! ## §2 — What a listing request comes to -/

/-- What a listing answers: while the offset fits in the store's 64-bit integers and the
ratio of the rows to the page size in a double, the page of the ordered rows, each shown by
`json`, with the page metadata of the selected rows; otherwise the 500 of a failed query. -/
def listingResult {α : Type} (now : Stamp) (message : String) (rows ordered : List α)
    (json : α → Json) (page perPage : Int) : Except Fault Response :=
  if Txn.intRange.1 ≤ (page - 1) * perPage ∧ (page - 1) * perPage ≤ Txn.intRange.2 then
    match Envelope.pageCount? perPage rows.length with
    | some pages =>
      .ok { status := 200
            body := Envelope.success now 200 message (.arr ((pageOf ordered page perPage).map json))
              (some (Envelope.page page perPage rows.length pages)) }
    | none => .error .internal
  else .error .internal

/-- **A listing request's outcome.** The filter selected `rows`, the listing put them in the
order `ordered`, and the request asked for page `page` of `perPage` rows. The store is kept.
While the offset `(page - 1) · perPage` fits in the store's 64-bit integers the answer is the
page with metadata counting the selected rows and their pages, computed through a double (or
the 500 of a ratio past the doubles), and past that it is the 500 of a failed query. For at most
`2^53` rows the count of pages is `pageCount`: the page holds the ordered rows from the offset
on, pages `1` to `total_pages` are the ordered rows, and a page past `total_pages` is empty. -/
structure Listed {α : Type} (now : Stamp) (message : String) (rows ordered : List α)
    (json : α → Json) (page perPage : Int) (out : Outcome) (s : Store) : Prop where
  keeps : out.store = s
  page_pos : 1 ≤ page
  perPage_pos : 1 ≤ perPage
  perm : ordered.Perm rows
  shown : (page - 1) * perPage ≤ Txn.intRange.2 →
    (∃ pages, Envelope.pageCount? perPage rows.length = some pages ∧
      out.response =
        { status := 200
          body := Envelope.success now 200 message (.arr ((pageOf ordered page perPage).map json))
            (some (.obj [("page", .int page), ("per_page", .int perPage),
              ("total_pages", .int pages), ("total_count", .int rows.length)])) }) ∨
    (Envelope.pageCount? perPage rows.length = none ∧
      out.response = Route.faultResponse now .internal)
  counted : rows.length ≤ 2 ^ 53 →
    Envelope.pageCount? perPage rows.length = some ((pageCount rows.length perPage.toNat : Nat) : Int)
  refused : Txn.intRange.2 < (page - 1) * perPage →
    out.response = Route.faultResponse now .internal
  slice : ∀ i, (pageOf ordered page perPage)[i]? =
    if i < perPage.toNat then ordered[(page - 1).toNat * perPage.toNat + i]? else none
  cover : (List.range (pageCount rows.length perPage.toNat)).flatMap
    (fun k : Nat => pageOf ordered ((k : Int) + 1) perPage) = ordered
  beyond : ∀ q : Int, (pageCount rows.length perPage.toNat : Int) < q →
    pageOf ordered q perPage = []

theorem Validated.andThen_eq_ok {α β : Type} {x : Validated α} {f : α → Validated β} {b : β}
    (h : x.andThen f = .ok b) : ∃ a, x = .ok a ∧ f a = .ok b := by
  cases x with
  | ok a => exact ⟨a, rfl, h⟩
  | fail e => cases h

theorem Validated.under_eq_ok {α : Type} {step : PathStep} {x : Validated α} {a : α}
    (h : x.under step = .ok a) : x = .ok a := by
  cases x with
  | ok b => exact h
  | fail e => cases h

/-- A page number or size read from the query is at least one and within its bound, given a
default that is. -/
theorem Input.pageParam_bounds {r : Request} {name : String} {hi : Option Int} {d v : Int}
    (h : Input.pageParam r name hi d = .ok v) (hd : 1 ≤ d) (hdb : ∀ b, hi = some b → d ≤ b) :
    1 ≤ v ∧ ∀ b, hi = some b → v ≤ b := by
  unfold Input.pageParam Input.query at h
  split at h
  · obtain ⟨n, -, hrest⟩ := Validated.andThen_eq_ok (Validated.under_eq_ok h)
    obtain ⟨m, hm, hbound⟩ := Validated.andThen_eq_ok hrest
    have hm1 : 1 ≤ m := by
      unfold Field.atLeast at hm
      split_ifs at hm with hlt
      · simp [Validated.here] at hm
      · cases hm
        omega
    -- the upper bound, when there is one, passes the value through
    cases hi with
    | none =>
      cases hbound
      exact ⟨hm1, fun b hb => by cases hb⟩
    | some b =>
      dsimp only at hbound
      unfold Field.atMost at hbound
      split_ifs at hbound with hgt
      · simp [Validated.here] at hbound
      · cases hbound
        exact ⟨hm1, fun b' hb' => by cases hb'; omega⟩
  · cases h
    exact ⟨hd, hdb⟩

/-- A page number read from the query is at least one. -/
theorem Input.page_pos {r : Request} {v : Int} (h : Input.pageParam r "page" none 1 = .ok v) :
    1 ≤ v :=
  (Input.pageParam_bounds h le_rfl fun _ hb => by cases hb).1

/-- A page size read from the query under a bound of at most 200, with a default within it, lies
between 1 and 200. -/
theorem Input.perPage_bounds {r : Request} {b d v : Int}
    (h : Input.pageParam r "per_page" (some b) d = .ok v) (hd : 1 ≤ d) (hdb : d ≤ b)
    (hb : b ≤ 200) : 1 ≤ v ∧ v ≤ 200 := by
  obtain ⟨h1, hle⟩ := Input.pageParam_bounds h hd fun _ hb' => by cases hb'; exact hdb
  exact ⟨h1, (hle b rfl).trans hb⟩

/-- A column check on an integer passes it exactly when it lies in the 64-bit range. -/
theorem fitsColumn_exec (n : Int) (σ : Session) :
    (Txn.fitsColumn n).exec σ =
      if Txn.intRange.1 ≤ n ∧ n ≤ Txn.intRange.2 then (.ok (), σ) else (.error .internal, σ) := by
  unfold Txn.fitsColumn
  by_cases h : Txn.intRange.1 ≤ n ∧ n ≤ Txn.intRange.2
  · simp [h]
  · simp [h, Txn.fail]

theorem Input.accept_ok_exec {α : Type} (a : α) (σ : Session) :
    (Input.accept (.ok a)).exec σ = (.ok a, σ) := rfl

theorem Reply.ok_exec (message : String) (data : Json) (metadata : Option Json) (σ : Session) :
    (Reply.ok message data metadata).exec σ =
      (.ok { status := 200, body := Envelope.success σ.now 200 message data metadata }, σ) := rfl

theorem Reply.page_exec (message : String) (data : Json) (page perPage total : Int) (σ : Session) :
    (Reply.page message data page perPage total).exec σ =
      (match Envelope.pageCount? perPage total with
        | some pages =>
          .ok { status := 200
                body := Envelope.success σ.now 200 message data
                  (some (Envelope.page page perPage total pages)) }
        | none => .error .internal, σ) := by
  unfold Reply.page
  cases Envelope.pageCount? perPage total <;> rfl

/-- **A listing handler's run gives a `Listed` outcome**: the handler of a routed request runs
to the listing's result, leaving the session as it was. -/
theorem Listed.of_exec {α : Type} {s : Store} {k : Nat} {now : Stamp} {r : Request}
    {route : Route} {ps : List String} {message : String} {rows ordered : List α}
    {json : α → Json} {page perPage : Int}
    (hsel : Route.select Api.routes r = .ok (route, ps)) (hp : 1 ≤ page) (hn : 1 ≤ perPage)
    (hsmall : perPage ≤ 200) (hperm : ordered.Perm rows)
    (hexec : (route.handle r ps).exec { store := s, saved := s, nextId := k, now := now } =
      (listingResult now message rows ordered json page perPage,
        { store := s, saved := s, nextId := k, now := now })) :
    Listed now message rows ordered json page perPage (serve Api.routes s k now r) s := by
  have hlen : ordered.length = rows.length := hperm.length_eq
  -- a positive page and size never give a negative offset
  have hlo : Txn.intRange.1 ≤ (page - 1) * perPage := by
    have h0 : 0 ≤ (page - 1) * perPage := Int.mul_nonneg (by omega) (by omega)
    simp only [Txn.intRange]
    omega
  have hslice := pageOf_getElem? ordered hp hn
  have hcover := pages_concat ordered hn
  have hbeyond := fun q => @pageOf_beyond _ ordered q perPage hn
  rw [hlen] at hcover hbeyond
  rw [serve_eq, Route.dispatch_eq_handle hsel, hexec]
  refine ⟨?keeps, hp, hn, hperm, ?shown, fun htop => Envelope.pageCount?_eq_pageCount hn hsmall htop,
    ?refused, hslice, hcover, hbeyond⟩
  case keeps =>
    -- every result, answer or failure, leaves the store it found
    cases listingResult now message rows ordered json page perPage <;> rfl
  case shown =>
    intro hfit
    unfold listingResult
    rw [if_pos ⟨hlo, hfit⟩]
    cases Envelope.pageCount? perPage rows.length with
    | none => exact .inr ⟨rfl, rfl⟩
    | some pages => exact .inl ⟨pages, rfl, rfl⟩
  case refused =>
    intro hout
    unfold listingResult
    rw [if_neg fun hfit => absurd hfit.2 (not_le.2 hout)]

/-! ## §3 — The listing handlers -/

/-- The orders a status filter selects: all of them without one. -/
def orderRows (s : Store) (status : Option String) : List Order :=
  s.orders.filter fun o => status.all (o.status == ·)

theorem listOrders_exec (r : Request) (ps : List String) (σ : Session) (u : User)
    (page perPage : Int) (status : Option String)
    (hu : Guard.decision σ.store r .staff = .ok u)
    (hp : Input.pageParam r "page" none 1 = .ok page)
    (hn : Input.pageParam r "per_page" (some 100) 20 = .ok perPage)
    (hs : Input.query? r "status" (Field.choice orderStatuses) = .ok status) :
    (Api.listOrders r ps).exec σ =
      (listingResult σ.now "Orders retrieved successfully" (orderRows σ.store status)
        (descendingBy (fun o => o.createdAt.wallSeconds) (orderRows σ.store status))
        (Orders.orderDetailJson σ.store) page perPage, σ) := by
  simp only [Api.listOrders, Guard.staff, Txn.exec_bind, Guard.require_exec, hu, hp, hn, hs]
  have hq : ((fun a b c => (a, b, c)) <$> Validated.ok page <*> Validated.ok perPage <*>
      Validated.ok status) = .ok (page, perPage, status) := rfl
  simp only [hq, Input.accept_ok_exec, Txn.exec_store, fitsColumn_exec]
  by_cases hfit : Txn.intRange.1 ≤ (page - 1) * perPage ∧ (page - 1) * perPage ≤ Txn.intRange.2
  · simp only [hfit, and_self, if_true, Reply.page_exec, listingResult]
    cases status with
    | none => simp [orderRows, pageOf]
    | some st => simp [orderRows, pageOf]
  · simp only [hfit, if_false, listingResult]

/-- The products a category filter selects: all of them without one or with an empty one. -/
def productRows (s : Store) (category : Option String) : List Product :=
  s.products.filter fun p => category.all fun c => c.isEmpty || p.categoryId == some c

theorem listProducts_exec (r : Request) (ps : List String) (σ : Session) (page perPage : Int)
    (category : Option String)
    (hp : Input.pageParam r "page" none 1 = .ok page)
    (hn : Input.pageParam r "per_page" (some 100) 10 = .ok perPage)
    (hc : Input.query? r "category_id" Field.text = .ok category) :
    (Api.listProducts r ps).exec σ =
      (listingResult σ.now "Products retrieved successfully" (productRows σ.store category)
        (byPositionName (·.position) (·.name) (productRows σ.store category))
        (Catalog.productJson σ.store) page perPage, σ) := by
  simp only [Api.listProducts, Txn.exec_bind, hp, hn, hc]
  have hq : ((fun a b c => (a, b, c)) <$> Validated.ok page <*> Validated.ok perPage <*>
      Validated.ok category) = .ok (page, perPage, category) := rfl
  simp only [hq, Input.accept_ok_exec, Txn.exec_store, fitsColumn_exec]
  by_cases hfit : Txn.intRange.1 ≤ (page - 1) * perPage ∧ (page - 1) * perPage ≤ Txn.intRange.2
  · simp only [hfit, and_self, if_true, Reply.page_exec, listingResult]
    -- the handler lets every product through an empty category, as it does without one
    cases category with
    | none => simp [productRows, pageOf]
    | some c => by_cases hc : c.isEmpty <;> simp [productRows, pageOf, hc]
  · simp only [hfit, if_false, listingResult]

/-- The table codes a store filter selects: all of them without one. -/
def qrRows (s : Store) (store : Option String) : List QrCode :=
  s.qrCodes.filter fun q => store.all (· == q.storeId)

theorem qrCodePage_exec (r : Request) (σ : Session) (u : User) (page perPage : Int)
    (store : Option String)
    (hu : Guard.decision σ.store r .staff = .ok u)
    (hp : Input.pageParam r "page" none 1 = .ok page)
    (hn : Input.pageParam r "per_page" (some 200) 20 = .ok perPage) :
    (Api.qrCodePage r store).exec σ =
      (listingResult σ.now "QR codes retrieved successfully" (qrRows σ.store store)
        (QrCode.listed (qrRows σ.store store)) QrCode.json page perPage, σ) := by
  simp only [Api.qrCodePage, Guard.staff, Txn.exec_bind, Guard.require_exec, hu, hp, hn]
  have hq : (Prod.mk <$> Validated.ok page <*> Validated.ok perPage) = .ok (page, perPage) := rfl
  simp only [hq, Input.accept_ok_exec, Txn.exec_store, fitsColumn_exec]
  by_cases hfit : Txn.intRange.1 ≤ (page - 1) * perPage ∧ (page - 1) * perPage ≤ Txn.intRange.2
  · simp only [hfit, and_self, if_true, Reply.page_exec, listingResult]
    rfl
  · simp only [hfit, if_false, listingResult]

/-- The log entries the level, entity and source filters select; an empty filter lets all
through, as an absent one does. -/
def logRows (s : Store) (level entity source : Option String) : List LogEntry :=
  s.logs.filter fun e =>
    Api.passes level e.level && Api.passes entity e.entity && Api.passes source e.source

/-- The log's order: newest first, entries of one time in the order they were written when an
entity is asked for and in the reverse order otherwise. -/
def logOrder (entity : Option String) (rows : List LogEntry) : List LogEntry :=
  descendingBy (·.timestamp.ordinal) (if entity.any (!·.isEmpty) then rows else rows.reverse)

theorem listLogs_exec (r : Request) (ps : List String) (σ : Session) (u : User)
    (page perPage : Int) (level entity source : Option String)
    (hu : Guard.decision σ.store r .admin = .ok u)
    (hp : Input.pageParam r "page" none 1 = .ok page)
    (hn : Input.pageParam r "per_page" (some 200) 20 = .ok perPage)
    (hl : Input.query? r "level" Field.text = .ok level)
    (he : Input.query? r "entity" Field.text = .ok entity)
    (hs : Input.query? r "source" Field.text = .ok source) :
    (Api.listLogs r ps).exec σ =
      (listingResult σ.now "Logs retrieved successfully" (logRows σ.store level entity source)
        (logOrder entity (logRows σ.store level entity source)) Api.logJson page perPage, σ) := by
  simp only [Api.listLogs, Guard.admin, Txn.exec_bind, Guard.require_exec, hu, hp, hn, hl, he,
    hs]
  have hq : ((fun a b c d e => (a, b, c, d, e)) <$> Validated.ok page <*> Validated.ok perPage <*>
      Validated.ok level <*> Validated.ok entity <*> Validated.ok source) =
      .ok (page, perPage, level, entity, source) := rfl
  simp only [hq, Input.accept_ok_exec, Txn.exec_store, fitsColumn_exec]
  by_cases hfit : Txn.intRange.1 ≤ (page - 1) * perPage ∧ (page - 1) * perPage ≤ Txn.intRange.2
  · simp only [hfit, and_self, if_true, Reply.page_exec, listingResult]
    cases entity <;> rfl
  · simp only [hfit, if_false, listingResult]

/-- The log's order is a permutation of the selected entries. -/
theorem logOrder_perm (entity : Option String) (rows : List LogEntry) :
    (logOrder entity rows).Perm rows := by
  unfold logOrder descendingBy
  split
  · exact List.mergeSort_perm _ _
  · exact (List.mergeSort_perm _ _).trans (List.reverse_perm rows)

/-! ## §4 — The listing routes -/

/-- **Paginated listings partition the filtered rows.** A request that reaches one of the five
listing routes, past its guard, with a page and a page size its query allows and its filters,
keeps the store. While the offset `(page - 1) · perPage` fits in 64 bits it answers the page:
`total_count` is the number of rows the filter selects, `total_pages` the ceiling of the double
nearest their ratio to `perPage`, which for at most `2^53` rows is `pageCount`; the page holds the
rows of the listing's order from the offset on, at most `perPage` of them, pages `1` to
`pageCount` are the ordered rows, a permutation of the selected ones, and a page past
`pageCount` is empty; past 64 bits it answers 500. -/
theorem paginated_listings_partition (s : Store) (k : Nat) (now : Stamp) (r : Request)
    (ps : List String) (page perPage : Int) :
    (Route.select Api.routes r = .ok (Route.of "GET" "/api/v1/orders" Api.listOrders, ps) →
      Guard.Passes s r .staff →
      Input.pageParam r "page" none 1 = .ok page →
      Input.pageParam r "per_page" (some 100) 20 = .ok perPage →
      ∀ status, Input.query? r "status" (Field.choice orderStatuses) = .ok status →
        Listed now "Orders retrieved successfully" (orderRows s status)
          (descendingBy (fun o => o.createdAt.wallSeconds) (orderRows s status))
          (Orders.orderDetailJson s) page perPage (serve Api.routes s k now r) s) ∧
    (Route.select Api.routes r = .ok (Route.of "GET" "/api/v1/products" Api.listProducts, ps) →
      Input.pageParam r "page" none 1 = .ok page →
      Input.pageParam r "per_page" (some 100) 10 = .ok perPage →
      ∀ category, Input.query? r "category_id" Field.text = .ok category →
        Listed now "Products retrieved successfully" (productRows s category)
          (byPositionName (·.position) (·.name) (productRows s category))
          (Catalog.productJson s) page perPage (serve Api.routes s k now r) s) ∧
    (Route.select Api.routes r = .ok (Route.of "GET" "/api/v1/qr-codes" Api.listQrCodes, ps) →
      Guard.Passes s r .staff →
      Input.pageParam r "page" none 1 = .ok page →
      Input.pageParam r "per_page" (some 200) 20 = .ok perPage →
        Listed now "QR codes retrieved successfully" (qrRows s none)
          (QrCode.listed (qrRows s none)) QrCode.json page perPage
          (serve Api.routes s k now r) s) ∧
    (Route.select Api.routes r = .ok
        (Route.of "GET" "/api/v1/qr-codes/store/\x7bstore_id\x7d" Api.listStoreQrCodes, ps) →
      Guard.Passes s r .staff →
      Input.pageParam r "page" none 1 = .ok page →
      Input.pageParam r "per_page" (some 200) 20 = .ok perPage →
        Listed now "QR codes retrieved successfully" (qrRows s (some (Route.param ps)))
          (QrCode.listed (qrRows s (some (Route.param ps)))) QrCode.json page perPage
          (serve Api.routes s k now r) s) ∧
    (Route.select Api.routes r = .ok (Route.of "GET" "/api/v1/logs" Api.listLogs, ps) →
      Guard.Passes s r .admin →
      Input.pageParam r "page" none 1 = .ok page →
      Input.pageParam r "per_page" (some 200) 20 = .ok perPage →
      ∀ level entity source, Input.query? r "level" Field.text = .ok level →
        Input.query? r "entity" Field.text = .ok entity →
        Input.query? r "source" Field.text = .ok source →
        Listed now "Logs retrieved successfully" (logRows s level entity source)
          (logOrder entity (logRows s level entity source)) Api.logJson page perPage
          (serve Api.routes s k now r) s) := by
  refine ⟨?orders, ?products, ?codes, ?storeCodes, ?logs⟩
  case orders =>
    rintro hsel ⟨u, hu⟩ hp hn status hs
    obtain ⟨hn1, hn200⟩ := Input.perPage_bounds hn (by decide) (by decide) (by decide)
    exact Listed.of_exec hsel (Input.page_pos hp) hn1 hn200
      (List.mergeSort_perm _ _)
      (listOrders_exec r ps _ u page perPage status (Guard.decision_eq_ok.2 hu) hp hn hs)
  case products =>
    intro hsel hp hn category hc
    obtain ⟨hn1, hn200⟩ := Input.perPage_bounds hn (by decide) (by decide) (by decide)
    exact Listed.of_exec hsel (Input.page_pos hp) hn1 hn200
      (List.mergeSort_perm _ _) (listProducts_exec r ps _ page perPage category hp hn hc)
  case codes =>
    rintro hsel ⟨u, hu⟩ hp hn
    obtain ⟨hn1, hn200⟩ := Input.perPage_bounds hn (by decide) (by decide) (by decide)
    exact Listed.of_exec hsel (Input.page_pos hp) hn1 hn200
      (List.mergeSort_perm _ _)
      (qrCodePage_exec r _ u page perPage none (Guard.decision_eq_ok.2 hu) hp hn)
  case storeCodes =>
    rintro hsel ⟨u, hu⟩ hp hn
    obtain ⟨hn1, hn200⟩ := Input.perPage_bounds hn (by decide) (by decide) (by decide)
    exact Listed.of_exec hsel (Input.page_pos hp) hn1 hn200
      (List.mergeSort_perm _ _)
      (qrCodePage_exec r _ u page perPage (some (Route.param ps)) (Guard.decision_eq_ok.2 hu)
        hp hn)
  case logs =>
    rintro hsel ⟨u, hu⟩ hp hn level entity source hl he hs
    obtain ⟨hn1, hn200⟩ := Input.perPage_bounds hn (by decide) (by decide) (by decide)
    exact Listed.of_exec hsel (Input.page_pos hp) hn1 hn200
      (logOrder_perm entity _)
      (listLogs_exec r ps _ u page perPage level entity source (Guard.decision_eq_ok.2 hu) hp hn
        hl he hs)

/-- The third page of the products, one to a page. -/
def thirdProductPage : Request :=
  { method := "GET", path := "/api/v1/products", headers := [],
    query := [("page", "3"), ("per_page", "1")], body := .empty, storageFails := false, clock := 0 }

/-- A drink of the category `c1` at 25, at a position of the menu. -/
def drinkAt (id name : String) (position : Int) : Product :=
  { id := id, categoryId := some "c1", name := name, description := none, imageUrl := none,
    basePrice := Binary64.ofDecimal false 25 0, isAvailable := true, position := position }

/-- Three drinks, stored out of the menu's order. -/
def threeDrinks : Store :=
  { categories := [{ id := "c1", name := "Drinks", isActive := true, position := 0 }],
    products := [drinkAt "p2" "Coffee" 1, drinkAt "p3" "Juice" 2, drinkAt "p1" "Tea" 0] }

theorem third_product_page_listed :
    Route.select Api.routes thirdProductPage =
        .ok (Route.of "GET" "/api/v1/products" Api.listProducts, []) ∧
      Listed (Stamp.ofEpoch 60) "Products retrieved successfully" (productRows threeDrinks none)
        (byPositionName (·.position) (·.name) (productRows threeDrinks none))
        (Catalog.productJson threeDrinks) 3 1
        (serve Api.routes threeDrinks 0 (Stamp.ofEpoch 60) thirdProductPage) threeDrinks :=
  ⟨rfl, (paginated_listings_partition threeDrinks 0 (Stamp.ofEpoch 60) thirdProductPage [] 3
    1).2.1 rfl rfl rfl none rfl⟩

/-- A page of the products far past the last, one to a page: its offset is `2 ^ 63`. -/
def farProductsPage : Request :=
  { method := "GET", path := "/api/v1/products", headers := [],
    query := [("page", "9223372036854775809"), ("per_page", "1")], body := .empty,
    storageFails := false, clock := 0 }

/-- **A page whose offset leaves the 64-bit range fails**: on an empty catalogue, where every
page is past the last, the page `2 ^ 63 + 1` of one product a page answers the 500 of a failed
query instead of an empty page. -/
theorem far_products_page_fails :
    (serve Api.routes {} 0 (Stamp.ofEpoch 60) farProductsPage).store = {} ∧
      (serve Api.routes {} 0 (Stamp.ofEpoch 60) farProductsPage).response =
        Route.faultResponse (Stamp.ofEpoch 60) .internal ∧
      (serve Api.routes {} 0 (Stamp.ofEpoch 60) farProductsPage).response.status = 500 := by
  have hp : Input.pageParam farProductsPage "page" none 1 = .ok 9223372036854775809 := rfl
  have hn : Input.pageParam farProductsPage "per_page" (some 100) 10 = .ok 1 := rfl
  have hlisted : Listed (Stamp.ofEpoch 60) "Products retrieved successfully"
      (productRows {} none) (byPositionName (·.position) (·.name) (productRows {} none))
      (Catalog.productJson {}) 9223372036854775809 1
      (serve Api.routes {} 0 (Stamp.ofEpoch 60) farProductsPage) {} :=
    Listed.of_exec rfl (by decide) (by decide) (by decide) (List.mergeSort_perm _ _)
      (listProducts_exec farProductsPage [] _ _ _ none hp hn rfl)
  have hresp := hlisted.refused (by simp [Txn.intRange])
  exact ⟨hlisted.keeps, hresp, by rw [hresp]; rfl⟩

end Bistro
