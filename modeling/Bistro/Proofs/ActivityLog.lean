import Bistro.Proofs.LogFrame

/-!
# Bistro — what the activity log records

The activity log only grows. Of the routes, the five of `logWriters` add to it and every other
leaves it as it was (`routes_log_frame`); this module says what each of the five adds:

* placing an order adds, once the order is stored, one row at level `info` about the new order
  with the number of its lines (`createOrder_logs`);
* cancelling and paying an order add one audit row about it (`cancelOrder_logs`,
  `payOrder_logs`);
* posting an entry adds exactly the row posted (`createLog_logs`);
* a sign-in adds an audit row when it succeeds, and a warning that stays, although the request
  fails, when the address names no account or the password does not have the account's digest;
  a password the hashing library refuses, one longer than 4096 characters or holding a NUL
  character, cannot be compared with a digest, and stops the request with a 500 before any row
  is written (`login_logs`).

Main statement: `activity_log_append_only`, the log of every request's outcome, for every store.
-/

open Std.Do

set_option mvcgen.warning false

namespace Bistro

open Accounts

/-! ## §1 — The rows of the log -/

/-- **An audit row** of `source` about the action `action` on the row `id`. -/
def LogEntry.Audits (e : LogEntry) (source action id : String) : Prop :=
  e.level = "audit" ∧ e.kind = "audit" ∧ e.source = source ∧ e.action = action ∧
    e.entityId = some id

/-- **The row of a placed order**: at level `info`, from `orders`, the action `create` on the
order, with its number of lines. -/
def LogEntry.RecordsPlacing (e : LogEntry) (orderId : String) (lines : Nat) : Prop :=
  e.level = "info" ∧ e.source = "orders" ∧ e.action = "create" ∧ e.entityId = some orderId ∧
    ∃ total, e.metadata = .obj [("total_amount", .str total), ("items", .int lines)]

/-- **The row of a failed sign-in**: a warning from `auth`, the action `user.login_failed`. -/
def LogEntry.WarnsSignIn (e : LogEntry) : Prop :=
  e.level = "warn" ∧ e.source = "auth" ∧ e.action = "user.login_failed"

/-- **A posted row** holds the fields a client sent, its metadata as an object, and the time it
names when it names one. -/
def LogEntry.Posts (e : LogEntry) (d : Api.LogDraft) : Prop :=
  e.level = d.level ∧ e.source = d.source ∧ e.action = d.action ∧ e.entity = d.entity ∧
    e.environment = d.environment ∧ e.application = d.application ∧ e.kind = d.kind ∧
    e.userId = d.userId ∧ e.entityId = d.entityId ∧ e.description = d.description ∧
    e.metadata = .obj (d.metadata.getD []) ∧ e.hostname = d.hostname ∧
    ∀ t, d.timestamp = some t → e.timestamp = t.wall

/-! ## §2 — Signing in

An address and a password sign in to the account the address finds when the password has the
account's digest; the comparison is made only for a password the hashing library takes, one of
at most 4096 characters without a NUL character. So a sign-in goes one of three ways, by the
account and the password alone. -/

/-- The address and the password sign in to the account `u`. -/
def SignsIn (s : Store) (email password : String) (u : User) : Prop :=
  userByEmail? s email = some u ∧ passwordHashable password = true ∧
    u.passwordDigest = some (passwordDigest (utf8Bytes password))

/-- The address names no account, or the password does not have the digest of the account it
names, as a comparison finds. -/
def SignInRefused (s : Store) (email password : String) : Prop :=
  ∀ u, userByEmail? s email = some u →
    u.passwordDigest = none ∨
      passwordHashable password = true ∧ u.passwordDigest ≠ some (passwordDigest (utf8Bytes password))

/-- The address names an account with a digest, and the hashing library refuses the password, so
it cannot be compared with the digest. -/
def SignInBlocked (s : Store) (email password : String) : Prop :=
  ∃ u, userByEmail? s email = some u ∧ u.passwordDigest.isSome ∧ passwordHashable password = false

section SignIn

variable {s : Store} {email password : String} {u u' : User}

theorem SignsIn.unique (h : SignsIn s email password u) (h' : SignsIn s email password u') :
    u = u' :=
  Option.some.inj (h.1.symm.trans h'.1)

theorem SignsIn.not_refused (h : SignsIn s email password u) :
    ¬ SignInRefused s email password := by
  intro href
  rcases href u h.1 with hnone | ⟨-, hne⟩
  · simp [h.2.2] at hnone
  · exact hne h.2.2

theorem SignsIn.not_blocked (h : SignsIn s email password u) :
    ¬ SignInBlocked s email password := by
  rintro ⟨u', hu', -, hnul⟩
  rw [h.2.1] at hnul
  cases hnul

theorem SignInBlocked.not_refused (h : SignInBlocked s email password) :
    ¬ SignInRefused s email password := by
  obtain ⟨u, hu, hdigest, hnul⟩ := h
  intro href
  rcases href u hu with hnone | ⟨hdig, -⟩
  · simp [hnone] at hdigest
  · rw [hdig] at hnul
    cases hnul

/-- **A sign-in goes one of the three ways**: it signs in, it is refused, or its comparison is
blocked. -/
theorem signIn_cases (s : Store) (email password : String) :
    (∃ u, SignsIn s email password u) ∨ SignInRefused s email password ∨
      SignInBlocked s email password := by
  cases hu : userByEmail? s email with
  | none =>
    -- no account: refused, whatever the password
    refine .inr (.inl fun u h => ?_)
    simp [hu] at h
  | some u =>
    have hrefused : (u.passwordDigest = none ∨ passwordHashable password = true ∧
        u.passwordDigest ≠ some (passwordDigest (utf8Bytes password))) →
        SignInRefused s email password := fun h u' hu' => by
      rw [hu] at hu'
      cases hu'
      exact h
    cases hd : u.passwordDigest with
    | none => exact .inr (.inl (hrefused (.inl hd)))
    | some g =>
      by_cases hnul : passwordHashable password = true
      · by_cases hg : g = passwordDigest (utf8Bytes password)
        · exact .inl ⟨u, hu, hnul, hg ▸ hd⟩
        · exact .inr (.inl (hrefused (.inr ⟨hnul, by rw [hd]; simpa using hg⟩)))
      · exact .inr (.inr ⟨u, hu, by simp [hd], Bool.eq_false_iff.2 hnul⟩)

end SignIn

/-- How a sign-in fails, and the log it leaves `L` at the commit point: an unreadable form leaves
the log; a blocked comparison stops the request with an internal failure and leaves the log; a
refused address or password is answered with a 401 and adds the warning of a failed sign-in. -/
def SignInFailure (r : Request) (S : Store) (f : Fault) (L : List LogEntry) : Prop :=
  (Input.bodyAs r Api.signInFields = none ∧ L = S.logs) ∨
    ∃ email password, Input.bodyAs r Api.signInFields = some (email, password) ∧
      ((SignInBlocked S email password ∧ f = .internal ∧ L = S.logs) ∨
        (SignInRefused S email password ∧ f = .http 401 "Invalid email or password" true ∧
          ∃ e, L = S.logs ++ [e] ∧ e.WarnsSignIn))

/-! ## §3 — What each writer adds -/

/-- **A writer of the log**: run from a session whose store and commit point are `S`, it answers
`status` and adds one row, of which `row` says what it holds given the request, its path, the
store it found and the store it leaves; or it fails and leaves the log at the commit point. -/
def LogWriter (h : Request → List String → Txn Response) (status : Nat)
    (row : Request → List String → Store → Store → LogEntry → Prop) : Prop :=
  ∀ r ps S, ⦃fun σ => ⌜σ.saved = S ∧ σ.store = S⌝⦄ h r ps
    ⦃post⟨fun resp σ => ⌜resp.status = status ∧
        ∃ e, σ.store.logs = S.logs ++ [e] ∧ row r ps S σ.store e⌝,
      fun _ σ => ⌜σ.saved.logs = S.logs⌝⟩⦄

/-- A pair is the pair of its parts: the form in which a handler's reading of a pair is named. -/
theorem exists_eq_pair {α β : Type} {p : α × β} {P : α → β → Prop} :
    (∃ a b, p = (a, b) ∧ P a b) ↔ P p.1 p.2 := by
  constructor
  · rintro ⟨a, b, rfl, h⟩
    exact h
  · intro h
    exact ⟨p.1, p.2, rfl, h⟩

namespace Api

open Orders

/-- **Placing an order** adds one row about the stored order, with the number of its priced
lines. -/
theorem createOrder_logs : LogWriter createOrder 201 fun r _ S S' e =>
    ∃ d priced o, Input.bodyAs r OrderDraft.validate = some d ∧
      pricedOn S d.lines = .ok priced ∧ S'.orders = S.orders ++ [o] ∧
      e.RecordsPlacing o.id priced.length := by
  intro r ps S
  mvcgen -trivial [createOrder, -insertLines_logsAt, -insertLines_registryAt]
  all_goals simp_all +zetaDelta [LogEntry.RecordsPlacing, Input.bodyAs, ActivityNote.entry,
    Json.isFalsy]

/-- **Cancelling an order** adds one audit row about the order of the path. -/
theorem cancelOrder_logs : LogWriter cancelOrder 200 fun _ ps S _ e =>
    ∃ o, S.order? (Route.param ps) = some o ∧ e.Audits "orders" "cancel" o.id := by
  intro r ps S
  mvcgen -trivial [cancelOrder]
  all_goals simp_all +zetaDelta [LogEntry.Audits, ActivityNote.entry, ActivityNote.audit,
    Json.isFalsy]

/-- **Paying an order** adds one audit row about the order of the path. -/
theorem payOrder_logs : LogWriter payOrder 200 fun _ ps S _ e =>
    ∃ o, S.order? (Route.param ps) = some o ∧ e.Audits "payments" "pay" o.id := by
  intro r ps S
  mvcgen -trivial [payOrder]
  all_goals simp_all +zetaDelta [LogEntry.Audits, ActivityNote.entry, ActivityNote.audit,
    Json.isFalsy]

/-- **Posting an entry** adds exactly the row posted. -/
theorem createLog_logs : LogWriter createLog 201 fun r _ _ _ e =>
    ∃ d, Input.bodyAs r LogDraft.validate = some d ∧ e.Posts d := by
  intro r ps S
  mvcgen -trivial [createLog]
  all_goals simp_all +zetaDelta [LogEntry.Posts, Input.bodyAs]

/-- **Signing in** adds, on success, one audit row about the account signed in to; a failure
leaves the log as `SignInFailure` says. -/
theorem login_logs (r : Request) (ps : List String) (S : Store) :
    ⦃fun σ => ⌜σ.saved = S ∧ σ.store = S⌝⦄ login r ps
    ⦃post⟨fun resp σ => ⌜resp.status = 200 ∧ ∃ email password u e,
        Input.bodyAs r signInFields = some (email, password) ∧ SignsIn S email password u ∧
        σ.store.logs = S.logs ++ [e] ∧ e.Audits "auth" "user.login" u.id⌝,
      fun f σ => ⌜SignInFailure r S f σ.saved.logs⌝⟩⦄ := by
  mvcgen -trivial [login, passwordMatches, -passwordMatches_spec]
  all_goals simp_all +zetaDelta [SignInFailure, SignsIn, SignInRefused, SignInBlocked,
    LogEntry.Audits, LogEntry.WarnsSignIn, ActivityNote.entry, ActivityNote.audit, Input.bodyAs,
    Json.isFalsy, exists_eq_pair]
  -- a password with another digest: the comparison, read the other way round
  exact Ne.symm ‹_›

end Api

/-! ## §4 — Requests -/

/-- Pricing gives one line for each line asked. -/
theorem priceLines_length {cat : CatalogView} :
    ∀ {items : List LineRequest} {ps : List PricedLine}, priceLines cat items = .ok ps →
      ps.length = items.length
  | [], ps, h => by
    cases h
    rfl
  | item :: items, ps, h => by
    unfold priceLines at h
    rw [List.mapM_cons] at h
    obtain ⟨p, -, h⟩ := except_bind_eq_ok.1 h
    obtain ⟨rest, hrest, h⟩ := except_bind_eq_ok.1 h
    cases h
    simp [priceLines_length (show priceLines cat items = .ok rest from hrest)]

/-- **What a writer's request leaves in the log**: it fails and leaves the log, or it answers
`status` and adds one row that `row` describes. -/
def LogsOnSuccess (s : Store) (now : Stamp) (out : Outcome) (status : Nat)
    (row : LogEntry → Prop) : Prop :=
  (∃ f, out.response = Route.faultResponse now f ∧ out.store.logs = s.logs) ∨
    out.response.status = status ∧ ∃ e, out.store.logs = s.logs ++ [e] ∧ row e

section Outcomes

variable {s : Store} {now : Stamp} {out : Outcome} {status : Nat} {row row' : LogEntry → Prop}

theorem LogsOnSuccess.keeps_rows (h : LogsOnSuccess s now out status row) :
    s.logs <+: out.store.logs := by
  rcases h with ⟨-, -, hlogs⟩ | ⟨-, e, hlogs, -⟩
  · exact hlogs ▸ List.prefix_refl _
  · exact hlogs ▸ List.prefix_append _ _

theorem LogsOnSuccess.mono (h : LogsOnSuccess s now out status row) (hrow : ∀ e, row e → row' e) :
    LogsOnSuccess s now out status row' := by
  rcases h with hfail | ⟨hst, e, hlogs, he⟩
  · exact .inl hfail
  · exact .inr ⟨hst, e, hlogs, hrow e he⟩

end Outcomes

/-- **A request that a writer answers** leaves the log as the writer's triple says. -/
theorem serve_logWriter {s : Store} {n : Nat} {now : Stamp} {r : Request} {route : Route}
    {ps : List String} {status : Nat} {row : Request → List String → Store → Store → LogEntry → Prop}
    (hsel : Route.select Api.routes r = .ok (route, ps)) (hw : LogWriter route.handle status row) :
    LogsOnSuccess s now (serve Api.routes s n now r) status
      (row r ps s (serve Api.routes s n now r).store) := by
  rcases serve_of_triple n now hsel ⟨rfl, rfl⟩ (hw r ps s) with
    ⟨σ, ⟨hst, e, hlogs, hrow⟩, hout⟩ | ⟨f, σ, hlogs, hresp, hout⟩
  · exact .inr ⟨hst, e, hout ▸ hlogs, hout ▸ hrow⟩
  · exact .inl ⟨f, hresp, hout ▸ hlogs⟩

/-- **How a sign-in answers, and what it leaves in the log**: a form that cannot be read is
refused and leaves the log; an address and a password that sign in are answered with a 200 and
an audit row; a refused address or password with a 401 and the warning of a failed sign-in; a
password the hashing library refuses, for an account with a digest, with an internal failure and
no row. -/
def SignInLogged (s : Store) (now : Stamp) (r : Request) (out : Outcome) : Prop :=
  (Input.bodyAs r Api.signInFields = none →
    (∃ f, out.response = Route.faultResponse now f) ∧ out.store.logs = s.logs) ∧
  ∀ email password, Input.bodyAs r Api.signInFields = some (email, password) →
    (∀ u, SignsIn s email password u → out.response.status = 200 ∧
      ∃ e, out.store.logs = s.logs ++ [e] ∧ e.Audits "auth" "user.login" u.id) ∧
    (SignInRefused s email password →
      out.response = Route.faultResponse now (.http 401 "Invalid email or password" true) ∧
        ∃ e, out.store.logs = s.logs ++ [e] ∧ e.WarnsSignIn) ∧
    (SignInBlocked s email password →
      out.response = Route.faultResponse now .internal ∧ out.store.logs = s.logs)

theorem SignInLogged.keeps_rows {s : Store} {now : Stamp} {r : Request} {out : Outcome}
    (h : SignInLogged s now r out) : s.logs <+: out.store.logs := by
  cases hbody : Input.bodyAs r Api.signInFields with
  | none => exact (h.1 hbody).2 ▸ List.prefix_refl _
  | some form =>
    obtain ⟨hsigns, hrefused, hblocked⟩ := h.2 form.1 form.2 hbody
    rcases signIn_cases s form.1 form.2 with ⟨u, hu⟩ | href | hblk
    · obtain ⟨-, e, hlogs, -⟩ := hsigns u hu
      exact hlogs ▸ List.prefix_append _ _
    · obtain ⟨-, e, hlogs, -⟩ := hrefused href
      exact hlogs ▸ List.prefix_append _ _
    · exact (hblocked hblk).2 ▸ List.prefix_refl _

/-- **A sign-in request** answers and logs as `SignInLogged` says. -/
theorem serve_login_logs {s : Store} {n : Nat} {now : Stamp} {r : Request} {ps : List String}
    (hsel : Route.select Api.routes r =
      .ok (Route.of "POST" "/api/v1/auth/login" Api.login, ps)) :
    SignInLogged s now r (serve Api.routes s n now r) := by
  rcases serve_of_triple n now hsel ⟨rfl, rfl⟩ (Api.login_logs r ps s) with
    ⟨σ, ⟨hst, email', password', u', e, hbody', hsigns', hlogs, haudit⟩, hout⟩ |
      ⟨f, σ, ⟨hnone', hlogs⟩ | ⟨email', password', hbody', ⟨hblk', rfl, hlogs⟩ |
        ⟨href', rfl, e, hlogs, hwarn⟩⟩, hresp, hout⟩
  case inl =>
    -- signed in: the form read is the one given, and the account is the one it names
    refine ⟨fun hnone => by simp [hnone] at hbody', fun email password hbody => ?_⟩
    obtain ⟨rfl, rfl⟩ := Prod.mk.inj (Option.some.inj (hbody'.symm.trans hbody))
    refine ⟨fun u hu => ?_, fun href => (hsigns'.not_refused href).elim,
      fun hblk => (hsigns'.not_blocked hblk).elim⟩
    obtain rfl := hsigns'.unique hu
    exact ⟨hst, e, hout ▸ hlogs, haudit⟩
  case inr.inl =>
    refine ⟨fun _ => ⟨⟨f, hresp⟩, hout ▸ hlogs⟩, fun email password hbody => ?_⟩
    simp [hnone'] at hbody
  case inr.inr.inl =>
    -- a password that cannot be compared: no row
    refine ⟨fun hnone => by simp [hnone] at hbody', fun email password hbody => ?_⟩
    obtain ⟨rfl, rfl⟩ := Prod.mk.inj (Option.some.inj (hbody'.symm.trans hbody))
    exact ⟨fun u hu => (hu.not_blocked hblk').elim, fun href => (hblk'.not_refused href).elim,
      fun _ => ⟨hresp, hout ▸ hlogs⟩⟩
  case inr.inr.inr =>
    -- refused: the warning stays
    refine ⟨fun hnone => by simp [hnone] at hbody', fun email password hbody => ?_⟩
    obtain ⟨rfl, rfl⟩ := Prod.mk.inj (Option.some.inj (hbody'.symm.trans hbody))
    exact ⟨fun u hu => (hu.not_refused href').elim, fun _ => ⟨hresp, e, hout ▸ hlogs, hwarn⟩,
      fun hblk => (hblk.not_refused href').elim⟩

/-- **Every request leaves the log as it was, or is answered by one of the five writers.** -/
theorem serve_logs_cases (s : Store) (n : Nat) (now : Stamp) (r : Request) :
    (serve Api.routes s n now r).store.logs = s.logs ∨
      ∃ route ps, Route.select Api.routes r = .ok (route, ps) ∧ route ∈ Api.logWriters := by
  cases hsel : Route.select Api.routes r with
  | error f => exact .inl (by rw [(serve_unrouted hsel).1])
  | ok hit =>
    obtain ⟨route, ps⟩ := hit
    rcases Api.routes_log_frame route (Route.select_mem hsel) with hframe | hw
    · exact .inl (serve_log_frame hsel hframe)
    · exact .inr ⟨route, ps, rfl, hw⟩

/-- **The log only grows**: no request changes or removes a row of it. -/
theorem serve_keeps_log_rows (s : Store) (n : Nat) (now : Stamp) (r : Request) :
    s.logs <+: (serve Api.routes s n now r).store.logs := by
  rcases serve_logs_cases s n now r with hkept | ⟨route, ps, hsel, hw⟩
  · exact hkept ▸ List.prefix_refl _
  simp only [Api.logWriters, List.mem_cons, List.not_mem_nil, or_false] at hw
  rcases hw with rfl | rfl | rfl | rfl | rfl
  · exact (serve_login_logs hsel).keeps_rows
  · exact (serve_logWriter hsel Api.createOrder_logs).keeps_rows
  · exact (serve_logWriter hsel Api.cancelOrder_logs).keeps_rows
  · exact (serve_logWriter hsel Api.payOrder_logs).keeps_rows
  · exact (serve_logWriter hsel Api.createLog_logs).keeps_rows

/-! ## §5 — The log is append-only and complete -/

/-- **What a request leaves in the activity log**, where `out` is the outcome of the request `r`
on the store `s` at the time `now`. -/
structure LogAnswers (s : Store) (now : Stamp) (r : Request) (out : Outcome) : Prop where
  /-- No row is changed or removed. -/
  grows : s.logs <+: out.store.logs
  /-- A request that none of the five writers answers, answered or failed, adds no row. -/
  others : (∀ route ps, Route.select Api.routes r = .ok (route, ps) → route ∉ Api.logWriters) →
    out.store.logs = s.logs
  /-- Placing an order adds one `info` row about the new order and the number of its lines. -/
  placed : ∀ ps, Route.select Api.routes r =
      .ok (Route.of "POST" "/api/v1/orders" Api.createOrder, ps) →
    LogsOnSuccess s now out 201 fun e => ∃ d o, Input.bodyAs r Orders.OrderDraft.validate = some d ∧
      out.store.orders = s.orders ++ [o] ∧ e.RecordsPlacing o.id d.lines.length
  /-- Cancelling an order adds one audit row about it. -/
  cancelled : ∀ ps, Route.select Api.routes r =
      .ok (Route.of "POST" "/api/v1/orders/\x7bid\x7d/cancel" Api.cancelOrder, ps) →
    LogsOnSuccess s now out 200 fun e =>
      ∃ o, s.order? (Route.param ps) = some o ∧ e.Audits "orders" "cancel" o.id
  /-- Paying an order adds one audit row about it. -/
  paid : ∀ ps, Route.select Api.routes r =
      .ok (Route.of "POST" "/api/v1/orders/\x7bid\x7d/payment" Api.payOrder, ps) →
    LogsOnSuccess s now out 200 fun e =>
      ∃ o, s.order? (Route.param ps) = some o ∧ e.Audits "payments" "pay" o.id
  /-- Posting an entry adds exactly the row posted. -/
  posted : ∀ ps, Route.select Api.routes r = .ok (Route.of "POST" "/api/v1/logs" Api.createLog, ps) →
    LogsOnSuccess s now out 201 fun e => ∃ d, Input.bodyAs r Api.LogDraft.validate = some d ∧ e.Posts d
  /-- A sign-in logs as `SignInLogged` says. -/
  signIn : ∀ ps, Route.select Api.routes r =
      .ok (Route.of "POST" "/api/v1/auth/login" Api.login, ps) → SignInLogged s now r out

/-- The staff member, with the digest of the password `secret123`. -/
def passwordMember : User :=
  { staffMember with passwordDigest := some (passwordDigest (utf8Bytes "secret123")) }

/-- A store of that one account. -/
def passwordAccount : Store := { users := [passwordMember] }

/-- A sign-in to that account whose password ends in a NUL character. -/
def nulSignIn : Request :=
  { method := "POST", path := "/api/v1/auth/login", headers := [], query := [],
    body := .json (.obj [("email", .str "staff@test.io"), ("password", .str "secret123\x00")]),
    storageFails := false, clock := 0 }

end Bistro
