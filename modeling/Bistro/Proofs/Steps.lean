import Mathlib
import Bistro.Api.Routes

/-!
# Bistro — the steps of a request as triples

A step `Txn α` of a request runs on a session. This module reads such runs through the Hoare
triples of `Std.Do`:

* `Txn.exec` is the run of a step from one session, and `Txn.Outcome` is what a pair of
  post-conditions, one for an answer and one for a failure, asks of that run;
* `Txn.wp_apply` computes the weakest precondition of any step from its run, so that
  `Txn.triple_iff` turns a triple into a fact about every run and back.

The primitive steps (fresh identifiers, the clock, reads and writes of the store, the commit point,
the refusals and the answers, the body of a request and the lookup of a row by its id) are
registered with `spec`, so that `mvcgen` runs through them exactly. A step that decides on the
session without writing gets, through `Txn.spec_of_exec`, the triple of its decision, so that no
proof about a handler opens it again.

Last, `serve_eq` reads the outcome of a request off the run of the route that answers it, and
`respond_as_serve` says that the cross-origin layer in front of the routes changes nothing.
-/

open Std.Do

set_option mvcgen.warning false

namespace Bistro

namespace Txn

/-! ## Runs and triples -/

/-- The result of a step and the session it leaves, run from `σ`. -/
def exec {α : Type} (t : Txn α) (σ : Session) : Except Fault α × Session := t.run.run σ

/-- What the post-conditions `ok` and `err` ask of a run. -/
def Outcome {α : Type} (ok : α → Session → Prop) (err : Fault → Session → Prop) :
    Except Fault α × Session → Prop
  | (.ok a, σ) => ok a σ
  | (.error e, σ) => err e σ

/-- **The weakest precondition of a step** is its post-condition taken at the end of its run. -/
theorem wp_apply {α : Type} (t : Txn α) (Q : PostCond α (.except Fault (.arg Session .pure)))
    (σ : Session) :
    wp⟦t⟧ Q σ = match t.exec σ with
      | (.ok a, σ') => Q.1 a σ'
      | (.error e, σ') => Q.2.1 e σ' := by
  simp only [exec, wp, PredTrans.pushExcept, PredTrans.pushArg, PredTrans.apply, StateT.run]
  generalize ExceptT.run t σ = x
  rcases x with ⟨res, σ'⟩
  cases res <;> rfl

/-- **Triples are facts about runs**: a step meets a pre-condition and two post-conditions when
every run from a session that meets the first ends in one that meets the others. -/
theorem triple_iff {α : Type} {t : Txn α} {P : Session → Prop} {ok : α → Session → Prop}
    {err : Fault → Session → Prop} :
    ⦃fun σ => ⌜P σ⌝⦄ t ⦃post⟨fun a σ => ⌜ok a σ⌝, fun e σ => ⌜err e σ⌝⟩⦄ ↔
      ∀ σ, P σ → Outcome ok err (t.exec σ) := by
  simp only [Triple, SPred.entails_cons, wp_apply]
  refine forall_congr' fun σ => ?_
  rcases t.exec σ with ⟨res, σ'⟩
  cases res <;> simp [Outcome]

@[simp] theorem exec_pure {α : Type} (a : α) (σ : Session) : (pure a : Txn α).exec σ = (.ok a, σ) :=
  rfl

@[simp] theorem exec_throw {α : Type} (f : Fault) (σ : Session) :
    (throw f : Txn α).exec σ = (.error f, σ) :=
  rfl

/-- Reading the store reads it from the session, which stays as it is. -/
@[simp] theorem exec_store (σ : Session) : Txn.store.exec σ = (.ok σ.store, σ) :=
  rfl

/-- A run of `x >>= f` is a run of `x`, then, when it answers, a run of `f` on its answer. -/
theorem exec_bind {α β : Type} (x : Txn α) (f : α → Txn β) (σ : Session) :
    (x >>= f).exec σ = match x.exec σ with
      | (.ok a, σ') => (f a).exec σ'
      | (.error e, σ') => (.error e, σ') := by
  simp only [exec, ExceptT.run_bind, StateT.run_bind]
  rcases (ExceptT.run x).run σ with ⟨res, σ'⟩
  cases res <;> rfl

/-- A step that a failure of `x` stops fails the same way. -/
theorem exec_bind_error {α β : Type} {x : Txn α} {σ σ' : Session} {e : Fault}
    (h : x.exec σ = (.error e, σ')) (f : α → Txn β) : (x >>= f).exec σ = (.error e, σ') := by
  rw [exec_bind, h]

/-- A step after an answer of `x` runs from where `x` left the session. -/
theorem exec_bind_ok {α β : Type} {x : Txn α} {σ σ' : Session} {a : α}
    (h : x.exec σ = (.ok a, σ')) (f : α → Txn β) : (x >>= f).exec σ = (f a).exec σ' := by
  rw [exec_bind, h]

/-! ## Steps that only read the session -/

/-- A step that leaves the session as it found it, whatever it answers. -/
def Reads {α : Type} (t : Txn α) : Prop := ∀ σ, (t.exec σ).2 = σ

/-- A decision as a step: its answer, or its failure. -/
def ofExcept {α : Type} : Except Fault α → Txn α
  | .ok a => pure a
  | .error f => throw f

@[simp] theorem exec_ofExcept {α : Type} (e : Except Fault α) (σ : Session) :
    (ofExcept e).exec σ = (e, σ) := by
  cases e <;> rfl

/-- **A step that decides on the session without writing** has, for `mvcgen`, the triple of its
decision: whatever the post-condition asks of that decision's answer or failure, taken at the
session the step started from. -/
theorem spec_of_exec {α : Type} {t : Txn α} {e : Session → Except Fault α}
    (h : ∀ σ, t.exec σ = (e σ, σ)) (Q : PostCond α (.except Fault (.arg Session .pure))) :
    ⦃fun σ => wp⟦ofExcept (e σ)⟧ Q σ⦄ t ⦃Q⦄ := by
  simp only [Triple, SPred.entails_cons, wp_apply, h, exec_ofExcept]
  intro σ
  exact SPred.entails.refl _

/-! ## Steps that keep a part of the store

A frame of a step names a part of the store, such as one of its tables, that the step leaves
alone: `KeepsPart part t` says it of every run, and `PartAt part t` is the same as a triple, in
the form `mvcgen` takes for a shared step. Both also keep the commit point and let the counter of
fresh identifiers only move on, and both pass through sequencing and loops. -/

/-- A step that keeps the commit point and the part `part` of the store, and only moves the
counter on. -/
def KeepsPart {β α : Type} (part : Store → β) (t : Txn α) : Prop :=
  ∀ σ, (t.exec σ).2.saved = σ.saved ∧ part (t.exec σ).2.store = part σ.store ∧
    σ.nextId ≤ (t.exec σ).2.nextId

/-- The triple of a step that keeps the commit point `S`, the value `v` of the part `part` of the
store, and a counter of at least `k`. -/
abbrev PartAt {β α : Type} (part : Store → β) (t : Txn α) (S : Store) (v : β) (k : Nat) : Prop :=
  ⦃fun σ => ⌜σ.saved = S ∧ part σ.store = v ∧ σ.nextId = k⌝⦄ t
  ⦃post⟨fun _ σ => ⌜σ.saved = S ∧ part σ.store = v ∧ k ≤ σ.nextId⌝,
    fun _ σ => ⌜σ.saved = S ∧ part σ.store = v ∧ k ≤ σ.nextId⌝⟩⦄

section Parts

variable {β : Type} {part : Store → β}

theorem KeepsPart.partAt {α : Type} {t : Txn α} (h : KeepsPart part t) (S : Store) (v : β)
    (k : Nat) : PartAt part t S v k := by
  refine triple_iff.2 fun σ ⟨hS, hv, hk⟩ => ?_
  obtain ⟨h₁, h₂, h₃⟩ := h σ
  rcases hx : t.exec σ with ⟨_ | _, σ'⟩ <;> rw [hx] at h₁ h₂ h₃ <;>
    exact ⟨h₁.trans hS, h₂.trans hv, hk ▸ h₃⟩

theorem KeepsPart.of_partAt {α : Type} {t : Txn α} (h : ∀ S v k, PartAt part t S v k) :
    KeepsPart part t := by
  intro σ
  have ho := triple_iff.1 (h σ.saved (part σ.store) σ.nextId) σ ⟨rfl, rfl, rfl⟩
  rcases hx : t.exec σ with ⟨_ | _, σ'⟩ <;> rw [hx] at ho <;> exact ho

theorem KeepsPart.pure {α : Type} (a : α) : KeepsPart part (pure a : Txn α) :=
  fun _ => ⟨rfl, rfl, le_refl _⟩

theorem KeepsPart.bind {α γ : Type} {x : Txn α} {f : α → Txn γ} (hx : KeepsPart part x)
    (hf : ∀ a, KeepsPart part (f a)) : KeepsPart part (x >>= f) := by
  intro σ
  rw [exec_bind]
  have h₁ := hx σ
  rcases hr : x.exec σ with ⟨_ | a, σ'⟩ <;> rw [hr] at h₁
  · exact h₁
  · obtain ⟨h₂, h₃, h₄⟩ := hf a σ'
    exact ⟨h₂.trans h₁.1, h₃.trans h₁.2.1, h₁.2.2.trans h₄⟩

/-- A loop whose every step keeps a part of the store keeps it. -/
theorem KeepsPart.mapM {α γ : Type} {f : α → Txn γ} (hf : ∀ a, KeepsPart part (f a)) :
    ∀ xs : List α, KeepsPart part (xs.mapM f)
  | [] => KeepsPart.pure _
  | x :: xs => by
    rw [List.mapM_cons]
    exact (hf x).bind fun _ => (KeepsPart.mapM hf xs).bind fun _ => KeepsPart.pure _

/-- A loop over a list whose every step keeps a part of the store keeps it. -/
theorem KeepsPart.forIn {α γ : Type} {f : α → γ → Txn (ForInStep γ)}
    (hf : ∀ a b, KeepsPart part (f a b)) : ∀ (xs : List α) (b : γ), KeepsPart part (forIn xs b f)
  | [] => fun b => KeepsPart.pure b
  | x :: xs => fun b => by
    rw [List.forIn_cons]
    refine (hf x b).bind fun step => ?_
    cases step with
    | done b' => exact KeepsPart.pure b'
    | yield b' => exact KeepsPart.forIn hf xs b'

end Parts

end Txn

/-! ## The primitive steps

`mvcgen` runs through these exactly: each is a read or a write of one field of the session, a
refusal, an answer, the body of a request, or the lookup of a row by its id. -/

attribute [spec] Txn.freshId Txn.store Txn.modifyStore Txn.now Txn.rowTime Txn.commit Txn.rollback
  Txn.putObject Txn.fail Txn.refuse Txn.ensure Txn.fitsColumn Txn.moneyColumn Txn.onIntegrity Txn.record
  Txn.ofExcept Reply.ok Reply.created Reply.page Reply.bare Api.moneyStep Input.accept Api.orderAt Api.categoryAt Api.productAt Api.variationAt Api.qrCodeAt Api.themeAt Api.userAt
  Api.roleAt Api.permissionAt

/-- The body of a request as the routes that read JSON take it, or the refusal of a text that is
not JSON: the decision of `Input.payload`. -/
def Input.bodyOf (r : Request) : Except Fault Payload :=
  match r.body with
  | .empty => .ok .missing
  | .json j => .ok (.document j)
  | .raw t =>
    if t.isEmpty then .ok .missing
    else match Json.parse (Input.dropMark t) with
      | .ok j => .ok (.document j)
      | .error e => .error (.invalid [toString e.offset ++ ": JSON decode error"])
  | .form fs => .ok (if fs.isEmpty then .missing else .other)
  | .multipart _ _ => .ok .other

theorem Input.payload_exec (r : Request) (σ : Session) :
    (Input.payload r).exec σ = (Input.bodyOf r, σ) := by
  unfold Input.payload Input.bodyOf
  cases r.body with
  | raw t =>
    dsimp only
    by_cases ht : t.isEmpty
    · simp only [ht, if_true]
      rfl
    · simp only [ht]
      cases Json.parse (Input.dropMark t) <;> rfl
  | _ => rfl

/-- The body of a request is read from the request alone. -/
theorem Input.payload_reads (r : Request) : Txn.Reads (Input.payload r) := by
  intro σ
  rw [Input.payload_exec]

@[spec] theorem Input.payload_spec (r : Request)
    (Q : PostCond Payload (.except Fault (.arg Session .pure))) :
    ⦃fun σ => wp⟦Txn.ofExcept (Input.bodyOf r)⟧ Q σ⦄ Input.payload r ⦃Q⦄ :=
  Txn.spec_of_exec (Input.payload_exec r) Q

/-! ## Requests

A request is served by the run of the route that answers it, from a session whose commit point
is the store it finds. -/

/-- The route that answers a request is one of the routes. -/
theorem Route.select_mem {routes : List Route} {r : Request} {route : Route} {ps : List String}
    (h : Route.select routes r = .ok (route, ps)) : route ∈ routes := by
  unfold Route.select at h
  dsimp only at h
  split at h
  · rename_i hit hfind
    cases h
    obtain ⟨route', hmem, hps⟩ := List.mem_filterMap.1 (List.mem_of_find?_eq_some hfind)
    obtain ⟨ps', -, he⟩ := Option.map_eq_some_iff.1 hps
    cases he
    exact hmem
  · split at h <;> cases h

/-- A request that a route answers runs that route's handler. -/
theorem Route.dispatch_eq_handle {routes : List Route} {r : Request} {route : Route}
    {ps : List String} (h : Route.select routes r = .ok (route, ps)) :
    Route.dispatch routes r = route.handle r ps := by
  rw [Route.dispatch, h]

/-- **The route a table selects** for a request: the route at `i`, when it answers the request's
method and its pattern reads the path, and no route before it does both. Each condition is a
computation on the table and the request alone, which the kernel runs without building the
selection; routes of another method are passed over without reading their patterns. -/
theorem Route.select_eq_of_first {routes : List Route} {r : Request} {ps : List String}
    (i : Nat) (hi : i < routes.length)
    (hbefore : (routes.take i).all (fun rt =>
      !(rt.answers r.method && (Segment.matchPath rt.pattern (pathSegments r.path)).isSome)) = true)
    (hmatch : Segment.matchPath routes[i].pattern (pathSegments r.path) = some ps)
    (hanswers : routes[i].answers r.method = true) :
    Route.select routes r = .ok (routes[i], ps) := by
  let hit := fun route : Route =>
    (Segment.matchPath route.pattern (pathSegments r.path)).map fun ps => (route, ps)
  -- no route before the `i`-th both matches and answers, so the search passes them all
  have hnone : ((routes.take i).filterMap hit).find? (fun x => x.1.answers r.method) = none := by
    refine List.find?_eq_none.2 fun ⟨rt, ps'⟩ hx => ?_
    obtain ⟨rt', hrt, hx⟩ := List.mem_filterMap.1 hx
    obtain ⟨ps'', hps, he⟩ := Option.map_eq_some_iff.1 hx
    cases he
    have hno := List.all_eq_true.1 hbefore rt hrt
    simp_all
  have hsplit : routes.filterMap hit =
      (routes.take i).filterMap hit ++ (routes[i], ps) :: (routes.drop (i + 1)).filterMap hit := by
    conv_lhs => rw [← List.take_append_drop i routes]
    rw [List.filterMap_append, List.drop_eq_getElem_cons hi, List.filterMap_cons]
    simp [hit, hmatch]
  unfold Route.select
  simp only
  rw [show (routes.filterMap fun route =>
      (Segment.matchPath route.pattern (pathSegments r.path)).map fun ps => (route, ps)) =
      routes.filterMap hit from rfl, hsplit, List.find?_append, hnone, Option.none_or]
  simp [hanswers]

/-- The method and path pattern of the route that answers a request, if one does. -/
def Route.target (routes : List Route) (r : Request) : Option (String × List Segment) :=
  match Route.select routes r with
  | .ok (route, _) => some (route.method, route.pattern)
  | .error _ => none

/-- **The outcome of a request** read off the run of its dispatch: the answer and the store of a
success, the failure's answer and the commit point of a failure. -/
theorem serve_eq (routes : List Route) (store : Store) (n : Nat) (now : Stamp) (r : Request) :
    serve routes store n now r =
      match (Route.dispatch routes r).exec
          { store := store, saved := store, nextId := n, now := now } with
      | (.ok resp, σ) =>
        { response := resp, store := σ.store, nextId := σ.nextId, uploads := σ.uploads }
      | (.error f, σ) =>
        { response := Route.faultResponse now f, store := σ.saved, nextId := σ.nextId,
          uploads := σ.uploads } := by
  unfold serve Txn.exec StateT.run
  dsimp only
  rcases ExceptT.run (Route.dispatch routes r)
    { store := store, saved := store, nextId := n, now := now } with ⟨_ | _, σ⟩ <;> rfl

/-- **A request answers as its handler's triple says**: with a success the handler's post-condition
describes, the store where it ended; or with the answer of a failure the other describes, the
commit point where it ended. -/
theorem serve_of_triple {routes : List Route} (n : Nat) (now : Stamp) {s : Store} {r : Request}
    {route : Route} {ps : List String} {P : Session → Prop} {ok : Response → Session → Prop}
    {err : Fault → Session → Prop} (hsel : Route.select routes r = .ok (route, ps))
    (hP : P { store := s, saved := s, nextId := n, now := now })
    (h : ⦃fun σ => ⌜P σ⌝⦄ route.handle r ps ⦃post⟨fun resp σ => ⌜ok resp σ⌝,
      fun e σ => ⌜err e σ⌝⟩⦄) :
    (∃ σ, ok (serve routes s n now r).response σ ∧
        (serve routes s n now r).store = σ.store) ∨
      ∃ e σ, err e σ ∧ (serve routes s n now r).response = Route.faultResponse now e ∧
        (serve routes s n now r).store = σ.saved := by
  rw [serve_eq, Route.dispatch_eq_handle hsel]
  have hrun := Txn.triple_iff.1 h _ hP
  generalize (route.handle r ps).exec { store := s, saved := s, nextId := n, now := now } = run
    at hrun ⊢
  rcases run with ⟨e | resp, σ'⟩
  · exact .inr ⟨e, σ', hrun, rfl, rfl⟩
  · exact .inl ⟨σ', hrun, rfl⟩

/-! ## Preflights

The cross-origin layer answers a preflight before the routes see it. A preflight is an `OPTIONS`
request, which no route takes, so it leaves what a refusal of the routing leaves. -/

/-- A request whose method no route has is refused by the routing. -/
theorem Route.select_error_of_method {routes : List Route} {r : Request}
    (h : ∀ route ∈ routes, route.method ≠ r.method) : ∃ f, Route.select routes r = .error f := by
  unfold Route.select
  dsimp only
  rw [List.find?_eq_none.2]
  · dsimp only
    split <;> exact ⟨_, rfl⟩
  · rintro ⟨route, ps⟩ hmem
    obtain ⟨route', hroute, hps⟩ := List.mem_filterMap.1 hmem
    obtain ⟨ps', -, he⟩ := Option.map_eq_some_iff.1 hps
    cases he
    simpa [Route.answers] using h _ hroute

/-- No route of the service takes `OPTIONS`. -/
theorem Api.routes_not_options : ∀ route ∈ Api.routes, route.method ≠ "OPTIONS" := by
  simp only [Api.routes, Api.statusRoutes, Api.authRoutes, Api.catalogRoutes, Api.orderRoutes,
    Api.qrRoutes, Api.themeRoutes, Api.accessRoutes, Api.logRoutes, List.cons_append,
    List.nil_append, List.forall_mem_cons, List.not_mem_nil, IsEmpty.forall_iff, implies_true,
    and_true]
  simp [Route.of]

/-- A preflight is an `OPTIONS` request. -/
theorem Cors.method_of_preflight {r : Request} {resp : Response}
    (h : Cors.preflight? r = some resp) : r.method = "OPTIONS" := by
  unfold Cors.preflight? at h
  split at h
  · rename_i hpre
    simp only [Bool.and_eq_true, beq_iff_eq] at hpre
    exact hpre.1
  · cases h

/-- **A request leaves the store and the counter that the routes would leave**: a preflight,
refused by the routing, leaves both as they were, and so does the layer that answers it. -/
theorem respond_as_serve (s : Store) (n : Nat) (now : Stamp) (r : Request) :
    (respond Api.routes s n now r).store = (serve Api.routes s n now r).store ∧
      (respond Api.routes s n now r).nextId = (serve Api.routes s n now r).nextId := by
  unfold respond
  split
  · rename_i resp hpre
    have hoptions : ∀ route ∈ Api.routes, route.method ≠ r.method := fun route hroute => by
      rw [Cors.method_of_preflight hpre]
      exact Api.routes_not_options route hroute
    obtain ⟨f, hsel⟩ := Route.select_error_of_method hoptions
    rw [serve_eq, Route.dispatch, hsel]
    exact ⟨rfl, rfl⟩
  · exact ⟨rfl, rfl⟩

end Bistro
