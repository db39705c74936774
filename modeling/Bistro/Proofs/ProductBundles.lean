import Bistro.Proofs.OrderTransitions
import Bistro.Proofs.PagedListings

/-!
# Bistro — what a change of a product with its variations does

The change of a product with its variations (`PUT /api/v1/products/{id}/with-variations`) merges
its body into the product and stores it, then runs through the variation bodies it sends, in
order: a body without an id, or with an empty one, makes a new variation of the product; a body
naming one of the variations the product had merges into that variation; any other id is
refused. Last, when the body asks for it, the variations the product had that no body kept are
deleted. The ids of the variations the product had are read once, before the bodies run.

* `ItemApplied`, `ItemsApplied` — one variation body, and the bodies in turn, as a relation
  between the store and counter of fresh ids before and after;
* `ItemRefused`, `ItemsRefused` — how a body is refused: an id that is not one of the product's
  variations, or a variation the checks refuse;
* `Store.withoutVariations` — the store once some variations are deleted, the order lines that
  named them keeping their copy and losing the link;
* `BundleApplied`, `BundleRefusal` — the whole change, and how it refuses.

Main statement, `product_bundle_postcondition`: every request that the route answers either
applies the change as `BundleApplied` says and answers `200`, or leaves the store as it was and
answers the refusal of the first check that fails. `BundleApplied.product` and
`BundleApplied.variations` read off the product and the variations a success leaves.
-/

open Std.Do

namespace Bistro

open Catalog

/-! ## §1 — Runs of the steps that write -/

namespace Txn

@[simp] theorem exec_modifyStore (f : Store → Store) (σ : Session) :
    (Txn.modifyStore f).exec σ = (.ok (), { σ with store := f σ.store }) := rfl

@[simp] theorem exec_freshId (σ : Session) :
    Txn.freshId.exec σ = (.ok (Txn.idText σ.nextId), { σ with nextId := σ.nextId + 1 }) := rfl

@[simp] theorem exec_rowTime (σ : Session) : Txn.rowTime.exec σ = (.ok σ.now.row, σ) := rfl

theorem exec_ensure {α : Type} (status : Nat) (x : Except String α) (σ : Session) :
    (Txn.ensure status x).exec σ = (x.mapError (Fault.refuse status), σ) := by
  cases x <;> rfl

end Txn

/-- **The store once the variations with an id of `ids` are deleted**: an order line that named
one keeps its copy and loses the link. -/
def Store.withoutVariations (ids : List String) (s : Store) : Store :=
  { s with
    variations := s.variations.filter fun v => !ids.contains v.id
    lines := s.lines.map fun l =>
      if l.variationId.any (ids.contains ·) then { l with variationId := none } else l }

theorem Store.withoutVariations_nil (s : Store) : s.withoutVariations [] = s := by
  simp [Store.withoutVariations]

/-- Deleting one variation and then others deletes them all at once. -/
theorem Store.withoutVariations_cons (vid : String) (ids : List String) (s : Store) :
    (s.withoutVariations [vid]).withoutVariations ids = s.withoutVariations (vid :: ids) := by
  simp only [Store.withoutVariations, List.filter_filter, List.map_map]
  congr 1
  · congr 1
    funext v
    simp [Bool.and_comm]
  · congr 1
    funext l
    cases hl : l.variationId with
    | none => simp [hl]
    | some x => by_cases hx : x = vid <;> simp [hl, hx]

/-- The ids of the variations of the product `id`, in the order they were added. -/
def Store.variationIds (s : Store) (id : String) : List String :=
  (s.productVariations id).map (·.id)

/-- Replacing a row by its key keeps the keys of the rows. -/
theorem Store.replaceRow_keys {α : Type} (key : α → String) (row : α) (rows : List α) :
    (Store.replaceRow key row rows).map key = rows.map key := by
  simp only [Store.replaceRow, List.map_map]
  refine List.map_congr_left fun r _ => ?_
  by_cases h : (key r == key row) = true
  · simp only [Function.comp, h, if_true]
    exact ((beq_iff_eq.1 h).symm)
  · simp [Function.comp, h]

theorem Store.variation?_isSome_iff (s : Store) (vid : String) :
    (s.variation? vid).isSome ↔ vid ∈ s.variations.map (·.id) := by
  rw [Store.variation?, List.find?_isSome]
  simp

namespace Api

/-- **The checks a product write makes**, in order: the rules of the catalogue, answered with a
`400`; a position outside the integer column, a `500`; and a price that is not a number, which
the store refuses. -/
def productWrite (S : Store) (p : Product) : Except Fault Unit :=
  match checkProduct S p with
  | .error m => .error (Fault.refuse 400 m)
  | .ok () =>
    if Txn.intRange.1 ≤ p.position ∧ p.position ≤ Txn.intRange.2 then
      match p.basePrice with
      | .nan => .error .integrity
      | _ => .ok ()
    else .error .internal

theorem storedProductAt_exec (id : String) (σ : Session) :
    (storedProductAt id).exec σ = match σ.store.product? id with
      | some p => (.ok { p with basePrice := storedDouble p.basePrice }, σ)
      | none => (.error (Fault.refuse 404 "Product not found"), σ) := by
  unfold storedProductAt productAt
  simp only [Txn.exec_bind, Txn.exec_store]
  cases σ.store.product? id <;> rfl

theorem saveProduct_exec (p : Product) (σ : Session) :
    (saveProduct p).exec σ = match productWrite σ.store p with
      | .ok () => (.ok (),
          { σ with store := { σ.store with products := Store.replaceRow (·.id) p σ.store.products } })
      | .error e => (.error e, σ) := by
  unfold saveProduct productWrite
  simp only [Txn.exec_bind, Txn.exec_store, Txn.exec_ensure]
  cases checkProduct σ.store p with
  | error m => rfl
  | ok u =>
    simp only [Except.mapError, fitsColumn_exec]
    by_cases hfit : Txn.intRange.1 ≤ p.position ∧ p.position ≤ Txn.intRange.2
    · simp only [hfit, and_self, if_true]
      cases p.basePrice <;> rfl
    · simp only [hfit, if_false]

theorem addVariation_exec (v : Variation) (σ : Session) :
    (addVariation v).exec σ = match checkVariation σ.store v with
      | .ok () => (.ok { v with id := Txn.idText σ.nextId },
          { σ with
            store := { σ.store with
              variations := σ.store.variations ++ [{ v with id := Txn.idText σ.nextId }] }
            nextId := σ.nextId + 1 })
      | .error m => (.error (Fault.refuse 400 m), σ) := by
  unfold addVariation
  simp only [Txn.exec_bind, Txn.exec_store, Txn.exec_ensure]
  cases checkVariation σ.store v <;> rfl

theorem saveVariation_exec (old new : Variation) (σ : Session) :
    (saveVariation old new).exec σ = match checkVariation σ.store new with
      | .ok () => (.ok (touch old new σ.now.row),
          { σ with
            store := { σ.store with
              variations := Store.replaceRow (·.id) (touch old new σ.now.row) σ.store.variations } })
      | .error m => (.error (Fault.refuse 400 m), σ) := by
  unfold saveVariation
  simp only [Txn.exec_bind, Txn.exec_store, Txn.exec_ensure]
  cases checkVariation σ.store new <;> rfl

theorem dropVariation_exec (vid : String) (σ : Session) :
    (dropVariation vid).exec σ = (.ok (), { σ with store := σ.store.withoutVariations [vid] }) := by
  simp only [dropVariation, Txn.exec_modifyStore, Store.withoutVariations]
  congr 4
  · funext v
    by_cases h : v.id = vid <;> simp [h]
  · funext l
    cases hl : l.variationId with
    | none => simp
    | some x => by_cases hx : x = vid <;> simp [hx]

end Api

/-! ## §2 — One variation body

A body sent with the product either makes a new variation or merges into one the product had. The
ids the product had keep naming variations of the store while the bodies run, since a body only
adds a variation or replaces one by a row of the same id: so a body naming one of them always
finds its variation, and a body is refused for its id only when the id is not one of them. -/

/-- **One variation body applied** for the product `p`, whose variations had the ids `had`, at
the row time `t`, from the store and counter of fresh ids `σ`: a body without an id, or with an
empty one, adds a new variation of `p` made from it under the next fresh id; a body naming one of
`had` merges into that variation as it now stands, its time moved when a value changes. Either
way the variation written passes the checks, and the answer is its id. -/
inductive ItemApplied (p : Product) (had : List String) (t : Stamp) :
    Store × Nat → VariationPatch → String → Store × Nat → Prop
  | created {T : Store} {k : Nat} {item : VariationPatch} (hnew : item.id.getD "" = "")
      (hcheck : checkVariation T (item.create "" p.id t) = .ok ()) :
      ItemApplied p had t (T, k) item (Txn.idText k)
        ({ T with variations := T.variations ++ [item.create (Txn.idText k) p.id t] }, k + 1)
  | merged {T : Store} {k : Nat} {item : VariationPatch} {vid : String} {old : Variation}
      (hid : item.id = some vid) (hne : vid ≠ "") (hhad : vid ∈ had)
      (hold : T.variation? vid = some old) (hcheck : checkVariation T (item.apply old) = .ok ()) :
      ItemApplied p had t (T, k) item vid
        ({ T with variations := Store.replaceRow (·.id) (touch old (item.apply old) t) T.variations },
          k)

/-- **How one variation body is refused**: an id that is not one of `had` is a `400` naming it,
whichever variation it names elsewhere; a variation the checks refuse, new or merged, is a `400`
with the rule's message. -/
inductive ItemRefused (p : Product) (had : List String) (t : Stamp) :
    Store → VariationPatch → Fault → Prop
  | foreign {T : Store} {item : VariationPatch} {vid : String} (hid : item.id = some vid)
      (hne : vid ≠ "") (hout : vid ∉ had) :
      ItemRefused p had t T item
        (Fault.refuse 400 ("variation " ++ vid ++ " does not belong to this product"))
  | invalidNew {T : Store} {item : VariationPatch} {m : String} (hnew : item.id.getD "" = "")
      (hcheck : checkVariation T (item.create "" p.id t) = .error m) :
      ItemRefused p had t T item (Fault.refuse 400 m)
  | invalidMerge {T : Store} {item : VariationPatch} {vid : String} {old : Variation} {m : String}
      (hid : item.id = some vid) (hne : vid ≠ "") (hhad : vid ∈ had)
      (hold : T.variation? vid = some old) (hcheck : checkVariation T (item.apply old) = .error m) :
      ItemRefused p had t T item (Fault.refuse 400 m)

/-- Every id of `had` names a variation of the store. -/
def Named (had : List String) (T : Store) : Prop := ∀ vid ∈ had, vid ∈ T.variations.map (·.id)

/-- **A body keeps the ids of the store's variations**, adding the id of a new one. -/
theorem ItemApplied.ids_mono {p : Product} {had : List String} {t : Stamp} {σ σ' : Store × Nat}
    {item : VariationPatch} {vid : String} (h : ItemApplied p had t σ item vid σ') :
    ∀ x ∈ σ.1.variations.map (·.id), x ∈ σ'.1.variations.map (·.id) := by
  cases h with
  | created => intro x hx; simp_all
  | merged => intro x hx; simpa [Store.replaceRow_keys] using hx

/-- The ids of a product's variations name variations of the store. -/
theorem named_variationIds (S : Store) (id : String) : Named (S.variationIds id) S := by
  intro vid hvid
  simp only [Store.variationIds, Store.productVariations, List.mem_map, List.mem_filter] at hvid ⊢
  obtain ⟨v, ⟨hv, -⟩, rfl⟩ := hvid
  exact ⟨v, hv, rfl⟩

theorem ItemApplied.named {p : Product} {had : List String} {t : Stamp} {σ σ' : Store × Nat}
    {item : VariationPatch} {vid : String} (h : ItemApplied p had t σ item vid σ')
    (hnamed : Named had σ.1) : Named had σ'.1 :=
  fun x hx => h.ids_mono x (hnamed x hx)

namespace Api

/-- A body without an id, or with an empty one, makes a new variation. -/
theorem addItem_outcome (p : Product) (had : List String) {item : VariationPatch}
    (hnew : item.id.getD "" = "") (σ : Session) :
    Txn.Outcome
      (fun vid σ' => ∃ T k, ItemApplied p had σ.now.row (σ.store, σ.nextId) item vid (T, k) ∧
        σ' = { σ with store := T, nextId := k })
      (fun e σ' => ItemRefused p had σ.now.row σ.store item e ∧ σ' = σ)
      ((do
        let t ← Txn.rowTime
        let v ← addVariation (item.create "" p.id t)
        pure v.id : Txn String).exec σ) := by
  simp only [Txn.exec_bind, Txn.exec_rowTime, addVariation_exec]
  cases hc : checkVariation σ.store (item.create "" p.id σ.now.row) with
  | error m => exact ⟨.invalidNew hnew hc, rfl⟩
  | ok u => exact ⟨_, _, .created hnew hc, rfl⟩

/-- **One variation body, run**: it is applied as `ItemApplied` says, or refused as `ItemRefused`
says with the session as it was, as long as the ids the product had name variations. -/
theorem applyVariation_outcome (p : Product) (had : List String) (item : VariationPatch)
    (σ : Session) (hnamed : Named had σ.store) :
    Txn.Outcome
      (fun vid σ' => ∃ T k, ItemApplied p had σ.now.row (σ.store, σ.nextId) item vid (T, k) ∧
        σ' = { σ with store := T, nextId := k })
      (fun e σ' => ItemRefused p had σ.now.row σ.store item e ∧ σ' = σ)
      ((applyVariation p had item).exec σ) := by
  unfold applyVariation
  cases hid : item.id with
  | none => exact addItem_outcome p had (by simp [hid]) σ
  | some vid =>
    dsimp only
    by_cases hempty : vid.isEmpty = true
    · rw [if_pos hempty]
      exact addItem_outcome p had (by simpa [hid] using hempty) σ
    rw [if_neg hempty]
    have hne : vid ≠ "" := by simpa using hempty
    by_cases hcontains : had.contains vid = true
    · -- one of the product's variations: it is still in the store
      rw [if_pos hcontains]
      have hhad : vid ∈ had := by simpa using hcontains
      obtain ⟨old, hold⟩ := Option.isSome_iff_exists.1
        ((Store.variation?_isSome_iff σ.store vid).2 (hnamed vid hhad))
      simp only [Txn.exec_bind, Txn.exec_store, hold, saveVariation_exec]
      cases hc : checkVariation σ.store (item.apply old) with
      | error m => exact ⟨.invalidMerge hid hne hhad hold hc, rfl⟩
      | ok u => exact ⟨_, _, .merged hid hne hhad hold hc, rfl⟩
    · rw [if_neg hcontains]
      exact ⟨.foreign hid hne (by simpa using hcontains), rfl⟩

end Api

/-! ## §3 — The bodies in turn -/

/-- **The variation bodies applied in turn**, each from the store and counter the one before
left, answering the ids they keep. -/
inductive ItemsApplied (p : Product) (had : List String) (t : Stamp) :
    Store × Nat → List VariationPatch → List String → Store × Nat → Prop
  | nil (σ : Store × Nat) : ItemsApplied p had t σ [] [] σ
  | cons {σ σ₁ σ₂ : Store × Nat} {item : VariationPatch} {items : List VariationPatch}
      {vid : String} {kept : List String} :
      ItemApplied p had t σ item vid σ₁ → ItemsApplied p had t σ₁ items kept σ₂ →
      ItemsApplied p had t σ (item :: items) (vid :: kept) σ₂

/-- **How the bodies are refused**: the bodies before one are applied, and that one is refused
from the store they leave. -/
def ItemsRefused (p : Product) (had : List String) (t : Stamp) (σ : Store × Nat)
    (items : List VariationPatch) (e : Fault) : Prop :=
  ∃ pre item post kept σ₁, items = pre ++ item :: post ∧ ItemsApplied p had t σ pre kept σ₁ ∧
    ItemRefused p had t σ₁.1 item e

namespace Api

/-- **The bodies, run**: applied in turn as `ItemsApplied` says, or refused as `ItemsRefused`
says with the commit point kept. The induction is on the bodies; the ids the product had keep
naming variations from one body to the next (`ItemApplied.named`). -/
theorem applyItems_outcome (p : Product) (had : List String) :
    ∀ (items : List VariationPatch) (σ : Session), Named had σ.store →
      Txn.Outcome
        (fun kept σ' => ∃ T k,
          ItemsApplied p had σ.now.row (σ.store, σ.nextId) items kept (T, k) ∧
            σ' = { σ with store := T, nextId := k })
        (fun e σ' => ItemsRefused p had σ.now.row (σ.store, σ.nextId) items e ∧
          σ'.saved = σ.saved)
        ((items.mapM (applyVariation p had)).exec σ)
  | [], σ, _ => ⟨σ.store, σ.nextId, .nil _, rfl⟩
  | item :: items, σ, hnamed => by
    rw [List.mapM_cons, Txn.exec_bind]
    have hstep := applyVariation_outcome p had item σ hnamed
    generalize (applyVariation p had item).exec σ = run at hstep ⊢
    rcases run with ⟨e | vid, σ₁⟩
    · -- the first body is refused, and nothing of it was written
      obtain ⟨hrefused, rfl⟩ := hstep
      exact ⟨⟨[], item, items, [], _, rfl, .nil _, hrefused⟩, rfl⟩
    · obtain ⟨T₁, k₁, happlied, rfl⟩ := hstep
      dsimp only
      rw [Txn.exec_bind]
      have hrest := applyItems_outcome p had items { σ with store := T₁, nextId := k₁ }
        (happlied.named hnamed)
      generalize (items.mapM (applyVariation p had)).exec { σ with store := T₁, nextId := k₁ } = run
        at hrest ⊢
      rcases run with ⟨e | kept, σ₂⟩
      · obtain ⟨⟨pre, bad, post, kept, σ', heq, hpre, hbad⟩, hsaved⟩ := hrest
        exact ⟨⟨item :: pre, bad, post, vid :: kept, σ', by rw [heq]; rfl, .cons happlied hpre,
          hbad⟩, hsaved⟩
      · obtain ⟨T₂, k₂, hrun, rfl⟩ := hrest
        exact ⟨T₂, k₂, .cons happlied hrun, rfl⟩

/-! ## §4 — Deleting the variations no body kept -/

/-- A loop whose every turn changes the store by `f` leaves the store of the changes in turn. -/
theorem forIn_exec_writes {α : Type} {f : α → Store → Store}
    {body : α → PUnit → Txn (ForInStep PUnit)}
    (hbody : ∀ a σ, (body a PUnit.unit).exec σ =
      (.ok (.yield PUnit.unit), { σ with store := f a σ.store })) :
    ∀ (xs : List α) (σ : Session),
      (forIn xs PUnit.unit body).exec σ =
        (.ok PUnit.unit, { σ with store := xs.foldl (fun s a => f a s) σ.store })
  | [], σ => rfl
  | x :: xs, σ => by
    rw [List.forIn_cons, Txn.exec_bind, hbody]
    exact forIn_exec_writes hbody xs _

/-- Deleting the variations of `had` that `kept` does not name, one after the other, deletes
them all at once. -/
theorem foldl_drops (kept : List String) :
    ∀ (had : List String) (T : Store),
      had.foldl (fun s vid => if kept.contains vid then s else s.withoutVariations [vid]) T =
        T.withoutVariations (had.filter fun vid => !kept.contains vid)
  | [], T => (Store.withoutVariations_nil T).symm
  | vid :: had, T => by
    rw [List.foldl_cons, foldl_drops kept had]
    by_cases hk : kept.contains vid = true
    · rw [if_pos hk, List.filter_cons_of_neg (by simpa using hk)]
    · rw [if_neg hk, List.filter_cons_of_pos (by simpa using hk), Store.withoutVariations_cons]

end Api

/-! ## §5 — The change, run to its end or refused -/

/-- The product a change leaves: the fields of the body merged into the product as read back. -/
def mergedProduct (d : ProductPatch) (p₀ : Product) : Product :=
  d.apply { p₀ with basePrice := storedDouble p₀.basePrice }

/-- **What a change that succeeds leaves**, from the store `S` and counter `k` at the row time
`t`: the product `p₀` of the path, with the fields of the body merged into it, passes the checks
and is stored in its place; the variation bodies, applied in turn for the variations the product
had, leave the store `T`; and, when the body asks for it, the variations the product had that no
body kept are deleted from `T`. -/
def BundleApplied (S : Store) (r : Request) (id : String) (k : Nat) (t : Stamp) (S' : Store) :
    Prop :=
  ∃ d p₀ kept T k',
    Input.bodyAs r ProductBundlePatch.validate = some d ∧ Guard.Passes S r .admin ∧
    S.product? id = some p₀ ∧ Api.productWrite S (mergedProduct d.product p₀) = .ok () ∧
    ItemsApplied (mergedProduct d.product p₀) (S.variationIds id) t
      ({ S with products := Store.replaceRow (·.id) (mergedProduct d.product p₀) S.products }, k)
      d.variations kept (T, k') ∧
    S' = if d.prune then T.withoutVariations ((S.variationIds id).filter fun vid => !kept.contains vid)
      else T

/-- **How a change refuses**, by the first check that fails: a body that is not JSON, the
administrator guard, and a body whose fields do not pass; a `404` for a product that is not
there; the checks of the merged product; and the refusal of the first variation body that is
refused. -/
def BundleRefusal (S : Store) (r : Request) (id : String) (k : Nat) (t : Stamp) (e : Fault) :
    Prop :=
  Input.bodyOf r = .error e ∨
    (Input.bodyOf r).isOk ∧ Guard.decision S r .admin = .error e ∨
    (∃ p es, Input.bodyOf r = .ok p ∧ Guard.Passes S r .admin ∧
      Input.model p ProductBundlePatch.validate = .fail es ∧ e = .invalid (es.map Input.problemText)) ∨
    ∃ d, Input.bodyAs r ProductBundlePatch.validate = some d ∧ Guard.Passes S r .admin ∧
      (S.product? id = none ∧ e = Fault.refuse 404 "Product not found" ∨
        ∃ p₀, S.product? id = some p₀ ∧
          (Api.productWrite S (mergedProduct d.product p₀) = .error e ∨
            Api.productWrite S (mergedProduct d.product p₀) = .ok () ∧
              ItemsRefused (mergedProduct d.product p₀) (S.variationIds id) t
                ({ S with products := Store.replaceRow (·.id) (mergedProduct d.product p₀) S.products },
                  k) d.variations e))

namespace Api

theorem updateProductBundle_answers (r : Request) (ps : List String) (S : Store) (k : Nat)
    (now : Stamp) :
    ⦃fun σ => ⌜σ.saved = S ∧ σ.store = S ∧ σ.nextId = k ∧ σ.now = now⌝⦄ updateProductBundle r ps
    ⦃post⟨fun resp σ => ⌜resp.status = 200 ∧ BundleApplied S r (Route.param ps) k now.row σ.store⌝,
      fun e σ => ⌜σ.saved = S ∧ BundleRefusal S r (Route.param ps) k now.row e⌝⟩⦄ := by
  rw [Txn.triple_iff]
  rintro ⟨store, saved, nextId, now', uploads⟩ ⟨hsaved, hstore, rfl, rfl⟩
  dsimp only at hsaved hstore
  subst hsaved hstore
  simp only [updateProductBundle, Guard.admin, Txn.exec_bind, Input.payload_exec, Guard.require_exec,
    Txn.exec_store, storedProductAt_exec, saveProduct_exec]
  cases hb : Input.bodyOf r with
  | error e => exact ⟨rfl, .inl hb⟩
  | ok body =>
  dsimp only
  cases hg : Guard.decision store r .admin with
  | error e => exact ⟨rfl, .inr (.inl ⟨by simp [hb, Except.isOk, Except.toBool], hg⟩)⟩
  | ok u =>
  dsimp only
  have hpass : Guard.Passes store r .admin := ⟨u, Guard.decision_eq_ok.1 hg⟩
  cases hm : Input.model body ProductBundlePatch.validate with
  | fail es => exact ⟨rfl, .inr (.inr (.inl ⟨body, es, hb, hpass, hm, rfl⟩))⟩
  | ok d =>
  have hd : Input.bodyAs r ProductBundlePatch.validate = some d := by simp [Input.bodyAs, hb, hm]
  dsimp only [Input.accept_ok_exec]
  cases hp : store.product? (Route.param ps) with
  | none => exact ⟨rfl, .inr (.inr (.inr ⟨d, hd, hpass, .inl ⟨hp, rfl⟩⟩))⟩
  | some p₀ =>
  dsimp only
  rw [show d.product.apply { p₀ with basePrice := storedDouble p₀.basePrice } =
    mergedProduct d.product p₀ from rfl]
  cases hw : productWrite store (mergedProduct d.product p₀) with
  | error e => exact ⟨rfl, .inr (.inr (.inr ⟨d, hd, hpass, .inr ⟨p₀, hp, .inl hw⟩⟩))⟩
  | ok u =>
  dsimp only
  -- the ids the product had, read after the product is written, are those of the path's product
  have hid : p₀.id = Route.param ps := by simpa using List.find?_some hp
  have hhad : List.map (fun x => x.id) (Store.productVariations
      { store with products := Store.replaceRow (·.id) (mergedProduct d.product p₀) store.products }
      (mergedProduct d.product p₀).id) = store.variationIds (Route.param ps) := by
    rw [← hid]
    rfl
  rw [hhad]
  have hrun := applyItems_outcome (mergedProduct d.product p₀) (store.variationIds (Route.param ps))
    d.variations
    { store := { store with
        products := Store.replaceRow (·.id) (mergedProduct d.product p₀) store.products },
      saved := store, nextId := nextId, now := now', uploads := uploads }
    (named_variationIds store (Route.param ps))
  split
  next kept σ₂ heq =>
    rw [heq] at hrun
    obtain ⟨T, k', happlied, rfl⟩ := hrun
    cases hprune : d.prune with
    | false =>
      simp only [Bool.false_eq_true, if_false, Txn.exec_bind, Txn.exec_store, Reply.ok_exec]
      exact ⟨rfl, d, p₀, kept, T, k', hd, hpass, hp, hw, happlied, by simp [hprune]⟩
    | true =>
      -- the variations the product had that no body kept are deleted, one after the other
      simp only [if_true, Txn.exec_bind]
      rw [forIn_exec_writes (f := fun vid s => if kept.contains vid then s else s.withoutVariations [vid])
        (fun vid σ => by
          cases kept.contains vid
          · simp only [Bool.not_false, ↓reduceIte, Txn.exec_bind, dropVariation_exec, Txn.exec_pure]
            rfl
          · simp only [Bool.not_true, Bool.false_eq_true, ↓reduceIte, Txn.exec_pure])]
      simp only [Txn.exec_store, Reply.ok_exec, foldl_drops]
      exact ⟨rfl, d, p₀, kept, T, k', hd, hpass, hp, hw, happlied, by simp [hprune]⟩
  next e σ₂ heq =>
    rw [heq] at hrun
    exact ⟨hrun.2, .inr (.inr (.inr ⟨d, hd, hpass, .inr ⟨p₀, hp, .inr ⟨hw, hrun.1⟩⟩⟩))⟩

end Api

/-! ## §6 — The product and the variations a change leaves -/

section Frames

variable {p : Product} {had : List String} {t : Stamp}

/-- **A body writes the variations only**, and moves the counter only on. -/
theorem ItemApplied.frame {σ σ' : Store × Nat} {item : VariationPatch} {vid : String}
    (h : ItemApplied p had t σ item vid σ') :
    σ'.1 = { σ.1 with variations := σ'.1.variations } ∧ σ.2 ≤ σ'.2 := by
  cases h with
  | created => exact ⟨rfl, Nat.le_succ _⟩
  | merged => exact ⟨rfl, le_refl _⟩

theorem ItemsApplied.frame {σ σ' : Store × Nat} {items : List VariationPatch}
    {kept : List String} (h : ItemsApplied p had t σ items kept σ') :
    σ'.1 = { σ.1 with variations := σ'.1.variations } ∧ σ.2 ≤ σ'.2 := by
  induction h with
  | nil => exact ⟨rfl, le_refl _⟩
  | cons hstep _ ih =>
    obtain ⟨h₁, k₁⟩ := hstep.frame
    refine ⟨?_, k₁.trans ih.2⟩
    rw [ih.1, h₁]

/-- The id a body answers is the one it names, or a fresh one from the counter. -/
theorem ItemApplied.kept_source {σ σ' : Store × Nat} {item : VariationPatch} {vid : String}
    (h : ItemApplied p had t σ item vid σ') : item.id = some vid ∨ vid = Txn.idText σ.2 := by
  cases h with
  | created => exact .inr rfl
  | merged hid => exact .inl hid

/-- **Each id the bodies keep** is one a body names, or a fresh one issued during the run. -/
theorem ItemsApplied.kept_source {σ σ' : Store × Nat} {items : List VariationPatch}
    {kept : List String} (h : ItemsApplied p had t σ items kept σ') :
    ∀ vid ∈ kept, (∃ item ∈ items, item.id = some vid) ∨ ∃ m, σ.2 ≤ m ∧ vid = Txn.idText m := by
  induction h with
  | nil => simp
  | cons hstep hrest ih =>
    intro vid hvid
    rcases List.mem_cons.1 hvid with rfl | hvid
    · rcases hstep.kept_source with hid | hfresh
      · exact .inl ⟨_, List.mem_cons_self, hid⟩
      · exact .inr ⟨_, le_refl _, hfresh⟩
    · rcases ih vid hvid with ⟨item, hmem, hid⟩ | ⟨m, hm, hfresh⟩
      · exact .inl ⟨item, List.mem_cons_of_mem _ hmem, hid⟩
      · exact .inr ⟨m, hstep.frame.2.trans hm, hfresh⟩

/-- A merged variation keeps the id of the variation it merges into. -/
theorem touch_apply_id {old : Variation} {item : VariationPatch} (s : Stamp) :
    (touch old (item.apply old) s).id = old.id := by
  unfold touch
  split <;> rfl

/-- **A body keeps every other variation** as it was: one whose id it does not answer. -/
theorem ItemApplied.keeps {σ σ' : Store × Nat} {item : VariationPatch} {vid : String}
    (h : ItemApplied p had t σ item vid σ') :
    ∀ v ∈ σ.1.variations, v.id ≠ vid → v ∈ σ'.1.variations := by
  cases h with
  | created => intro v hv _; exact List.mem_append_left _ hv
  | @merged T k item vid old hid hne hhad hold hcheck =>
    intro v hv hvne
    have hkey : (touch old (item.apply old) t).id = vid :=
      (touch_apply_id t).trans (by simpa using List.find?_some hold)
    refine List.mem_map.2 ⟨v, hv, ?_⟩
    rw [if_neg (by simpa [hkey] using hvne)]

theorem ItemsApplied.keeps {σ σ' : Store × Nat} {items : List VariationPatch}
    {kept : List String} (h : ItemsApplied p had t σ items kept σ') :
    ∀ v ∈ σ.1.variations, v.id ∉ kept → v ∈ σ'.1.variations := by
  induction h with
  | nil => exact fun v hv _ => hv
  | cons hstep _ ih =>
    intro v hv hout
    exact ih v (hstep.keeps v hv fun heq => hout (heq ▸ List.mem_cons_self))
      fun hin => hout (List.mem_cons_of_mem _ hin)

end Frames

/-- Replacing the row with the key `x` makes it the one found under `x`. -/
theorem Store.find?_replaceRow {α : Type} (key : α → String) (row : α) {x : String} (hx : key row = x) :
    ∀ {rows : List α} {q : α}, rows.find? (key · == x) = some q →
      (Store.replaceRow key row rows).find? (key · == x) = some row
  | [], _, h => by simp at h
  | a :: rows, _, h => by
    simp only [Store.replaceRow, List.map_cons]
    by_cases ha : key a = x
    · rw [if_pos (by simp [ha, hx]), List.find?_cons_of_pos (by simp [hx])]
    · rw [if_neg (by simp [ha, hx]), List.find?_cons_of_neg (by simp [ha])]
      exact Store.find?_replaceRow key row hx (by rwa [List.find?_cons_of_neg (by simp [ha])] at h)

/-- **The product a change leaves**: the product of the path with the fields of the body merged
into it, found under its id; every other product stays. -/
theorem BundleApplied.product {S S' : Store} {r : Request} {id : String} {k : Nat} {t : Stamp}
    (h : BundleApplied S r id k t S') :
    ∃ d p₀, Input.bodyAs r ProductBundlePatch.validate = some d ∧ S.product? id = some p₀ ∧
      S'.product? id = some (mergedProduct d.product p₀) ∧
      ∀ q ∈ S.products, q.id ≠ id → q ∈ S'.products := by
  obtain ⟨d, p₀, kept, T, k', hd, -, hp, -, happlied, rfl⟩ := h
  have hid : p₀.id = id := by simpa using List.find?_some hp
  -- the bodies and the deletions leave the products as the product write left them
  have hproducts : (if d.prune then T.withoutVariations
      ((S.variationIds id).filter fun vid => !kept.contains vid) else T).products =
      Store.replaceRow (·.id) (mergedProduct d.product p₀) S.products := by
    have hT := happlied.frame.1
    dsimp only at hT
    rw [hT]
    split <;> rfl
  refine ⟨d, p₀, hd, hp, ?_, fun q hq hne => ?_⟩
  · rw [Store.product?, hproducts]
    exact Store.find?_replaceRow (fun q : Product => q.id) (mergedProduct d.product p₀) hid hp
  · rw [hproducts]
    refine List.mem_map.2 ⟨q, hq, ?_⟩
    rw [if_neg (by simpa [mergedProduct, ProductPatch.apply, hid] using hne)]

/-- **Which variations a change keeps**: where no variation of the store has an id still to be
issued, a change that succeeds keeps, as it was, each variation of the store that no body names,
unless the body asks to delete the others and it is one of the product's variations, when it is
deleted. -/
theorem BundleApplied.variations {S S' : Store} {r : Request} {id : String} {k : Nat}
    {t : Stamp} (h : BundleApplied S r id k t S')
    (hfresh : ∀ v ∈ S.variations, ∀ m, k ≤ m → v.id ≠ Txn.idText m) :
    ∃ d, Input.bodyAs r ProductBundlePatch.validate = some d ∧
      ∀ v ∈ S.variations, (∀ item ∈ d.variations, item.id ≠ some v.id) →
        (v ∈ S'.variations ↔ ¬ (d.prune = true ∧ v.id ∈ S.variationIds id)) := by
  obtain ⟨d, p₀, kept, T, k', hd, -, -, -, happlied, rfl⟩ := h
  refine ⟨d, hd, fun v hv hunnamed => ?_⟩
  -- no body answers the id of a variation nobody names: it is not fresh either
  have hout : v.id ∉ kept := fun hin => by
    rcases happlied.kept_source v.id hin with ⟨item, hmem, hid⟩ | ⟨m, hm, hfr⟩
    · exact hunnamed item hmem hid
    · exact hfresh v hv m hm hfr
  have hT : v ∈ T.variations := happlied.keeps v hv hout
  cases hprune : d.prune with
  | false => simpa using hT
  | true =>
    simp only [if_true, Store.withoutVariations, List.mem_filter]
    simp [hT, hout]

/-- **A change of a product with its variations.** Every request that the route
(`PUT /api/v1/products/{id}/with-variations`) answers either applies the change as
`BundleApplied` says and answers `200`, or leaves the store as it was and answers the refusal of
the first check that fails. -/
theorem product_bundle_postcondition (s : Store) (n : Nat) (now : Stamp) {r : Request}
    {ps : List String}
    (hsel : Route.select Api.routes r = .ok
      (Route.of "PUT" "/api/v1/products/\x7bid\x7d/with-variations" Api.updateProductBundle, ps)) :
    ((serve Api.routes s n now r).response.status = 200 ∧
        BundleApplied s r (Route.param ps) n now.row (serve Api.routes s n now r).store) ∨
      (serve Api.routes s n now r).store = s ∧ ∃ e, BundleRefusal s r (Route.param ps) n now.row e ∧
        (serve Api.routes s n now r).response = Route.faultResponse now e := by
  rcases serve_of_triple n now hsel ⟨rfl, rfl, rfl, rfl⟩
      (Api.updateProductBundle_answers r ps s n now)
    with ⟨σ, ⟨hok, happlied⟩, hout⟩ | ⟨e, σ, ⟨hsaved, he⟩, hresp, hout⟩
  · exact .inl ⟨hok, hout ▸ happlied⟩
  · exact .inr ⟨hout.trans hsaved, e, he, hresp⟩

/-- A variation of the tea `p1` with one option. -/
def teaVariation (id kind label : String) : Variation :=
  { id := id, productId := "p1", isDefault := false, isAvailable := true, isRequired := false,
    variationType := kind, options := [⟨label, none, none, true⟩], createdAt := Stamp.ofEpoch 0,
    updatedAt := Stamp.ofEpoch 0 }

/-- The drinks category `c1` and its tea `p1` at 25, in the sizes `v1` and with the milks `v2`,
and the administrator `u1`, of the role `System`. -/
def sizedTea : Store :=
  { users := [{ staffMember with roleId := some "r1" }],
    roles := [⟨"r1", "System", none, Stamp.ofEpoch 0, Stamp.ofEpoch 0⟩],
    categories := [⟨"c1", "Drinks", true, 0⟩],
    products := [⟨"p1", some "c1", "Tea", none, none, Binary64.ofDecimal false 25 0, true, 0⟩],
    variations := [teaVariation "v1" "size" "small", teaVariation "v2" "milk" "oat"] }

/-- The administrator's change of the tea: a new name, the sizes no longer available, and the
variations no body names deleted. -/
def renameTea : Request :=
  { method := "PUT", path := "/api/v1/products/p1/with-variations", headers := staffHeaders,
    query := [],
    body := .json (.obj [("name", .str "Green tea"),
      ("variations", .arr [.obj [("id", .str "v1"), ("is_available", .bool false)]]),
      ("remove_other_variations", .bool true)]),
    storageFails := false, clock := 0 }

/-- The change is applied: the tea is renamed, its sizes are no longer available and its milks,
which no body names, are deleted. -/
theorem renameTea_applied :
    (serve Api.routes sizedTea 0 (Stamp.ofEpoch 60) renameTea).response.status = 200 ∧
      (serve Api.routes sizedTea 0 (Stamp.ofEpoch 60) renameTea).store.products.map (·.name) =
        ["Green tea"] ∧
      (serve Api.routes sizedTea 0 (Stamp.ofEpoch 60) renameTea).store.variations.map
        (fun v => (v.id, v.isAvailable)) = [("v1", false)] := by
  -- the administrator's token is read back by `staffHeaders_claims`; the rest is computed
  rw [serve_eq, Route.dispatch_eq_handle (show Route.select Api.routes renameTea = .ok
    (Route.of "PUT" "/api/v1/products/\x7bid\x7d/with-variations" Api.updateProductBundle,
      ["p1"]) from rfl)]
  simp only [Route.of, Api.updateProductBundle, Guard.admin, Guard.require, Guard.currentUser,
    staffHeaders_claims renameTea rfl (by decide)]
  decide +kernel

theorem renamed_tea_bundle_postcondition :
    Route.select Api.routes renameTea = .ok
        (Route.of "PUT" "/api/v1/products/\x7bid\x7d/with-variations" Api.updateProductBundle,
          ["p1"]) ∧
      (serve Api.routes sizedTea 0 (Stamp.ofEpoch 60) renameTea).store.variations.map
        (fun v => (v.id, v.isAvailable)) = [("v1", false)] ∧
      (((serve Api.routes sizedTea 0 (Stamp.ofEpoch 60) renameTea).response.status = 200 ∧
          BundleApplied sizedTea renameTea "p1" 0 (Stamp.ofEpoch 60).row
            (serve Api.routes sizedTea 0 (Stamp.ofEpoch 60) renameTea).store) ∨
        (serve Api.routes sizedTea 0 (Stamp.ofEpoch 60) renameTea).store = sizedTea ∧
          ∃ e, BundleRefusal sizedTea renameTea "p1" 0 (Stamp.ofEpoch 60).row e ∧
            (serve Api.routes sizedTea 0 (Stamp.ofEpoch 60) renameTea).response =
              Route.faultResponse (Stamp.ofEpoch 60) e) :=
  ⟨rfl, renameTea_applied.2.2,
    @product_bundle_postcondition sizedTea 0 (Stamp.ofEpoch 60) renameTea ["p1"] rfl⟩

end Bistro
