import Bistro.Proofs.Guard

/-!
# Bistro — steps that keep the commit point

A request fails with the store as of its last commit. Only `Txn.commit` moves that point, and
of all the steps the handlers share, none calls it. This module proves so of each shared step,
as the triple `Txn.KeepsAt t S` (from a session with commit point `S`, every run of `t` ends
with commit point `S`), registered with `spec` so that `mvcgen` takes a shared step as one step
and does not open it, and of loops whose every step keeps the commit point.
-/

open Std.Do

set_option mvcgen.warning false

namespace Bistro

namespace Txn

/-! ## §1 — Keeping the commit point -/

/-- A step that leaves the commit point where it found it, on every run. -/
def KeepsCommit {α : Type} (t : Txn α) : Prop := ∀ σ, (t.exec σ).2.saved = σ.saved

/-- The triple saying that a step keeps the commit point `S`. -/
abbrev KeepsAt {α : Type} (t : Txn α) (S : Store) : Prop :=
  ⦃fun σ => ⌜σ.saved = S⌝⦄ t ⦃post⟨fun _ σ => ⌜σ.saved = S⌝, fun _ σ => ⌜σ.saved = S⌝⟩⦄

/-- The triple saying that a step leaves the session `σ₀` as it is. -/
abbrev KeepsSession {α : Type} (t : Txn α) (σ₀ : Session) : Prop :=
  ⦃fun σ => ⌜σ = σ₀⌝⦄ t ⦃post⟨fun _ σ => ⌜σ = σ₀⌝, fun _ σ => ⌜σ = σ₀⌝⟩⦄

/-- A step that only reads keeps every session. -/
theorem Reads.keepsSession {α : Type} {t : Txn α} (h : Reads t) (σ₀ : Session) :
    KeepsSession t σ₀ := by
  refine triple_iff.2 fun σ hσ => ?_
  have hk := h σ
  rcases hx : t.exec σ with ⟨_ | _, σ'⟩ <;> rw [hx] at hk <;> exact hk.trans hσ

theorem KeepsCommit.keepsAt {α : Type} {t : Txn α} (h : KeepsCommit t) (S : Store) :
    KeepsAt t S := by
  refine triple_iff.2 fun σ hσ => ?_
  have hk := h σ
  rcases hx : t.exec σ with ⟨_ | _, σ'⟩ <;> rw [hx] at hk <;> exact hk.trans hσ

theorem KeepsCommit.of_keepsAt {α : Type} {t : Txn α} (h : ∀ S, KeepsAt t S) :
    KeepsCommit t := by
  intro σ
  have ho := triple_iff.1 (h σ.saved) σ rfl
  rcases hx : t.exec σ with ⟨_ | _, σ'⟩ <;> rw [hx] at ho <;> exact ho

theorem KeepsCommit.bind {α β : Type} {x : Txn α} {f : α → Txn β} (hx : KeepsCommit x)
    (hf : ∀ a, KeepsCommit (f a)) : KeepsCommit (x >>= f) := by
  intro σ
  rw [exec_bind]
  have h₁ := hx σ
  rcases hr : x.exec σ with ⟨_ | a, σ'⟩ <;> rw [hr] at h₁
  · exact h₁
  · exact (hf a σ').trans h₁

/-- A loop whose every step keeps the commit point keeps it. -/
theorem KeepsCommit.mapM {α β : Type} {f : α → Txn β} (hf : ∀ a, KeepsCommit (f a)) :
    ∀ xs : List α, KeepsCommit (xs.mapM f)
  | [] => fun _ => rfl
  | x :: xs => by
    rw [List.mapM_cons]
    exact (hf x).bind fun _ => (KeepsCommit.mapM hf xs).bind fun _ _ => rfl

/-- A loop over a list whose every step keeps the commit point keeps it. -/
theorem KeepsCommit.forIn {α β : Type} {f : α → β → Txn (ForInStep β)}
    (hf : ∀ a b, KeepsCommit (f a b)) : ∀ (xs : List α) (b : β), KeepsCommit (forIn xs b f)
  | [] => fun _ _ => rfl
  | x :: xs => fun b => by
    rw [List.forIn_cons]
    refine (hf x b).bind fun step => ?_
    cases step with
    | done b' => exact fun _ => rfl
    | yield b' => exact KeepsCommit.forIn hf xs b'

/-- **Loops keep the commit point** when their steps do; `mvcgen` runs through the steps in
turn. -/
@[spec 2000] theorem mapM_keepsAt {α β : Type} (xs : List α) (f : α → Txn β) (S : Store)
    (hf : ∀ a S', KeepsAt (f a) S') : KeepsAt (xs.mapM f) S :=
  (KeepsCommit.mapM (fun a => KeepsCommit.of_keepsAt (hf a)) xs).keepsAt S

@[spec 2000] theorem forIn_keepsAt {α β : Type} (xs : List α) (b : β)
    (f : α → β → Txn (ForInStep β)) (S : Store) (hf : ∀ a b S', KeepsAt (f a b) S') :
    KeepsAt (forIn xs b f) S :=
  (KeepsCommit.forIn (fun a b => KeepsCommit.of_keepsAt (hf a b)) xs b).keepsAt S

end Txn

/-! ## §2 — The shared steps of the handlers

Each proof runs `mvcgen` through the step; what is left is that a write of the store, a fresh
identifier or a refusal leaves the commit point as it was. -/

namespace Api

open Catalog Themes

@[spec] theorem priceAll_keepsAt (items : List LineRequest) (S : Store) :
    Txn.KeepsAt (priceAll items) S := by
  mvcgen -trivial [priceAll]
  all_goals simp_all +zetaDelta

@[spec] theorem insertLines_keepsAt (orderId : String) (priced : List PricedLine) (S : Store) :
    Txn.KeepsAt (insertLines orderId priced) S := by
  -- `mvcgen` runs through the step of the loop as well
  mvcgen -trivial [insertLines, insertLine]
  all_goals simp_all +zetaDelta

@[spec] theorem saveOrder_keepsAt (o : Order) (S : Store) : Txn.KeepsAt (saveOrder o) S := by
  mvcgen -trivial [saveOrder]
  all_goals simp_all +zetaDelta

@[spec] theorem addProduct_keepsAt (d : ProductDraft) (S : Store) :
    Txn.KeepsAt (addProduct d) S := by
  mvcgen -trivial [addProduct]
  all_goals simp_all +zetaDelta

@[spec] theorem saveProduct_keepsAt (p : Product) (S : Store) : Txn.KeepsAt (saveProduct p) S := by
  mvcgen -trivial [saveProduct]
  all_goals simp_all +zetaDelta

@[spec] theorem storedProductAt_keepsAt (id : String) (S : Store) :
    Txn.KeepsAt (storedProductAt id) S := by
  mvcgen -trivial [storedProductAt]
  all_goals simp_all +zetaDelta

@[spec] theorem addVariation_keepsAt (v : Variation) (S : Store) :
    Txn.KeepsAt (addVariation v) S := by
  mvcgen -trivial [addVariation]
  all_goals simp_all +zetaDelta

@[spec] theorem saveVariation_keepsAt (old new : Variation) (S : Store) :
    Txn.KeepsAt (saveVariation old new) S := by
  mvcgen -trivial [saveVariation]
  all_goals simp_all +zetaDelta

@[spec] theorem dropVariation_keepsAt (id : String) (S : Store) :
    Txn.KeepsAt (dropVariation id) S := by
  mvcgen -trivial [dropVariation]
  all_goals simp_all +zetaDelta

@[spec] theorem applyVariation_keepsAt (p : Product) (had : List String) (item : VariationPatch)
    (S : Store) : Txn.KeepsAt (applyVariation p had item) S := by
  mvcgen -trivial [applyVariation]
  all_goals simp_all +zetaDelta

@[spec] theorem tableImage_keepsAt (menuUrl storeId tableNumber : String) (S : Store) :
    Txn.KeepsAt (tableImage menuUrl storeId tableNumber) S := by
  mvcgen -trivial [tableImage]
  all_goals simp_all +zetaDelta

@[spec] theorem buildQrCode_keepsAt (kind : String) (menuUrl : Option String)
    (expiresAt : Option Stamp) (storeId tableNumber : String) (S : Store) :
    Txn.KeepsAt (buildQrCode kind menuUrl expiresAt storeId tableNumber) S := by
  mvcgen -trivial [buildQrCode]
  all_goals simp_all +zetaDelta

@[spec] theorem storeQrCodes_keepsAt (qs : List QrCode) (S : Store) :
    Txn.KeepsAt (storeQrCodes qs) S := by
  mvcgen -trivial [storeQrCodes]
  all_goals simp_all +zetaDelta

@[spec] theorem themeName_keepsAt (name : String) (own : Option String) (S : Store) :
    Txn.KeepsAt (themeName name own) S := by
  mvcgen -trivial [themeName]
  all_goals simp_all +zetaDelta

@[spec] theorem saveTheme_keepsAt (t : Theme) (S : Store) : Txn.KeepsAt (saveTheme t) S := by
  mvcgen -trivial [saveTheme]
  all_goals simp_all +zetaDelta

@[spec] theorem clearDefault_keepsAt (own : Option String) (S : Store) :
    Txn.KeepsAt (clearDefault own) S := by
  mvcgen -trivial [clearDefault]
  all_goals simp_all +zetaDelta

@[spec] theorem publish_keepsAt (u : Upload) (folder : String) (storageFails : Bool) (S : Store) :
    Txn.KeepsAt (Media.publish u folder storageFails) S := by
  mvcgen -trivial [Media.publish]
  all_goals simp_all +zetaDelta

@[spec] theorem attachLogo_keepsAt (r : Request) (t : Theme) (u : Option Upload) (S : Store) :
    Txn.KeepsAt (attachLogo r t u) S := by
  mvcgen -trivial [attachLogo]
  all_goals simp_all +zetaDelta

@[spec] theorem digestOf_keepsAt (password : String) (S : Store) :
    Txn.KeepsAt (digestOf password) S := by
  mvcgen -trivial [digestOf]
  all_goals simp_all +zetaDelta

@[spec] theorem requireRole_keepsAt (roleId : Option String) (S : Store) :
    Txn.KeepsAt (requireRole roleId) S := by
  mvcgen -trivial [requireRole]
  all_goals simp_all +zetaDelta

@[spec] theorem requireRoleNameFree_keepsAt (name : String) (self : Option String) (S : Store) :
    Txn.KeepsAt (requireRoleNameFree name self) S := by
  mvcgen -trivial [requireRoleNameFree]
  all_goals simp_all +zetaDelta

@[spec] theorem permissionsOf_keepsAt (ids : List String) (S : Store) :
    Txn.KeepsAt (permissionsOf ids) S := by
  mvcgen -trivial [permissionsOf]
  all_goals simp_all +zetaDelta

@[spec] theorem setGrants_keepsAt (roleId : String) (ps : List Permission) (S : Store) :
    Txn.KeepsAt (setGrants roleId ps) S := by
  mvcgen -trivial [setGrants]
  all_goals simp_all +zetaDelta

@[spec] theorem addRole_keepsAt (name : String) (description : Option String)
    (ps : List Permission) (S : Store) : Txn.KeepsAt (addRole name description ps) S := by
  mvcgen -trivial [addRole]
  all_goals simp_all +zetaDelta

@[spec] theorem ensurePermission_keepsAt (name description : String) (S : Store) :
    Txn.KeepsAt (ensurePermission name description) S := by
  mvcgen -trivial [ensurePermission]
  all_goals simp_all +zetaDelta

end Api

end Bistro
