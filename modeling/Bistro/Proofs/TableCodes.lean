import Bistro.Proofs.Footprints

/-!
# Bistro — table codes and the tables they show

A table code's image is derived data: the symbol of its table's address, on its own menu or the
service's. Creating one code, creating the codes of a run of tables and changing a code each
draw it again from the same rule, and every code draws its public code and its id from the
counter of fresh identifiers. This module proves that the codes of every reachable store agree
with that rule:

* `QrCode.Drawn` — a code whose image shows its table; `QrCode.MadeFor` — a code made for a
  table from what a body gives;
* `Qr.Issued` — the codes issued for a list of tables from the counter, and the exact triples of
  the steps that issue them (`buildQrCode_draws`, `buildQrCodes_draws`, `storeQrCodes_stores`);
* what the four routes that write codes do (`CreatesCode`, `CreatesCodes`, `ChangesCode`,
  `DropsCode`);
* `Qr.CodesSound` — every code shows its table, keeps its expiry as a UTC wall time, and has a
  public code and an id drawn before the counter and shared with no other code; every request
  keeps it (`serve_keeps_codes_sound`), so it holds in every reachable world
  (`Reachable.codes_sound`);
* `Qr.CodePage` — the page of a public code: missing, gone once its expiry has passed, or the
  code (`serve_code_page`);
* `table_codes_consistent` — the invariant, with how the creation of a batch, the change of a
  code and the page of a public code answer from every reachable world (`Api.CodeRoutes`).

The invariant is carried by the footprints of the routes: a route whose footprint leaves the
codes out keeps them, and the four that write them are taken one by one.
-/

open Std.Do

set_option mvcgen.warning false

namespace Bistro

/-! ## §1 — A code shows its table -/

namespace Qr

/-- The service's menu address is not blank, so the menu a code leads to leads to itself. -/
theorem menuOf_menuOf (m : Option String) : menuOf (some (menuOf m)) = menuOf m := by
  have hbase : Config.service.menuBaseUrl.isEmpty = false := by decide
  cases m with
  | none => simp [menuOf, hbase]
  | some u =>
    cases hu : u.isEmpty
    · simp [menuOf, hu]
    · simp [menuOf, hu, hbase]

/-- An expiry, as a body gives it, is a UTC wall time. -/
theorem expiry_offset {j : Json} {e : Stamp} (h : expiry j = .ok e) : e.offset = none := by
  unfold expiry at h
  cases hs : Field.stamp j with
  | fail _ => simp [hs, Validated.map] at h
  | ok s =>
    simp only [hs, Validated.map, Validated.ok.injEq] at h
    rw [← h]
    unfold Stamp.toUtcWall
    split
    · rfl
    · assumption

/-- An optional expiry a body gives is a UTC wall time. -/
theorem optional_expiry_offset {fs : List (String × Json)} {key : String} {o : Option Stamp}
    (h : Field.optional fs key expiry = .ok o) : ∀ e ∈ o, e.offset = none := by
  rcases Field.optional_ok h with rfl | ⟨j, e, hj, rfl⟩
  · simp
  · simpa using expiry_offset hj

end Qr

/-- The address of a code's table: on its own menu, or on the service's menu when its menu
address is blank. -/
def QrCode.address (q : QrCode) : String :=
  Qr.tableAddress (Qr.menuOf (some q.menuUrl)) q.storeId q.tableNumber

/-- **A code shows its table**: its image is the symbol of its table's address, an address that
fits a symbol. -/
def QrCode.Drawn (q : QrCode) : Prop :=
  Qr.Drawable q.address ∧ q.image = ⟨q.address⟩

/-- A code with the target and image of a code that shows its table shows its table. -/
theorem QrCode.Drawn.of_target {q q' : QrCode} (h : q.Drawn) (ht : q'.target = q.target)
    (hi : q'.image = q.image) : q'.Drawn := by
  simp only [QrCode.target, Prod.mk.injEq] at ht
  obtain ⟨hm, hs, hn⟩ := ht
  have haddr : q'.address = q.address := by
    rw [QrCode.address, QrCode.address, hm, hs, hn]
  unfold QrCode.Drawn
  rw [haddr, hi]
  exact h

/-- **A code made for a table of the store `storeId`** at the time `t`, from the kind, menu and
expiry a body gives: of the kind `menu` when the kind is blank, leading to the service's menu when
the menu is blank or absent, and with an image that shows its table. -/
structure QrCode.MadeFor (kind : String) (menuUrl : Option String) (expiresAt : Option Stamp)
    (storeId : String) (t : Stamp) (q : QrCode) : Prop where
  storeId_eq : q.storeId = storeId
  kind_eq : q.kind = if kind.isEmpty then "menu" else kind
  menuUrl_eq : q.menuUrl = Qr.menuOf menuUrl
  expiresAt_eq : q.expiresAt = expiresAt
  createdAt_eq : q.createdAt = t
  drawn : q.Drawn

/-- Drawing an id does not change what a code was made for. -/
theorem QrCode.MadeFor.withId {kind : String} {menuUrl : Option String}
    {expiresAt : Option Stamp} {storeId : String} {t : Stamp} {q : QrCode}
    (h : q.MadeFor kind menuUrl expiresAt storeId t) (x : String) :
    { q with id := x }.MadeFor kind menuUrl expiresAt storeId t :=
  ⟨h.storeId_eq, h.kind_eq, h.menuUrl_eq, h.expiresAt_eq, h.createdAt_eq, h.drawn⟩

namespace Qr

/-- A new code's body gives its expiry as a UTC wall time. -/
theorem QrDraft.validate_expiry {fs : List (String × Json)} {d : QrDraft}
    (h : QrDraft.validate fs = .ok d) : ∀ e ∈ d.expiresAt, e.offset = none := by
  -- the expiry is the third of five members
  obtain ⟨g₄, -, hg₄, -, rfl⟩ := Validated.seq_eq_ok h
  obtain ⟨g₃, -, hg₃, -, rfl⟩ := Validated.seq_eq_ok hg₄
  obtain ⟨g₂, e, hg₂, he, rfl⟩ := Validated.seq_eq_ok hg₃
  obtain ⟨g₁, -, hg₁, -, rfl⟩ := Validated.seq_eq_ok hg₂
  obtain ⟨-, -, rfl⟩ := Validated.map_eq_ok hg₁
  exact optional_expiry_offset he

/-- A batch's body gives its expiry as a UTC wall time. -/
theorem QrBatch.validate_expiry {fs : List (String × Json)} {b : QrBatch}
    (h : QrBatch.validate fs = .ok b) : ∀ e ∈ b.expiresAt, e.offset = none := by
  -- the expiry is the third of six members
  obtain ⟨g₅, -, hg₅, -, rfl⟩ := Validated.seq_eq_ok h
  obtain ⟨g₄, -, hg₄, -, rfl⟩ := Validated.seq_eq_ok hg₅
  obtain ⟨g₃, -, hg₃, -, rfl⟩ := Validated.seq_eq_ok hg₄
  obtain ⟨g₂, e, hg₂, he, rfl⟩ := Validated.seq_eq_ok hg₃
  obtain ⟨g₁, -, hg₁, -, rfl⟩ := Validated.seq_eq_ok hg₂
  obtain ⟨-, -, rfl⟩ := Validated.map_eq_ok hg₁
  exact optional_expiry_offset he

/-- A change's body gives its expiry, when it gives one, as a UTC wall time. -/
theorem QrPatch.validate_expiry {fs : List (String × Json)} {p : QrPatch}
    (h : QrPatch.validate fs = .ok p) : ∀ e ∈ p.expiresAt, e.offset = none := by
  obtain ⟨g₄, -, hg₄, -, rfl⟩ := Validated.seq_eq_ok h
  obtain ⟨g₃, -, hg₃, -, rfl⟩ := Validated.seq_eq_ok hg₄
  obtain ⟨g₂, e, hg₂, he, rfl⟩ := Validated.seq_eq_ok hg₃
  obtain ⟨g₁, -, hg₁, -, rfl⟩ := Validated.seq_eq_ok hg₂
  obtain ⟨-, -, rfl⟩ := Validated.map_eq_ok hg₁
  exact optional_expiry_offset he

end Qr

/-! ## §2 — Issuing codes -/

namespace Qr

/-- Codes with ids drawn in order from `k`. -/
def withIds : Nat → List QrCode → List QrCode
  | _, [] => []
  | k, q :: qs => { q with id := Txn.idText k } :: withIds (k + 1) qs

/-- Drawing ids keeps whatever does not read them. -/
theorem map_withIds {β : Type} {f : QrCode → β} (hf : ∀ q x, f { q with id := x } = f q) :
    ∀ (k : Nat) (qs : List QrCode), (withIds k qs).map f = qs.map f
  | _, [] => rfl
  | k, q :: qs => by simp [withIds, hf, map_withIds hf (k + 1) qs]

theorem map_id_withIds :
    ∀ (k : Nat) (qs : List QrCode), (withIds k qs).map (·.id) = (List.range' k qs.length).map Txn.idText
  | _, [] => rfl
  | k, q :: qs => by simp [withIds, map_id_withIds (k + 1) qs, List.range'_succ]

theorem forall_withIds {P : QrCode → Prop} (hP : ∀ q x, P q → P { q with id := x }) :
    ∀ (k : Nat) (qs : List QrCode), (∀ q ∈ qs, P q) → ∀ q ∈ withIds k qs, P q
  | _, [], _ => by simp [withIds]
  | k, q :: qs, h => by
    simp only [withIds, List.mem_cons, forall_eq_or_imp] at h ⊢
    exact ⟨hP q _ h.1, forall_withIds hP (k + 1) qs h.2⟩

/-- **The codes issued for tables** from the counter `k` at the time `t`: one code per table, in
order, each made for its table from the kind, menu and expiry given; their public codes are drawn
from `k` on, and their ids after all of them. -/
structure Issued (kind : String) (menuUrl : Option String) (expiresAt : Option Stamp)
    (storeId : String) (tables : List String) (k : Nat) (t : Stamp) (new : List QrCode) : Prop where
  tables_eq : new.map (·.tableNumber) = tables
  codes_eq : new.map (·.code) = (List.range' k tables.length).map Txn.idText
  ids_eq : new.map (·.id) = (List.range' (k + tables.length) tables.length).map Txn.idText
  made : ∀ q ∈ new, q.MadeFor kind menuUrl expiresAt storeId t

namespace Issued

variable {kind : String} {menuUrl : Option String} {expiresAt : Option Stamp} {storeId : String}
  {tables : List String} {k : Nat} {t : Stamp} {new : List QrCode}

theorem length_eq (h : Issued kind menuUrl expiresAt storeId tables k t new) :
    new.length = tables.length := by
  rw [← h.tables_eq, List.length_map]

/-- The public codes of issued codes are all different. -/
theorem codes_nodup (h : Issued kind menuUrl expiresAt storeId tables k t new) :
    (new.map (·.code)).Nodup := by
  rw [h.codes_eq]
  exact (List.nodup_range' ..).map Txn.idText_injective

/-- The ids of issued codes are all different. -/
theorem ids_nodup (h : Issued kind menuUrl expiresAt storeId tables k t new) :
    (new.map (·.id)).Nodup := by
  rw [h.ids_eq]
  exact (List.nodup_range' ..).map Txn.idText_injective

/-- The codes drawn for tables, given their ids after them, are the codes issued for the tables. -/
theorem of_drawn {qs : List QrCode} (htables : qs.map (·.tableNumber) = tables)
    (hcodes : qs.map (·.code) = (List.range' k tables.length).map Txn.idText)
    (hmade : ∀ q ∈ qs, q.MadeFor kind menuUrl expiresAt storeId t) :
    Issued kind menuUrl expiresAt storeId tables k t (withIds (k + tables.length) qs) where
  tables_eq := by rw [map_withIds (fun _ _ => rfl), htables]
  codes_eq := by rw [map_withIds (fun _ _ => rfl), hcodes]
  ids_eq := by
    have hlen : qs.length = tables.length := by rw [← htables, List.length_map]
    rw [map_id_withIds, hlen]
  made := forall_withIds (fun _ x h => h.withId x) _ qs hmade

end Issued

/-- **Codes appended for tables**: `S'` is `S` with the codes issued for `tables` from the counter
`k` appended, and the counter `k'` has moved past their public codes and their ids. -/
def Appends (kind : String) (menuUrl : Option String) (expiresAt : Option Stamp)
    (storeId : String) (tables : List String) (k : Nat) (t : Stamp) (S : Store) (S' : Store)
    (k' : Nat) : Prop :=
  ∃ new, Issued kind menuUrl expiresAt storeId tables k t new ∧
    S' = { S with qrCodes := S.qrCodes ++ new } ∧ k' = k + tables.length + tables.length

/-- One code drawn for a table and stored appends the code issued for that table. -/
theorem Appends.single {kind : String} {menuUrl : Option String} {expiresAt : Option Stamp}
    {storeId tableNumber : String} {k : Nat} {t : Stamp} {S : Store} {q : QrCode}
    (hcode : q.code = Txn.idText k) (htable : q.tableNumber = tableNumber)
    (hmade : q.MadeFor kind menuUrl expiresAt storeId t) :
    Appends kind menuUrl expiresAt storeId [tableNumber] k t S
      { S with qrCodes := S.qrCodes ++ withIds (k + 1) [q] } (k + 1 + 1) :=
  ⟨_, @Issued.of_drawn kind menuUrl expiresAt storeId [tableNumber] k t [q] (by simp [htable])
    (by simp [hcode]) (by simpa using hmade), rfl, rfl⟩

/-- The codes drawn for the tables of a batch and stored append the codes issued for them. -/
theorem Appends.batch {kind : String} {menuUrl : Option String} {expiresAt : Option Stamp}
    {storeId : String} {tables : List String} {k : Nat} {t : Stamp} {S : Store}
    {qs : List QrCode} (htables : qs.map (·.tableNumber) = tables)
    (hcodes : qs.map (·.code) = (List.range' k tables.length).map Txn.idText)
    (hmade : ∀ q ∈ qs, q.MadeFor kind menuUrl expiresAt storeId t) :
    Appends kind menuUrl expiresAt storeId tables k t S
      { S with qrCodes := S.qrCodes ++ withIds (k + tables.length) qs }
      (k + tables.length + qs.length) := by
  have hlen : qs.length = tables.length := by rw [← htables, List.length_map]
  rw [hlen]
  exact ⟨_, Issued.of_drawn htables hcodes hmade, rfl, rfl⟩

end Qr

namespace Api

open Qr

/-- Drawing the image of a table's address changes nothing, and fails only on an address that
fits no symbol. -/
@[spec 9500] theorem tableImage_draws (m storeId tableNumber : String) (σ₀ : Session) :
    ⦃fun σ => ⌜σ = σ₀⌝⦄ tableImage m storeId tableNumber
    ⦃post⟨fun i σ => ⌜σ = σ₀ ∧ Drawable (tableAddress m storeId tableNumber) ∧
        i = ⟨tableAddress m storeId tableNumber⟩⌝,
      fun _ σ => ⌜σ = σ₀⌝⟩⦄ := by
  mvcgen -trivial [tableImage, -tableImage_keepsAt, -tableImage_bookAt, -tableImage_registryAt,
    -tableImage_logsAt, -tableImage_withinAt]
  all_goals simp_all +zetaDelta

/-- **A code for a table** draws its public code and shows its table; a failure has drawn the
public code too. -/
@[spec 9500] theorem buildQrCode_draws (kind : String) (menuUrl : Option String)
    (expiresAt : Option Stamp) (storeId tableNumber : String) (σ₀ : Session) :
    ⦃fun σ => ⌜σ = σ₀⌝⦄ buildQrCode kind menuUrl expiresAt storeId tableNumber
    ⦃post⟨fun q σ => ⌜σ = { σ₀ with nextId := σ₀.nextId + 1 } ∧
        q.code = Txn.idText σ₀.nextId ∧ q.tableNumber = tableNumber ∧
        q.MadeFor kind menuUrl expiresAt storeId σ₀.now.row⌝,
      fun _ σ => ⌜σ = { σ₀ with nextId := σ₀.nextId + 1 }⌝⟩⦄ := by
  mvcgen -trivial [buildQrCode, -buildQrCode_keepsAt, -buildQrCode_bookAt,
    -buildQrCode_registryAt, -buildQrCode_logsAt, -buildQrCode_withinAt]
  all_goals simp_all +zetaDelta [Stamp.row]
  constructor <;> simp_all [QrCode.Drawn, QrCode.address, menuOf_menuOf]

/-- What drawing the codes of tables leaves behind, run by run. -/
def DrawRun (kind : String) (menuUrl : Option String) (expiresAt : Option Stamp)
    (storeId : String) (tables : List String) (σ : Session) :
    Except Fault (List QrCode) × Session → Prop
  | (.ok qs, σ') => σ' = { σ with nextId := σ.nextId + tables.length } ∧
      qs.map (·.tableNumber) = tables ∧
      qs.map (·.code) = (List.range' σ.nextId tables.length).map Txn.idText ∧
      ∀ q ∈ qs, q.MadeFor kind menuUrl expiresAt storeId σ.now.row
  | (.error _, σ') => σ'.saved = σ.saved ∧ σ.nextId ≤ σ'.nextId

theorem buildQrCodes_run (kind : String) (menuUrl : Option String) (expiresAt : Option Stamp)
    (storeId : String) : ∀ (tables : List String) (σ : Session),
      DrawRun kind menuUrl expiresAt storeId tables σ
        ((tables.mapM (buildQrCode kind menuUrl expiresAt storeId)).exec σ)
  | [], σ => by simp [DrawRun]
  | tn :: tables, σ => by
    rw [List.mapM_cons, Txn.exec_bind]
    have hone := Txn.triple_iff.1 (buildQrCode_draws kind menuUrl expiresAt storeId tn σ) σ rfl
    rcases hx : (buildQrCode kind menuUrl expiresAt storeId tn).exec σ with ⟨_ | q, σ₁⟩ <;>
      rw [hx] at hone
    · -- the first code fails, having drawn its public code
      have h₁ : σ₁ = { σ with nextId := σ.nextId + 1 } := hone
      subst h₁
      exact ⟨rfl, Nat.le_succ _⟩
    · -- the first code is drawn; the rest are drawn from where it left the counter
      obtain ⟨h₁, hcode, htable, hmade⟩ := hone
      subst h₁
      dsimp only
      rw [Txn.exec_bind]
      have hrest := buildQrCodes_run kind menuUrl expiresAt storeId tables
        { σ with nextId := σ.nextId + 1 }
      rcases hy : (tables.mapM (buildQrCode kind menuUrl expiresAt storeId)).exec
        { σ with nextId := σ.nextId + 1 } with ⟨_ | qs, σ₂⟩ <;> rw [hy] at hrest
      · exact ⟨hrest.1, Nat.le_of_succ_le hrest.2⟩
      · obtain ⟨h₂, htables, hcodes, hmades⟩ := hrest
        subst h₂
        refine ⟨by simp +arith, by simp [htable, htables], ?_, ?_⟩
        · simp [hcode, hcodes, List.range'_succ]
        · simpa [hmade] using hmades

/-- **Drawing the codes of tables** draws one public code per table, in order, each code made
for its table; a failure keeps the commit point. -/
@[spec 9500] theorem buildQrCodes_draws (kind : String) (menuUrl : Option String)
    (expiresAt : Option Stamp) (storeId : String) (tables : List String) (σ₀ : Session) :
    ⦃fun σ => ⌜σ = σ₀⌝⦄ tables.mapM (buildQrCode kind menuUrl expiresAt storeId)
    ⦃post⟨fun qs σ => ⌜σ = { σ₀ with nextId := σ₀.nextId + tables.length } ∧
        qs.map (·.tableNumber) = tables ∧
        qs.map (·.code) = (List.range' σ₀.nextId tables.length).map Txn.idText ∧
        ∀ q ∈ qs, q.MadeFor kind menuUrl expiresAt storeId σ₀.now.row⌝,
      fun _ σ => ⌜σ.saved = σ₀.saved ∧ σ₀.nextId ≤ σ.nextId⌝⟩⦄ := by
  refine Txn.triple_iff.2 fun σ hσ => ?_
  subst hσ
  have h := buildQrCodes_run kind menuUrl expiresAt storeId tables σ
  rcases hx : (tables.mapM (buildQrCode kind menuUrl expiresAt storeId)).exec σ with
    ⟨_ | qs, σ'⟩ <;> rw [hx] at h <;> exact h

theorem withIds_run : ∀ (qs : List QrCode) (σ : Session),
    (qs.mapM (m := Txn) fun (q : QrCode) => do pure { q with id := ← Txn.freshId }).exec σ =
      ((.ok (withIds σ.nextId qs), { σ with nextId := σ.nextId + qs.length }) :
        Except Fault (List QrCode) × Session)
  | [], σ => by simp [withIds]
  | q :: qs, σ => by
    rw [List.mapM_cons, Txn.exec_bind]
    have h₁ : (do pure { q with id := ← Txn.freshId } : Txn QrCode).exec σ =
        (.ok { q with id := Txn.idText σ.nextId }, { σ with nextId := σ.nextId + 1 }) := rfl
    rw [h₁]
    dsimp only
    rw [Txn.exec_bind, withIds_run qs]
    simp +arith [withIds]

/-- **Storing new codes** draws their ids in order and appends them to the codes. -/
@[spec 9500] theorem storeQrCodes_stores (qs : List QrCode) (σ₀ : Session) :
    ⦃fun σ => ⌜σ = σ₀⌝⦄ storeQrCodes qs
    ⦃post⟨fun stored σ => ⌜stored = withIds σ₀.nextId qs ∧
        σ = { σ₀ with nextId := σ₀.nextId + qs.length
                      store := { σ₀.store with qrCodes := σ₀.store.qrCodes ++ stored } }⌝,
      fun _ _ => ⌜False⌝⟩⦄ := by
  refine Txn.triple_iff.2 fun σ hσ => ?_
  subst hσ
  unfold storeQrCodes
  rw [Txn.exec_bind, withIds_run]
  exact ⟨rfl, rfl⟩

/-! ## §3 — What the routes that write codes do -/

/-- **Creating a code** for the table a body names appends the code issued for it. -/
def CreatesCode (r : Request) (_ : List String) (t : Stamp) (S : Store) (k : Nat) (S' : Store)
    (k' : Nat) : Prop :=
  ∃ d, Input.bodyAs r QrDraft.validate = some d ∧
    Appends d.kind d.menuUrl d.expiresAt d.storeId [d.tableNumber] k t.row S S' k'

theorem createQrCode_does : Does createQrCode CreatesCode := by
  intro r ps t S k
  mvcgen -trivial [createQrCode]
  all_goals simp_all +zetaDelta [CreatesCode, Input.bodyAs, Appends.single]
  -- a store of one code answers with one code
  all_goals omega

/-- **Creating the codes of a run of tables** appends the codes issued for the tables of the
batch a body gives. -/
def CreatesCodes (r : Request) (_ : List String) (t : Stamp) (S : Store) (k : Nat) (S' : Store)
    (k' : Nat) : Prop :=
  ∃ b, Input.bodyAs r QrBatch.validate = some b ∧
    Appends b.kind b.menuUrl b.expiresAt b.storeId b.tableNumbers k t.row S S' k'

theorem createQrCodes_does : Does createQrCodes CreatesCodes := by
  intro r ps t S k
  mvcgen -trivial [createQrCodes]
  all_goals simp_all +zetaDelta [CreatesCodes, Input.bodyAs, Appends.batch]

/-- **Changing a code**: the code of the path takes the changes the body gives, and its image
is drawn again, for its new table, exactly when its menu address, store or table changes. -/
def ChangesCode (r : Request) (ps : List String) (_ : Stamp) (S : Store) (k : Nat) (S' : Store)
    (k' : Nat) : Prop :=
  ∃ p old image, Input.bodyAs r QrPatch.validate = some p ∧
    S.qrCode? (Route.param ps) = some old ∧
    ((p.apply old).target = old.target → image = old.image) ∧
    ((p.apply old).target ≠ old.target → { p.apply old with image := image }.Drawn) ∧
    S' = { S with qrCodes := Store.replaceRow (·.id) { p.apply old with image := image } S.qrCodes } ∧
    k' = k

/-- A change that keeps what a code shows keeps its image. -/
theorem changesCode_kept {r : Request} {ps : List String} {t : Stamp} {S : Store} {k : Nat}
    {p : QrPatch} {old : QrCode} (hp : Input.bodyAs r QrPatch.validate = some p)
    (hold : S.qrCode? (Route.param ps) = some old) (ht : (p.apply old).target = old.target) :
    ChangesCode r ps t S k { S with qrCodes := Store.replaceRow (·.id) (p.apply old) S.qrCodes } k :=
  ⟨p, old, old.image, hp, hold, fun _ => rfl, fun h => absurd ht h, rfl, rfl⟩

/-- A change of what a code shows draws its image again. -/
theorem changesCode_redrawn {r : Request} {ps : List String} {t : Stamp} {S : Store} {k : Nat}
    {p : QrPatch} {old : QrCode} (hp : Input.bodyAs r QrPatch.validate = some p)
    (hold : S.qrCode? (Route.param ps) = some old) (ht : ¬(p.apply old).target = old.target)
    (hd : Drawable (p.apply old).address) :
    ChangesCode r ps t S k
      { S with
        qrCodes := Store.replaceRow (·.id) { p.apply old with image := ⟨(p.apply old).address⟩ }
          S.qrCodes } k :=
  ⟨p, old, ⟨(p.apply old).address⟩, hp, hold, fun h => absurd h ht, fun _ => ⟨hd, rfl⟩, rfl, rfl⟩

theorem updateQrCode_does : Does updateQrCode ChangesCode := by
  intro r ps t S k
  mvcgen -trivial [updateQrCode, qrCodeAt]
  all_goals simp_all +zetaDelta [Input.bodyAs, changesCode_kept]
  -- left: a change of what a code shows, which draws the image of its new address
  obtain ⟨-, hdraw, -⟩ := ‹_ = _ ∧ Drawable _ ∧ _›
  exact changesCode_redrawn
    (by simp only [Input.bodyAs, ‹Input.bodyOf r = _›, ‹Input.model _ _ = _›]) ‹_› ‹_› hdraw

/-- **Deleting a code**: the code of the path goes, and its orders keep no table code. -/
def DropsCode (_ : Request) (ps : List String) (_ : Stamp) (S : Store) (k : Nat) (S' : Store)
    (k' : Nat) : Prop :=
  ∃ q, S.qrCode? (Route.param ps) = some q ∧
    S' = { S with
      qrCodes := S.qrCodes.filter (·.id != q.id)
      orders := S.orders.map fun o => if o.qrId == some q.id then { o with qrId := none } else o } ∧
    k' = k

theorem deleteQrCode_does : Does deleteQrCode DropsCode := by
  intro r ps t S k
  mvcgen -trivial [deleteQrCode, qrCodeAt]
  all_goals simp_all +zetaDelta [DropsCode]

end Api

/-! ## §4 — Sound codes in every reachable world -/

namespace Qr

/-- **Sound table codes** under the counter `n`: every code shows its table and keeps its expiry
as a UTC wall time; its public code and its id were drawn before `n`; and no two codes share a
public code or an id. -/
structure CodesSound (n : Nat) (codes : List QrCode) : Prop where
  drawn : ∀ q ∈ codes, q.Drawn
  utc : ∀ q ∈ codes, ∀ e ∈ q.expiresAt, e.offset = none
  code_drawn : ∀ q ∈ codes, ∃ m < n, q.code = Txn.idText m
  id_drawn : ∀ q ∈ codes, ∃ m < n, q.id = Txn.idText m
  codes_nodup : (codes.map (·.code)).Nodup
  ids_nodup : (codes.map (·.id)).Nodup

/-- A value of a code drawn among the identifiers `a`, …, `a + l - 1`. -/
theorem drawn_of_range' {f : QrCode → String} {new : List QrCode} {a l : Nat}
    (hnew : new.map f = (List.range' a l).map Txn.idText) {q : QrCode} (hq : q ∈ new) :
    ∃ m, a ≤ m ∧ m < a + l ∧ f q = Txn.idText m := by
  have hmem : f q ∈ (List.range' a l).map Txn.idText := hnew ▸ List.mem_map_of_mem hq
  obtain ⟨m, hm, hfm⟩ := List.mem_map.1 hmem
  rw [List.mem_range'_1] at hm
  exact ⟨m, hm.1, hm.2, hfm.symm⟩

/-- Identifiers drawn before `k` and identifiers drawn from `k` on are all different. -/
theorem nodup_append_drawn {f : QrCode → String} {codes new : List QrCode} {k a l : Nat}
    (hold : ∀ q ∈ codes, ∃ m < k, f q = Txn.idText m) (hnd : (codes.map f).Nodup)
    (hnew : new.map f = (List.range' a l).map Txn.idText) (hk : k ≤ a) :
    ((codes ++ new).map f).Nodup := by
  rw [List.map_append, List.nodup_append]
  refine ⟨hnd, hnew ▸ (List.nodup_range' ..).map Txn.idText_injective, ?_⟩
  intro x hx y hy hxy
  obtain ⟨q, hq, rfl⟩ := List.mem_map.1 hx
  obtain ⟨q', hq', rfl⟩ := List.mem_map.1 hy
  obtain ⟨m, hm, hfm⟩ := hold q hq
  obtain ⟨m', hm', -, hfm'⟩ := drawn_of_range' hnew hq'
  have := Txn.idText_injective (hfm.symm.trans (hxy.trans hfm'))
  omega

/-- Replacing the rows of a key keeps what every row of that key agrees on with the new row. -/
theorem map_replaceRow_of_agree {β : Type} {f : QrCode → β} {q : QrCode} {codes : List QrCode}
    (hf : ∀ y ∈ codes, y.id = q.id → f q = f y) :
    (Store.replaceRow (·.id) q codes).map f = codes.map f := by
  unfold Store.replaceRow
  rw [List.map_map]
  refine List.map_congr_left fun y hy => ?_
  by_cases hk : y.id = q.id
  · simp [hk, hf y hy hk]
  · simp [hk]

namespace CodesSound

variable {n : Nat} {codes : List QrCode}

theorem nil (n : Nat) : CodesSound n [] := ⟨by simp, by simp, by simp, by simp, .nil, .nil⟩

theorem mono (h : CodesSound n codes) {n' : Nat} (hn : n ≤ n') : CodesSound n' codes where
  drawn := h.drawn
  utc := h.utc
  code_drawn q hq := by
    obtain ⟨m, hm, hc⟩ := h.code_drawn q hq
    exact ⟨m, by omega, hc⟩
  id_drawn q hq := by
    obtain ⟨m, hm, hc⟩ := h.id_drawn q hq
    exact ⟨m, by omega, hc⟩
  codes_nodup := h.codes_nodup
  ids_nodup := h.ids_nodup

/-- **Appending the codes issued from the counter** keeps the codes sound, under the counter
moved past their public codes and ids. -/
theorem append {kind : String} {menuUrl : Option String} {expiresAt : Option Stamp}
    {storeId : String} {tables : List String} {k : Nat} {t : Stamp} {new : List QrCode}
    (h : CodesSound k codes) (hi : Issued kind menuUrl expiresAt storeId tables k t new)
    (hexp : ∀ e ∈ expiresAt, e.offset = none) :
    CodesSound (k + tables.length + tables.length) (codes ++ new) where
  drawn q hq := by
    rcases List.mem_append.1 hq with hq | hq
    · exact h.drawn q hq
    · exact (hi.made q hq).drawn
  utc q hq := by
    rcases List.mem_append.1 hq with hq | hq
    · exact h.utc q hq
    · rw [(hi.made q hq).expiresAt_eq]
      exact hexp
  code_drawn q hq := by
    rcases List.mem_append.1 hq with hq | hq
    · obtain ⟨m, hm, hc⟩ := h.code_drawn q hq
      exact ⟨m, by omega, hc⟩
    · obtain ⟨m, -, hm, hc⟩ := drawn_of_range' hi.codes_eq hq
      exact ⟨m, by omega, hc⟩
  id_drawn q hq := by
    rcases List.mem_append.1 hq with hq | hq
    · obtain ⟨m, hm, hc⟩ := h.id_drawn q hq
      exact ⟨m, by omega, hc⟩
    · obtain ⟨m, -, hm, hc⟩ := drawn_of_range' hi.ids_eq hq
      exact ⟨m, hm, hc⟩
  codes_nodup := nodup_append_drawn h.code_drawn h.codes_nodup hi.codes_eq (le_refl k)
  ids_nodup := nodup_append_drawn h.id_drawn h.ids_nodup hi.ids_eq (Nat.le_add_right k _)

theorem appends {kind : String} {menuUrl : Option String} {expiresAt : Option Stamp}
    {storeId : String} {tables : List String} {k k' : Nat} {t : Stamp} {S S' : Store}
    (h : CodesSound k S.qrCodes) (ha : Appends kind menuUrl expiresAt storeId tables k t S S' k')
    (hexp : ∀ e ∈ expiresAt, e.offset = none) : CodesSound k' S'.qrCodes := by
  obtain ⟨new, hi, rfl, rfl⟩ := ha
  exact h.append hi hexp

/-- **Changing a code** of the store keeps the codes sound, as long as the new row keeps the id
and the public code, shows its table and keeps its expiry as a UTC wall time. -/
theorem replaceRow (h : CodesSound n codes) {x : String} {old q : QrCode}
    (hold : codes.find? (·.id == x) = some old) (hid : q.id = old.id) (hcode : q.code = old.code)
    (hdrawn : q.Drawn) (hutc : ∀ e ∈ q.expiresAt, e.offset = none) :
    CodesSound n (Store.replaceRow (·.id) q codes) := by
  have hmem : old ∈ codes := List.mem_of_find?_eq_some hold
  -- the ids are apart, so the row of the id is the old code
  have hsole : ∀ y ∈ codes, y.id = q.id → y = old := fun y hy hy' =>
    List.inj_on_of_nodup_map h.ids_nodup hy hmem (hy'.trans hid)
  have hmem' : ∀ y ∈ Store.replaceRow (·.id) q codes, y ∈ codes ∨ y = q := fun y hy =>
    (Store.mem_replaceRow hy).imp And.left id
  refine ⟨?_, ?_, ?_, ?_, ?_, ?_⟩
  · intro y hy
    rcases hmem' y hy with hy | rfl
    · exact h.drawn y hy
    · exact hdrawn
  · intro y hy
    rcases hmem' y hy with hy | rfl
    · exact h.utc y hy
    · exact hutc
  · intro y hy
    rcases hmem' y hy with hy | rfl
    · exact h.code_drawn y hy
    · rw [hcode]
      exact h.code_drawn old hmem
  · intro y hy
    rcases hmem' y hy with hy | rfl
    · exact h.id_drawn y hy
    · rw [hid]
      exact h.id_drawn old hmem
  · rw [map_replaceRow_of_agree fun y hy hy' => by rw [hsole y hy hy', hcode]]
    exact h.codes_nodup
  · rw [map_replaceRow_of_agree fun y _ hy' => hy'.symm]
    exact h.ids_nodup

/-- Dropping codes keeps the codes sound. -/
theorem filter (h : CodesSound n codes) (p : QrCode → Bool) : CodesSound n (codes.filter p) where
  drawn q hq := h.drawn q (List.mem_of_mem_filter hq)
  utc q hq := h.utc q (List.mem_of_mem_filter hq)
  code_drawn q hq := h.code_drawn q (List.mem_of_mem_filter hq)
  id_drawn q hq := h.id_drawn q (List.mem_of_mem_filter hq)
  codes_nodup := (List.filter_sublist.map _).nodup h.codes_nodup
  ids_nodup := (List.filter_sublist.map _).nodup h.ids_nodup

end CodesSound

/-- A change's new row keeps its expiry as a UTC wall time: the body's, or the old one. -/
theorem QrPatch.apply_utc {p : QrPatch} {old : QrCode} (hp : ∀ e ∈ p.expiresAt, e.offset = none)
    (hold : ∀ e ∈ old.expiresAt, e.offset = none) :
    ∀ e ∈ (p.apply old).expiresAt, e.offset = none := by
  cases hx : p.expiresAt with
  | none => simpa [QrPatch.apply, hx] using hold
  | some e => simpa [QrPatch.apply, hx] using hp

end Qr

namespace Api

/-- The routes whose footprint holds the table codes: the creation of a code or of a batch, and
the change and the deletion of a code. -/
theorem footprinted_filter_qrCodes :
    footprinted.filter (fun p => Part.qrCodes ∈ p.2) =
      [(Route.of "POST" "/api/v1/qr-codes" createQrCode, [.qrCodes]),
       (Route.of "POST" "/api/v1/qr-codes/bulk" createQrCodes, [.qrCodes]),
       (Route.of "PUT" "/api/v1/qr-codes/\x7bqr_id\x7d" updateQrCode, [.qrCodes]),
       (Route.of "DELETE" "/api/v1/qr-codes/\x7bqr_id\x7d" deleteQrCode, [.qrCodes, .orders])] :=
  rfl

end Api

/-- **Every request keeps the table codes sound**: a route that does not write them leaves them
as they were, and each of the four that do keeps them sound. -/
theorem serve_keeps_codes_sound (s : Store) (n : Nat) (now : Stamp) (r : Request)
    (h : Qr.CodesSound n s.qrCodes) :
    Qr.CodesSound (serve Api.routes s n now r).nextId (serve Api.routes s n now r).store.qrCodes := by
  rcases serve_within_footprint s n now r with ⟨hs, -, hn⟩ |
    ⟨route, ps, parts, hsel, hmem, hout, -, hn⟩
  · rw [hs, hn]
    exact h
  by_cases hq : Part.qrCodes ∈ parts
  · have hw : (route, parts) ∈ Api.footprinted.filter (fun p => Part.qrCodes ∈ p.2) :=
      List.mem_filter.2 ⟨hmem, by simpa using hq⟩
    rw [Api.footprinted_filter_qrCodes] at hw
    simp only [List.mem_cons, Prod.mk.injEq, List.not_mem_nil, or_false] at hw
    rcases hw with ⟨rfl, -⟩ | ⟨rfl, -⟩ | ⟨rfl, -⟩ | ⟨rfl, -⟩
    · rcases serve_does hsel Api.createQrCode_does with ⟨hs, hn'⟩ | ⟨d, hd, ha⟩
      · rw [hs]
        exact h.mono hn'
      · obtain ⟨fs, hfs⟩ := Input.bodyAs_some hd
        exact h.appends ha (Qr.QrDraft.validate_expiry hfs)
    · rcases serve_does hsel Api.createQrCodes_does with ⟨hs, hn'⟩ | ⟨b, hb, ha⟩
      · rw [hs]
        exact h.mono hn'
      · obtain ⟨fs, hfs⟩ := Input.bodyAs_some hb
        exact h.appends ha (Qr.QrBatch.validate_expiry hfs)
    · rcases serve_does hsel Api.updateQrCode_does with ⟨hs, hn'⟩ |
        ⟨p, old, image, hp, hold, hsame, hnew, hS, hk⟩
      · rw [hs]
        exact h.mono hn'
      · rw [hS, hk]
        have hmem : old ∈ s.qrCodes := List.mem_of_find?_eq_some hold
        obtain ⟨fs, hfs⟩ := Input.bodyAs_some hp
        -- the image is the old one while the target stays, and drawn again once it changes
        have hdrawn : { p.apply old with image := image }.Drawn := by
          by_cases ht : (p.apply old).target = old.target
          · exact (h.drawn old hmem).of_target ht (hsame ht)
          · exact hnew ht
        exact h.replaceRow hold rfl rfl hdrawn
          (Qr.QrPatch.apply_utc (Qr.QrPatch.validate_expiry hfs) (h.utc old hmem))
    · rcases serve_does hsel Api.deleteQrCode_does with ⟨hs, hn'⟩ | ⟨q, -, hS, hk⟩
      · rw [hs]
        exact h.mono hn'
      · rw [hS, hk]
        exact h.filter _
  · -- a route that does not write the codes keeps them
    have hcodes : (serve Api.routes s n now r).store.qrCodes = s.qrCodes := by
      simpa [Store.outside, Part.keep, hq] using congrArg Store.qrCodes hout
    rw [hcodes]
    exact h.mono hn

namespace Scenario

/-- **A step of a scenario changes only the users, or is a request served from the world's store
and counter.** -/
theorem step_store_cases (w : World) (j : Json) :
    ((step w j).2.store = { w.store with users := (step w j).2.store.users } ∧
        w.nextId ≤ (step w j).2.nextId) ∨
      ∃ now r, (step w j).2.store = (serve Api.routes w.store w.nextId now r).store ∧
        (step w j).2.nextId = (serve Api.routes w.store w.nextId now r).nextId := by
  unfold step
  split
  · split
    · exact .inl ⟨addUser_store w _, (addUser_keeps_book w _).2⟩
    · exact .inl ⟨rfl, le_refl _⟩
    · exact .inl ⟨rfl, le_refl _⟩
    · exact .inr (request_outcome w _)
    · exact .inl ⟨rfl, le_refl _⟩
  · exact .inl ⟨rfl, le_refl _⟩

/-- The seeded store has no table codes. -/
theorem fresh_qrCodes : fresh.store.qrCodes = [] := by
  have h : fresh.store.qrCodes.isEmpty = true := by decide +kernel
  simpa using h

end Scenario

/-- **The table codes of every reachable world are sound.** -/
theorem Reachable.codes_sound {w : World} (hw : Reachable w) :
    Qr.CodesSound w.nextId w.store.qrCodes := by
  induction hw with
  | fresh =>
    rw [Scenario.fresh_qrCodes]
    exact .nil _
  | step j _ ih =>
    rcases Scenario.step_store_cases _ j with ⟨hs, hn⟩ | ⟨now, r, hs, hn⟩
    · rw [hs]
      exact ih.mono hn
    · rw [hs, hn]
      exact serve_keeps_codes_sound _ _ now r ih

/-! ## §5 — The page of a public code -/

namespace Api

/-- **The page of a public code** changes nothing: without a code of it, it fails with a 404;
with a first code of it whose expiry is before the time of the request as a row records it, with
a 410; otherwise it answers with that code. -/
theorem getQrCodeByCode_answers (r : Request) (ps : List String) (σ₀ : Session) :
    ⦃fun σ => ⌜σ = σ₀⌝⦄ getQrCodeByCode r ps
    ⦃post⟨fun resp σ => ⌜σ = σ₀ ∧
        ∃ q, σ₀.store.qrCodes.find? (·.code == Route.param ps) = some q ∧
          (¬∃ e ∈ q.expiresAt, e.ordinal < σ₀.now.row.ordinal) ∧
          resp = ⟨200, Envelope.success σ₀.now 200 "QR code retrieved successfully" q.json none,
            false, false⟩⌝,
      fun e σ => ⌜σ = σ₀ ∧
        (σ₀.store.qrCodes.find? (·.code == Route.param ps) = none ∧
            e = Fault.refuse 404 "QR code not found" ∨
          ∃ q, σ₀.store.qrCodes.find? (·.code == Route.param ps) = some q ∧
            (∃ e ∈ q.expiresAt, e.ordinal < σ₀.now.row.ordinal) ∧
            e = Fault.refuse 410 "QR code has expired")⌝⟩⦄ := by
  mvcgen -trivial [getQrCodeByCode]
  all_goals simp_all +zetaDelta [Stamp.row, Option.any_eq_true]

end Api

/-- With public codes apart, a code of the store is the code its public code finds. -/
theorem Qr.find?_code_of_mem {codes : List QrCode} (hnd : (codes.map (·.code)).Nodup)
    {q : QrCode} (hq : q ∈ codes) : codes.find? (·.code == q.code) = some q := by
  cases hf : codes.find? (·.code == q.code) with
  | none =>
    rw [List.find?_eq_none] at hf
    exact absurd (by simp) (hf q hq)
  | some q' =>
    have hc : q'.code = q.code := by simpa using List.find?_some hf
    rw [List.inj_on_of_nodup_map hnd (List.mem_of_find?_eq_some hf) hq hc]

/-- **The page of the public code `c`**, as the codes `codes` stand at the time `now`: a 404 when
no code has it; for a code that has it, a 410 when its expiry is before the time as a row records
it, and that code otherwise. -/
def Qr.CodePage (codes : List QrCode) (now : Stamp) (c : String) (resp : Response) : Prop :=
  ((∀ q ∈ codes, q.code ≠ c) → resp = Route.faultResponse now (.refuse 404 "QR code not found")) ∧
    ∀ q ∈ codes, q.code = c →
      ((∃ e ∈ q.expiresAt, e.ordinal < now.row.ordinal) →
        resp = Route.faultResponse now (.refuse 410 "QR code has expired")) ∧
      ((¬∃ e ∈ q.expiresAt, e.ordinal < now.row.ordinal) →
        resp = ⟨200, Envelope.success now 200 "QR code retrieved successfully" q.json none, false,
          false⟩)

/-- **The page of a public code** changes nothing and, with public codes apart, is the page of the
public code of the path. -/
theorem serve_code_page {s : Store} {n : Nat} {now : Stamp} {r : Request} {ps : List String}
    (hsel : Route.select Api.routes r =
      .ok (Route.of "GET" "/api/v1/qr-codes/code/\x7bcode\x7d" Api.getQrCodeByCode, ps))
    (hnd : (s.qrCodes.map (·.code)).Nodup) :
    (serve Api.routes s n now r).store = s ∧
      Qr.CodePage s.qrCodes now (Route.param ps) (serve Api.routes s n now r).response := by
  -- the code a public code finds is the only code that has it
  have hfound : ∀ q ∈ s.qrCodes, q.code = Route.param ps →
      s.qrCodes.find? (·.code == Route.param ps) = some q := fun q hq hc =>
    hc ▸ Qr.find?_code_of_mem hnd hq
  have hnone : ∀ {q'}, s.qrCodes.find? (·.code == Route.param ps) = some q' →
      ¬∀ q ∈ s.qrCodes, q.code ≠ Route.param ps := fun hf hall =>
    hall _ (List.mem_of_find?_eq_some hf) (by simpa using List.find?_some hf)
  rcases serve_of_triple n now hsel (by rfl)
      (Api.getQrCodeByCode_answers r ps { store := s, saved := s, nextId := n, now := now }) with
    ⟨σ, ⟨rfl, q', hf, hlive, hresp⟩, hstore⟩ | ⟨e, σ, ⟨rfl, hcase⟩, hresp, hstore⟩
  · -- the page answers with the code it finds
    refine ⟨hstore, fun hall => absurd hall (hnone hf), fun q hq hc => ?_⟩
    obtain rfl : q' = q := Option.some.inj (hf.symm.trans (hfound q hq hc))
    exact ⟨fun hgone => absurd hgone hlive, fun _ => hresp⟩
  · refine ⟨hstore, fun hall => ?_, fun q hq hc => ?_⟩
    · rcases hcase with ⟨-, rfl⟩ | ⟨q', hf, -, -⟩
      · exact hresp
      · exact absurd hall (hnone hf)
    · rcases hcase with ⟨hf, -⟩ | ⟨q', hf, hgone, rfl⟩
      · rw [hfound q hq hc] at hf
        cases hf
      · obtain rfl : q' = q := Option.some.inj (hf.symm.trans (hfound q hq hc))
        exact ⟨fun _ => hresp, fun hlive => absurd hgone hlive⟩

/-! ## §6 — Table codes stay consistent -/

/-- **Creating the codes of a run of tables** adds exactly the codes issued for the tables of the
batch, one per table and with public codes all different, or adds none. -/
theorem serve_batch_codes {s : Store} {n : Nat} {now : Stamp} {r : Request} {ps : List String}
    (hsel : Route.select Api.routes r =
      .ok (Route.of "POST" "/api/v1/qr-codes/bulk" Api.createQrCodes, ps)) :
    (serve Api.routes s n now r).store = s ∨
      ∃ b new, Input.bodyAs r Qr.QrBatch.validate = some b ∧
        (serve Api.routes s n now r).store = { s with qrCodes := s.qrCodes ++ new } ∧
        Qr.Issued b.kind b.menuUrl b.expiresAt b.storeId b.tableNumbers n now.row new ∧
        new.length = b.tableCount.toNat ∧ (new.map (·.code)).Nodup := by
  rcases serve_does hsel Api.createQrCodes_does with ⟨hs, -⟩ | ⟨b, hb, new, hi, hs, -⟩
  · exact .inl hs
  · refine .inr ⟨b, new, hb, hs, hi, ?_, hi.codes_nodup⟩
    rw [hi.length_eq, Qr.QrBatch.tableNumbers, List.length_map, List.length_range]

/-- **How the routes of table codes answer from the store `s` and the counter `n`**: the creation
of a batch adds exactly the codes issued for its tables, one per table with public codes all
different, or adds none; a change draws a code's image again exactly when its menu, store or table
changes; and the page of a public code changes nothing and answers by the code that has it. -/
structure Api.CodeRoutes (s : Store) (n : Nat) : Prop where
  batch : ∀ now r ps, Route.select Api.routes r =
      .ok (Route.of "POST" "/api/v1/qr-codes/bulk" Api.createQrCodes, ps) →
    (serve Api.routes s n now r).store = s ∨
      ∃ b new, Input.bodyAs r Qr.QrBatch.validate = some b ∧
        (serve Api.routes s n now r).store = { s with qrCodes := s.qrCodes ++ new } ∧
        Qr.Issued b.kind b.menuUrl b.expiresAt b.storeId b.tableNumbers n now.row new ∧
        new.length = b.tableCount.toNat ∧ (new.map (·.code)).Nodup
  change : ∀ now r ps, Route.select Api.routes r =
      .ok (Route.of "PUT" "/api/v1/qr-codes/\x7bqr_id\x7d" Api.updateQrCode, ps) →
    (serve Api.routes s n now r).store = s ∨
      Api.ChangesCode r ps now s n (serve Api.routes s n now r).store
        (serve Api.routes s n now r).nextId
  page : ∀ now r ps, Route.select Api.routes r =
      .ok (Route.of "GET" "/api/v1/qr-codes/code/\x7bcode\x7d" Api.getQrCodeByCode, ps) →
    (serve Api.routes s n now r).store = s ∧
      Qr.CodePage s.qrCodes now (Route.param ps) (serve Api.routes s n now r).response

/-- The routes of table codes answer so from every store whose public codes are apart. -/
theorem Api.codeRoutes_of_apart {s : Store} {n : Nat} (hnd : (s.qrCodes.map (·.code)).Nodup) :
    Api.CodeRoutes s n where
  batch _ _ _ hsel := serve_batch_codes hsel
  change _ _ _ hsel := (serve_does hsel Api.updateQrCode_does).imp_left And.left
  page _ _ _ hsel := serve_code_page hsel hnd

/-- **Table codes stay consistent with their tables.** In every reachable world every code's
image is the symbol of its table's address, on its menu or the service's; its expiry is a UTC
wall time; and no two codes share a public code or an id. From such a world the routes of table
codes answer as `Api.CodeRoutes` says. -/
theorem table_codes_consistent {w : World} (hw : Reachable w) :
    Qr.CodesSound w.nextId w.store.qrCodes ∧ Api.CodeRoutes w.store w.nextId :=
  ⟨hw.codes_sound, Api.codeRoutes_of_apart hw.codes_sound.codes_nodup⟩

/-- The administrator's request making the codes of tables `7` and `8` of the store `s1`. -/
def addTableCodes : List (String × Json) :=
  [("do", .str "req"), ("auth", .str "admin"), ("method", .str "POST"),
    ("path", .str "/api/v1/qr-codes/bulk"),
    ("json", .obj [("store_id", .str "s1"), ("table_count", .int 2), ("start_number", .int 7)])]

/-- The new service once its administrator made two table codes. -/
def tablesWorld : World := (Scenario.step adminWorld (.obj addTableCodes)).2

/-- The method and path of the request making table codes in bulk. -/
def bulkCodesTarget : Request :=
  { method := "POST", path := "/api/v1/qr-codes/bulk", headers := [], query := [],
    body := .empty, storageFails := false, clock := 0 }

/-- The administrator's request, signed in with the administrator's token, stores the codes of
tables `7` and `8` of the store `s1`, each drawn for its table. -/
theorem tablesWorld_codes :
    tablesWorld.store.qrCodes.map (fun q => (q.storeId, q.tableNumber, q.image)) =
      [("s1", "7", ⟨Qr.tableAddress Config.service.menuBaseUrl "s1" "7"⟩),
        ("s1", "8", ⟨Qr.tableAddress Config.service.menuBaseUrl "s1" "8"⟩)] := by
  have hclaims := Scenario.sent_claims adminWorld addTableCodes rfl rfl
    adminWorld_token Scenario.firstUser_parse rfl
  have hsel : Route.select Api.routes (Scenario.sent adminWorld addTableCodes) = _ :=
    (Route.select_congr (by decide +kernel) (by decide +kernel)).trans
      (show Route.select Api.routes bulkCodesTarget =
        .ok (Route.of "POST" "/api/v1/qr-codes/bulk" Api.createQrCodes, []) from rfl)
  rw [tablesWorld, (Scenario.step_serves rfl).1, serve_eq, Route.dispatch_eq_handle hsel]
  simp only [Route.of, Api.createQrCodes, Guard.staff, Guard.require, Guard.currentUser, hclaims]
  decide +kernel

theorem table_world_codes_consistent :
    Reachable tablesWorld ∧
      tablesWorld.store.qrCodes.map (fun q => (q.storeId, q.tableNumber, q.image)) =
        [("s1", "7", ⟨Qr.tableAddress Config.service.menuBaseUrl "s1" "7"⟩),
          ("s1", "8", ⟨Qr.tableAddress Config.service.menuBaseUrl "s1" "8"⟩)] ∧
      Qr.CodesSound tablesWorld.nextId tablesWorld.store.qrCodes ∧
      Api.CodeRoutes tablesWorld.store tablesWorld.nextId :=
  have hw : Reachable tablesWorld := .step _ (.step _ .fresh)
  ⟨hw, tablesWorld_codes, table_codes_consistent hw⟩

end Bistro
