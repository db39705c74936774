import Bistro.Proofs.TableCodes

/-!
# Role permission sets

A role's permissions are stored as grants, one row for each role and permission it holds, and
the role routes treat them as a set: adding permissions takes the union, removing them takes
the difference, and changing them or making a role with them takes exactly the ids given. This
module proves that these are sets in every reachable world, since no grant is ever repeated,
and proves what each route makes of them.

* §1 `Store.held` and the rule `Store.AccessSound`: permission ids are distinct and not yet
  issued by the counter, and grants are distinct and name permissions. The lemmas `held_regrant`
  and `findsPermissions_iff` say what regranting a role does and what the routes' count of found
  permissions decides.
* §2 the loops that make permissions when they are missing only append them under fresh ids
  (`Session.AddsFresh`).
* §3 `AccessStep`, the kinds of write to permissions and grants. Each keeps the rule
  (`AccessStep.sound`), and each route that writes either table does one (`Api.accessWriters_does`).
* §4 the rule holds in every reachable world (`Reachable.access_sound`).
* §5 what the four role routes make of a role's set, and `role_permission_sets`.
-/

open Std.Do

set_option mvcgen.warning false

namespace Bistro

/-! ## §1 — The permissions a role holds -/

/-- The ids of the permissions a role holds, one for each of its grants. -/
def Store.held (s : Store) (roleId : String) : List String :=
  (s.grants.filter (·.roleId == roleId)).map (·.permissionId)

/-- The ids of the permissions of a store. -/
def Store.permissionIds (s : Store) : List String := s.permissions.map (·.id)

/-- The grants once the role `roleId` is given exactly the permissions `ps`. -/
def regrant (grants : List Grant) (roleId : String) (ps : List Permission) : List Grant :=
  grants.filter (·.roleId != roleId) ++ ps.map fun p => { roleId := roleId, permissionId := p.id }

/-- **The rule of permissions and grants** with the id counter at `k`: permission ids are
distinct and none is an id the counter has yet to issue; grants are distinct, and each names a
permission of the store. -/
structure Store.AccessSound (k : Nat) (s : Store) : Prop where
  fresh : ∀ x ∈ s.permissionIds, ∀ m, k ≤ m → x ≠ Txn.idText m
  distinct : s.permissionIds.Nodup
  nodup : s.grants.Nodup
  known : ∀ g ∈ s.grants, g.permissionId ∈ s.permissionIds

theorem held_regrant {s s' : Store} {rid : String} {ps : List Permission}
    (hg : s'.grants = regrant s.grants rid ps) (x : String) :
    s'.held x = if x = rid then ps.map (·.id) else s.held x := by
  unfold Store.held
  rw [hg]
  unfold regrant
  by_cases hx : x = rid
  · subst hx
    simp [List.filter_filter, List.filter_map, Function.comp_def]
  · -- the new grants are all of `rid`, and a grant of `x` is never one of `rid`
    have hgs : s.grants.filter (fun g => g.roleId == x && g.roleId != rid) =
        s.grants.filter (·.roleId == x) :=
      List.filter_congr fun g _ => by
        by_cases h : g.roleId = x
        · rw [h]
          simp [hx]
        · simp [h]
    have hps : ps.filter (fun _ => rid == x) = [] :=
      List.filter_eq_nil_iff.2 fun _ _ => by simpa using Ne.symm hx
    simp only [hx, if_false, List.filter_append, List.filter_filter, List.filter_map,
      Function.comp_def, List.map_append]
    simp [hgs, hps]

/-- A permission the store finds by an id it has carries that id. -/
theorem permission?_of_mem {s : Store} {x : String} (hx : x ∈ s.permissionIds) :
    ∃ p, s.permission? x = some p ∧ p.id = x := by
  unfold Store.permission?
  cases hf : s.permissions.find? (·.id == x) with
  | none =>
    obtain ⟨p, hp, rfl⟩ := List.mem_map.1 hx
    exact absurd (List.find?_eq_none.1 hf p hp) (by simp)
  | some p => exact ⟨p, rfl, by simpa using List.find?_some hf⟩

/-- **The permissions a role is shown with are those it holds**, when every grant names a
permission of the store. -/
theorem rolePermissions_ids {s : Store} (hknown : ∀ g ∈ s.grants, g.permissionId ∈ s.permissionIds)
    (rid : String) : (s.rolePermissions rid).map (·.id) = s.held rid := by
  unfold Store.rolePermissions Store.held
  -- induction over the grants of the role, each of which finds its permission
  have key : ∀ gs : List Grant, (∀ g ∈ gs, g.permissionId ∈ s.permissionIds) →
      (gs.filterMap fun g => s.permission? g.permissionId).map (·.id) = gs.map (·.permissionId) := by
    intro gs
    induction gs with
    | nil => intro _; rfl
    | cons g gs ih =>
      intro hgs
      obtain ⟨p, hp, hid⟩ := permission?_of_mem (hgs g (List.mem_cons_self ..))
      rw [List.filterMap_cons, hp]
      simp only [List.map_cons, hid, ih fun g' hg' => hgs g' (List.mem_cons_of_mem _ hg')]
  exact key _ fun g hg => hknown g (List.mem_of_mem_filter hg)

/-- The permissions of the store whose ids are among `ids`, as the role routes find them. -/
def Store.found (s : Store) (ids : List String) : List Permission :=
  s.permissions.filter (·.id ∈ ids)

theorem mem_found_ids {s : Store} {ids : List String} {x : String} :
    x ∈ (s.found ids).map (·.id) ↔ x ∈ s.permissionIds ∧ x ∈ ids := by
  simp only [Store.found, Store.permissionIds, List.mem_map, List.mem_filter, decide_eq_true_eq]
  constructor
  · rintro ⟨p, ⟨hp, hx⟩, rfl⟩
    exact ⟨⟨p, hp, rfl⟩, hx⟩
  · rintro ⟨⟨p, hp, rfl⟩, hx⟩
    exact ⟨p, ⟨hp, hx⟩, rfl⟩

theorem found_ids_nodup {s : Store} (hd : s.permissionIds.Nodup) (ids : List String) :
    ((s.found ids).map (·.id)).Nodup := by
  exact (List.filter_sublist.map (fun p : Permission => p.id)).nodup hd

/-- A list with its repeats erased repeats nothing. -/
theorem nodup_eraseDups : ∀ l : List String, l.eraseDups.Nodup
  | [] => List.nodup_nil
  | a :: as => by
    rw [List.eraseDups_cons]
    refine List.nodup_cons.2 ⟨fun h => ?_, nodup_eraseDups _⟩
    simp at h
termination_by l => l.length
decreasing_by exact Nat.lt_succ_of_le (List.length_filter_le _ _)

/-- **The role routes' count of found permissions** says that every id names a permission,
when the permissions carry distinct ids. -/
theorem findsPermissions_iff {s : Store} (hd : s.permissionIds.Nodup) (ids : List String) :
    s.findsPermissions ids = true ↔ ∀ x ∈ ids, x ∈ s.permissionIds := by
  have hA := found_ids_nodup hd ids
  have hB : ids.eraseDups.Nodup := nodup_eraseDups ids
  have hsub : (s.found ids).map (·.id) ⊆ ids.eraseDups := fun x hx =>
    List.mem_eraseDups.2 (mem_found_ids.1 hx).2
  have hlen : (s.found ids).length = ((s.found ids).map (·.id)).length := (List.length_map _).symm
  have hfound : (s.permissions.filter fun p => ids.contains p.id) = s.found ids := by
    simp [Store.found]
  unfold Store.findsPermissions
  rw [beq_iff_eq, hfound, hlen]
  constructor
  · -- as many found ids as distinct ids: the found ids are all of them
    intro heq x hx
    have hperm := (List.subperm_of_subset hA hsub).perm_of_length_le heq.ge
    exact (mem_found_ids.1 (hperm.symm.subset (List.mem_eraseDups.2 hx))).1
  · intro hall
    refine ((List.perm_ext_iff_of_nodup hA hB).2 fun x => ⟨fun hx => hsub hx, fun hx => ?_⟩).length_eq
    have hx' := List.mem_eraseDups.1 hx
    exact mem_found_ids.2 ⟨hall x hx', hx'⟩

/-- **A role holds each permission once** when no grant is repeated. -/
theorem held_nodup {s : Store} (h : s.grants.Nodup) (rid : String) : (s.held rid).Nodup := by
  refine (h.filter _).map_on fun g hg g' hg' hid => ?_
  have hr : g.roleId = g'.roleId := by
    simp only [List.mem_filter, beq_iff_eq] at hg hg'
    rw [hg.2, hg'.2]
  cases g
  cases g'
  simp_all

namespace Store.AccessSound

variable {k : Nat} {s s' : Store}

/-- The rule reads the permission ids and the grants only. -/
theorem of_eq (h : s.AccessSound k) (hp : s'.permissionIds = s.permissionIds)
    (hg : s'.grants = s.grants) {k' : Nat} (hk : k ≤ k') : s'.AccessSound k' :=
  ⟨fun x hx m hm => h.fresh x (hp ▸ hx) m (hk.trans hm), hp ▸ h.distinct, hg ▸ h.nodup,
    fun g hg' => hp ▸ h.known g (hg ▸ hg')⟩

theorem mono (h : s.AccessSound k) {k' : Nat} (hk : k ≤ k') : s.AccessSound k' :=
  h.of_eq rfl rfl hk

/-- **Giving a role exactly some permissions** keeps the rule, when they are permissions of the
store with distinct ids. -/
theorem regrant (h : s.AccessSound k) (rid : String) (ps : List Permission)
    (hps : ∀ p ∈ ps, p.id ∈ s.permissionIds) (hnd : (ps.map (·.id)).Nodup) :
    { s with grants := Bistro.regrant s.grants rid ps }.AccessSound k := by
  refine ⟨h.fresh, h.distinct, ?_, ?_⟩
  · -- the kept grants are of other roles, the new ones of `rid`, each of its own permission
    have hnew : ps.map (fun p => ({ roleId := rid, permissionId := p.id } : Grant)) =
        (ps.map (·.id)).map (Grant.mk rid) := by
      simp [List.map_map, Function.comp_def]
    refine List.nodup_append.2 ⟨h.nodup.filter _, ?_, ?_⟩
    · rw [hnew]
      exact hnd.map fun a b hab => (Grant.mk.inj hab).2
    · intro a ha b hb
      obtain ⟨p, -, rfl⟩ := List.mem_map.1 hb
      have hr := (List.mem_filter.1 ha).2
      rintro rfl
      simp at hr
  · intro g hg
    rcases List.mem_append.1 hg with hg | hg
    · exact h.known g (List.mem_of_mem_filter hg)
    · obtain ⟨p, hp, rfl⟩ := List.mem_map.1 hg
      exact hps p hp

/-- Permissions appended under ids not issued before `k` and issued before `k'`, each once,
keep the rule. -/
theorem append (h : s.AccessSound k) {xs : List String} (hp : s'.permissionIds = s.permissionIds ++ xs)
    (hg : s'.grants = s.grants) {k' : Nat}
    (hxs : ∀ x ∈ xs, ∃ m, k ≤ m ∧ m < k' ∧ x = Txn.idText m) (hnd : xs.Nodup) (hk : k ≤ k') :
    s'.AccessSound k' := by
  refine ⟨fun x hx m hm => ?_, ?_, hg ▸ h.nodup, fun g hg' => ?_⟩
  · rw [hp] at hx
    rcases List.mem_append.1 hx with hx | hx
    · exact h.fresh x hx m (hk.trans hm)
    · obtain ⟨j, -, hj, rfl⟩ := hxs x hx
      exact fun heq => absurd (Txn.idText_injective heq) (by omega)
  · -- an old id was issued before `k`, a new one at `k` or after
    rw [hp]
    refine List.nodup_append.2 ⟨h.distinct, hnd, fun a ha b hb => ?_⟩
    obtain ⟨j, hj, -, rfl⟩ := hxs b hb
    exact h.fresh a ha j hj
  · rw [hp]
    exact List.mem_append_left _ (h.known g (hg ▸ hg'))

/-- Dropping a permission and the grants of it keeps the rule. -/
theorem dropPermission (h : s.AccessSound k) (x : String)
    (hp : s'.permissionIds = s.permissionIds.filter (· != x))
    (hg : s'.grants = s.grants.filter (·.permissionId != x)) : s'.AccessSound k := by
  refine ⟨fun y hy => h.fresh y (by rw [hp] at hy; exact List.mem_of_mem_filter hy), ?_, ?_, ?_⟩
  · rw [hp]
    exact h.distinct.filter _
  · rw [hg]
    exact h.nodup.filter _
  · intro g hg'
    rw [hg] at hg'
    rw [hp]
    exact List.mem_filter.2 ⟨h.known g (List.mem_of_mem_filter hg'), (List.mem_filter.1 hg').2⟩

/-- Dropping the grants of a role keeps the rule. -/
theorem dropRole (h : s.AccessSound k) (rid : String) (hp : s'.permissionIds = s.permissionIds)
    (hg : s'.grants = s.grants.filter (·.roleId != rid)) : s'.AccessSound k := by
  refine ⟨hp ▸ h.fresh, hp ▸ h.distinct, hg ▸ h.nodup.filter _, fun g hg' => ?_⟩
  rw [hg] at hg'
  exact hp ▸ h.known g (List.mem_of_mem_filter hg')

end Store.AccessSound

/-- A permission a role is shown with is a permission of the store. -/
theorem mem_of_rolePermissions {s : Store} {rid : String} {p : Permission}
    (hp : p ∈ s.rolePermissions rid) : p ∈ s.permissions := by
  obtain ⟨g, -, hg⟩ := List.mem_filterMap.1 hp
  exact List.mem_of_find?_eq_some hg

/-- **Adding permissions by id to those of a role**: the ids are those the role had and those
added, each once. -/
theorem mem_union_ids {cur new : List Permission} {x : String} :
    x ∈ (cur ++ new.filter fun p => !cur.any (·.id == p.id)).map (·.id) ↔
      x ∈ cur.map (·.id) ∨ x ∈ new.map (·.id) := by
  simp only [List.map_append, List.mem_append]
  constructor
  · rintro (hx | hx)
    · exact .inl hx
    · exact .inr ((List.filter_sublist.map _).subset hx)
  · rintro (hx | hx)
    · exact .inl hx
    · by_cases hc : x ∈ cur.map (·.id)
      · exact .inl hc
      · obtain ⟨p, hp, rfl⟩ := List.mem_map.1 hx
        refine .inr (List.mem_map.2 ⟨p, List.mem_filter.2 ⟨hp, ?_⟩, rfl⟩)
        simpa [List.any_eq_true] using fun q hq => fun heq => hc (List.mem_map.2 ⟨q, hq, heq⟩)

theorem union_ids_nodup {cur new : List Permission} (hc : (cur.map (·.id)).Nodup)
    (hn : (new.map (·.id)).Nodup) :
    ((cur ++ new.filter fun p => !cur.any (·.id == p.id)).map (·.id)).Nodup := by
  rw [List.map_append]
  refine List.nodup_append.2 ⟨hc, (List.filter_sublist.map _).nodup hn, fun a ha b hb => ?_⟩
  obtain ⟨q, hq, rfl⟩ := List.mem_map.1 hb
  obtain ⟨p, hp, rfl⟩ := List.mem_map.1 ha
  have hfree := (List.mem_filter.1 hq).2
  rintro heq
  simp only [Bool.not_eq_true', List.any_eq_false, beq_iff_eq] at hfree
  exact hfree p hp heq

/-! ## §2 — Permissions made on the way -/

/-- **A run that only appends permissions**, under ids it issued itself, each once: it keeps the
commit point and every other table, and only moves the counter on. -/
structure Session.AddsFresh (σ σ' : Session) : Prop where
  saved : σ'.saved = σ.saved
  counter : σ.nextId ≤ σ'.nextId
  others : σ'.store = { σ.store with permissions := σ'.store.permissions }
  kept : σ.store.permissions <+: σ'.store.permissions
  ids : ∃ xs, σ'.store.permissionIds = σ.store.permissionIds ++ xs ∧ xs.Nodup ∧
    ∀ x ∈ xs, ∃ m, σ.nextId ≤ m ∧ m < σ'.nextId ∧ x = Txn.idText m

namespace Session.AddsFresh

theorem refl (σ : Session) : σ.AddsFresh σ :=
  ⟨rfl, le_refl _, rfl, List.prefix_refl _, ⟨[], by simp, List.nodup_nil, by simp⟩⟩

theorem trans {σ₁ σ₂ σ₃ : Session} (h₁ : σ₁.AddsFresh σ₂) (h₂ : σ₂.AddsFresh σ₃) :
    σ₁.AddsFresh σ₃ := by
  obtain ⟨xs, hxs, hnd, hfresh⟩ := h₁.ids
  obtain ⟨ys, hys, hnd', hfresh'⟩ := h₂.ids
  refine ⟨h₂.saved.trans h₁.saved, h₁.counter.trans h₂.counter, ?_, h₁.kept.trans h₂.kept,
    ⟨xs ++ ys, by rw [hys, hxs, List.append_assoc], ?_, ?_⟩⟩
  · rw [h₂.others, h₁.others]
  · -- the ids of the first run were issued before the second began
    refine List.nodup_append.2 ⟨hnd, hnd', fun a ha b hb => ?_⟩
    obtain ⟨i, -, hi, rfl⟩ := hfresh a ha
    obtain ⟨j, hj, -, rfl⟩ := hfresh' b hb
    exact fun heq => absurd (Txn.idText_injective heq) (by omega)
  · intro x hx
    rcases List.mem_append.1 hx with hx | hx
    · obtain ⟨m, hm, hm', rfl⟩ := hfresh x hx
      exact ⟨m, hm, lt_of_lt_of_le hm' h₂.counter, rfl⟩
    · obtain ⟨m, hm, hm', rfl⟩ := hfresh' x hx
      exact ⟨m, h₁.counter.trans hm, hm', rfl⟩

end Session.AddsFresh

/-- **Making a permission when missing** answers the permission of the name, found or made
under the next id. -/
theorem ensurePermission_run (name description : String) (σ : Session) :
    ∃ p σ', (Api.ensurePermission name description).exec σ = (.ok p, σ') ∧ σ.AddsFresh σ' ∧
      p.name = name ∧ p ∈ σ'.store.permissions := by
  unfold Api.ensurePermission
  rw [Txn.exec_bind, Txn.exec_store]
  dsimp only
  cases hp : σ.store.permissionNamed? name with
  | some p =>
    refine ⟨p, σ, rfl, .refl σ, by simpa using List.find?_some hp,
      List.mem_of_find?_eq_some hp⟩
  | none =>
    refine ⟨_, _, rfl, ⟨rfl, Nat.le_succ _, rfl, List.prefix_append _ _, ⟨[Txn.idText σ.nextId],
      by simp [Store.permissionIds], List.nodup_singleton _, ?_⟩⟩, rfl, by simp⟩
    intro x hx
    exact ⟨σ.nextId, le_refl _, Nat.lt_succ_self _, List.mem_singleton.1 hx⟩

/-- **A loop of permissions made when missing** answers one permission for each item, named by
it, all in the store it leaves. -/
theorem ensureLoop_run {α : Type} (f : α → Txn Permission) (key : α → String)
    (hf : ∀ a σ, ∃ p σ', (f a).exec σ = (.ok p, σ') ∧ σ.AddsFresh σ' ∧ p.name = key a ∧
      p ∈ σ'.store.permissions) :
    ∀ (xs : List α) (σ : Session), ∃ qs σ', (xs.mapM f).exec σ = (.ok qs, σ') ∧
      σ.AddsFresh σ' ∧ qs.map (·.name) = xs.map key ∧ ∀ q ∈ qs, q ∈ σ'.store.permissions
  | [], σ => ⟨[], σ, rfl, .refl σ, rfl, by simp⟩
  | a :: xs, σ => by
    obtain ⟨p, σ₁, h₁, hadd₁, hname, hmem⟩ := hf a σ
    obtain ⟨qs, σ₂, h₂, hadd₂, hnames, hmems⟩ := ensureLoop_run f key hf xs σ₁
    refine ⟨p :: qs, σ₂, ?_, hadd₁.trans hadd₂, by simp [hname, hnames], ?_⟩
    · rw [List.mapM_cons, Txn.exec_bind, h₁]
      dsimp only
      rw [Txn.exec_bind, h₂]
      rfl
    · intro q hq
      rcases List.mem_cons.1 hq with rfl | hq
      · exact hadd₂.kept.subset hmem
      · exact hmems q hq

/-- A loop of permissions made when missing, as a triple: it never fails. -/
theorem ensureLoop_spec {α : Type} (f : α → Txn Permission) (key : α → String)
    (hf : ∀ a σ, ∃ p σ', (f a).exec σ = (.ok p, σ') ∧ σ.AddsFresh σ' ∧ p.name = key a ∧
      p ∈ σ'.store.permissions) (xs : List α) (σ₀ : Session) :
    ⦃fun σ => ⌜σ = σ₀⌝⦄ xs.mapM f
    ⦃post⟨fun qs σ => ⌜σ₀.AddsFresh σ ∧ qs.map (·.name) = xs.map key ∧
        ∀ q ∈ qs, q ∈ σ.store.permissions⌝,
      fun _ _ => ⌜False⌝⟩⦄ := by
  refine Txn.triple_iff.2 fun σ hσ => ?_
  subst hσ
  obtain ⟨qs, σ', hrun, hadd, hnames, hmem⟩ := ensureLoop_run f key hf xs σ
  rw [hrun]
  exact ⟨hadd, hnames, hmem⟩

/-! ## §3 — What the writers of permissions and grants do -/

/-- Permissions appended under ids issued from `k` on, before `k'`, each once; grants kept. -/
def Store.AppendsPermissions (S : Store) (k : Nat) (S' : Store) (k' : Nat) : Prop :=
  k ≤ k' ∧ S'.grants = S.grants ∧ ∃ xs, S'.permissionIds = S.permissionIds ++ xs ∧ xs.Nodup ∧
    ∀ x ∈ xs, ∃ m, k ≤ m ∧ m < k' ∧ x = Txn.idText m

/-- **What a request does to the permissions and the grants**, one case for each kind of write. -/
inductive AccessStep (S : Store) (k : Nat) (S' : Store) (k' : Nat) : Prop
  /-- permissions appended under fresh ids, or renamed in place -/
  | appends : S.AppendsPermissions k S' k' → AccessStep S k S' k'
  /-- a permission dropped with its grants -/
  | dropsPermission (x : String) : S'.permissionIds = S.permissionIds.filter (· != x) →
      S'.grants = S.grants.filter (·.permissionId != x) → k ≤ k' → AccessStep S k S' k'
  /-- a role given the permissions of some ids -/
  | grantsFound (rid : String) (ids : List String) : S'.permissionIds = S.permissionIds →
      S'.grants = regrant S.grants rid (S.found ids) → k ≤ k' → AccessStep S k S' k'
  /-- a role given the permissions of some ids besides its own -/
  | grantsMore (rid : String) (ids : List String) : S'.permissionIds = S.permissionIds →
      S'.grants = regrant S.grants rid (S.rolePermissions rid ++ (S.found ids).filter
        fun p => !(S.rolePermissions rid).any (·.id == p.id)) → k ≤ k' → AccessStep S k S' k'
  /-- a role left without the permissions of some ids -/
  | grantsLess (rid : String) (ids : List String) : S'.permissionIds = S.permissionIds →
      S'.grants = regrant S.grants rid ((S.rolePermissions rid).filter
        fun p => !ids.contains p.id) → k ≤ k' → AccessStep S k S' k'
  /-- a role dropped with its grants -/
  | dropsRole (rid : String) : S'.permissionIds = S.permissionIds →
      S'.grants = S.grants.filter (·.roleId != rid) → k ≤ k' → AccessStep S k S' k'
  /-- permissions of distinct names made when missing, and a role given exactly them -/
  | builds (S₁ : Store) (k₁ : Nat) (rid : String) (ps : List Permission) :
      S.AppendsPermissions k S₁ k₁ → (∀ p ∈ ps, p ∈ S₁.permissions) →
      (ps.map (·.name)).Nodup →
      S'.permissionIds = S₁.permissionIds → S'.grants = regrant S₁.grants rid ps → k₁ ≤ k' →
      AccessStep S k S' k'

/-- Permissions of distinct names, all in a table of distinct ids, have distinct ids. -/
theorem ids_nodup_of_names {ps rows : List Permission} (hsub : ∀ p ∈ ps, p ∈ rows)
    (hrows : (rows.map (·.id)).Nodup) (hnames : (ps.map (·.name)).Nodup) :
    (ps.map (·.id)).Nodup :=
  hnames.of_map.map_on fun _ hx _ hy h => List.inj_on_of_nodup_map hrows (hsub _ hx) (hsub _ hy) h

/-- **Every kind of write keeps the rule of permissions and grants.** -/
theorem AccessStep.sound {S S' : Store} {k k' : Nat} (hstep : AccessStep S k S' k')
    (h : S.AccessSound k) : S'.AccessSound k' := by
  -- the permissions a role may be given are permissions of the store, with distinct ids
  have hfound : ∀ ids, ∀ p ∈ S.found ids, p.id ∈ S.permissionIds := fun ids p hp =>
    List.mem_map_of_mem (List.mem_of_mem_filter hp)
  have hown : ∀ rid, ∀ p ∈ S.rolePermissions rid, p.id ∈ S.permissionIds := fun rid p hp =>
    List.mem_map_of_mem (mem_of_rolePermissions hp)
  have hownIds : ∀ rid, ((S.rolePermissions rid).map (·.id)).Nodup := fun rid => by
    rw [rolePermissions_ids h.known]
    exact held_nodup h.nodup rid
  cases hstep with
  | appends ha =>
    obtain ⟨hk, hg, xs, hp, hnd, hxs⟩ := ha
    exact h.append hp hg hxs hnd hk
  | dropsPermission x hp hg hk => exact (h.dropPermission x hp hg).mono hk
  | grantsFound rid ids hp hg hk =>
    exact (h.regrant rid _ (hfound ids) (found_ids_nodup h.distinct ids)).of_eq hp hg hk
  | grantsMore rid ids hp hg hk =>
    refine (h.regrant rid _ (fun p hp' => ?_) ?_).of_eq hp hg hk
    · rcases List.mem_append.1 hp' with hp' | hp'
      · exact hown rid p hp'
      · exact hfound ids p (List.mem_of_mem_filter hp')
    · exact union_ids_nodup (hownIds rid) (found_ids_nodup h.distinct ids)
  | grantsLess rid ids hp hg hk =>
    refine (h.regrant rid _ (fun p hp' => hown rid p (List.mem_of_mem_filter hp')) ?_).of_eq hp hg hk
    exact (List.filter_sublist.map _).nodup (hownIds rid)
  | dropsRole rid hp hg hk => exact (h.dropRole rid hp hg).mono hk
  | builds S₁ k₁ rid ps ha hps hnames hp hg hk =>
    obtain ⟨hk₁, hg₁, xs, hp₁, hnd, hxs⟩ := ha
    have h₁ : S₁.AccessSound k₁ := h.append hp₁ hg₁ hxs hnd hk₁
    exact (h₁.regrant rid ps (fun p hp' => List.mem_map_of_mem (hps p hp'))
      (ids_nodup_of_names hps h₁.distinct hnames)).of_eq hp hg hk

/-- Renaming rows in place keeps their ids. -/
theorem map_id_replaceRow (p : Permission) (rows : List Permission) :
    (Store.replaceRow (·.id) p rows).map (·.id) = rows.map (·.id) := by
  unfold Store.replaceRow
  rw [List.map_map]
  refine List.map_congr_left fun q _ => ?_
  by_cases h : q.id = p.id <;> simp [h]

theorem Session.AddsFresh.appends {σ σ' : Session} (h : σ.AddsFresh σ') :
    σ.store.AppendsPermissions σ.nextId σ'.store σ'.nextId := by
  obtain ⟨xs, hxs, hnd, hfresh⟩ := h.ids
  refine ⟨h.counter, ?_, xs, hxs, hnd, hfresh⟩
  rw [h.others]

/-- Keys paired with what a lookup finds for them keep the order of the keys, dropping some. -/
theorem filterMap_keys_sublist {β γ : Type} (g : String → Option β)
    (pair : String → β → String × γ)
    (hpair : ∀ k b, (pair k b).1 = k) :
    ∀ keys : List String,
      List.Sublist ((keys.filterMap fun k => (g k).map (pair k)).map (·.1)) keys
  | [] => List.Sublist.slnil
  | k :: keys => by
    rw [List.filterMap_cons]
    cases g k with
    | none => exact (filterMap_keys_sublist g pair hpair keys).cons k
    | some b =>
      simp only [Option.map_some, List.map_cons, hpair]
      exact (filterMap_keys_sublist g pair hpair keys).cons_cons k

/-- **A comprehensive role wants each permission once.** -/
theorem comprehensivePermissions_keys_nodup (resources : List String) :
    ((comprehensivePermissions resources).map (·.1)).Nodup := by
  unfold comprehensivePermissions
  generalize resources.flatMap resourcePermissions = specs
  have hkeys : ((specs.map (·.key)).eraseDups).Nodup := nodup_eraseDups _
  have hstd : standardManagementPermissions.Nodup := by decide
  -- the bundles' keys, kept in order of their first appearance
  have hsub := filterMap_keys_sublist (fun k => specs.find? (·.key == k))
    (fun k (p : PermissionSpec) => (k, p.description)) (fun _ _ => rfl)
    ((specs.map (·.key)).eraseDups)
  rw [List.map_append, List.map_map]
  refine List.nodup_append.2 ⟨hsub.nodup hkeys, ?_, fun a ha b hb => ?_⟩
  · simpa [Function.comp_def] using hstd.filter _
  · -- a key of the bundles is not among the extra management permissions
    have ha' := hsub.subset ha
    simp only [Function.comp_def, List.map_id', List.mem_filter] at hb
    rintro rfl
    simp_all

namespace Api

theorem permissionsOf_found_spec (ids : List String) (σ₀ : Session) :
    ⦃fun σ => ⌜σ = σ₀⌝⦄ permissionsOf ids
    ⦃post⟨fun found σ => ⌜σ = σ₀ ∧ σ₀.store.findsPermissions ids = true ∧
        found = σ₀.store.found ids⌝,
      fun e σ => ⌜σ = σ₀ ∧ σ₀.store.findsPermissions ids = false ∧
        e = Fault.refuse 400 "One or more permissions were not found"⌝⟩⦄ := by
  mvcgen -trivial [permissionsOf, -permissionsOf_keepsAt, -permissionsOf_bookAt,
    -permissionsOf_registryAt, -permissionsOf_spec]
  all_goals simp_all +zetaDelta [Store.findsPermissions, Store.found]

theorem addRolePermissions_grants (r : Request) (ps : List String) (S : Store) (u : User)
    (ids : List String) (role : Role) (hpass : Guard.decision S r .admin = .ok u)
    (hids : Input.bodyAs r permissionIds = some ids)
    (hrole : S.role? (Route.param ps) = some role) :
    ⦃fun σ => ⌜σ.saved = S ∧ σ.store = S⌝⦄ addRolePermissions r ps
    ⦃post⟨fun resp σ => ⌜resp.status = 200 ∧ S.findsPermissions ids = true ∧
        σ.store = { S with grants := regrant S.grants role.id (S.rolePermissions role.id ++
          (S.found ids).filter
            fun p => !(S.rolePermissions role.id).any (·.id == p.id)) }⌝,
      fun e σ => ⌜σ.saved = S ∧ S.findsPermissions ids = false ∧
        e = Fault.refuse 400 "One or more permissions were not found"⌝⟩⦄ := by
  obtain ⟨p, hp, hm⟩ := Input.bodyAs_eq_some hids
  mvcgen -trivial [addRolePermissions, -permissionsOf_keepsAt, -permissionsOf_bookAt,
    -permissionsOf_registryAt, -permissionsOf_spec, permissionsOf_found_spec, setGrants,
    -setGrants_keepsAt, -setGrants_bookAt, -setGrants_registryAt, -setGrants_logsAt,
    -setGrants_withinAt]
  all_goals simp_all +zetaDelta [regrant, Store.found]

theorem removeRolePermissions_grants (r : Request) (ps : List String) (S : Store) (u : User)
    (ids : List String) (role : Role) (hpass : Guard.decision S r .admin = .ok u)
    (hids : Input.bodyAs r permissionIds = some ids)
    (hrole : S.role? (Route.param ps) = some role) :
    ⦃fun σ => ⌜σ.saved = S ∧ σ.store = S⌝⦄ removeRolePermissions r ps
    ⦃post⟨fun resp σ => ⌜resp.status = 200 ∧ σ.store = { S with
          grants := regrant S.grants role.id ((S.rolePermissions role.id).filter
            fun p => !ids.contains p.id) }⌝,
      fun _ _ => ⌜False⌝⟩⦄ := by
  obtain ⟨p, hp, hm⟩ := Input.bodyAs_eq_some hids
  mvcgen -trivial [removeRolePermissions, setGrants, -setGrants_keepsAt, -setGrants_bookAt,
    -setGrants_registryAt, -setGrants_logsAt, -setGrants_withinAt]
  all_goals simp_all +zetaDelta [regrant]

theorem updateRole_grants (r : Request) (ps : List String) (S : Store) (u : User)
    (d : RolePatch) (role : Role) (ids : List String) (hpass : Guard.decision S r .admin = .ok u)
    (hd : Input.bodyAs r RolePatch.validate = some d)
    (hrole : S.role? (Route.param ps) = some role) (hids : d.permissions = some ids) :
    ⦃fun σ => ⌜σ.saved = S ∧ σ.store = S⌝⦄ updateRole r ps
    ⦃post⟨fun resp σ => ⌜resp.status = 200 ∧ S.findsPermissions ids = true ∧
        σ.store.permissions = S.permissions ∧
        σ.store.grants = regrant S.grants role.id (S.found ids)⌝,
      fun e σ => ⌜σ.saved = S ∧ (e = Fault.refuse 409 "Role name already exists" ∨
        S.findsPermissions ids = false ∧
          e = Fault.refuse 400 "One or more permissions were not found")⌝⟩⦄ := by
  obtain ⟨p, hp, hm⟩ := Input.bodyAs_eq_some hd
  mvcgen -trivial [updateRole, -permissionsOf_keepsAt, -permissionsOf_bookAt,
    -permissionsOf_registryAt, -permissionsOf_spec, permissionsOf_found_spec, setGrants,
    -setGrants_keepsAt, -setGrants_bookAt, -setGrants_registryAt, -setGrants_logsAt,
    -setGrants_withinAt]
  all_goals simp_all +zetaDelta [regrant, Store.found]

theorem createRole_grants (r : Request) (ps : List String) (S : Store) (k : Nat) (u : User)
    (d : RoleDraft) (hpass : Guard.decision S r .admin = .ok u)
    (hd : Input.bodyAs r RoleDraft.validate = some d) :
    ⦃fun σ => ⌜σ.saved = S ∧ σ.store = S ∧ σ.nextId = k⌝⦄ createRole r ps
    ⦃post⟨fun resp σ => ⌜resp.status = 201 ∧ S.findsPermissions d.permissions = true ∧
        σ.store.permissions = S.permissions ∧
        ∃ role, σ.store.roles = S.roles ++ [role] ∧ role.id = Txn.idText k ∧
          σ.store.grants = regrant S.grants role.id (S.found d.permissions)⌝,
      fun e σ => ⌜σ.saved = S ∧ (e = Fault.refuse 409 "Role name already exists" ∨
        S.findsPermissions d.permissions = false ∧
          e = Fault.refuse 400 "One or more permissions were not found")⌝⟩⦄ := by
  obtain ⟨p, hp, hm⟩ := Input.bodyAs_eq_some hd
  mvcgen -trivial [createRole, -permissionsOf_keepsAt, -permissionsOf_bookAt,
    -permissionsOf_registryAt, -permissionsOf_spec, permissionsOf_found_spec, addRole,
    -addRole_keepsAt, -addRole_bookAt, -addRole_registryAt, -addRole_logsAt, -addRole_withinAt,
    -addRole_spec, setGrants, -setGrants_keepsAt, -setGrants_bookAt, -setGrants_registryAt,
    -setGrants_logsAt, -setGrants_withinAt]
  all_goals simp_all +zetaDelta [regrant, Store.found]

/-! ### What each writer does to the permissions and grants -/

/-- What a request does to the permissions and the grants, as the effect of its handler. -/
def AccessEffect (_ : Request) (_ : List String) (_ : Stamp) (S : Store) (k : Nat) (S' : Store)
    (k' : Nat) : Prop :=
  AccessStep S k S' k'

theorem createPermission_access : Does createPermission AccessEffect := by
  intro r ps t S k
  mvcgen -trivial [createPermission]
  all_goals simp_all +zetaDelta [AccessEffect]
  exact .appends ⟨Nat.le_succ k, rfl, [Txn.idText k], by simp [Store.permissionIds],
    List.nodup_singleton _, fun x hx => ⟨k, le_refl _, Nat.lt_succ_self _, List.mem_singleton.1 hx⟩⟩

theorem updatePermission_access : Does updatePermission AccessEffect := by
  intro r ps t S k
  mvcgen -trivial [updatePermission]
  all_goals simp_all +zetaDelta [AccessEffect]
  all_goals exact .appends ⟨le_refl _, rfl, [], by simp [Store.permissionIds, map_id_replaceRow],
    List.nodup_nil, by simp⟩

theorem deletePermission_access : Does deletePermission AccessEffect := by
  intro r ps t S k
  mvcgen -trivial [deletePermission]
  all_goals simp_all +zetaDelta [AccessEffect]
  refine .dropsPermission _ ?_ rfl (le_refl _)
  simp [Store.permissionIds, List.filter_map, Function.comp_def]

theorem createRole_access : Does createRole AccessEffect := by
  intro r ps t S k
  mvcgen -trivial [createRole, -permissionsOf_keepsAt, -permissionsOf_bookAt,
    -permissionsOf_registryAt, -permissionsOf_spec, permissionsOf_found_spec, addRole,
    -addRole_keepsAt, -addRole_bookAt, -addRole_registryAt, -addRole_logsAt,
    -addRole_withinAt, -addRole_spec, setGrants, -setGrants_keepsAt, -setGrants_bookAt, -setGrants_registryAt,
    -setGrants_logsAt, -setGrants_withinAt]
  all_goals simp_all +zetaDelta [AccessEffect]
  exact .grantsFound _ _ rfl rfl (Nat.le_succ k)

theorem updateRole_access : Does updateRole AccessEffect := by
  intro r ps t S k
  mvcgen -trivial [updateRole, -permissionsOf_keepsAt, -permissionsOf_bookAt,
    -permissionsOf_registryAt, -permissionsOf_spec, permissionsOf_found_spec,
    setGrants, -setGrants_keepsAt, -setGrants_bookAt, -setGrants_registryAt,
    -setGrants_logsAt, -setGrants_withinAt]
  all_goals simp_all +zetaDelta [AccessEffect]
  all_goals first
    | exact .grantsFound _ _ rfl rfl (le_refl _)
    | exact .appends ⟨le_refl _, rfl, [], by simp [Store.permissionIds], List.nodup_nil, by simp⟩

theorem addRolePermissions_access : Does addRolePermissions AccessEffect := by
  intro r ps t S k
  mvcgen -trivial [addRolePermissions, -permissionsOf_keepsAt, -permissionsOf_bookAt,
    -permissionsOf_registryAt, -permissionsOf_spec, permissionsOf_found_spec,
    setGrants, -setGrants_keepsAt, -setGrants_bookAt, -setGrants_registryAt,
    -setGrants_logsAt, -setGrants_withinAt]
  all_goals simp_all +zetaDelta [AccessEffect]
  rename_i ids role _ _ _ _ _ _ _ _ _
  refine .grantsMore role.id ids rfl ?_ (le_refl _)
  simp [regrant, Store.found, List.filter_filter, Bool.and_comm]

theorem removeRolePermissions_access : Does removeRolePermissions AccessEffect := by
  intro r ps t S k
  mvcgen -trivial [removeRolePermissions, setGrants, -setGrants_keepsAt, -setGrants_bookAt,
    -setGrants_registryAt, -setGrants_logsAt, -setGrants_withinAt]
  all_goals simp_all +zetaDelta [AccessEffect]
  rename_i ids role _ _ _ _
  exact .grantsLess role.id ids rfl (by simp [regrant]) (le_refl _)

theorem deleteRole_access : Does deleteRole AccessEffect := by
  intro r ps t S k
  mvcgen -trivial [deleteRole]
  all_goals simp_all +zetaDelta [AccessEffect]
  exact .dropsRole _ rfl rfl (le_refl _)

/-- The loop of generated permissions, made when missing. -/
theorem generateLoop_fresh (specs : List PermissionSpec) (σ₀ : Session) :
    ⦃fun σ => ⌜σ = σ₀⌝⦄ specs.mapM (fun spec => ensurePermission spec.key spec.description)
    ⦃post⟨fun qs σ => ⌜σ₀.AddsFresh σ ∧ qs.map (·.name) = specs.map (·.key) ∧
        ∀ q ∈ qs, q ∈ σ.store.permissions⌝,
      fun _ _ => ⌜False⌝⟩⦄ :=
  ensureLoop_spec _ (·.key) (fun a σ => ensurePermission_run a.key a.description σ) specs σ₀

/-- The loop of the permissions a comprehensive role wants, made when missing. -/
theorem wantedLoop_fresh (wanted : List (String × String)) (σ₀ : Session) :
    ⦃fun σ => ⌜σ = σ₀⌝⦄ wanted.mapM (fun (k, desc) => ensurePermission k desc)
    ⦃post⟨fun qs σ => ⌜σ₀.AddsFresh σ ∧ qs.map (·.name) = wanted.map (·.1) ∧
        ∀ q ∈ qs, q ∈ σ.store.permissions⌝,
      fun _ _ => ⌜False⌝⟩⦄ :=
  ensureLoop_spec _ (·.1) (fun a σ => ensurePermission_run a.1 a.2 σ) wanted σ₀

theorem generatePermissions_access : Does generatePermissions AccessEffect := by
  intro r ps t S k
  mvcgen -trivial [generatePermissions, -Txn.mapM_keepsAt, -Txn.mapM_bookAt,
    -Txn.mapM_registryAt, -Txn.mapM_logsAt, generateLoop_fresh]
  all_goals simp_all +zetaDelta [AccessEffect]
  rename_i σ₀ h₀ _ _ _ _ _ _ _ σ _ _ _ hloop
  obtain ⟨-, rfl, rfl, -⟩ := h₀
  exact .appends hloop.1.appends

theorem createComprehensiveRole_access : Does createComprehensiveRole AccessEffect := by
  intro r ps t S k
  mvcgen -trivial [createComprehensiveRole, -Txn.mapM_keepsAt, -Txn.mapM_bookAt,
    -Txn.mapM_registryAt, -Txn.mapM_logsAt, wantedLoop_fresh, addRole, -addRole_keepsAt,
    -addRole_bookAt, -addRole_registryAt, -addRole_logsAt, -addRole_withinAt, -addRole_spec,
    setGrants, -setGrants_keepsAt, -setGrants_bookAt, -setGrants_registryAt, -setGrants_logsAt,
    -setGrants_withinAt]
  all_goals simp_all +zetaDelta [AccessEffect]
  -- a failure on the store's rule after the loop keeps the commit point
  · rename_i σ₀ h₀ _ _ _ _ _ _ _ σ _ _ _ _ _ hloop _
    obtain ⟨hsaved, -, rfl, -⟩ := h₀
    exact ⟨hloop.1.saved.trans hsaved, Nat.le_succ_of_le hloop.1.counter⟩
  · rename_i σ₀ h₀ _ _ _ d _ _ _ σ _ _ _ _ _ _ _ hloop _
    obtain ⟨-, rfl, rfl, -⟩ := h₀
    obtain ⟨hadd, hnames, hmem⟩ := hloop
    refine .builds σ.store σ.nextId _ _ hadd.appends hmem ?_ rfl rfl (Nat.le_succ _)
    rw [hnames]
    exact comprehensivePermissions_keys_nodup d.resources

/-- The routes whose footprint holds the permissions or the grants: the ten writers above. -/
theorem footprinted_filter_access :
    footprinted.filter (fun p => Part.permissions ∈ p.2 ∨ Part.grants ∈ p.2) =
      [(Route.of "POST" "/api/v1/roles" createRole, [.roles, .grants]),
       (Route.of "POST" "/api/v1/roles/comprehensive" createComprehensiveRole,
         [.permissions, .roles, .grants]),
       (Route.of "PUT" "/api/v1/roles/\x7bid\x7d" updateRole, [.roles, .grants]),
       (Route.of "POST" "/api/v1/roles/\x7bid\x7d/permissions" addRolePermissions, [.grants]),
       (Route.of "DELETE" "/api/v1/roles/\x7bid\x7d/permissions" removeRolePermissions, [.grants]),
       (Route.of "DELETE" "/api/v1/roles/\x7bid\x7d" deleteRole, [.roles, .grants, .users]),
       (Route.of "POST" "/api/v1/permissions" createPermission, [.permissions]),
       (Route.of "POST" "/api/v1/permissions/generate" generatePermissions, [.permissions]),
       (Route.of "PUT" "/api/v1/permissions/\x7bid\x7d" updatePermission, [.permissions]),
       (Route.of "DELETE" "/api/v1/permissions/\x7bid\x7d" deletePermission,
         [.permissions, .grants])] :=
  rfl

/-- **Each writer of permissions or grants does one kind of access write.** -/
theorem accessWriters_does :
    ∀ w ∈ footprinted.filter (fun p => Part.permissions ∈ p.2 ∨ Part.grants ∈ p.2),
      Does w.1.handle AccessEffect := by
  rw [footprinted_filter_access]
  simp only [List.forall_mem_cons, List.not_mem_nil, IsEmpty.forall_iff, implies_true, and_true]
  exact ⟨createRole_access, createComprehensiveRole_access, updateRole_access,
    addRolePermissions_access, removeRolePermissions_access, deleteRole_access,
    createPermission_access, generatePermissions_access, updatePermission_access,
    deletePermission_access⟩

end Api

/-! ## §4 — The rule in every reachable world -/

/-- **Every request keeps the rule of permissions and grants**: a route outside the writers
leaves both tables, and each writer does one kind of access write. -/
theorem serve_keeps_access_sound (s : Store) (n : Nat) (now : Stamp) (r : Request)
    (h : s.AccessSound n) :
    (serve Api.routes s n now r).store.AccessSound (serve Api.routes s n now r).nextId := by
  rcases serve_within_footprint s n now r with ⟨hs, -, hn⟩ |
    ⟨route, ps, parts, hsel, hmem, hout, -, hn⟩
  · rw [hs, hn]
    exact h
  by_cases hw : Part.permissions ∈ parts ∨ Part.grants ∈ parts
  · have hwriter : (route, parts) ∈
        Api.footprinted.filter (fun p => Part.permissions ∈ p.2 ∨ Part.grants ∈ p.2) :=
      List.mem_filter.2 ⟨hmem, by simpa using hw⟩
    rcases serve_does hsel (Api.accessWriters_does _ hwriter) with ⟨hs, hn'⟩ | hstep
    · rw [hs]
      exact h.mono hn'
    · exact AccessStep.sound hstep h
  · -- outside the footprint both tables are as they were
    rw [not_or] at hw
    have hp := congrArg Store.permissions hout
    have hg := congrArg Store.grants hout
    simp only [Store.outside, Part.keep, hw.1, hw.2, if_false] at hp hg
    exact h.of_eq (by rw [Store.permissionIds, hp, ← Store.permissionIds]) hg hn

/-- The seeded store: its permissions carry the first ids, in order, and its grants are distinct
and name its permissions. -/
theorem Scenario.fresh_access_facts :
    Scenario.fresh.store.permissions.map (·.id) =
        (List.range' 1 Scenario.fresh.store.permissions.length).map Txn.idText ∧
      Scenario.fresh.store.permissions.length + 1 ≤ Scenario.fresh.nextId ∧
      Scenario.fresh.store.grants.Nodup ∧
      Scenario.fresh.store.grants.all
        (fun g => (Scenario.fresh.store.permissions.map (·.id)).contains g.permissionId) := by
  decide +kernel

/-- **The seeded store keeps the rule of permissions and grants.** -/
theorem Scenario.fresh_access_sound : Scenario.fresh.store.AccessSound Scenario.fresh.nextId := by
  obtain ⟨hids, hlen, hnd, hall⟩ := Scenario.fresh_access_facts
  refine ⟨fun x hx m hm => ?_, ?_, hnd, fun g hg => ?_⟩
  · rw [Store.permissionIds, hids] at hx
    obtain ⟨j, hj, rfl⟩ := List.mem_map.1 hx
    have hj' := (List.mem_range'_1.1 hj).2
    exact fun heq => absurd (Txn.idText_injective heq) (by omega)
  · rw [Store.permissionIds, hids]
    exact (List.nodup_range' ..).map Txn.idText_injective
  · simpa [Store.permissionIds] using List.all_eq_true.1 hall g hg

/-- **Every reachable world keeps the rule of permissions and grants.** -/
theorem Reachable.access_sound {w : World} (hw : Reachable w) : w.store.AccessSound w.nextId := by
  induction hw with
  | fresh => exact Scenario.fresh_access_sound
  | step j _ ih =>
    rcases Scenario.step_store_cases _ j with ⟨hs, hn⟩ | ⟨now, r, hs, hn⟩
    · -- a step that is not a request changes the accounts only
      exact ih.of_eq (by rw [hs]; rfl) (by rw [hs]) hn
    · rw [hs, hn]
      exact serve_keeps_access_sound _ _ now r ih

/-! ## §5 — Role permission sets -/

section Sets

variable {s : Store} {n : Nat}

/-- After an addition, a role holds what it held and the ids added, when all name permissions. -/
theorem mem_added (h : s.AccessSound n) {ids : List String}
    (hall : ∀ x ∈ ids, x ∈ s.permissionIds) (rid x : String) :
    x ∈ (s.rolePermissions rid ++ (s.found ids).filter
        fun p => !(s.rolePermissions rid).any (·.id == p.id)).map (·.id) ↔
      x ∈ s.held rid ∨ x ∈ ids := by
  rw [mem_union_ids, rolePermissions_ids h.known, mem_found_ids]
  exact or_congr_right ⟨fun hx => hx.2, fun hx => ⟨hall x hx, hx⟩⟩

/-- After a removal, a role holds what it held but the ids removed. -/
theorem mem_removed (h : s.AccessSound n) (ids : List String) (rid x : String) :
    x ∈ ((s.rolePermissions rid).filter fun p => !ids.contains p.id).map (·.id) ↔
      x ∈ s.held rid ∧ x ∉ ids := by
  rw [← rolePermissions_ids h.known]
  constructor
  · intro hx
    obtain ⟨p, hp, rfl⟩ := List.mem_map.1 hx
    have hout := (List.mem_filter.1 hp).2
    exact ⟨List.mem_map_of_mem (List.mem_of_mem_filter hp), by simpa using hout⟩
  · rintro ⟨hx, hnot⟩
    obtain ⟨p, hp, rfl⟩ := List.mem_map.1 hx
    exact List.mem_map.2 ⟨p, List.mem_filter.2 ⟨hp, by simpa using hnot⟩, rfl⟩

/-- Ids that do not all name permissions have one that names none. -/
theorem exists_unknown (h : s.AccessSound n) {ids : List String}
    (hfail : s.findsPermissions ids = false) : ∃ x ∈ ids, x ∉ s.permissionIds := by
  by_contra hnone
  push Not at hnone
  rw [(findsPermissions_iff h.distinct ids).2 hnone] at hfail
  cases hfail

end Sets

section Routes

variable {s : Store} {k : Nat} (now : Stamp) {r : Request} {ps : List String} {u : User}

/-- **Adding permissions to a role** by ids that all name permissions makes its set the union of
what it held and the ids; with an id that names none it answers 400 and changes nothing. -/
theorem serve_adds_permissions (h : s.AccessSound k)
    (hsel : Route.select Api.routes r = .ok
      (Route.of "POST" "/api/v1/roles/\x7bid\x7d/permissions" Api.addRolePermissions, ps))
    (hpass : Guard.decision s r .admin = .ok u) {ids : List String} {role : Role}
    (hids : Input.bodyAs r Api.permissionIds = some ids)
    (hrole : s.role? (Route.param ps) = some role) :
    ((∀ x ∈ ids, x ∈ s.permissionIds) →
        (serve Api.routes s k now r).response.status = 200 ∧
        (∀ x, x ∈ (serve Api.routes s k now r).store.held role.id ↔
          x ∈ s.held role.id ∨ x ∈ ids) ∧
        ∀ rid, rid ≠ role.id → (serve Api.routes s k now r).store.held rid = s.held rid) ∧
      ((∃ x ∈ ids, x ∉ s.permissionIds) →
        (serve Api.routes s k now r).store = s ∧ (serve Api.routes s k now r).response =
          Route.faultResponse now (.refuse 400 "One or more permissions were not found")) := by
  rcases serve_of_triple k now hsel ⟨rfl, rfl⟩
      (Api.addRolePermissions_grants r ps s u ids role hpass hids hrole) with
    ⟨σ, ⟨hstatus, hfound, hstore⟩, hout⟩ | ⟨e, σ, ⟨hsaved, hfail, rfl⟩, hresp, hout⟩
  · have hall := (findsPermissions_iff h.distinct ids).1 hfound
    have hg := congrArg Store.grants (hout.trans hstore)
    refine ⟨fun _ => ⟨hstatus, fun x => ?_, fun rid hrid => ?_⟩,
      fun ⟨x, hx, hnot⟩ => absurd (hall x hx) hnot⟩
    · rw [held_regrant hg, if_pos rfl]
      exact mem_added h hall role.id x
    · rw [held_regrant hg, if_neg hrid]
  · obtain ⟨x, hx, hnot⟩ := exists_unknown h hfail
    exact ⟨fun hall => absurd (hall x hx) hnot, fun _ => ⟨hout.trans hsaved, hresp⟩⟩

/-- **Removing permissions from a role** always succeeds and leaves it what it held but the ids
removed; ids that name no permission are passed over. -/
theorem serve_removes_permissions (h : s.AccessSound k)
    (hsel : Route.select Api.routes r = .ok
      (Route.of "DELETE" "/api/v1/roles/\x7bid\x7d/permissions" Api.removeRolePermissions, ps))
    (hpass : Guard.decision s r .admin = .ok u) {ids : List String} {role : Role}
    (hids : Input.bodyAs r Api.permissionIds = some ids)
    (hrole : s.role? (Route.param ps) = some role) :
    (serve Api.routes s k now r).response.status = 200 ∧
      (∀ x, x ∈ (serve Api.routes s k now r).store.held role.id ↔
        x ∈ s.held role.id ∧ x ∉ ids) ∧
      ∀ rid, rid ≠ role.id → (serve Api.routes s k now r).store.held rid = s.held rid := by
  rcases serve_of_triple k now hsel ⟨rfl, rfl⟩
      (Api.removeRolePermissions_grants r ps s u ids role hpass hids hrole) with
    ⟨σ, ⟨hstatus, hstore⟩, hout⟩ | ⟨e, σ, hnever, -⟩
  · have hg := congrArg Store.grants (hout.trans hstore)
    refine ⟨hstatus, fun x => ?_, fun rid hrid => ?_⟩
    · rw [held_regrant hg, if_pos rfl]
      exact mem_removed h ids role.id x
    · rw [held_regrant hg, if_neg hrid]
  · exact hnever.elim

/-- **Changing a role's permissions to `ids`** either fails, with the 409 of a taken name or with
the 400 of an id that names no permission, and changes nothing; or succeeds, all ids naming
permissions, and makes the role's set exactly `ids`. -/
theorem serve_replaces_permissions (h : s.AccessSound k)
    (hsel : Route.select Api.routes r = .ok
      (Route.of "PUT" "/api/v1/roles/\x7bid\x7d" Api.updateRole, ps))
    (hpass : Guard.decision s r .admin = .ok u) {d : Api.RolePatch} {role : Role}
    {ids : List String} (hd : Input.bodyAs r Api.RolePatch.validate = some d)
    (hrole : s.role? (Route.param ps) = some role) (hids : d.permissions = some ids) :
    ((serve Api.routes s k now r).store = s ∧
        ((serve Api.routes s k now r).response =
            Route.faultResponse now (.refuse 409 "Role name already exists") ∨
          (∃ x ∈ ids, x ∉ s.permissionIds) ∧ (serve Api.routes s k now r).response =
            Route.faultResponse now (.refuse 400 "One or more permissions were not found"))) ∨
      ((serve Api.routes s k now r).response.status = 200 ∧ (∀ x ∈ ids, x ∈ s.permissionIds) ∧
        (∀ x, x ∈ (serve Api.routes s k now r).store.held role.id ↔ x ∈ ids) ∧
        ∀ rid, rid ≠ role.id → (serve Api.routes s k now r).store.held rid = s.held rid) := by
  rcases serve_of_triple k now hsel ⟨rfl, rfl⟩
      (Api.updateRole_grants r ps s u d role ids hpass hd hrole hids) with
    ⟨σ, ⟨hstatus, hfound, -, hg⟩, hout⟩ | ⟨e, σ, ⟨hsaved, he⟩, hresp, hout⟩
  · have hall := (findsPermissions_iff h.distinct ids).1 hfound
    rw [← hout] at hg
    refine .inr ⟨hstatus, hall, fun x => ?_, fun rid hrid => ?_⟩
    · rw [held_regrant hg, if_pos rfl, mem_found_ids]
      exact ⟨fun hx => hx.2, fun hx => ⟨hall x hx, hx⟩⟩
    · rw [held_regrant hg, if_neg hrid]
  · refine .inl ⟨hout.trans hsaved, ?_⟩
    rcases he with rfl | ⟨hfail, rfl⟩
    · exact .inl hresp
    · exact .inr ⟨exists_unknown h hfail, hresp⟩

/-- **Making a role with the permissions `ids`** either fails, with the 409 of a taken name or
with the 400 of an id that names no permission, and changes nothing; or succeeds, all ids naming
permissions, with one new role whose set is exactly `ids`. -/
theorem serve_creates_role (h : s.AccessSound k)
    (hsel : Route.select Api.routes r = .ok (Route.of "POST" "/api/v1/roles" Api.createRole, ps))
    (hpass : Guard.decision s r .admin = .ok u) {d : Api.RoleDraft}
    (hd : Input.bodyAs r Api.RoleDraft.validate = some d) :
    ((serve Api.routes s k now r).store = s ∧
        ((serve Api.routes s k now r).response =
            Route.faultResponse now (.refuse 409 "Role name already exists") ∨
          (∃ x ∈ d.permissions, x ∉ s.permissionIds) ∧ (serve Api.routes s k now r).response =
            Route.faultResponse now (.refuse 400 "One or more permissions were not found"))) ∨
      ((serve Api.routes s k now r).response.status = 201 ∧
        (∀ x ∈ d.permissions, x ∈ s.permissionIds) ∧
        ∃ role, (serve Api.routes s k now r).store.roles = s.roles ++ [role] ∧
          (∀ x, x ∈ (serve Api.routes s k now r).store.held role.id ↔ x ∈ d.permissions) ∧
          ∀ rid, rid ≠ role.id → (serve Api.routes s k now r).store.held rid = s.held rid) := by
  rcases serve_of_triple k now hsel ⟨rfl, rfl, rfl⟩
      (Api.createRole_grants r ps s k u d hpass hd) with
    ⟨σ, ⟨hstatus, hfound, -, role, hroles, -, hg⟩, hout⟩ | ⟨e, σ, ⟨hsaved, he⟩, hresp, hout⟩
  · have hall := (findsPermissions_iff h.distinct d.permissions).1 hfound
    rw [← hout] at hg hroles
    refine .inr ⟨hstatus, hall, role, hroles, fun x => ?_, fun rid hrid => ?_⟩
    · rw [held_regrant hg, if_pos rfl, mem_found_ids]
      exact ⟨fun hx => hx.2, fun hx => ⟨hall x hx, hx⟩⟩
    · rw [held_regrant hg, if_neg hrid]
  · refine .inl ⟨hout.trans hsaved, ?_⟩
    rcases he with rfl | ⟨hfail, rfl⟩
    · exact .inl hresp
    · exact .inr ⟨exists_unknown h hfail, hresp⟩

end Routes


/-- **Role permission sets behave as sets.** In every reachable world no role holds a
permission twice. An administrator's request that adds permissions to a role makes its set the
union of what it held and the ids, or, with an id that names no permission, answers 400 and
changes nothing; one that removes permissions leaves what it held but the ids, passing over ids
that name none; one that changes a role's permissions to `ids`, or makes a role with `ids`, fails
with nothing changed, answering the 409 of a taken name or the 400 of an unknown id, or makes the
set exactly `ids`. No other role's set changes. -/
theorem role_permission_sets {w : World} (hw : Reachable w) (now : Stamp) (r : Request)
    (ps : List String) :
    (∀ rid, (w.store.held rid).Nodup) ∧
    (Route.select Api.routes r = .ok
        (Route.of "POST" "/api/v1/roles/\x7bid\x7d/permissions" Api.addRolePermissions, ps) →
      Guard.Passes w.store r .admin → ∀ ids role, Input.bodyAs r Api.permissionIds = some ids →
        w.store.role? (Route.param ps) = some role →
        ((∀ x ∈ ids, x ∈ w.store.permissionIds) →
            (serve Api.routes w.store w.nextId now r).response.status = 200 ∧
            (∀ x, x ∈ (serve Api.routes w.store w.nextId now r).store.held role.id ↔
              x ∈ w.store.held role.id ∨ x ∈ ids) ∧
            ∀ rid, rid ≠ role.id →
              (serve Api.routes w.store w.nextId now r).store.held rid = w.store.held rid) ∧
          ((∃ x ∈ ids, x ∉ w.store.permissionIds) →
            (serve Api.routes w.store w.nextId now r).store = w.store ∧
            (serve Api.routes w.store w.nextId now r).response =
              Route.faultResponse now (.refuse 400 "One or more permissions were not found"))) ∧
    (Route.select Api.routes r = .ok
        (Route.of "DELETE" "/api/v1/roles/\x7bid\x7d/permissions" Api.removeRolePermissions, ps) →
      Guard.Passes w.store r .admin → ∀ ids role, Input.bodyAs r Api.permissionIds = some ids →
        w.store.role? (Route.param ps) = some role →
        (serve Api.routes w.store w.nextId now r).response.status = 200 ∧
        (∀ x, x ∈ (serve Api.routes w.store w.nextId now r).store.held role.id ↔
          x ∈ w.store.held role.id ∧ x ∉ ids) ∧
        ∀ rid, rid ≠ role.id →
          (serve Api.routes w.store w.nextId now r).store.held rid = w.store.held rid) ∧
    (Route.select Api.routes r = .ok
        (Route.of "PUT" "/api/v1/roles/\x7bid\x7d" Api.updateRole, ps) →
      Guard.Passes w.store r .admin → ∀ d role ids, Input.bodyAs r Api.RolePatch.validate = some d →
        w.store.role? (Route.param ps) = some role → d.permissions = some ids →
        ((serve Api.routes w.store w.nextId now r).store = w.store ∧
            ((serve Api.routes w.store w.nextId now r).response =
                Route.faultResponse now (.refuse 409 "Role name already exists") ∨
              (∃ x ∈ ids, x ∉ w.store.permissionIds) ∧
                (serve Api.routes w.store w.nextId now r).response = Route.faultResponse now
                  (.refuse 400 "One or more permissions were not found"))) ∨
          ((serve Api.routes w.store w.nextId now r).response.status = 200 ∧
            (∀ x ∈ ids, x ∈ w.store.permissionIds) ∧
            (∀ x, x ∈ (serve Api.routes w.store w.nextId now r).store.held role.id ↔ x ∈ ids) ∧
            ∀ rid, rid ≠ role.id →
              (serve Api.routes w.store w.nextId now r).store.held rid = w.store.held rid)) ∧
    (Route.select Api.routes r = .ok (Route.of "POST" "/api/v1/roles" Api.createRole, ps) →
      Guard.Passes w.store r .admin → ∀ d, Input.bodyAs r Api.RoleDraft.validate = some d →
        ((serve Api.routes w.store w.nextId now r).store = w.store ∧
            ((serve Api.routes w.store w.nextId now r).response =
                Route.faultResponse now (.refuse 409 "Role name already exists") ∨
              (∃ x ∈ d.permissions, x ∉ w.store.permissionIds) ∧
                (serve Api.routes w.store w.nextId now r).response = Route.faultResponse now
                  (.refuse 400 "One or more permissions were not found"))) ∨
          ((serve Api.routes w.store w.nextId now r).response.status = 201 ∧
            (∀ x ∈ d.permissions, x ∈ w.store.permissionIds) ∧
            ∃ role, (serve Api.routes w.store w.nextId now r).store.roles = w.store.roles ++ [role] ∧
              (∀ x, x ∈ (serve Api.routes w.store w.nextId now r).store.held role.id ↔
                x ∈ d.permissions) ∧
              ∀ rid, rid ≠ role.id →
                (serve Api.routes w.store w.nextId now r).store.held rid = w.store.held rid)) := by
  have h := hw.access_sound
  refine ⟨fun rid => held_nodup h.nodup rid, ?add, ?remove, ?update, ?create⟩
  case add =>
    rintro hsel ⟨u, hu⟩ ids role hids hrole
    exact serve_adds_permissions now h hsel (Guard.decision_eq_ok.2 hu) hids hrole
  case remove =>
    rintro hsel ⟨u, hu⟩ ids role hids hrole
    exact serve_removes_permissions now h hsel (Guard.decision_eq_ok.2 hu) hids hrole
  case update =>
    rintro hsel ⟨u, hu⟩ d role ids hd hrole hids
    exact serve_replaces_permissions now h hsel (Guard.decision_eq_ok.2 hu) hd hrole hids
  case create =>
    rintro hsel ⟨u, hu⟩ d hd
    exact serve_creates_role now h hsel (Guard.decision_eq_ok.2 hu) hd

/-- A request for the list of roles. -/
def rolesRequest : Request :=
  { method := "GET", path := "/api/v1/roles", headers := [], query := [], body := .empty,
    storageFails := false, clock := 0 }

/-- The seeded Admin role, the third system role, holds each of its permissions once. -/
theorem seeded_admin_holds_permissions_once :
    (Scenario.fresh.store.held (Txn.idText 36)).Nodup :=
  (role_permission_sets Reachable.fresh (Stamp.ofEpoch 0) rolesRequest []).1 _

end Bistro
