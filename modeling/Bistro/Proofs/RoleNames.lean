import Bistro.Proofs.PermissionNames
import Bistro.Proofs.OrderStates

/-!
# Bistro — role names another role has

Three routes name a role: making one, changing one, and making a comprehensive role with the
permissions of some resources. Each first refuses, with a 409, a name that a role has exactly as
sent, and then stores the name trimmed, where the store's rule of distinct names decides. Making
or changing a role turns a broken rule into the same 409; making a comprehensive role does not,
so a name taken only once trimmed fails there with a 500.

Main statement, `taken_role_name_keeps_store`: an administrator's request of any of the three
routes, with a body that passed its check and a name that another role has once trimmed, leaves
the store as it was. Making or changing a role answers the 409 of a taken name, unless the
permissions it asks for are not all found; making a comprehensive role answers the 409 only when
the name is taken as sent, and the 500 of a broken rule otherwise
(`spaced_admin_role_fails`).

The proofs run `mvcgen` through each handler with exact triples of the steps that decide
(`requireRoleNameFree_spec`, `permissionsOf_spec`, `addRole_spec`); the permissions a
comprehensive role wants are made by a loop that never fails and leaves the roles
(`wantedLoop_roles_spec`).
-/

open Std.Do

set_option mvcgen.warning false

namespace Bistro

/-! ## §1 — Checked role names -/

/-- A text that passed a length check is at least as long as the lower bound. -/
theorem Field.boundedText_length {lo : Nat} {hi : Option Nat} {j : Json} {s : String}
    (h : Field.boundedText lo hi j = .ok s) : lo ≤ s.length := by
  unfold Field.boundedText at h
  cases ht : Field.text j with
  | fail e => simp [ht, Validated.andThen] at h
  | ok t =>
    simp only [ht, Validated.andThen, Field.minLength] at h
    split_ifs at h with hlt
    · simp [Validated.here] at h
    · -- the upper bound, when there is one, only refuses
      cases hi with
      | none =>
        cases h
        omega
      | some m =>
        simp only [Field.maxLength] at h
        split_ifs at h
        · simp [Validated.here] at h
        · cases h
          omega

/-- A new name in a change of a role is not empty. -/
theorem Api.RolePatch.validate_name {fs : List (String × Json)} {d : Api.RolePatch}
    (h : Api.RolePatch.validate fs = .ok d) : ∀ n, d.name = some n → n.isEmpty = false := by
  obtain ⟨g, -, hg, -, rfl⟩ := Validated.seq_eq_ok h
  obtain ⟨g', -, hg', -, rfl⟩ := Validated.seq_eq_ok hg
  obtain ⟨o, ho, rfl⟩ := Validated.map_eq_ok hg'
  rcases Field.optional_ok ho with rfl | ⟨j, n, hj, rfl⟩
  · intro n hn
    cases hn
  · intro n' hn
    cases hn
    have hlen := Field.boundedText_length hj
    simp only [Bool.eq_false_iff, ne_eq, String.isEmpty_iff]
    rintro rfl
    simp at hlen

/-! ## §2 — The steps that decide -/

/-- Whether every id of a list names a permission, as the role routes count them: as many
permissions carry one of the ids as there are distinct ids. -/
def Store.findsPermissions (s : Store) (ids : List String) : Bool :=
  (s.permissions.filter fun p => ids.contains p.id).length == ids.eraseDups.length

/-- A step that never fails. -/
def Txn.Total {α : Type} (t : Txn α) : Prop := ∀ σ, ∃ a, (t.exec σ).1 = .ok a

theorem Txn.Total.bind {α β : Type} {x : Txn α} {f : α → Txn β} (hx : Txn.Total x)
    (hf : ∀ a, Txn.Total (f a)) : Txn.Total (x >>= f) := by
  intro σ
  rw [Txn.exec_bind]
  obtain ⟨a, ha⟩ := hx σ
  rcases hr : x.exec σ with ⟨_ | a', σ'⟩ <;> rw [hr] at ha
  · cases ha
  · exact hf a' σ'

theorem Txn.Total.mapM {α β : Type} {f : α → Txn β} (hf : ∀ a, Txn.Total (f a)) :
    ∀ xs : List α, Txn.Total (xs.mapM f)
  | [] => fun _ => ⟨[], rfl⟩
  | x :: xs => by
    rw [List.mapM_cons]
    exact (hf x).bind fun _ => (Txn.Total.mapM hf xs).bind fun _ _ => ⟨_, rfl⟩

/-- A step that never fails and only adds permissions keeps the roles and the commit point. -/
theorem Txn.AddsPermissions.roles_spec {α : Type} {t : Txn α} {P : String → Prop}
    (h : Txn.AddsPermissions t P) (ht : Txn.Total t) (σ₀ : Session) :
    ⦃fun σ => ⌜σ = σ₀⌝⦄ t
    ⦃post⟨fun _ σ => ⌜σ.saved = σ₀.saved ∧ σ.store.roles = σ₀.store.roles⌝,
      fun _ _ => ⌜False⌝⟩⦄ := by
  refine Txn.triple_iff.2 fun σ hσ => ?_
  subst hσ
  obtain ⟨hs, -, hst, -, -⟩ := h σ
  obtain ⟨a, ha⟩ := ht σ
  have hroles : (t.exec σ).2.store.roles = σ.store.roles := by
    rw [hst]
  rcases hx : t.exec σ with ⟨_ | _, σ'⟩ <;> rw [hx] at hs hroles ha
  · cases ha
  · exact ⟨hs, hroles⟩

namespace Api

/-- **Checking a role name as sent** refuses it, with the 409 of a taken name, exactly when the
first role of that name is not `self`. -/
@[spec 6000] theorem requireRoleNameFree_spec (name : String) (self : Option String)
    (σ₀ : Session) :
    ⦃fun σ => ⌜σ = σ₀⌝⦄ requireRoleNameFree name self
    ⦃post⟨fun _ σ => ⌜σ = σ₀ ∧ ∀ o, σ₀.store.roleNamed? name = some o → some o.id = self⌝,
      fun e σ => ⌜σ = σ₀ ∧ (∃ o, σ₀.store.roleNamed? name = some o ∧ some o.id ≠ self) ∧
        e = Fault.refuse 409 "Role name already exists"⌝⟩⦄ := by
  mvcgen -trivial [requireRoleNameFree, -requireRoleNameFree_keepsAt, -requireRoleNameFree_bookAt,
    -requireRoleNameFree_registryAt]
  all_goals simp_all

/-- **Finding the permissions of some ids** refuses, with a 400, when they are not all found. -/
@[spec 6000] theorem permissionsOf_spec (ids : List String) (σ₀ : Session) :
    ⦃fun σ => ⌜σ = σ₀⌝⦄ permissionsOf ids
    ⦃post⟨fun _ σ => ⌜σ = σ₀⌝,
      fun e σ => ⌜σ = σ₀ ∧ σ₀.store.findsPermissions ids = false ∧
        e = Fault.refuse 400 "One or more permissions were not found"⌝⟩⦄ := by
  mvcgen -trivial [permissionsOf, -permissionsOf_keepsAt, -permissionsOf_bookAt,
    -permissionsOf_registryAt]
  all_goals simp_all +zetaDelta [Store.findsPermissions]

/-- **Storing a role** succeeds only when no role has its name, and otherwise breaks the store's
rule of distinct names. -/
@[spec 6000] theorem addRole_spec (name : String) (description : Option String)
    (ps : List Permission) (σ₀ : Session) :
    ⦃fun σ => ⌜σ = σ₀⌝⦄ addRole name description ps
    ⦃post⟨fun _ σ => ⌜σ.saved = σ₀.saved ∧ ∀ o ∈ σ₀.store.roles, o.name ≠ name⌝,
      fun e σ => ⌜σ.saved = σ₀.saved ∧ e = .integrity⌝⟩⦄ := by
  mvcgen -trivial [addRole, -addRole_keepsAt, -addRole_bookAt, -addRole_registryAt, setGrants,
    -setGrants_keepsAt, -setGrants_bookAt, -setGrants_registryAt]
  all_goals simp_all +zetaDelta

theorem ensurePermission_total (name description : String) :
    Txn.Total (ensurePermission name description) := by
  intro σ
  unfold ensurePermission
  rw [Txn.exec_bind, Txn.exec_store]
  dsimp only
  cases σ.store.permissionNamed? name with
  | some p => exact ⟨p, rfl⟩
  | none => exact ⟨_, rfl⟩

/-- Making the permissions a comprehensive role wants never fails and leaves the roles. -/
theorem wantedLoop_roles_spec (wanted : List (String × String)) (σ₀ : Session) :
    ⦃fun σ => ⌜σ = σ₀⌝⦄ wanted.mapM (fun (k, desc) => ensurePermission k desc)
    ⦃post⟨fun _ σ => ⌜σ.saved = σ₀.saved ∧ σ.store.roles = σ₀.store.roles⌝,
      fun _ _ => ⌜False⌝⟩⦄ := by
  have hadd := Txn.AddsPermissions.mapM (·.1)
    (fun w : String × String => ensurePermission_adds w.1 w.2) wanted
  have htot := Txn.Total.mapM (fun w : String × String => ensurePermission_total w.1 w.2) wanted
  exact hadd.roles_spec htot σ₀

/-! ## §3 — The three routes -/

/-- **Making a role under a taken name** fails with the 409 of a taken name, or with the 400 of
permissions not found, and keeps the commit point. -/
theorem createRole_name_taken (r : Request) (ps : List String) (S : Store) (u : User)
    (d : RoleDraft) (hpass : Guard.decision S r .admin = .ok u)
    (hd : Input.bodyAs r RoleDraft.validate = some d) {o : Role} (ho : o ∈ S.roles)
    (hname : o.name = trim d.name) :
    ⦃fun σ => ⌜σ.saved = S ∧ σ.store = S⌝⦄ createRole r ps
    ⦃post⟨fun _ _ => ⌜False⌝, fun e σ => ⌜σ.saved = S ∧
        (e = Fault.refuse 409 "Role name already exists" ∨
          S.findsPermissions d.permissions = false ∧
            e = Fault.refuse 400 "One or more permissions were not found")⌝⟩⦄ := by
  obtain ⟨p, hp, hm⟩ := Input.bodyAs_eq_some hd
  mvcgen -trivial [createRole]
  all_goals simp_all +zetaDelta

/-- **Making a comprehensive role under a taken name** fails with the 409 of a taken name when a
role has the name as sent, and otherwise on the store's rule, after making its permissions; the
commit point is kept either way. -/
theorem createComprehensiveRole_name_taken (r : Request) (ps : List String) (S : Store)
    (u : User) (d : ComprehensiveDraft) (hpass : Guard.decision S r .admin = .ok u)
    (hd : Input.bodyAs r ComprehensiveDraft.validate = some d) {o : Role} (ho : o ∈ S.roles)
    (hname : o.name = trim d.name) :
    ⦃fun σ => ⌜σ.saved = S ∧ σ.store = S⌝⦄ createComprehensiveRole r ps
    ⦃post⟨fun _ _ => ⌜False⌝, fun e σ => ⌜σ.saved = S ∧
        e = if (S.roleNamed? d.name).isSome then Fault.refuse 409 "Role name already exists"
          else .integrity⌝⟩⦄ := by
  obtain ⟨p, hp, hm⟩ := Input.bodyAs_eq_some hd
  mvcgen -trivial [createComprehensiveRole, -Txn.mapM_registryAt, -Txn.mapM_bookAt,
    -Txn.mapM_keepsAt, wantedLoop_roles_spec]
  all_goals simp_all +zetaDelta [Option.isSome_iff_exists]

/-- **Renaming a role to a name another role has** fails with the 409 of a taken name, or with
the 400 of permissions not found, and keeps the commit point. -/
theorem updateRole_name_taken (r : Request) (ps : List String) (S : Store) (u : User)
    (d : RolePatch) (role : Role) (n : String) (hpass : Guard.decision S r .admin = .ok u)
    (hd : Input.bodyAs r RolePatch.validate = some d)
    (hrole : S.role? (Route.param ps) = some role) (hn : d.name = some n)
    (hne : n.isEmpty = false) {o : Role} (ho : o ∈ S.roles) (hid : o.id ≠ role.id)
    (hname : o.name = trim n) :
    ⦃fun σ => ⌜σ.saved = S ∧ σ.store = S⌝⦄ updateRole r ps
    ⦃post⟨fun _ _ => ⌜False⌝, fun e σ => ⌜σ.saved = S ∧
        (e = Fault.refuse 409 "Role name already exists" ∨ ∃ ids, d.permissions = some ids ∧
          S.findsPermissions ids = false ∧
          e = Fault.refuse 400 "One or more permissions were not found")⌝⟩⦄ := by
  obtain ⟨p, hp, hm⟩ := Input.bodyAs_eq_some hd
  mvcgen -trivial [updateRole]
  all_goals simp_all +zetaDelta

end Api

/-! ## §4 — What a request answers -/

/-- A route whose handler, run from the store `s`, can only fail, with a fault that `P` describes
and the commit point kept, answers that fault and leaves the store. -/
theorem serve_refused (n : Nat) (now : Stamp) {s : Store} {r : Request} {route : Route}
    {ps : List String} {P : Fault → Prop} (hsel : Route.select Api.routes r = .ok (route, ps))
    (h : ⦃fun σ => ⌜σ.saved = s ∧ σ.store = s⌝⦄ route.handle r ps
      ⦃post⟨fun _ _ => ⌜False⌝, fun e σ => ⌜σ.saved = s ∧ P e⌝⟩⦄) :
    (serve Api.routes s n now r).store = s ∧
      ∃ e, P e ∧ (serve Api.routes s n now r).response = Route.faultResponse now e := by
  rw [serve_eq, Route.dispatch_eq_handle hsel]
  have hrun := Txn.triple_iff.1 h { store := s, saved := s, nextId := n, now := now } ⟨rfl, rfl⟩
  generalize (route.handle r ps).exec { store := s, saved := s, nextId := n, now := now } = run
    at hrun ⊢
  rcases run with ⟨e | _, σ'⟩
  · exact ⟨hrun.1, e, hrun.2, rfl⟩
  · exact hrun.elim

/-- **A role name another role has, once trimmed, writes nothing.** An administrator's request
to make a role, to change one, or to make a comprehensive role, whose body passed its check and
names a role name that another role has once trimmed, leaves the store as it was. Making or
changing a role answers the 409 of a taken name, unless the permissions it asks for are not all
found; making a comprehensive role answers that 409 only when the name is taken as sent, and
otherwise the 500 of a broken rule of the store. -/
theorem taken_role_name_keeps_store (s : Store) (n : Nat) (now : Stamp) (r : Request)
    (ps : List String) (hpass : Guard.Passes s r .admin) :
    (Route.select Api.routes r = .ok (Route.of "POST" "/api/v1/roles" Api.createRole, ps) →
      ∀ d, Input.bodyAs r Api.RoleDraft.validate = some d → (∃ o ∈ s.roles, o.name = trim d.name) →
        (serve Api.routes s n now r).store = s ∧
        ((serve Api.routes s n now r).response =
            Route.faultResponse now (.refuse 409 "Role name already exists") ∨
          s.findsPermissions d.permissions = false ∧ (serve Api.routes s n now r).response =
            Route.faultResponse now (.refuse 400 "One or more permissions were not found"))) ∧
    (Route.select Api.routes r =
        .ok (Route.of "PUT" "/api/v1/roles/\x7bid\x7d" Api.updateRole, ps) →
      ∀ d role name, Input.bodyAs r Api.RolePatch.validate = some d →
        s.role? (Route.param ps) = some role → d.name = some name →
        (∃ o ∈ s.roles, o.id ≠ role.id ∧ o.name = trim name) →
        (serve Api.routes s n now r).store = s ∧
        ((serve Api.routes s n now r).response =
            Route.faultResponse now (.refuse 409 "Role name already exists") ∨
          ∃ ids, d.permissions = some ids ∧ s.findsPermissions ids = false ∧
            (serve Api.routes s n now r).response =
              Route.faultResponse now (.refuse 400 "One or more permissions were not found"))) ∧
    (Route.select Api.routes r = .ok
        (Route.of "POST" "/api/v1/roles/comprehensive" Api.createComprehensiveRole, ps) →
      ∀ d, Input.bodyAs r Api.ComprehensiveDraft.validate = some d →
        (∃ o ∈ s.roles, o.name = trim d.name) →
        (serve Api.routes s n now r).store = s ∧ (serve Api.routes s n now r).response =
          Route.faultResponse now (if (s.roleNamed? d.name).isSome then
            .refuse 409 "Role name already exists" else .integrity)) := by
  obtain ⟨u, hu⟩ := hpass
  have hdec := Guard.decision_eq_ok.2 hu
  refine ⟨?create, ?update, ?comprehensive⟩
  case create =>
    rintro hsel d hd ⟨o, ho, hname⟩
    obtain ⟨hs, e, he, hresp⟩ := serve_refused n now hsel
      (Api.createRole_name_taken r ps s u d hdec hd ho hname)
    rcases he with rfl | ⟨hfound, rfl⟩
    · exact ⟨hs, .inl hresp⟩
    · exact ⟨hs, .inr ⟨hfound, hresp⟩⟩
  case update =>
    rintro hsel d role name hd hrole hn ⟨o, ho, hid, hname⟩
    obtain ⟨fs, hfs⟩ := Input.bodyAs_some hd
    have hne := Api.RolePatch.validate_name hfs name hn
    obtain ⟨hs, e, he, hresp⟩ := serve_refused n now hsel
      (Api.updateRole_name_taken r ps s u d role name hdec hd hrole hn hne ho hid hname)
    rcases he with rfl | ⟨ids, hids, hfound, rfl⟩
    · exact ⟨hs, .inl hresp⟩
    · exact ⟨hs, .inr ⟨ids, hids, hfound, hresp⟩⟩
  case comprehensive =>
    rintro hsel d hd ⟨o, ho, hname⟩
    obtain ⟨hs, e, rfl, hresp⟩ := serve_refused n now hsel
      (Api.createComprehensiveRole_name_taken r ps s u d hdec hd ho hname)
    exact ⟨hs, hresp⟩

/-! ## §5 — A name taken once trimmed -/

/-- A request whose guard decision is a user passes the gate. -/
theorem Guard.passes_of_isOk {s : Store} {r : Request} {g : Gate}
    (h : (Guard.decision s r g).isOk = true) : Guard.Passes s r g := by
  cases hd : Guard.decision s r g with
  | error f => simp [hd, Except.isOk, Except.toBool] at h
  | ok u => exact ⟨u, Guard.decision_eq_ok.1 hd⟩

/-- The administrator `u1`, of the role `System`, beside the role `Admin`. -/
def adminBesideAdminRole : Store :=
  { users := [{ staffMember with roleId := some "r1" }],
    roles := [⟨"r1", "System", none, Stamp.ofEpoch 0, Stamp.ofEpoch 0⟩,
      ⟨"r2", "Admin", none, Stamp.ofEpoch 0, Stamp.ofEpoch 0⟩] }

/-- A request of `u1` to make a comprehensive role named ` Admin` over the menu. -/
def spacedAdminRole : Request :=
  { method := "POST", path := "/api/v1/roles/comprehensive", headers := staffHeaders, query := [],
    body := .json (.obj [("name", .str " Admin"), ("resources", .arr [.str "menu"])]),
    storageFails := false, clock := 0 }

/-- The administrator's token verifies and names `u1`, whose role `System` the administrator
guard admits. -/
theorem spacedAdminRole_admitted :
    (Guard.decision adminBesideAdminRole spacedAdminRole .admin).isOk = true := by
  rw [Guard.decision, staffHeaders_userOf rfl (by decide) rfl]
  rfl

/-- **A comprehensive role named ` Admin` beside the role `Admin` fails with a 500**, where
making or renaming a role answers the 409 of a taken name; the store is left as it was. -/
theorem spaced_admin_role_fails :
    (serve Api.routes adminBesideAdminRole 0 (Stamp.ofEpoch 60) spacedAdminRole).store =
        adminBesideAdminRole ∧
      (serve Api.routes adminBesideAdminRole 0 (Stamp.ofEpoch 60) spacedAdminRole).response =
        Route.faultResponse (Stamp.ofEpoch 60) .integrity := by
  obtain ⟨-, -, hcomp⟩ := taken_role_name_keeps_store adminBesideAdminRole 0 (Stamp.ofEpoch 60)
    spacedAdminRole [] (Guard.passes_of_isOk spacedAdminRole_admitted)
  obtain ⟨hs, hresp⟩ := hcomp rfl ⟨" Admin", none, ["menu"]⟩ rfl
    ⟨⟨"r2", "Admin", none, Stamp.ofEpoch 0, Stamp.ofEpoch 0⟩, by simp [adminBesideAdminRole],
      by decide⟩
  -- no role has the name as sent
  have hfree : (adminBesideAdminRole.roleNamed? " Admin").isSome = false := by
    decide
  refine ⟨hs, ?_⟩
  rw [hresp, hfree]
  rfl

end Bistro
