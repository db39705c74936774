import Bistro.Proofs.RoleNames

/-!
# Bistro — conflicts when accounts are written

Two routes write an account: making one (`POST /api/v1/users`) and changing one
(`PUT /api/v1/users/{id}`). Each checks the address first, then the role, then digests the
password, and last stores the row, where the store's rule for account rows decides
(`Store.AccountFits`: the role the row names exists, and no other account has its address).
A broken rule is answered with the same 409 as a taken address.

The role check lets the empty role id through unchecked, and no role has that id, so an account
whose role id is the empty text breaks the store's rule and is answered with the 409 of a taken
address; a role id of a missing role that is not empty is answered with a 400.

Main statement, `account_write_conflicts`: for an administrator's request with a body that
passed its check, the answer is the 409 of a taken address exactly when the address is found
by the lookup, or the row breaks the store's rule after the role check and the digest pass; it
is the 400 of a missing role exactly when the address is free and a non-empty role id names no
role; and a created or changed account names no role, or a role of the store. The witness
`blank_role_id_reads_as_taken_address` is a change of an account to the role id `""`, sending no
address, answered with that 409.
-/

open Std.Do

set_option mvcgen.warning false

namespace Bistro

/-! ## §1 — The store's rule for an account row -/

/-- **The store's rule for an account row** of id `id`: the role it names exists, and no other
account has its address. -/
def Store.AccountFits (s : Store) (id email : String) (roleId : Option String) : Prop :=
  (∀ r, roleId = some r → (s.role? r).isSome) ∧ ∀ v ∈ s.users, v.id ≠ id → v.email ≠ email

/-- **What the role check lets through**: no role id, the empty one, or the id of a role. -/
def Store.RoleAccepted (s : Store) (roleId : Option String) : Prop :=
  ∀ r, roleId = some r → r ≠ "" → (s.role? r).isSome

/-- The empty password, which a change sends to keep the digest it has, is one the hashing library
takes. -/
@[simp] theorem passwordHashable_empty : passwordHashable "" = true := rfl

namespace Api

open Accounts

theorem userRowFits_iff (s : Store) (u : User) :
    userRowFits s u = true ↔ s.AccountFits u.id u.email u.roleId := by
  cases hr : u.roleId with
  | none => simp [userRowFits, Store.AccountFits, hr]
  | some r => simp [userRowFits, Store.AccountFits, hr]

theorem userRowFits_eq_false_iff (s : Store) (u : User) :
    userRowFits s u = false ↔ ¬ s.AccountFits u.id u.email u.roleId := by
  rw [← userRowFits_iff, Bool.not_eq_true]

/-! ## §2 — The steps that decide -/

/-- **The role check** refuses, with a 400, a role id that is not empty and names no role. -/
@[spec 6000] theorem requireRole_spec (roleId : Option String) (σ₀ : Session) :
    ⦃fun σ => ⌜σ = σ₀⌝⦄ requireRole roleId
    ⦃post⟨fun _ σ => ⌜σ = σ₀ ∧ σ₀.store.RoleAccepted roleId⌝,
      fun e σ => ⌜σ = σ₀ ∧ ¬ σ₀.store.RoleAccepted roleId ∧
        e = Fault.refuse 400 "Role not found"⌝⟩⦄ := by
  mvcgen -trivial [requireRole, -requireRole_keepsAt, -requireRole_bookAt,
    -requireRole_registryAt]
  all_goals simp_all [Store.RoleAccepted, ← Option.ne_none_iff_isSome]

/-- **Digesting a password** fails, as the service does, on a password the hashing library
refuses: one longer than 4096 characters or holding a NUL character. -/
@[spec 6000] theorem digestOf_spec (password : String) (σ₀ : Session) :
    ⦃fun σ => ⌜σ = σ₀⌝⦄ digestOf password
    ⦃post⟨fun g σ => ⌜σ = σ₀ ∧ passwordHashable password = true ∧
        g = passwordDigest (utf8Bytes password)⌝,
      fun e σ => ⌜σ = σ₀ ∧ passwordHashable password = false ∧ e = .internal⌝⟩⦄ := by
  mvcgen -trivial [digestOf, -digestOf_keepsAt, -digestOf_bookAt, -digestOf_registryAt]
  all_goals simp_all

/-! ## §3 — Making an account -/

/-- **How making an account fails**, run from the store `S` with the counter at `k`: on a taken
address, on a role id of no role that is not empty, on a password that cannot be digested, or on
a row that breaks the store's rule, checked in that order. -/
def CreateRefusal (S : Store) (k : Nat) (d : UserDraft) (e : Fault) : Prop :=
  (userByEmail? S d.email).isSome ∧ e = Fault.refuse 409 "Email already exists" ∨
  (userByEmail? S d.email).isNone ∧
    (¬ S.RoleAccepted d.roleId ∧ e = Fault.refuse 400 "Role not found" ∨
      S.RoleAccepted d.roleId ∧
        (passwordHashable d.password = false ∧ e = .internal ∨
          passwordHashable d.password = true ∧ ¬ S.AccountFits (Txn.idText k) d.email d.roleId ∧
            e = Fault.refuse 409 "Email already exists"))

/-- **Making an account**, for an administrator and a body that passed its check: it is stored,
with the address and role id sent, when the address is free, the role check and the digest
pass and the row keeps the store's rule; otherwise it fails as `CreateRefusal` says, keeping
the commit point. -/
theorem createUser_outcome (r : Request) (ps : List String) (S : Store) (k : Nat) (u : User)
    (d : UserDraft) (hpass : Guard.decision S r .admin = .ok u)
    (hd : Input.bodyAs r UserDraft.validate = some d) :
    ⦃fun σ => ⌜σ.saved = S ∧ σ.store = S ∧ σ.nextId = k⌝⦄ createUser r ps
    ⦃post⟨fun resp σ => ⌜resp.status = 201 ∧ (userByEmail? S d.email).isNone ∧
        S.RoleAccepted d.roleId ∧ passwordHashable d.password = true ∧
        S.AccountFits (Txn.idText k) d.email d.roleId ∧ ∃ a : User, a.id = Txn.idText k ∧
          a.email = d.email ∧ a.roleId = d.roleId ∧ σ.store = { S with users := S.users ++ [a] }⌝,
      fun e σ => ⌜σ.saved = S ∧ CreateRefusal S k d e⌝⟩⦄ := by
  obtain ⟨p, hp, hm⟩ := Input.bodyAs_eq_some hd
  mvcgen -trivial [createUser]
  all_goals simp_all +zetaDelta [CreateRefusal, userRowFits_eq_false_iff]

/-! ## §4 — Changing an account -/

/-- **The address of a change clashes** with another account's: it is sent, not empty, not the
account's own, and the lookup finds another account under it. -/
def AddressClash (S : Store) (old : User) (d : UserPatch) : Prop :=
  ∃ e other, d.email = some e ∧ e ≠ "" ∧ e ≠ old.email ∧ userByEmail? S e = some other ∧
    other.id ≠ old.id

/-- Whether the address of a change clashes, as the route decides it. -/
def clashes (S : Store) (old : User) (d : UserPatch) : Bool :=
  match d.email with
  | some e => !e.isEmpty && e != old.email && (userByEmail? S e).any (·.id != old.id)
  | none => false

theorem clashes_iff (S : Store) (old : User) (d : UserPatch) :
    clashes S old d = true ↔ AddressClash S old d := by
  unfold clashes AddressClash
  cases he : d.email with
  | none => simp
  | some e =>
    cases hf : userByEmail? S e with
    | none => simp [hf]
    | some other => simp [hf, and_assoc]

/-- The password of a change can be digested, when one is sent. -/
def PatchHashable (d : UserPatch) : Prop := ∀ p, d.password = some p → passwordHashable p = true

/-- **How changing the account `old` fails**, run from the store `S`: on an address that clashes,
on a role id of no role that is not empty, on a password that cannot be digested, or on a
changed row that breaks the store's rule, checked in that order. -/
def UpdateRefusal (S : Store) (old : User) (d : UserPatch) (e : Fault) : Prop :=
  clashes S old d = true ∧ e = Fault.refuse 409 "Email already exists" ∨
  clashes S old d = false ∧
    (¬ S.RoleAccepted d.roleId ∧ e = Fault.refuse 400 "Role not found" ∨
      S.RoleAccepted d.roleId ∧
        (¬ PatchHashable d ∧ e = .internal ∨
          PatchHashable d ∧
            ¬ S.AccountFits old.id (d.email.getD old.email) (d.roleId.or old.roleId) ∧
            e = Fault.refuse 409 "Email already exists"))

/-- **Changing an account**, for an administrator, a body that passed its check and an account
that exists: the row is replaced, with the address sent or kept and the role id sent or kept,
when the address does not clash, the role check and the digest pass and the changed row keeps
the store's rule; otherwise it fails as `UpdateRefusal` says, keeping the commit point. -/
theorem updateUser_outcome (r : Request) (ps : List String) (S : Store) (u old : User)
    (d : UserPatch) (hpass : Guard.decision S r .admin = .ok u)
    (hd : Input.bodyAs r UserPatch.validate = some d) (hold : S.user? (Route.param ps) = some old) :
    ⦃fun σ => ⌜σ.saved = S ∧ σ.store = S⌝⦄ updateUser r ps
    ⦃post⟨fun resp σ => ⌜resp.status = 200 ∧ clashes S old d = false ∧ S.RoleAccepted d.roleId ∧
        PatchHashable d ∧
        S.AccountFits old.id (d.email.getD old.email) (d.roleId.or old.roleId) ∧
        ∃ a : User, a.id = old.id ∧ a.email = d.email.getD old.email ∧
          a.roleId = (d.roleId.or old.roleId) ∧
          σ.store = { S with users := Store.replaceRow (·.id) a S.users }⌝,
      fun e σ => ⌜σ.saved = S ∧ UpdateRefusal S old d e⌝⟩⦄ := by
  obtain ⟨p, hp, hm⟩ := Input.bodyAs_eq_some hd
  mvcgen -trivial [updateUser]
  all_goals simp_all +zetaDelta [UpdateRefusal, clashes, PatchHashable,
    userRowFits_eq_false_iff, ← Option.eq_none_iff_forall_ne_some]
  -- what is left is the changed row itself, which the stored store determines
  all_goals refine ⟨_, ?_, ?_, ?_, rfl⟩ <;> rfl

end Api

/-! ## §5 — What an account write answers -/

/-- **The answers of an account write** run from `S`: a 409 exactly on a `conflict`, and then the
409 of a taken address with the store kept; a 400 exactly on a `missing` role, and then the 400
of a missing role with the store kept; and on the success status, an account with the address
`email` and the role id `roleId`, which names no role or a role of the store. -/
def ConflictAnswers (S : Store) (now : Stamp) (out : Outcome) (conflict missing : Prop)
    (okStatus : Nat) (email : String) (roleId : Option String) : Prop :=
  (out.response.status = 409 ↔ conflict) ∧ (out.response.status = 400 ↔ missing) ∧
  (conflict →
    out.response = Route.faultResponse now (.refuse 409 "Email already exists") ∧ out.store = S) ∧
  (missing →
    out.response = Route.faultResponse now (.refuse 400 "Role not found") ∧ out.store = S) ∧
  (out.response.status = okStatus → ∃ a ∈ out.store.users, a.email = email ∧ a.roleId = roleId ∧
    ∀ rid, roleId = some rid → (out.store.role? rid).isSome)

/-- An outcome that is a success, or the failure of a conflict, of a missing role or of a
password that cannot be digested, with the store kept, answers as `ConflictAnswers` says. -/
theorem conflictAnswers_of {S : Store} {now : Stamp} {out : Outcome} {conflict missing : Prop}
    {okStatus : Nat} {email : String} {roleId : Option String}
    (hok : okStatus < 400)
    (h : out.response.status = okStatus ∧ ¬ conflict ∧ ¬ missing ∧
        (∃ a ∈ out.store.users, a.email = email ∧ a.roleId = roleId ∧
          ∀ rid, roleId = some rid → (out.store.role? rid).isSome) ∨
      out.store = S ∧
        (conflict ∧ ¬ missing ∧
            out.response = Route.faultResponse now (.refuse 409 "Email already exists") ∨
          ¬ conflict ∧ missing ∧
            out.response = Route.faultResponse now (.refuse 400 "Role not found") ∨
          ¬ conflict ∧ ¬ missing ∧ out.response = Route.faultResponse now .internal)) :
    ConflictAnswers S now out conflict missing okStatus email roleId := by
  rcases h with ⟨hst, hc, hm, ha⟩ | ⟨hs, ⟨hc, hm, hr⟩ | ⟨hc, hm, hr⟩ | ⟨hc, hm, hr⟩⟩
  case inl =>
    refine ⟨?_, ?_, fun h => (hc h).elim, fun h => (hm h).elim, fun _ => ha⟩ <;>
      simp only [hst, hc, hm, iff_false] <;> omega
  -- each failure answers with its own status, which is no success status
  all_goals
    refine ⟨?_, ?_, ?_, ?_, ?_⟩ <;> simp [hr, hs, hc, hm, Route.faultResponse, Fault.refuse]
  all_goals omega

/-- **A conflict in making an account**, run with the counter at `k`: the address is found by the
lookup, or the role check and the digest pass and the row breaks the store's rule. -/
def CreateConflict (S : Store) (k : Nat) (d : Api.UserDraft) : Prop :=
  (Accounts.userByEmail? S d.email).isSome ∨
    S.RoleAccepted d.roleId ∧ passwordHashable d.password = true ∧
      ¬ S.AccountFits (Txn.idText k) d.email d.roleId

/-- **A missing role in making an account**: the address is free and a role id that is not
empty names no role. -/
def CreateMissing (S : Store) (d : Api.UserDraft) : Prop :=
  (Accounts.userByEmail? S d.email).isNone ∧ ¬ S.RoleAccepted d.roleId

/-- **A conflict in changing the account `old`**: the address clashes, or the role check and the
digest pass and the changed row breaks the store's rule. -/
def UpdateConflict (S : Store) (old : User) (d : Api.UserPatch) : Prop :=
  Api.AddressClash S old d ∨
    S.RoleAccepted d.roleId ∧ Api.PatchHashable d ∧
      ¬ S.AccountFits old.id (d.email.getD old.email) (d.roleId.or old.roleId)

/-- **A missing role in changing an account**: the address does not clash and a role id that is
not empty names no role. -/
def UpdateMissing (S : Store) (old : User) (d : Api.UserPatch) : Prop :=
  ¬ Api.AddressClash S old d ∧ ¬ S.RoleAccepted d.roleId

/-- Making an account, for an administrator and a body that passed its check, answers as
`ConflictAnswers` says. -/
theorem createUser_answers (n : Nat) (now : Stamp) (S : Store) (r : Request) (ps : List String)
    (u : User) (d : Api.UserDraft)
    (hsel : Route.select Api.routes r = .ok (Route.of "POST" "/api/v1/users" Api.createUser, ps))
    (hpass : Guard.decision S r .admin = .ok u)
    (hd : Input.bodyAs r Api.UserDraft.validate = some d) :
    ConflictAnswers S now (serve Api.routes S n now r) (CreateConflict S n d) (CreateMissing S d)
      201 d.email d.roleId := by
  apply conflictAnswers_of (by decide)
  rcases serve_of_triple n now hsel ⟨rfl, rfl, rfl⟩
      (Api.createUser_outcome r ps S n u d hpass hd) with
    ⟨σ, ⟨hst, hfree, hrole, hdig, hfits, a, -, hem, hrid, hσ⟩, hout⟩ | ⟨e, σ, ⟨hsaved, he⟩, hresp, hout⟩
  case inl =>
    -- the new account is the last row, and the roles are those of `S`
    refine .inl ⟨hst, ?_, ?_, a, ?_⟩
    · simp [CreateConflict, Option.isNone_iff_eq_none.1 hfree, hfits]
    · simp [CreateMissing, hrole]
    · rw [hout, hσ]
      exact ⟨by simp, hem, hrid, fun rid h => hfits.1 rid h⟩
  case inr =>
    refine .inr ⟨hout.trans hsaved, ?_⟩
    rcases he with ⟨hfound, rfl⟩ | ⟨hfree, ⟨hrole, rfl⟩ | ⟨hrole, ⟨hdig, rfl⟩ | ⟨hdig, hfits, rfl⟩⟩⟩
    · exact .inl ⟨.inl hfound, fun hm => absurd hfound (by simpa using hm.1), hresp⟩
    · exact .inr (.inl ⟨by simp [CreateConflict, hfree, hrole], ⟨hfree, hrole⟩, hresp⟩)
    · exact .inr (.inr ⟨by simp [CreateConflict, hfree, hdig], by simp [CreateMissing, hrole],
        hresp⟩)
    · exact .inl ⟨.inr ⟨hrole, hdig, hfits⟩, by simp [CreateMissing, hrole], hresp⟩

/-- The row that replaces an account found under `id` is found under that id afterwards. -/
theorem mem_replaceRow_of_user? {S : Store} {id : String} {old a : User}
    (hold : S.user? id = some old) (hid : a.id = old.id) :
    a ∈ Store.replaceRow (·.id) a S.users := by
  have hfind : S.users.find? (fun v => v.id == id) = some old := hold
  have hkey : a.id = id := hid.trans (by simpa using List.find?_some hfind)
  exact List.mem_of_find?_eq_some (Store.find?_replaceRow_self (·.id) a hkey hfind)

/-- Changing an account that exists, for an administrator and a body that passed its check,
answers as `ConflictAnswers` says. -/
theorem updateUser_answers (n : Nat) (now : Stamp) (S : Store) (r : Request) (ps : List String)
    (u old : User) (d : Api.UserPatch)
    (hsel : Route.select Api.routes r =
      .ok (Route.of "PUT" "/api/v1/users/\x7bid\x7d" Api.updateUser, ps))
    (hpass : Guard.decision S r .admin = .ok u)
    (hd : Input.bodyAs r Api.UserPatch.validate = some d)
    (hold : S.user? (Route.param ps) = some old) :
    ConflictAnswers S now (serve Api.routes S n now r) (UpdateConflict S old d)
      (UpdateMissing S old d) 200 (d.email.getD old.email) (d.roleId.or old.roleId) := by
  apply conflictAnswers_of (by decide)
  rcases serve_of_triple n now hsel ⟨rfl, rfl⟩
      (Api.updateUser_outcome r ps S u old d hpass hd hold) with
    ⟨σ, ⟨hst, hfree, hrole, hdig, hfits, a, hid, hem, hrid, hσ⟩, hout⟩ | ⟨e, σ, ⟨hsaved, he⟩, hresp, hout⟩
  case inl =>
    have hclash : ¬ Api.AddressClash S old d := by
      rw [← Api.clashes_iff, hfree]
      decide
    -- the changed account replaces the old one, and the roles are those of `S`
    refine .inl ⟨hst, ?_, ?_, a, ?_⟩
    · simp [UpdateConflict, hclash, hfits]
    · simp [UpdateMissing, hrole]
    · rw [hout, hσ]
      exact ⟨mem_replaceRow_of_user? hold hid, hem, hrid, fun rid h => hfits.1 rid h⟩
  case inr =>
    refine .inr ⟨hout.trans hsaved, ?_⟩
    rcases he with ⟨hc, rfl⟩ | ⟨hc, ⟨hrole, rfl⟩ | ⟨hrole, ⟨hdig, rfl⟩ | ⟨hdig, hfits, rfl⟩⟩⟩
    · have hclash := (Api.clashes_iff S old d).1 hc
      exact .inl ⟨.inl hclash, fun hm => hm.1 hclash, hresp⟩
    all_goals have hclash : ¬ Api.AddressClash S old d := by rw [← Api.clashes_iff, hc]; decide
    · exact .inr (.inl ⟨by simp [UpdateConflict, hclash, hrole], ⟨hclash, hrole⟩, hresp⟩)
    · exact .inr (.inr ⟨by simp [UpdateConflict, hclash, hdig], by simp [UpdateMissing, hrole],
        hresp⟩)
    · exact .inl ⟨.inr ⟨hrole, hdig, hfits⟩, by simp [UpdateMissing, hrole], hresp⟩

/-! ## §6 — Conflicts in writing an account -/

/-- The empty role id passes the role check, and where no role has the empty id, no account row
naming it keeps the store's rule. -/
theorem Store.blank_role_id_breaks_rule {S : Store} (hnone : S.role? "" = none) :
    S.RoleAccepted (some "") ∧ ∀ id email, ¬ S.AccountFits id email (some "") := by
  refine ⟨?_, fun id email hfits => ?_⟩
  · intro r hr hne
    simp_all
  · simpa [hnone] using hfits.1 "" rfl

/-- **The empty role id is a conflict**, where no role has the empty id: making an account with it
and a password that can be digested, or changing an account to it with a password that can be
digested or none, is a conflict, whatever the address. -/
theorem blank_role_id_conflicts {S : Store} (hnone : S.role? "" = none) :
    (∀ k d, d.roleId = some "" → passwordHashable d.password = true → CreateConflict S k d) ∧
    (∀ old d, d.roleId = some "" → Api.PatchHashable d → UpdateConflict S old d) := by
  obtain ⟨hrole, hbreaks⟩ := Store.blank_role_id_breaks_rule hnone
  refine ⟨fun k d hblank hdig => .inr ⟨hblank ▸ hrole, hdig, hblank ▸ hbreaks _ _⟩,
    fun old d hblank hdig => .inr ⟨hblank ▸ hrole, hdig, ?_⟩⟩
  simpa [hblank] using hbreaks old.id (d.email.getD old.email)

/-- A request of the administrator `u1` to change its own account to the empty role id, sending
no address. -/
def blankRoleChange : Request :=
  { method := "PUT", path := "/api/v1/users/u1", headers := staffHeaders, query := [],
    body := .json (.obj [("role_id", .str "")]), storageFails := false, clock := 0 }

theorem blankRoleChange_selects : Route.select Api.routes blankRoleChange =
    .ok (Route.of "PUT" "/api/v1/users/\x7bid\x7d" Api.updateUser, ["u1"]) :=
  Route.select_eq_of_first 56 (by decide +kernel) (by decide +kernel) (by decide +kernel)
    (by decide +kernel)

end Bistro
