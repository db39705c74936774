import Bistro.Proofs.Steps

/-!
# Bistro — who gets past a guard

A guarded route asks for a bearer token before anything else. This module says in the store's
own terms who the guards let through, and proves that the guards compute exactly that:

* `Guard.Bearer r cs`: the request's `Authorization` header is `Bearer ` and a token that verifies
  under the service key at the request's time, with claims `cs` whose subject is present;
* `Guard.Authenticated s r u`: that subject, as text, is the id of the user `u` of the store `s`;
* `Gate.Admits s u g`: the gate `g` lets `u` through (the staff flag, an administrator role by its
  current name, or a permission of the user's role);
* `Guard.Passes s r g`: some authenticated user is admitted.

Every guard only reads the session. A request that does not pass is refused with a 401 that asks
for a bearer token when nobody is signed in, and with a 403 otherwise (`Guard.Refusal`).
`Guard.Guarded g h` says that a handler lets nobody past `g`: a request that does not pass fails
before any write, with the guard's refusal or, for a route that reads its body first, with the
400 of a body that is not JSON. Every handler of this form is guarded
(`Guard.guarded_of_require`, `Guard.guarded_of_payload_require`).
-/

open Std.Do

namespace Bistro

/-! ## §1 — Who a gate admits -/

/-- **The users a gate lets through**, read off the store: the staff gate wants the staff flag,
the administrator gate a role whose current name is one of `adminRoles`, and a permission gate
the permission (or full access) among those of the user's role. -/
def Gate.Admits (s : Store) (u : User) : Gate → Prop
  | .staff => u.isStaff = true
  | .admin => ∃ role, s.userRole? u = some role ∧ role.name ∈ adminRoles
  | .permission p => hasPermission (Guard.principal s u).permissions p = true

/-- **A gate checks what it admits**: it answers `ok` on the principal of `u` exactly when it
admits `u`. -/
theorem Gate.check_principal_eq_ok (s : Store) (u : User) (g : Gate) :
    g.check (Guard.principal s u) = .ok () ↔ g.Admits s u := by
  unfold Guard.principal
  cases g with
  | staff => split <;> simp [Gate.check, Gate.Admits]
  | admin =>
    -- the administrator gate reads the role through `principal`: split on the user's role
    cases hr : s.userRole? u with
    | none => simp [Gate.check, Gate.Admits, isAdminRole, hr]
    | some role => simp [Gate.check, Gate.Admits, isAdminRole, hr]
  | permission p => simp [Gate.check, Gate.Admits, Guard.principal]

namespace Guard

/-! ## §2 — Signed-in users -/

/-- **A bearer header**: `Authorization` holds `Bearer ` and a token that verifies, trimmed,
under the service key at the time the request is handled, with claims `cs` whose `sub` is
present. -/
def Bearer (r : Request) (cs : List (String × Json)) : Prop :=
  ∃ token sub, r.header? "Authorization" = some ("Bearer " ++ token) ∧
    Token.verify Config.service.secretKey r.clock (trim token) = .ok cs ∧
    cs.lookup "sub" = some sub ∧ isPresent sub = true

/-- **The signed-in user** of a request: the user of the store whose id is the subject of the
request's bearer token. -/
def Authenticated (s : Store) (r : Request) (u : User) : Prop :=
  ∃ cs sub, Bearer r cs ∧ cs.lookup "sub" = some sub ∧ s.user? sub.show = some u

/-- **A request passes a gate** when its signed-in user is one the gate admits. -/
def Passes (s : Store) (r : Request) (g : Gate) : Prop :=
  ∃ u, Authenticated s r u ∧ g.Admits s u

/-- **How a guard refuses**: with a 401 that asks for a bearer token when nobody is signed in,
and with a 403 when the signed-in user is not admitted. -/
def Refusal (s : Store) (r : Request) (g : Gate) (f : Fault) : Prop :=
  ((¬ ∃ u, Authenticated s r u) ∧ ∃ d, f = .http 401 d true) ∨
    ((∃ u, Authenticated s r u ∧ ¬ g.Admits s u) ∧ ∃ d, f = .http 403 d false)

/-! ## §3 — The guards as decisions

The guards never write: each is a decision on the request and the store, stated here as a
function and proved to be what the guard computes. -/

/-- The claims of the request's bearer token, or the 401 that refuses it. -/
def claimsOf (r : Request) : Except Fault (List (String × Json)) :=
  let header := (r.header? "Authorization").getD ""
  if header.isEmpty then .error (.http 401 "Missing authorization header" true)
  else if !"Bearer ".toList.isPrefixOf header.toList then
    .error (.http 401 "Invalid authorization format" true)
  else
    match Token.verify Config.service.secretKey r.clock
        (trim (String.ofList (header.toList.drop 7))) with
    | .error _ => .error (.http 401 "Invalid or expired token" true)
    | .ok cs =>
      match cs.lookup "sub" with
      | some sub => if isPresent sub then .ok cs else .error (.http 401 "Invalid or expired token" true)
      | none => .error (.http 401 "Invalid or expired token" true)

/-- The signed-in user of the request in the store, or the 401 that refuses the request. -/
def userOf (s : Store) (r : Request) : Except Fault User :=
  match claimsOf r with
  | .error f => .error f
  | .ok cs =>
    match s.user? ((cs.lookup "sub").getD .null).show with
    | some u => .ok u
    | none => .error (.http 401 "Invalid or expired token" true)

/-- The guard's decision: the signed-in user that the gate admits, or the refusal. -/
def decision (s : Store) (r : Request) (g : Gate) : Except Fault User :=
  match userOf s r with
  | .error f => .error f
  | .ok u =>
    match g.check (principal s u) with
    | .ok () => .ok u
    | .error d => .error (.refuse 403 d.message)

theorem claims_exec (r : Request) (σ : Session) : (claims r).exec σ = (claimsOf r, σ) := by
  unfold claims claimsOf unauthorized Txn.fail
  dsimp only
  -- both sides test the header the same way, then match on the token's check and its subject
  split
  · rfl
  split
  · rfl
  cases Token.verify Config.service.secretKey r.clock
      (trim (String.ofList (((r.header? "Authorization").getD "").toList.drop 7))) with
  | error e => rfl
  | ok cs =>
    dsimp only
    cases cs.lookup "sub" with
    | none => rfl
    | some sub => by_cases hp : isPresent sub = true <;> simp only [hp] <;> rfl

/-- The claims of a request are read off its headers and its clock alone. -/
theorem claimsOf_congr_headers {r r' : Request} (h : r.headers = r'.headers)
    (hc : r.clock = r'.clock) : claimsOf r = claimsOf r' := by
  unfold claimsOf Request.header?
  rw [h, hc]

/-- The guard decides on the store and the request's headers and clock alone. -/
theorem decision_congr_headers {s : Store} {r r' : Request} (g : Gate)
    (h : r.headers = r'.headers) (hc : r.clock = r'.clock) : decision s r g = decision s r' g := by
  unfold decision userOf
  rw [claimsOf_congr_headers h hc]

theorem currentUser_exec (r : Request) (σ : Session) :
    (currentUser r).exec σ = (userOf σ.store r, σ) := by
  rw [currentUser, Txn.exec_bind, claims_exec]
  cases hc : claimsOf r with
  | error f => simp [userOf, hc]
  | ok cs =>
    dsimp only
    rw [Txn.exec_bind_ok (Txn.exec_store _)]
    cases hu : σ.store.user? ((cs.lookup "sub").getD .null).show <;> simp [userOf, hc, hu]
    all_goals rfl

theorem require_exec (r : Request) (g : Gate) (σ : Session) :
    (require r g).exec σ = (decision σ.store r g, σ) := by
  rw [require, Txn.exec_bind, currentUser_exec]
  cases hu : userOf σ.store r with
  | error f => simp [decision, hu]
  | ok u =>
    dsimp only
    rw [Txn.exec_bind_ok (Txn.exec_store _)]
    cases hg : g.check (principal σ.store u) <;> simp [decision, hu, hg]
    all_goals rfl

/-- **The signed-in user's triple**: the decision `userOf` at the session's store. -/
@[spec] theorem currentUser_spec (r : Request) (Q : PostCond User (.except Fault (.arg Session .pure))) :
    ⦃fun σ => wp⟦Txn.ofExcept (userOf σ.store r)⟧ Q σ⦄ currentUser r ⦃Q⦄ :=
  Txn.spec_of_exec (currentUser_exec r) Q

/-- **The guard's triple**: the decision `decision` at the session's store. -/
@[spec] theorem require_spec (r : Request) (g : Gate)
    (Q : PostCond User (.except Fault (.arg Session .pure))) :
    ⦃fun σ => wp⟦Txn.ofExcept (decision σ.store r g)⟧ Q σ⦄ require r g ⦃Q⦄ :=
  Txn.spec_of_exec (require_exec r g) Q

attribute [spec] staff admin

/-- The guard only reads the session. -/
theorem require_reads (r : Request) (g : Gate) : Txn.Reads (require r g) := by
  intro σ
  rw [require_exec]

/-! ## §4 — What the decisions mean -/

/-- A header that starts with `Bearer ` is `Bearer ` and the rest. -/
theorem eq_bearer_append_drop {h : String} (hp : "Bearer ".toList.isPrefixOf h.toList = true) :
    h = "Bearer " ++ String.ofList (h.toList.drop 7) := by
  apply String.toList_injective
  obtain ⟨t, ht⟩ := List.isPrefixOf_iff_prefix.1 hp
  rw [String.toList_append, String.toList_ofList, ← ht]
  simp

/-- A bearer header gives its claims. -/
theorem claimsOf_of_bearer {r : Request} {cs : List (String × Json)} (h : Bearer r cs) :
    claimsOf r = .ok cs := by
  obtain ⟨token, sub, hhead, hver, hsub, hpres⟩ := h
  have hne : ("Bearer " ++ token).isEmpty = false := by
    rw [String.isEmpty_eq_false_iff]
    intro h
    simpa [String.toList_append] using congrArg String.toList h
  simp [claimsOf, hhead, hne, hver, hsub, hpres]

/-- Claims are only ever read off a bearer header. -/
theorem bearer_of_claimsOf {r : Request} {cs : List (String × Json)}
    (h : claimsOf r = .ok cs) : Bearer r cs := by
  unfold claimsOf at h
  dsimp only at h
  -- the refusals of the header, the token and the subject, one at a time
  split at h
  · cases h
  · split at h
    · cases h
    · rename_i hne hpre
      split at h
      · cases h
      · rename_i cs' hver
        split at h
        · rename_i sub hsub
          split at h
          · rename_i hpres
            cases h
            refine ⟨_, sub, ?_, hver, hsub, hpres⟩
            cases hh : r.header? "Authorization" with
            | none => simp [hh] at hne
            | some v =>
              simp only [hh, Option.getD_some] at hpre
              exact congrArg some (eq_bearer_append_drop (by simpa using hpre))
          · cases h
        · cases h

theorem claimsOf_eq_ok {r : Request} {cs : List (String × Json)} :
    claimsOf r = .ok cs ↔ Bearer r cs :=
  ⟨bearer_of_claimsOf, claimsOf_of_bearer⟩

/-- Every refusal of the claims is a 401 that asks for a bearer token. -/
theorem claimsOf_error {r : Request} {f : Fault} (h : claimsOf r = .error f) :
    ∃ d, f = .http 401 d true := by
  unfold claimsOf at h
  dsimp only at h
  repeat' split at h
  all_goals cases h
  all_goals exact ⟨_, rfl⟩

theorem userOf_eq_ok {s : Store} {r : Request} {u : User} :
    userOf s r = .ok u ↔ Authenticated s r u := by
  constructor
  · intro h
    unfold userOf at h
    cases hc : claimsOf r with
    | error f => simp [hc] at h
    | ok cs =>
      -- the bearer header names a present subject, which the store knows as `u`
      obtain ⟨tk, sub, hhead, hver, hsub, hpres⟩ := bearer_of_claimsOf hc
      simp only [hc, hsub, Option.getD_some] at h
      split at h
      · rename_i u' hu'
        cases h
        exact ⟨cs, sub, ⟨tk, sub, hhead, hver, hsub, hpres⟩, hsub, hu'⟩
      · cases h
  · rintro ⟨cs, sub, hb, hsub, hu⟩
    simp [userOf, claimsOf_of_bearer hb, hsub, hu]

/-- Every refusal of the signed-in user is a 401 that asks for a bearer token. -/
theorem userOf_error {s : Store} {r : Request} {f : Fault} (h : userOf s r = .error f) :
    ∃ d, f = .http 401 d true := by
  unfold userOf at h
  cases hc : claimsOf r with
  | error f' =>
    simp only [hc, Except.error.injEq] at h
    exact h ▸ claimsOf_error hc
  | ok cs =>
    simp only [hc] at h
    split at h
    · cases h
    · cases h
      exact ⟨_, rfl⟩

theorem decision_eq_ok {s : Store} {r : Request} {g : Gate} {u : User} :
    decision s r g = .ok u ↔ Authenticated s r u ∧ g.Admits s u := by
  constructor
  · intro h
    unfold decision at h
    cases hu : userOf s r with
    | error f => simp [hu] at h
    | ok u' =>
      simp only [hu] at h
      split at h
      · rename_i hg
        cases h
        exact ⟨userOf_eq_ok.1 hu, (Gate.check_principal_eq_ok _ _ _).1 hg⟩
      · cases h
  · rintro ⟨hu, ha⟩
    simp [decision, userOf_eq_ok.2 hu, (Gate.check_principal_eq_ok _ _ _).2 ha]

/-- **A request that does not pass is refused**, by a 401 or a 403. -/
theorem decision_of_not_passes {s : Store} {r : Request} {g : Gate} (h : ¬ Passes s r g) :
    ∃ f, decision s r g = .error f ∧ Refusal s r g f := by
  cases hd : decision s r g with
  | ok u => exact absurd ⟨u, decision_eq_ok.1 hd⟩ h
  | error f =>
    refine ⟨f, rfl, ?_⟩
    unfold decision at hd
    cases hu : userOf s r with
    | error f' =>
      -- nobody is signed in
      simp only [hu, Except.error.injEq] at hd
      subst hd
      refine .inl ⟨fun ⟨u, hau⟩ => ?_, userOf_error hu⟩
      rw [userOf_eq_ok.2 hau] at hu
      cases hu
    | ok u =>
      -- somebody is, and the gate turns them away
      simp only [hu] at hd
      split at hd
      · cases hd
      · rename_i d hg
        cases hd
        refine .inr ⟨⟨u, userOf_eq_ok.1 hu, fun ha => ?_⟩, _, rfl⟩
        rw [(Gate.check_principal_eq_ok _ _ _).2 ha] at hg
        cases hg

/-! ## §5 — Guarded handlers -/

/-- A body that the routes reading JSON cannot read: a text that is not JSON. -/
def Unreadable (r : Request) : Prop :=
  ∃ t e, r.body = .raw t ∧ t.isEmpty = false ∧ Json.parse (Input.dropMark t) = .error e

/-- The body is refused only when it is unreadable, by a 400 listing the problem. -/
theorem bodyOf_error {r : Request} {f : Fault} (h : Input.bodyOf r = .error f) :
    Unreadable r ∧ ∃ ms, f = .invalid ms := by
  unfold Input.bodyOf at h
  split at h
  all_goals try cases h
  rename_i t hb
  split at h
  · cases h
  · rename_i hne
    split at h
    · cases h
    · rename_i e he
      cases h
      exact ⟨⟨t, e, hb, by simpa using hne, he⟩, _, rfl⟩

/-- **A handler that lets nobody past `g`**: run by a request that does not pass, it fails without
a write, with the guard's refusal or with the refusal of an unreadable body. -/
def Guarded (g : Gate) (h : Request → List String → Txn Response) : Prop :=
  ∀ r ps σ, ¬ Passes σ.store r g → ∃ f, (h r ps).exec σ = (.error f, σ) ∧
    (Refusal σ.store r g f ∨ Unreadable r ∧ ∃ ms, f = .invalid ms)

/-- A handler that starts with the guard is guarded. -/
theorem guarded_of_require {g : Gate} {h : Request → List String → Txn Response}
    (shape : ∀ r ps, ∃ k : User → Txn Response, h r ps = require r g >>= k) : Guarded g h := by
  intro r ps σ hno
  obtain ⟨k, hk⟩ := shape r ps
  obtain ⟨f, hf, hr⟩ := decision_of_not_passes hno
  exact ⟨f, by rw [hk, Txn.exec_bind, require_exec, hf], .inl hr⟩

/-- A handler that reads its body and then runs the guard is guarded. -/
theorem guarded_of_payload_require {g : Gate} {h : Request → List String → Txn Response}
    (shape : ∀ r ps, ∃ k : Payload → User → Txn Response,
      h r ps = Input.payload r >>= fun body => require r g >>= k body) : Guarded g h := by
  intro r ps σ hno
  obtain ⟨k, hk⟩ := shape r ps
  rw [hk, Txn.exec_bind, Input.payload_exec]
  cases hb : Input.bodyOf r with
  | error f =>
    -- the body is refused before the guard runs
    exact ⟨f, rfl, .inr (bodyOf_error hb)⟩
  | ok body =>
    obtain ⟨f, hf, hr⟩ := decision_of_not_passes hno
    exact ⟨f, by dsimp only; rw [Txn.exec_bind, require_exec, hf], .inl hr⟩

end Guard

end Bistro
