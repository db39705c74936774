import Bistro.Proofs.RegistryWrites

/-!
# Bistro — the names of the permission table

A permission name is checked against the grammar `action:resource` when a client names it: a
new permission and a renamed one pass `Api.permissionName`. The permissions of a resource and
those of a comprehensive role are built instead from the normalised resource name, and stored
without that check. Normalisation keeps digits, which the grammar refuses in a resource, so the
table can hold a name the grammar refuses.

Main statement, `reachable_permission_names`: in every world a scenario reaches, each
permission's name is accepted by the grammar or is the CRUD permission `action:resource` of a
normalised resource name. `generated_name_outside_grammar` shows such a name the grammar refuses.

The proof is an induction over the registry writers (`Reachable.registry_induction`): the seed
catalogue is accepted, checked names are accepted, and each built name is a key of a resource's
bundle or one of the standard management permissions.
-/

namespace Bistro

/-! ## §1 — Checked values -/

theorem Validated.map_eq_ok {α β : Type} {f : α → β} {x : Validated α} {b : β}
    (h : f <$> x = .ok b) : ∃ a, x = .ok a ∧ f a = b := by
  cases x with
  | ok a => exact ⟨a, rfl, by cases h; rfl⟩
  | fail e => cases h

theorem Validated.seq_eq_ok {α β : Type} {f : Validated (α → β)} {x : Validated α} {b : β}
    (h : (f <*> x) = .ok b) : ∃ g a, f = .ok g ∧ x = .ok a ∧ g a = b := by
  cases f <;> cases x <;> cases h
  exact ⟨_, _, rfl, rfl, rfl⟩

/-- A body that passed its check was read and passed as a whole. -/
theorem Input.bodyAs_eq_some {α : Type} {r : Request}
    {check : List (String × Json) → Validated α} {a : α} (h : Input.bodyAs r check = some a) :
    ∃ p, Input.bodyOf r = .ok p ∧ Input.model p check = .ok a := by
  unfold Input.bodyAs at h
  split at h
  · rename_i p hp
    split at h
    · cases h
      exact ⟨p, hp, by assumption⟩
    · cases h
  · cases h

/-- A body that passed its check passed it on some list of members. -/
theorem Input.bodyAs_some {α : Type} {r : Request} {check : List (String × Json) → Validated α}
    {a : α} (h : Input.bodyAs r check = some a) : ∃ fs, check fs = .ok a := by
  obtain ⟨p, -, hm⟩ := Input.bodyAs_eq_some h
  unfold Input.model at hm
  split at hm
  · cases hm
  · exact ⟨_, hm⟩
  · cases hm

/-- A member that passed is a value its check passed, or the default. -/
theorem Field.member_ok {α : Type} {fs : List (String × Json)} {key : String}
    {check : Json → Validated α} {d : Option α} {a : α}
    (h : Field.member fs key check d = .ok a) : (∃ j, check j = .ok a) ∨ d = some a := by
  unfold Field.member at h
  rcases hl : fs.lookup key with _ | j
  · rcases d with _ | d
    · simp [hl, Validated.here, Validated.under] at h
    · simp only [hl] at h
      cases h
      exact .inr rfl
  · left
    refine ⟨j, ?_⟩
    simp only [hl] at h
    cases hc : check j <;> simp_all [Validated.under]

theorem Field.required_ok {α : Type} {fs : List (String × Json)} {key : String}
    {check : Json → Validated α} {a : α} (h : Field.required fs key check = .ok a) :
    ∃ j, check j = .ok a := by
  unfold Field.required at h
  rcases Field.member_ok h with h | h
  · exact h
  · cases h

theorem Field.optional_ok {α : Type} {fs : List (String × Json)} {key : String}
    {check : Json → Validated α} {o : Option α} (h : Field.optional fs key check = .ok o) :
    o = none ∨ ∃ j a, check j = .ok a ∧ o = some a := by
  unfold Field.optional at h
  rcases Field.member_ok h with ⟨j, hj⟩ | h
  · -- a member given as `null` reads as absent
    cases j <;> simp only [Field.nullable] at hj
    all_goals first
      | (cases hj; exact .inl rfl)
      | (obtain ⟨a, ha, rfl⟩ := Validated.map_eq_ok hj; exact .inr ⟨_, a, ha, rfl⟩)
  · cases h
    exact .inl rfl

theorem Field.refine_ok {α β : Type} {check : Json → Validated α} {f : α → Except String β}
    {j : Json} {b : β} (h : Field.refine check f j = .ok b) :
    ∃ a, check j = .ok a ∧ f a = .ok b := by
  unfold Field.refine at h
  cases hc : check j with
  | ok a =>
    rw [hc] at h
    refine ⟨a, rfl, ?_⟩
    simp only [Validated.andThen] at h
    split at h <;> cases h
    assumption
  | fail e =>
    rw [hc] at h
    cases h

/-! ## §2 — The grammar -/

/-- The grammar keeps the text it accepts. -/
theorem PermissionName.ofString_ok {s : String} {p : PermissionName} (h : ofString s = .ok p) :
    p = ⟨s⟩ := by
  unfold ofString at h
  split_ifs at h
  · cases h
    rfl
  · split at h
    · cases h
    · simp only at h
      split_ifs at h
      cases h
      rfl

/-- Every management permission `manage:resource` is accepted, whatever the resource: it has a
special prefix. -/
theorem PermissionName.manage_ok (r : String) :
    (PermissionName.ofString ("manage:" ++ r)).isOk = true := by
  have hpre : hasSpecialPrefix ("manage:" ++ r) = true := by
    simp [hasSpecialPrefix, specialPrefixes, String.toList_append]
  have hne : ("manage:" ++ r).isEmpty = false := by
    simp
  simp [PermissionName.ofString, hpre, hne, Except.isOk, Except.toBool]

theorem standardManagementPermissions_accepted :
    ∀ k ∈ standardManagementPermissions, (PermissionName.ofString k).isOk = true := by
  decide

/-- A name that passed the check of a request is accepted by the grammar. -/
theorem Api.permissionName_ok {j : Json} {n : String} (h : Api.permissionName j = .ok n) :
    (PermissionName.ofString n).isOk = true := by
  obtain ⟨s, -, hs⟩ := Field.refine_ok h
  split at hs
  · rename_i p hp
    cases hs
    obtain rfl := PermissionName.ofString_ok hp
    simp [hp, Except.isOk, Except.toBool]
  · cases hs

theorem Api.PermissionDraft.validateNew_name {fs : List (String × Json)} {d : PermissionDraft}
    (h : PermissionDraft.validateNew fs = .ok d) :
    ∃ n, d.name = some n ∧ (PermissionName.ofString n).isOk = true := by
  obtain ⟨g, a, hg, -, rfl⟩ := Validated.seq_eq_ok h
  obtain ⟨n, hn, rfl⟩ := Validated.map_eq_ok hg
  obtain ⟨j, hj⟩ := Field.required_ok hn
  exact ⟨n, rfl, Api.permissionName_ok hj⟩

theorem Api.PermissionDraft.validate_name {fs : List (String × Json)} {d : PermissionDraft}
    (h : PermissionDraft.validate fs = .ok d) :
    ∀ n, d.name = some n → (PermissionName.ofString n).isOk = true := by
  obtain ⟨g, a, hg, -, rfl⟩ := Validated.seq_eq_ok h
  obtain ⟨o, ho, rfl⟩ := Validated.map_eq_ok hg
  rcases Field.optional_ok ho with rfl | ⟨j, n, hj, rfl⟩
  · intro n hn
    cases hn
  · intro n' hn
    cases hn
    exact Api.permissionName_ok hj

/-! ## §3 — Built names -/

/-- **The keys of a resource's bundle**: the CRUD permissions and the management permission of
its normalised name. -/
theorem mem_resourcePermissions {name k : String}
    (hk : k ∈ (resourcePermissions name).map (·.key)) :
    ∃ r, normalizeResource name = .ok r ∧
      (k = "manage:" ++ r ∨ ∃ a ∈ ["read", "create", "update", "delete"], k = a ++ ":" ++ r) := by
  unfold resourcePermissions permissionBundle at hk
  rcases hn : normalizeResource name with e | r
  · simp [hn, Except.map] at hk
  · simp only [hn, Except.map] at hk
    refine ⟨r, rfl, ?_⟩
    simp only [crudPermissions, managementPermission, List.map_cons, List.map_nil,
      List.cons_append, List.nil_append, List.mem_cons, List.not_mem_nil, or_false] at hk
    rcases hk with rfl | rfl | rfl | rfl | rfl <;> simp

/-- **The keys of a comprehensive role**: keys of the resources' bundles, and the standard
management permissions. -/
theorem mem_comprehensivePermissions {rs : List String} {k : String}
    (hk : k ∈ (comprehensivePermissions rs).map (·.1)) :
    (∃ x ∈ rs, k ∈ (resourcePermissions x).map (·.key)) ∨ k ∈ standardManagementPermissions := by
  unfold comprehensivePermissions at hk
  simp only [List.map_append, List.mem_append, List.map_map] at hk
  rcases hk with hk | hk
  · -- a key of the bundles' part is kept only when some bundle names it
    left
    obtain ⟨⟨k₁, d⟩, hkd, rfl⟩ := List.mem_map.1 hk
    obtain ⟨k', hk', hsome⟩ := List.mem_filterMap.1 hkd
    obtain ⟨p, -, hp⟩ := Option.map_eq_some_iff.1 hsome
    cases hp
    obtain ⟨spec, hspec, rfl⟩ := List.mem_map.1 (List.mem_eraseDups.1 hk')
    obtain ⟨x, hx, hs⟩ := List.mem_flatMap.1 hspec
    exact ⟨x, hx, List.mem_map_of_mem hs⟩
  · right
    simp at hk
    exact hk.1

/-! ## §4 — The names the table holds -/

/-- **A name the permission table may hold**: one the grammar accepts, or the CRUD permission
`action:resource` of a normalised resource name. -/
def StoredPermissionName (n : String) : Prop :=
  (PermissionName.ofString n).isOk = true ∨
    ∃ a ∈ ["read", "create", "update", "delete"], ∃ x r, normalizeResource x = .ok r ∧
      n = a ++ ":" ++ r

namespace StoredPermissionName

theorem of_bundle {x k : String} (hk : k ∈ (resourcePermissions x).map (·.key)) :
    StoredPermissionName k := by
  obtain ⟨r, hr, rfl | ⟨a, ha, rfl⟩⟩ := mem_resourcePermissions hk
  · exact .inl (PermissionName.manage_ok r)
  · exact .inr ⟨a, ha, x, r, hr, rfl⟩

theorem of_comprehensive {rs : List String} {k : String}
    (hk : k ∈ (comprehensivePermissions rs).map (·.1)) : StoredPermissionName k := by
  rcases mem_comprehensivePermissions hk with ⟨x, -, hx⟩ | hk
  · exact of_bundle hx
  · exact .inl (standardManagementPermissions_accepted k hk)

end StoredPermissionName

/-- Every permission of a registry has a name the table may hold. -/
def Registry.NamesStored (R : Registry) : Prop :=
  ∀ q ∈ R.permissions, StoredPermissionName q.name

/-- A step that leaves the permissions keeps their names. -/
theorem Registry.NamesStored.of_eq {S S' : Store} (h : S.registry.NamesStored)
    (hp : S'.permissions = S.permissions) : S'.registry.NamesStored := by
  unfold Registry.NamesStored Store.registry at *
  rw [hp]
  exact h

/-- A step that only adds permissions, each of a name the table may hold, keeps the names. -/
theorem Registry.NamesStored.of_added {S S' : Store} (h : S.registry.NamesStored)
    (hadd : ∀ q ∈ S'.permissions, q ∈ S.permissions ∨ StoredPermissionName q.name) :
    S'.registry.NamesStored := by
  intro q hq
  rcases hadd q hq with hq | hq
  · exact h q hq
  · exact hq

/-- A registry writer whose effect keeps the names of the permissions. -/
def Api.Writer.KeepsStoredNames (w : Api.Writer) : Prop :=
  ∀ r ps now S k S' k', w.effect r ps now S k S' k' → S.registry.NamesStored →
    S'.registry.NamesStored

/-- **Every registry writer keeps the names of the permissions**: a name a client gives is
checked, a built name is a bundle key or a standard management permission, and the category and
theme routes leave the permissions alone. -/
theorem registryWrites_keep_stored_names : ∀ w ∈ Api.registryWrites, w.KeepsStoredNames := by
  simp only [Api.registryWrites, List.forall_mem_cons, List.not_mem_nil, IsEmpty.forall_iff,
    implies_true, and_true]
  refine ⟨?addsPermission, ?generates, ?renames, ?dropsPermission, ?buildsRole, ?addsCategory,
    ?changesCategory, ?dropsCategory, ?createsTheme, ?changesTheme, ?dropsTheme⟩
  case addsPermission =>
    rintro r ps now S k S' k' ⟨d, p, hd, hp, hname, -⟩ h
    obtain ⟨fs, hfs⟩ := Input.bodyAs_some hd
    obtain ⟨n, hn, hok⟩ := Api.PermissionDraft.validateNew_name hfs
    refine h.of_added fun q hq => ?_
    rw [hp, List.mem_append, List.mem_singleton] at hq
    rcases hq with hq | rfl
    · exact .inl hq
    · rw [hname, hn]
      exact .inr (.inl hok)
  case generates =>
    rintro r ps now S k S' k' ⟨x, name, -, -, -, hadd, -⟩ h
    exact h.of_added fun q hq => (hadd q hq).imp_right StoredPermissionName.of_bundle
  case renames =>
    rintro r ps now S k S' k' ⟨d, p, p', hd, hp, hrows, -, hname, -⟩ h
    obtain ⟨fs, hfs⟩ := Input.bodyAs_some hd
    have hold : p ∈ S.permissions := List.mem_of_find?_eq_some hp
    -- the new row keeps the old name or takes a checked one
    refine h.of_added fun q hq => ?_
    rw [hrows] at hq
    rcases Store.mem_replaceRow hq with ⟨hq, -⟩ | rfl
    · exact .inl hq
    · right
      rw [hname]
      cases hn : d.name with
      | none => exact h p hold
      | some n => exact .inl (Api.PermissionDraft.validate_name hfs n hn)
  case dropsPermission =>
    rintro r ps now S k S' k' ⟨p, -, hrows, -⟩ h
    exact h.of_added fun q hq => .inl (by rw [hrows] at hq; exact List.mem_of_mem_filter hq)
  case buildsRole =>
    rintro r ps now S k S' k' ⟨d, -, -, hadd, -⟩ h
    exact h.of_added fun q hq => (hadd q hq).imp_right StoredPermissionName.of_comprehensive
  case addsCategory =>
    rintro r ps now S k S' k' ⟨d, -, -, -, hp, -⟩ h
    exact h.of_eq hp
  case changesCategory =>
    rintro r ps now S k S' k' ⟨d, c, -, -, -, -, hp, -⟩ h
    exact h.of_eq hp
  case dropsCategory =>
    rintro r ps now S k S' k' ⟨c, -, -, hp, -⟩ h
    exact h.of_eq hp
  case createsTheme =>
    rintro r ps now S k S' k' ⟨d, -, -, -, -, -, hp, -⟩ h
    exact h.of_eq hp
  case changesTheme =>
    rintro r ps now S k S' k' ⟨p, old, -, -, -, -, -, hp, -⟩ h
    exact h.of_eq hp
  case dropsTheme =>
    rintro r ps now S k S' k' ⟨t, -, -, hp, -⟩ h
    exact h.of_eq hp

/-- The seed catalogue is accepted by the grammar. -/
theorem Scenario.fresh_names_stored : Scenario.fresh.store.registry.NamesStored := by
  have h : Scenario.fresh.store.permissions.all
      (fun q => (PermissionName.ofString q.name).isOk) = true := by
    decide +kernel
  simp only [Registry.NamesStored, Store.registry]
  intro q hq
  exact .inl (List.all_eq_true.1 h q hq)

theorem Reachable.names_stored {w : World} (hw : Reachable w) : w.store.registry.NamesStored :=
  Reachable.registry_induction (fun R _ => R.NamesStored) Scenario.fresh_names_stored
    (fun _ _ _ h _ => h)
    (fun wr hwr r ps now S k S' k' _ he h =>
      registryWrites_keep_stored_names wr hwr r ps now S k S' k' he h)
    hw

/-- **Every permission name is accepted by the grammar or is a CRUD name of a resource**, in
every world a scenario reaches: the names the table holds but the grammar refuses are those
`action:resource` of the permissions generated for a resource, `resource` being a normalised
resource name. -/
theorem reachable_permission_names {w : World} (hw : Reachable w) :
    ∀ q ∈ w.store.permissions, (PermissionName.ofString q.name).isOk = true ∨
      ∃ a ∈ ["read", "create", "update", "delete"], ∃ x r, normalizeResource x = .ok r ∧
        q.name = a ++ ":" ++ r :=
  Reachable.names_stored hw

theorem seeded_permission_names :
    Reachable Scenario.fresh ∧ ∀ q ∈ Scenario.fresh.store.permissions,
      (PermissionName.ofString q.name).isOk = true ∨
        ∃ a ∈ ["read", "create", "update", "delete"], ∃ x r, normalizeResource x = .ok r ∧
          q.name = a ++ ":" ++ r :=
  ⟨.fresh, reachable_permission_names .fresh⟩

/-- The administrator's request generating the permissions of the resource `table2`. -/
def generateTable2 : List (String × Json) :=
  [("do", .str "req"), ("auth", .str "admin"), ("method", .str "POST"),
    ("path", .str "/api/v1/permissions/generate"), ("json", .obj [("resource", .str "table2")])]

/-- The new service once its administrator generated the permissions of `table2`. -/
def generatedWorld : World := (Scenario.step adminWorld (.obj generateTable2)).2

/-- The method and path of the request generating a resource's permissions. -/
def generateTarget : Request :=
  { method := "POST", path := "/api/v1/permissions/generate", headers := [], query := [],
    body := .empty, storageFails := false, clock := 0 }

/-- **A CRUD name the grammar refuses**: generating the permissions of `table2`, signed in as the
administrator, stores `read:table2`, and the grammar refuses that name, as its resource holds a
digit. -/
theorem generated_name_outside_grammar :
    Reachable generatedWorld ∧ "read:table2" ∈ generatedWorld.store.permissions.map (·.name) ∧
      (PermissionName.ofString "read:table2").isOk = false := by
  have hclaims := Scenario.sent_claims adminWorld generateTable2 rfl rfl
    adminWorld_token Scenario.firstUser_parse rfl
  have hsel : Route.select Api.routes (Scenario.sent adminWorld generateTable2) = _ :=
    (Route.select_congr (by decide +kernel) (by decide +kernel)).trans
      (show Route.select Api.routes generateTarget =
        .ok (Route.of "POST" "/api/v1/permissions/generate" Api.generatePermissions, []) from rfl)
  refine ⟨.step _ (.step _ .fresh), ?_, by decide⟩
  rw [generatedWorld, (Scenario.step_serves rfl).1, serve_eq, Route.dispatch_eq_handle hsel]
  simp only [Route.of, Api.generatePermissions, Guard.admin, Guard.require, Guard.currentUser,
    hclaims]
  decide +kernel

end Bistro
