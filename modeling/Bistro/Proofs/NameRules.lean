import Bistro.Proofs.RegistryWrites

/-!
# Bistro — names the registry keeps apart

Categories and themes are refused a name that another row already has up to case. The check
reads the stored name folded by ASCII lower case and the requested name trimmed and folded by
Unicode lower case, so it keeps names apart exactly when both are ASCII: a stored `É` is not
found by a second `É`, and a stored `É` is not found by `é`.

Main statement, `reachable_names_apart`: in every world a scenario reaches, two categories whose
names are ASCII have names that differ under lower case once trimmed, and two themes never share
a name exactly nor, when both are ASCII, up to case. `unicode_twins_pass_name_checks` shows the
check letting two spellings of one Unicode name through.

The proof keeps one invariant of both tables, `RowsApart`: ids not yet issued are not used, no
two rows share an id, and no two ASCII names are equal up to case. Each writer of the registry
appends a fresh row, replaces the row of an id it found, or filters rows (`RowsApart.append`,
`RowsApart.replaceRow`, `RowsApart.filter`).
-/

namespace Bistro

/-! ## §1 — Trimming and lower case -/

theorem dropBlanks_dropBlanks (cs : List Char) : dropBlanks (dropBlanks cs) = dropBlanks cs := by
  induction cs with
  | nil => rfl
  | cons c cs ih =>
    by_cases hc : isBlank c
    · simp [dropBlanks, hc] at ih ⊢
      exact ih
    · simp [dropBlanks, hc]

theorem dropBlanks_eq_cons {cs rest : List Char} {a : Char} (h : dropBlanks cs = a :: rest) :
    isBlank a = false := by
  induction cs with
  | nil => simp [dropBlanks] at h
  | cons c cs ih =>
    by_cases hc : isBlank c
    · simp [dropBlanks, hc] at h
      exact ih h
    · simp [dropBlanks, hc] at h
      rw [← h.1]
      simpa using hc

theorem dropBlanks_append_of_not {a : Char} (ha : isBlank a = false) (cs : List Char) :
    dropBlanks (cs ++ [a]) = dropBlanks cs ++ [a] := by
  simp only [dropBlanks, List.dropWhile_append]
  split
  · rename_i h
    simp [List.isEmpty_iff.1 h, ha]
  · rfl

theorem trimChars_trimChars (cs : List Char) : trimChars (trimChars cs) = trimChars cs := by
  unfold trimChars
  rcases h : dropBlanks cs with _ | ⟨a, rest⟩
  · simp [dropBlanks]
  · -- the second pass finds the non-blank `a` at the front, and no blank left at the back
    have ha := dropBlanks_eq_cons h
    have hfront : ∀ w : List Char, dropBlanks (a :: w) = a :: w := fun w => by
      simp [dropBlanks, ha]
    have hback : dropBlanks (dropBlanks rest.reverse ++ [a]) = dropBlanks rest.reverse ++ [a] := by
      rw [dropBlanks_append_of_not ha, dropBlanks_dropBlanks]
    rw [List.reverse_cons, dropBlanks_append_of_not ha, List.reverse_append, List.reverse_singleton,
      List.singleton_append, hfront, List.reverse_cons, List.reverse_reverse, hback,
      List.reverse_append, List.reverse_singleton, List.singleton_append]

/-- **Trimming is idempotent.** -/
theorem trim_trim (s : String) : trim (trim s) = trim s := by
  simp [trim, trimChars_trimChars]

/-- A text of ASCII characters only. -/
def IsAsciiText (s : String) : Prop := ∀ c ∈ s.toList, c.toNat < 128

instance (s : String) : Decidable (IsAsciiText s) :=
  inferInstanceAs (Decidable (∀ c ∈ s.toList, c.toNat < 128))

theorem capital_iff (c : Char) : ('A' ≤ c ∧ c ≤ 'Z') ↔ (0x41 ≤ c.toNat ∧ c.toNat ≤ 0x5A) := by
  rw [Char.le_def, Char.le_def, UInt32.le_iff_toNat_le, UInt32.le_iff_toNat_le]
  rfl

/-- On an ASCII character the Unicode lower case is the ASCII one. -/
theorem lowerChar_of_ascii {c : Char} (h : c.toNat < 128) : lowerChar c = [asciiLowerChar c] := by
  have h130 : c.toNat ≠ 0x130 := by omega
  simp only [lowerChar, h130, if_false, asciiLowerChar, lowerCodePoint, capital_iff,
    show c.toNat < 0x80 from h, if_true]
  by_cases hl : 0x41 ≤ c.toNat ∧ c.toNat ≤ 0x5A
  · simp [hl]
  · simp [hl]

/-- **Away from a capital sigma, lower case works a character at a time**: only a capital sigma
reads its neighbours. -/
theorem lowerFrom_of_not_sigma {before after : List Char} (h : 'Σ' ∉ after) :
    lowerFrom before after = after.flatMap lowerChar := by
  induction after generalizing before with
  | nil => rfl
  | cons c cs ih =>
    have hc : c ≠ 'Σ' := fun hc => h (hc ▸ List.mem_cons_self)
    rw [lowerFrom, lowerAt, if_neg fun hs => hc hs.1,
      ih fun hm => h (List.mem_cons_of_mem c hm), List.flatMap_cons]

theorem asciiLowerChar_lt_iff (c : Char) : (asciiLowerChar c).toNat < 128 ↔ c.toNat < 128 := by
  unfold asciiLowerChar
  split
  · rename_i hl
    rw [capital_iff] at hl
    have : (Char.ofNat (c.toNat + 32)).toNat = c.toNat + 32 := by
      simp [Char.toNat_ofNat]
      omega
    omega
  · rfl

/-- **On an ASCII text the Unicode lower case is the ASCII one.** -/
theorem lower_eq_asciiLower {s : String} (h : IsAsciiText s) : lower s = asciiLower s := by
  rw [← String.toList_inj]
  simp only [lower, asciiLower, String.toList_ofList, String.toList_map]
  -- a capital sigma is no ASCII character
  have hsigma : 'Σ' ∉ s.toList := fun hm => absurd (h _ hm) (by decide)
  rw [lowerFrom_of_not_sigma hsigma,
    List.flatMap_congr (fun c hc => lowerChar_of_ascii (h c hc)), List.map_eq_flatMap]

theorem isAsciiText_asciiLower_iff (s : String) : IsAsciiText (asciiLower s) ↔ IsAsciiText s := by
  unfold IsAsciiText asciiLower
  rw [String.toList_map]
  simp only [List.mem_map, forall_exists_index, and_imp, forall_apply_eq_imp_iff₂,
    asciiLowerChar_lt_iff]

/-! ## §2 — Rows kept apart -/

/-- Two names that are both ASCII differ up to the case of their letters. -/
def ApartUpToCase (a b : String) : Prop :=
  IsAsciiText a → IsAsciiText b → asciiLower a ≠ asciiLower b

theorem ApartUpToCase.symm {a b : String} (h : ApartUpToCase a b) : ApartUpToCase b a :=
  fun hb ha heq => h ha hb heq.symm

/-- Two ASCII names apart up to case differ in lower case. -/
theorem ApartUpToCase.lower_ne {a b : String} (h : ApartUpToCase a b) (ha : IsAsciiText a)
    (hb : IsAsciiText b) : lower a ≠ lower b := by
  rw [lower_eq_asciiLower ha, lower_eq_asciiLower hb]
  exact h ha hb

/-- Two members of a pairwise related list at different places are related. -/
theorem pairwise_of_mem {α : Type} {R : α → α → Prop} (hsymm : ∀ a b, R a b → R b a)
    {l : List α} (hl : l.Pairwise R) {a b : α} (ha : a ∈ l) (hb : b ∈ l) (hne : a ≠ b) :
    R a b :=
  haveI : Std.Symm R := ⟨hsymm⟩
  hl.forall ha hb hne

/-- Replacing the rows of one key keeps a list pairwise related, when the keys were distinct and
the new row is related to every row of another key. -/
theorem pairwise_replaceRow {α : Type} {key : α → String} {R : α → α → Prop}
    (hsymm : ∀ a b, R a b → R b a) {rows : List α} (hkeys : rows.Pairwise fun a b => key a ≠ key b)
    (hR : rows.Pairwise R) {x : α} (hx : ∀ y ∈ rows, key y ≠ key x → R y x) :
    (Store.replaceRow key x rows).Pairwise R := by
  unfold Store.replaceRow
  rw [List.pairwise_map]
  refine (hkeys.and hR).imp_of_mem fun {a b} ha hb ⟨hne, hab⟩ => ?_
  -- at most one of the two rows is replaced, since their keys differ
  by_cases hax : key a = key x <;> by_cases hbx : key b = key x
  · exact absurd (hax.trans hbx.symm) hne
  · simpa [hax, hbx] using hsymm _ _ (hx b hb hbx)
  · simpa [hax, hbx] using hx a ha hax
  · simpa [hax, hbx] using hab

namespace Store

theorem upsert_of_forall_ne {α : Type} {key : α → String} {row : α} {rows : List α}
    (h : ∀ y ∈ rows, key y ≠ key row) : upsert key row rows = rows ++ [row] := by
  have hany : rows.any (key · == key row) = false := by simpa using h
  simp [upsert, hany]

theorem upsert_of_mem {α : Type} {key : α → String} {row : α} {rows : List α}
    (h : ∃ y ∈ rows, key y = key row) : upsert key row rows = replaceRow key row rows := by
  have hany : rows.any (key · == key row) = true := by simpa using h
  simp [upsert, hany]

/-- Storing a row over the rows where it already replaced its key changes nothing more. -/
theorem upsert_replaceRow {α : Type} {key : α → String} {row : α} {rows : List α}
    (h : ∃ y ∈ rows, key y = key row) :
    upsert key row (replaceRow key row rows) = replaceRow key row rows := by
  obtain ⟨y, hy, hky⟩ := h
  have hrow : row ∈ replaceRow key row rows := List.mem_map.2 ⟨y, hy, by simp [hky]⟩
  rw [upsert_of_mem ⟨row, hrow, rfl⟩, replaceRow_replaceRow]

end Store

/-- **The rows of a table kept apart**, `k` being the next fresh id: no row has an id still to be
issued, no two rows share an id, and no two ASCII names are equal up to case. -/
structure RowsApart {α : Type} (id name : α → String) (k : Nat) (rows : List α) : Prop where
  fresh : ∀ x ∈ rows, ∀ m, k ≤ m → id x ≠ Txn.idText m
  ids : rows.Pairwise fun a b => id a ≠ id b
  names : rows.Pairwise fun a b => ApartUpToCase (name a) (name b)

namespace RowsApart

variable {α : Type} {id name : α → String} {k : Nat} {rows : List α}

theorem nil (id name : α → String) (k : Nat) : RowsApart id name k [] :=
  ⟨by simp, .nil, .nil⟩

theorem mono (h : RowsApart id name k rows) {k' : Nat} (hk : k ≤ k') :
    RowsApart id name k' rows :=
  ⟨fun x hx m hm => h.fresh x hx m (hk.trans hm), h.ids, h.names⟩

theorem filter (h : RowsApart id name k rows) (p : α → Bool) :
    RowsApart id name k (rows.filter p) :=
  ⟨fun x hx => h.fresh x (List.mem_of_mem_filter hx), h.ids.filter p, h.names.filter p⟩

/-- Rows mapped without touching their ids and names stay apart. -/
theorem map {β : Type} {id' name' : β → String} {f : α → β} (hid : ∀ x, id' (f x) = id x)
    (hname : ∀ x, name' (f x) = name x) (h : RowsApart id name k rows) :
    RowsApart id' name' k (rows.map f) := by
  refine ⟨fun y hy => ?_, ?_, ?_⟩
  · obtain ⟨x, hx, rfl⟩ := List.mem_map.1 hy
    rw [hid]
    exact h.fresh x hx
  · exact List.pairwise_map.2 (by simpa [hid] using h.ids)
  · exact List.pairwise_map.2 (by simpa [hname] using h.names)

/-- **Appending a row under the next fresh id** keeps the rows apart, when its name is apart
from every other. -/
theorem append (h : RowsApart id name k rows) {x : α} (hx : id x = Txn.idText k)
    (hnames : ∀ y ∈ rows, ApartUpToCase (name y) (name x)) {k' : Nat} (hk : k < k') :
    RowsApart id name k' (rows ++ [x]) := by
  refine ⟨fun y hy m hm => ?_, ?_, ?_⟩
  · rcases List.mem_append.1 hy with hy | hy
    · exact h.fresh y hy m (by omega)
    · rw [List.mem_singleton.1 hy, hx]
      exact fun heq => absurd (Txn.idText_injective heq) (by omega)
  · refine List.pairwise_append.2 ⟨h.ids, List.pairwise_singleton _ _, fun a ha b hb => ?_⟩
    rw [List.mem_singleton.1 hb, hx]
    exact h.fresh a ha k (le_refl _)
  · refine List.pairwise_append.2 ⟨h.names, List.pairwise_singleton _ _, fun a ha b hb => ?_⟩
    rw [List.mem_singleton.1 hb]
    exact hnames a ha

/-- **Replacing the row of an id that is there** keeps the rows apart, when the new row's name
is apart from that of every row of another id. -/
theorem replaceRow (h : RowsApart id name k rows) {x : α} (hx : ∃ y ∈ rows, id y = id x)
    (hnames : ∀ y ∈ rows, id y ≠ id x → ApartUpToCase (name y) (name x)) :
    RowsApart id name k (Store.replaceRow id x rows) := by
  refine ⟨fun y hy m hm => ?_, ?_, ?_⟩
  · rcases Store.mem_replaceRow hy with ⟨hy, -⟩ | rfl
    · exact h.fresh y hy m hm
    · obtain ⟨z, hz, hzx⟩ := hx
      rw [← hzx]
      exact h.fresh z hz m hm
  · exact pairwise_replaceRow (fun _ _ hab => Ne.symm hab) h.ids h.ids fun y _ hy => hy
  · exact pairwise_replaceRow (fun _ _ hab => hab.symm) h.ids h.names hnames

end RowsApart

/-- A stored name that the check found apart from a requested one, Unicode-folded, is apart
from it up to case whenever the requested one is ASCII. -/
theorem apartUpToCase_of_ne_lower {a b : String} (h : asciiLower a ≠ lower b) :
    ApartUpToCase a b :=
  fun _ hb heq => h (by rw [lower_eq_asciiLower hb]; exact heq)

/-! ## §3 — Categories -/

/-- **The categories as the registry keeps them**: apart, with trimmed names. -/
structure CategoriesSound (k : Nat) (cs : List Category) : Prop where
  apart : RowsApart (·.id) (·.name) k cs
  trimmed : ∀ c ∈ cs, trim c.name = c.name

namespace Catalog

/-- A category that passed its check has a name apart from that of every category but itself,
as the check reads them. -/
theorem checkCategory_apart {S : Store} {c : Category} {except : Option String}
    (h : checkCategory S c except = .ok ()) :
    ∀ o ∈ S.categories, some o.id ≠ except → asciiLower o.name ≠ lower (trim c.name) := by
  intro o ho hne heq
  have htaken : nameTaken S c.name except = true :=
    List.any_eq_true.2 ⟨o, ho, by simp [heq, hne]⟩
  unfold checkCategory at h
  simp only [htaken] at h
  -- each of the three checks now throws
  split at h
  · cases h
  · split at h <;> cases h

end Catalog

namespace CategoriesSound

variable {k : Nat} {cs : List Category}

theorem mono (h : CategoriesSound k cs) {k' : Nat} (hk : k ≤ k') : CategoriesSound k' cs :=
  ⟨h.apart.mono hk, h.trimmed⟩

/-- **Making a category** keeps the categories sound. -/
theorem adds {r : Request} {ps : List String} {now : Stamp} {S S' : Store} {k' : Nat}
    (h : CategoriesSound k S.categories) (he : Api.AddsCategory r ps now S k S' k') :
    CategoriesSound k' S'.categories := by
  obtain ⟨d, -, hcheck, hcats, -, -, hk⟩ := he
  have hfar := Catalog.checkCategory_apart hcheck
  rw [hcats]
  refine ⟨h.apart.append (x := ⟨Txn.idText k, trim d.name, d.isActive, d.position⟩) rfl
    (fun o ho => ?_) hk, fun c hc => ?_⟩
  · -- the check trimmed the trimmed name once more
    have := hfar o ho (Option.some_ne_none _)
    rw [trim_trim] at this
    exact apartUpToCase_of_ne_lower this
  · rcases List.mem_append.1 hc with hc | hc
    · exact h.trimmed c hc
    · rw [List.mem_singleton.1 hc]
      exact trim_trim _

/-- **Changing a category** keeps the categories sound. -/
theorem changes {r : Request} {ps : List String} {now : Stamp} {S S' : Store} {k' : Nat}
    (h : CategoriesSound k S.categories) (he : Api.ChangesCategory r ps now S k S' k') :
    CategoriesSound k' S'.categories := by
  obtain ⟨d, c, -, hc, hcheck, hcats, -, -, hk⟩ := he
  have hmem : c ∈ S.categories := List.mem_of_find?_eq_some hc
  -- the changed name is trimmed: the new one by the change, the old one by the invariant
  have htrim : trim (d.apply c).name = (d.apply c).name := by
    cases hn : d.name <;> simp [Catalog.CategoryPatch.apply, hn, trim_trim, h.trimmed c hmem]
  rw [hcats]
  refine ⟨(h.apart.replaceRow (x := d.apply c) ⟨c, hmem, rfl⟩ fun o ho hne => ?_).mono hk,
    fun x hx => ?_⟩
  · have := Catalog.checkCategory_apart hcheck o ho (by simpa [Catalog.CategoryPatch.apply] using hne)
    rw [htrim] at this
    exact apartUpToCase_of_ne_lower this
  · rcases Store.mem_replaceRow hx with ⟨hx, -⟩ | rfl
    · exact h.trimmed x hx
    · exact htrim

/-- **Deleting a category** keeps the categories sound. -/
theorem drops {r : Request} {ps : List String} {now : Stamp} {S S' : Store} {k' : Nat}
    (h : CategoriesSound k S.categories) (he : Api.DropsCategory r ps now S k S' k') :
    CategoriesSound k' S'.categories := by
  obtain ⟨c, -, hcats, -, -, hk⟩ := he
  rw [hcats]
  exact ⟨(h.apart.filter _).mono hk, fun x hx => h.trimmed x (List.mem_of_mem_filter hx)⟩

end CategoriesSound

/-! ## §4 — Themes -/

/-- **The themes as the registry keeps them**, read on their tags: apart, no two of one name,
and at most one the default. -/
structure ThemesSound (k : Nat) (G : List ThemeTag) : Prop where
  apart : RowsApart (·.id) (·.name) k G
  names : G.Pairwise fun a b => a.name ≠ b.name
  oneDefault : G.Pairwise fun a b => ¬(a.isDefault ∧ b.isDefault)

namespace ThemeTag

@[simp] theorem clear_id (own : Option String) (g : ThemeTag) : (clear own g).id = g.id := by
  unfold clear
  split <;> rfl

@[simp] theorem clear_name (own : Option String) (g : ThemeTag) :
    (clear own g).name = g.name := by
  unfold clear
  split <;> rfl

/-- A tag keeps its default flag only when it is `own`. -/
theorem clear_isDefault {own : Option String} {g : ThemeTag} (h : (clear own g).isDefault) :
    g.isDefault ∧ some g.id = own := by
  unfold clear at h
  split at h
  · rename_i hown
    exact ⟨h, by simpa using hown⟩
  · simp at h

theorem clear_of_eq {own : Option String} {g : ThemeTag} (h : some g.id = own) : clear own g = g := by
  simp [clear, h]

/-- Taking the flag from every tag but `own` commutes with storing the tag `own`. -/
theorem clear_replaceRow {own : Option String} {g : ThemeTag} (h : some g.id = own)
    (G : List ThemeTag) :
    (Store.replaceRow (·.id) g G).map (clear own) =
      Store.replaceRow (·.id) g (G.map (clear own)) := by
  rw [Store.map_replaceRow (fun x => clear_id own x), clear_of_eq h]

end ThemeTag

namespace ThemesSound

variable {k : Nat} {G : List ThemeTag}

theorem mono (h : ThemesSound k G) {k' : Nat} (hk : k ≤ k') : ThemesSound k' G :=
  ⟨h.apart.mono hk, h.names, h.oneDefault⟩

theorem filter (h : ThemesSound k G) (p : ThemeTag → Bool) : ThemesSound k (G.filter p) :=
  ⟨h.apart.filter p, h.names.filter p, h.oneDefault.filter p⟩

/-- **Taking the default flag** from every theme but one keeps the themes sound. -/
theorem clear (h : ThemesSound k G) (own : Option String) :
    ThemesSound k (G.map (ThemeTag.clear own)) := by
  refine ⟨h.apart.map (fun x => ThemeTag.clear_id own x) (fun x => ThemeTag.clear_name own x),
    List.pairwise_map.2 (by simpa using h.names), List.pairwise_map.2 ?_⟩
  exact h.oneDefault.imp fun hab ⟨ha, hb⟩ =>
    hab ⟨(ThemeTag.clear_isDefault ha).1, (ThemeTag.clear_isDefault hb).1⟩

/-- **Appending a theme under the next fresh id** keeps the themes sound, when its name is apart
from every other and it is the default only where no other is. -/
theorem append (h : ThemesSound k G) {g : ThemeTag} (hid : g.id = Txn.idText k)
    (hnames : ∀ y ∈ G, y.name ≠ g.name) (hcase : ∀ y ∈ G, ApartUpToCase y.name g.name)
    (hdef : g.isDefault → ∀ y ∈ G, y.isDefault = false) {k' : Nat} (hk : k < k') :
    ThemesSound k' (G ++ [g]) := by
  refine ⟨h.apart.append hid hcase hk, ?_, ?_⟩
  · refine List.pairwise_append.2 ⟨h.names, List.pairwise_singleton _ _, fun a ha b hb => ?_⟩
    rw [List.mem_singleton.1 hb]
    exact hnames a ha
  · refine List.pairwise_append.2 ⟨h.oneDefault, List.pairwise_singleton _ _, fun a ha b hb => ?_⟩
    rw [List.mem_singleton.1 hb]
    rintro ⟨hda, hdg⟩
    simp [hdef hdg a ha] at hda

/-- **Replacing the theme of an id that is there** keeps the themes sound, when the new tag's
name is apart from the others' and it is the default only where no other theme is. -/
theorem replaceRow (h : ThemesSound k G) {g : ThemeTag} (hg : ∃ y ∈ G, y.id = g.id)
    (hother : ∀ y ∈ G, y.id ≠ g.id →
      y.name ≠ g.name ∧ ApartUpToCase y.name g.name ∧ ¬(y.isDefault ∧ g.isDefault)) :
    ThemesSound k (Store.replaceRow (·.id) g G) :=
  ⟨h.apart.replaceRow hg fun y hy hne => (hother y hy hne).2.1,
    pairwise_replaceRow (fun _ _ hab => Ne.symm hab) h.apart.ids h.names
      fun y hy hne => (hother y hy hne).1,
    pairwise_replaceRow (fun _ _ hab hba => hab ⟨hba.2, hba.1⟩) h.apart.ids h.oneDefault
      fun y hy hne => (hother y hy hne).2.2⟩

end ThemesSound

/-- **A renamed theme's name is apart from the others' up to case**: the first theme of the new
name up to case is the renamed one, so an ASCII theme of another id with that name would be a
second ASCII theme of one name up to case. -/
theorem rename_apart {ts : List Theme} {k : Nat} (h : RowsApart (·.id) (·.name) k (ts.map Theme.tag))
    {old : Theme} {n : String}
    (hfirst : ∀ o, ts.find? (fun t => asciiLower t.name == lower n) = some o → o.id = old.id) :
    ∀ y ∈ ts, y.id ≠ old.id → ApartUpToCase y.name n := by
  intro y hy hne hya hna heq
  have hlow : lower n = asciiLower n := lower_eq_asciiLower hna
  -- `y` matches, so the search finds a first match, and that is the renamed theme
  obtain ⟨m, hm⟩ : ∃ m, ts.find? (fun t => asciiLower t.name == lower n) = some m :=
    Option.isSome_iff_exists.1 (List.find?_isSome.2 ⟨y, hy, by simp [heq, hlow]⟩)
  have hmid : m.id = old.id := hfirst m hm
  have hmname : asciiLower m.name = asciiLower n := by simpa [hlow] using List.find?_some hm
  have hma : IsAsciiText m.name := by
    rw [← isAsciiText_asciiLower_iff, hmname, isAsciiText_asciiLower_iff]
    exact hna
  have hmy : m ≠ y := fun hmy => hne (hmy ▸ hmid)
  exact pairwise_of_mem (fun _ _ hab => hab.symm) (List.pairwise_map.1 h.names)
    (List.mem_of_find?_eq_some hm) hy hmy hma hya (hmname.trans heq.symm)

/-- **The tags a change of a theme leaves**: its row replaced by its new tag, among the tags of
the other themes, which lost their flag first when the change makes it the default. -/
theorem changedTags {S : Store} {p : Themes.ThemePatch} {old : Theme} (hmem : old ∈ S.themes) :
    Store.upsert (·.id) (ThemeTag.ofPatch p old)
        (if p.isDefault = some true then
          (Store.upsert (·.id) (ThemeTag.ofPatch p old) (S.themes.map Theme.tag)).map
            (ThemeTag.clear (some old.id))
        else S.themes.map Theme.tag) =
      Store.replaceRow (·.id) (ThemeTag.ofPatch p old)
        (if p.isDefault = some true then (S.themes.map Theme.tag).map (ThemeTag.clear (some old.id))
        else S.themes.map Theme.tag) := by
  have hpresent : ∃ y ∈ S.themes.map Theme.tag, y.id = (ThemeTag.ofPatch p old).id :=
    ⟨old.tag, List.mem_map_of_mem hmem, rfl⟩
  split
  · have hpresent' : ∃ y ∈ (S.themes.map Theme.tag).map (ThemeTag.clear (some old.id)),
        y.id = (ThemeTag.ofPatch p old).id :=
      ⟨ThemeTag.clear _ old.tag, List.mem_map_of_mem (List.mem_map_of_mem hmem),
        ThemeTag.clear_id _ _⟩
    rw [Store.upsert_of_mem hpresent,
      @ThemeTag.clear_replaceRow (some old.id) (ThemeTag.ofPatch p old) rfl,
      Store.upsert_replaceRow hpresent']
  · exact Store.upsert_of_mem hpresent

namespace ThemesSound

variable {k : Nat} {r : Request} {ps : List String} {now : Stamp} {S S' : Store} {k' : Nat}

/-- **Making a theme** keeps the themes sound. -/
theorem creates (h : ThemesSound k (S.themes.map Theme.tag))
    (he : Api.CreatesTheme r ps now S k S' k') : ThemesSound k' (S'.themes.map Theme.tag) := by
  obtain ⟨d, -, -, hcase, hname, htags, -, -, hk⟩ := he
  have hfresh : ∀ o ∈ S.themes, o.id ≠ Txn.idText k := fun o ho =>
    h.apart.fresh o.tag (List.mem_map_of_mem ho) k (le_refl _)
  -- another theme of the new name would have the new id
  have hnames : ∀ o ∈ S.themes, o.name ≠ trim d.name := fun o ho heq => hfresh o ho (hname o ho heq)
  have hcase' : ∀ o ∈ S.themes, ApartUpToCase o.name (trim d.name) := fun o ho =>
    apartUpToCase_of_ne_lower (hcase o ho)
  rw [htags]
  cases hd : d.isDefault
  · rw [if_neg (by simp), Store.upsert_of_forall_ne (by simpa using hfresh)]
    exact h.append (g := ⟨Txn.idText k, trim d.name, false⟩) rfl (by simpa using hnames)
      (by simpa using hcase') (by simp) hk
  · rw [if_pos rfl, Store.upsert_of_forall_ne (by simpa using hfresh)]
    exact (h.clear none).append (g := ⟨Txn.idText k, trim d.name, true⟩) rfl
      (by simpa using hnames) (by simpa using hcase') (by simp) hk

/-- **Changing a theme** keeps the themes sound. -/
theorem changes (h : ThemesSound k (S.themes.map Theme.tag))
    (he : Api.ChangesTheme r ps now S k S' k') : ThemesSound k' (S'.themes.map Theme.tag) := by
  obtain ⟨p, old, -, hold, hrename, hname, htags, -, -, hk⟩ := he
  have hmem : old ∈ S.themes := List.mem_of_find?_eq_some hold
  have hpresent : ∃ y ∈ S.themes.map Theme.tag, y.id = (ThemeTag.ofPatch p old).id :=
    ⟨old.tag, List.mem_map_of_mem hmem, rfl⟩
  have hne_old : ∀ o ∈ S.themes, o.id ≠ old.id → o ≠ old := fun o _ hne heq => hne (heq ▸ rfl)
  -- the new name is apart from every other theme's, exactly and up to case
  have hnames : ∀ o ∈ S.themes, o.id ≠ old.id → o.name ≠ (ThemeTag.ofPatch p old).name :=
    fun o ho hne heq => hne (hname o ho heq)
  have hcase : ∀ o ∈ S.themes, o.id ≠ old.id →
      ApartUpToCase o.name (ThemeTag.ofPatch p old).name := by
    cases hn : p.name with
    | none =>
      -- the name is kept
      intro o ho hne
      simpa [ThemeTag.ofPatch, hn] using pairwise_of_mem (fun _ _ hab => hab.symm)
        (List.pairwise_map.1 h.apart.names) ho hmem (hne_old o ho hne)
    | some n =>
      simpa [ThemeTag.ofPatch, hn] using rename_apart h.apart (hrename n hn).2
  rw [htags, changedTags hmem]
  split
  · -- the change makes the theme the default: every other theme lost its flag first
    have hpresent' : ∃ y ∈ (S.themes.map Theme.tag).map (ThemeTag.clear (some old.id)),
        y.id = (ThemeTag.ofPatch p old).id :=
      ⟨ThemeTag.clear _ old.tag, List.mem_map_of_mem (List.mem_map_of_mem hmem),
        ThemeTag.clear_id _ _⟩
    refine ((h.clear _).replaceRow hpresent' fun y hy hne => ?_).mono hk
    obtain ⟨y', hy', rfl⟩ := List.mem_map.1 hy
    obtain ⟨o, ho, rfl⟩ := List.mem_map.1 hy'
    have hne' : o.id ≠ old.id := by simpa [ThemeTag.ofPatch] using hne
    refine ⟨by simpa using hnames o ho hne', by simpa using hcase o ho hne', ?_⟩
    rintro ⟨hd, -⟩
    exact hne' (by simpa using (ThemeTag.clear_isDefault hd).2)
  · -- the default flag is the one the theme had, or none
    rename_i hdef
    refine (h.replaceRow hpresent fun y hy hne => ?_).mono hk
    obtain ⟨o, ho, rfl⟩ := List.mem_map.1 hy
    have hne' : o.id ≠ old.id := hne
    refine ⟨hnames o ho hne', hcase o ho hne', ?_⟩
    rintro ⟨hdo, hdg⟩
    have hold_def : old.isDefault := by
      cases hp : p.isDefault with
      | none => simpa [ThemeTag.ofPatch, hp] using hdg
      | some b => cases b <;> simp_all [ThemeTag.ofPatch]
    exact pairwise_of_mem (fun _ _ hab hba => hab ⟨hba.2, hba.1⟩)
      (List.pairwise_map.1 h.oneDefault) ho hmem (hne_old o ho hne') ⟨hdo, hold_def⟩

/-- **Deleting a theme** keeps the themes sound. -/
theorem drops (h : ThemesSound k (S.themes.map Theme.tag))
    (he : Api.DropsTheme r ps now S k S' k') : ThemesSound k' (S'.themes.map Theme.tag) := by
  obtain ⟨t, -, hthemes, -, -, hk⟩ := he
  have hfilter : (S.themes.filter (·.id != t.id)).map Theme.tag =
      (S.themes.map Theme.tag).filter (·.id != t.id) := by
    rw [List.filter_map]
    rfl
  rw [hthemes, hfilter]
  exact (h.filter _).mono hk

end ThemesSound

/-! ## §5 — Every reachable world -/

/-- **The names of a registry kept apart**, `k` being the next fresh id. -/
def Registry.NamesApart (k : Nat) (R : Registry) : Prop :=
  CategoriesSound k R.categories ∧ ThemesSound k (R.themes.map Theme.tag)

namespace Registry.NamesApart

theorem mono {R : Registry} {k k' : Nat} (h : R.NamesApart k) (hk : k ≤ k') : R.NamesApart k' :=
  ⟨h.1.mono hk, h.2.mono hk⟩

/-- A step that leaves the categories and themes keeps their names apart. -/
theorem of_eq {S S' : Store} {k k' : Nat} (h : S.registry.NamesApart k)
    (hc : S'.categories = S.categories) (ht : S'.themes = S.themes) (hk : k ≤ k') :
    S'.registry.NamesApart k' := by
  unfold Registry.NamesApart Store.registry at *
  rw [hc, ht]
  exact ⟨h.1.mono hk, h.2.mono hk⟩

end Registry.NamesApart

/-- A registry writer whose effect keeps the names apart. -/
def Api.Writer.KeepsNamesApart (w : Api.Writer) : Prop :=
  ∀ r ps now S k S' k', w.effect r ps now S k S' k' → S.registry.NamesApart k →
    S'.registry.NamesApart k'

/-- **Every registry writer keeps the names apart**: the permission routes leave categories and
themes alone, and each category and theme route keeps its own table sound. -/
theorem registryWrites_keep_names_apart : ∀ w ∈ Api.registryWrites, w.KeepsNamesApart := by
  simp only [Api.registryWrites, List.forall_mem_cons, List.not_mem_nil, IsEmpty.forall_iff,
    implies_true, and_true]
  refine ⟨?addsPermission, ?generates, ?renames, ?dropsPermission, ?buildsRole, ?addsCategory,
    ?changesCategory, ?dropsCategory, ?createsTheme, ?changesTheme, ?dropsTheme⟩
  case addsPermission =>
    rintro r ps now S k S' k' ⟨d, p, -, -, -, -, hc, ht, hk⟩ h
    exact h.of_eq hc ht hk
  case generates =>
    rintro r ps now S k S' k' ⟨x, name, -, -, -, -, hc, ht, hk⟩ h
    exact h.of_eq hc ht hk
  case renames =>
    rintro r ps now S k S' k' ⟨d, p, p', -, -, -, -, -, hc, ht, hk⟩ h
    exact h.of_eq hc ht hk
  case dropsPermission =>
    rintro r ps now S k S' k' ⟨p, -, -, hc, ht, hk⟩ h
    exact h.of_eq hc ht hk
  case buildsRole =>
    rintro r ps now S k S' k' ⟨d, -, -, -, hc, ht, hk⟩ h
    exact h.of_eq hc ht hk
  case addsCategory =>
    rintro r ps now S k S' k' (he : Api.AddsCategory r ps now S k S' k') h
    obtain ⟨-, -, -, -, -, ht, hk⟩ := id he
    exact ⟨CategoriesSound.adds h.1 he, by rw [Store.registry, ht]; exact h.2.mono hk.le⟩
  case changesCategory =>
    rintro r ps now S k S' k' (he : Api.ChangesCategory r ps now S k S' k') h
    obtain ⟨-, -, -, -, -, -, -, ht, hk⟩ := id he
    exact ⟨CategoriesSound.changes h.1 he, by rw [Store.registry, ht]; exact h.2.mono hk⟩
  case dropsCategory =>
    rintro r ps now S k S' k' (he : Api.DropsCategory r ps now S k S' k') h
    obtain ⟨-, -, -, -, ht, hk⟩ := id he
    exact ⟨CategoriesSound.drops h.1 he, by rw [Store.registry, ht]; exact h.2.mono hk⟩
  case createsTheme =>
    rintro r ps now S k S' k' (he : Api.CreatesTheme r ps now S k S' k') h
    obtain ⟨-, -, -, -, -, -, -, hc, hk⟩ := id he
    exact ⟨by rw [Store.registry, hc]; exact h.1.mono hk.le, ThemesSound.creates h.2 he⟩
  case changesTheme =>
    rintro r ps now S k S' k' (he : Api.ChangesTheme r ps now S k S' k') h
    obtain ⟨-, -, -, -, -, -, -, -, hc, hk⟩ := id he
    exact ⟨by rw [Store.registry, hc]; exact h.1.mono hk, ThemesSound.changes h.2 he⟩
  case dropsTheme =>
    rintro r ps now S k S' k' (he : Api.DropsTheme r ps now S k S' k') h
    obtain ⟨-, -, -, -, hc, hk⟩ := id he
    exact ⟨by rw [Store.registry, hc]; exact h.1.mono hk, ThemesSound.drops h.2 he⟩

/-- The seeded world has no category and no theme. -/
theorem Scenario.fresh_names_apart :
    Scenario.fresh.store.registry.NamesApart Scenario.fresh.nextId := by
  have h : (Scenario.fresh.store.categories.isEmpty && Scenario.fresh.store.themes.isEmpty) =
      true := by
    decide +kernel
  simp only [Bool.and_eq_true, List.isEmpty_iff] at h
  simp only [Registry.NamesApart, Store.registry, h.1, h.2, List.map_nil]
  exact ⟨⟨RowsApart.nil _ _ _, by simp⟩, ⟨RowsApart.nil _ _ _, .nil, .nil⟩⟩

/-- **The names of the registry are kept apart in every reachable world.** -/
theorem Reachable.names_apart {w : World} (hw : Reachable w) :
    w.store.registry.NamesApart w.nextId :=
  Reachable.registry_induction (fun R k => R.NamesApart k) Scenario.fresh_names_apart
    (fun _ _ _ h hk => h.mono hk)
    (fun wr hwr r ps now S k S' k' _ he h => registryWrites_keep_names_apart wr hwr r ps now S k S' k' he h)
    hw

/-- **Names stay apart in every reachable world, as far as ASCII goes**: category names are
stored trimmed, and two categories whose names are ASCII differ in lower case once trimmed; two
themes never share a name, and two whose names are ASCII differ in lower case. -/
theorem reachable_names_apart {w : World} (hw : Reachable w) :
    (∀ c ∈ w.store.categories, trim c.name = c.name) ∧
      w.store.categories.Pairwise (fun a b => IsAsciiText a.name → IsAsciiText b.name →
        lower (trim a.name) ≠ lower (trim b.name)) ∧
      w.store.themes.Pairwise (fun a b => a.name ≠ b.name ∧
        (IsAsciiText a.name → IsAsciiText b.name → lower a.name ≠ lower b.name)) := by
  obtain ⟨hc, ht⟩ := hw.names_apart
  refine ⟨hc.trimmed, hc.apart.names.imp_of_mem fun ha hb hab hasc hbsc => ?_, ?_⟩
  · rw [hc.trimmed _ ha, hc.trimmed _ hb]
    exact hab.lower_ne hasc hbsc
  · exact List.pairwise_map.1 (ht.names.and ht.apart.names) |>.imp fun ⟨hne, hab⟩ =>
      ⟨hne, hab.lower_ne⟩

/-- The administrator's request making a category named `name`. -/
def addCategory (name : String) : List (String × Json) :=
  [("do", .str "req"), ("auth", .str "admin"), ("method", .str "POST"),
    ("path", .str "/api/v1/categories"), ("json", .obj [("name", .str name)])]

/-- The administrator's request making a default theme named `name`, sent as a form. -/
def addDefaultTheme (name : String) : List (String × Json) :=
  [("do", .str "req"), ("auth", .str "admin"), ("method", .str "POST"),
    ("path", .str "/api/v1/themes"),
    ("form", .obj [("name", .str name), ("is_default", .str "true")])]

/-- The new service once its administrator made the category ` Drinks `. -/
def drinksWorld : World := (Scenario.step adminWorld (.obj (addCategory " Drinks "))).2

/-- Then the category `Food`. -/
def menuWorld : World := (Scenario.step drinksWorld (.obj (addCategory "Food"))).2

/-- Then the default theme `Night`. -/
def nightWorld : World := (Scenario.step menuWorld (.obj (addDefaultTheme "Night"))).2

/-- Then the default theme `Day`. -/
def themedWorld : World := (Scenario.step nightWorld (.obj (addDefaultTheme "Day"))).2

theorem themedWorld_reachable : Reachable themedWorld :=
  .step _ (.step _ (.step _ (.step _ (.step _ .fresh))))

/-- The method and path of the requests making categories. -/
def categoriesTarget : Request :=
  { method := "POST", path := "/api/v1/categories", headers := [], query := [], body := .empty,
    storageFails := false, clock := 0 }

/-- The method and path of the requests making themes. -/
def themesTarget : Request :=
  { method := "POST", path := "/api/v1/themes", headers := [], query := [], body := .empty,
    storageFails := false, clock := 0 }

/-- **What the administrator's requests leave**: the categories named as sent but trimmed, and
`Day` the one default theme, `Night` having lost the flag when `Day` took it. Each request is
signed in with the administrator's token (`Scenario.sent_claims`); each world's store and counter
are those its request leaves (`Scenario.step_serves`); the rest is computed. -/
theorem themedWorld_rows :
    themedWorld.store.categories.map (·.name) = ["Drinks", "Food"] ∧
      themedWorld.store.themes.map (fun t => (t.name, t.isDefault)) =
        [("Night", false), ("Day", true)] := by
  -- every request carries the administrator's token, which no request changes
  have htok₂ : drinksWorld.tokens.lookup "admin" =
      some (Scenario.serviceToken (Txn.idText 40) none) := by
    rw [drinksWorld, Scenario.step_req rfl, Scenario.request_tokens, adminWorld_token]
  have htok₃ : menuWorld.tokens.lookup "admin" =
      some (Scenario.serviceToken (Txn.idText 40) none) := by
    rw [menuWorld, Scenario.step_req rfl, Scenario.request_tokens, htok₂]
  have htok₄ : nightWorld.tokens.lookup "admin" =
      some (Scenario.serviceToken (Txn.idText 40) none) := by
    rw [nightWorld, Scenario.step_req rfl, Scenario.request_tokens, htok₃]
  have hclaims₁ := Scenario.sent_claims adminWorld (addCategory " Drinks ") rfl rfl
    adminWorld_token Scenario.firstUser_parse rfl
  have hclaims₂ := Scenario.sent_claims drinksWorld (addCategory "Food") rfl rfl
    htok₂ Scenario.firstUser_parse rfl
  have hclaims₃ := Scenario.sent_claims menuWorld (addDefaultTheme "Night") rfl rfl
    htok₃ Scenario.firstUser_parse rfl
  have hclaims₄ := Scenario.sent_claims nightWorld (addDefaultTheme "Day") rfl rfl
    htok₄ Scenario.firstUser_parse rfl
  -- the routes the four requests take
  have hcategories : Route.select Api.routes categoriesTarget =
      .ok (Route.of "POST" "/api/v1/categories" Api.createCategory, []) :=
    Route.select_eq_of_first 7 (by decide +kernel) (by decide +kernel) (by decide +kernel)
      (by decide +kernel)
  have hthemes : Route.select Api.routes themesTarget =
      .ok (Route.of "POST" "/api/v1/themes" Api.createTheme, []) :=
    Route.select_eq_of_first 50 (by decide +kernel) (by decide +kernel) (by decide +kernel)
      (by decide +kernel)
  have hsel₁ : Route.select Api.routes (Scenario.sent adminWorld (addCategory " Drinks ")) = _ :=
    (Route.select_congr (by decide +kernel) (by decide +kernel)).trans hcategories
  have hsel₂ : Route.select Api.routes (Scenario.sent drinksWorld (addCategory "Food")) = _ :=
    (Route.select_congr (by decide +kernel) (by decide +kernel)).trans hcategories
  have hsel₃ : Route.select Api.routes (Scenario.sent menuWorld (addDefaultTheme "Night")) = _ :=
    (Route.select_congr (by decide +kernel) (by decide +kernel)).trans hthemes
  have hsel₄ : Route.select Api.routes (Scenario.sent nightWorld (addDefaultTheme "Day")) = _ :=
    (Route.select_congr (by decide +kernel) (by decide +kernel)).trans hthemes
  -- each world's store and counter as its request leaves them, innermost last
  have hs₄ : themedWorld.store = _ := (Scenario.step_serves (w := nightWorld) rfl).1
  have hs₃ : nightWorld.store = _ := (Scenario.step_serves (w := menuWorld) rfl).1
  have hn₃ : nightWorld.nextId = _ := (Scenario.step_serves (w := menuWorld) rfl).2
  have hs₂ : menuWorld.store = _ := (Scenario.step_serves (w := drinksWorld) rfl).1
  have hn₂ : menuWorld.nextId = _ := (Scenario.step_serves (w := drinksWorld) rfl).2
  have hs₁ : drinksWorld.store = _ := (Scenario.step_serves (w := adminWorld) rfl).1
  have hn₁ : drinksWorld.nextId = _ := (Scenario.step_serves (w := adminWorld) rfl).2
  rw [hs₄, hs₃, hn₃, hs₂, hn₂, hs₁, hn₁]
  simp only [serve_eq, Route.dispatch_eq_handle hsel₁, Route.dispatch_eq_handle hsel₂,
    Route.dispatch_eq_handle hsel₃, Route.dispatch_eq_handle hsel₄]
  simp only [Route.of, Api.createCategory, Api.createTheme, Guard.admin, Guard.staff,
    Guard.require, Guard.currentUser, hclaims₁, hclaims₂, hclaims₃, hclaims₄]
  decide +kernel

theorem themed_world_names_apart :
    Reachable themedWorld ∧ themedWorld.store.categories.map (·.name) = ["Drinks", "Food"] ∧
      themedWorld.store.themes.map (·.name) = ["Night", "Day"] ∧
      (∀ c ∈ themedWorld.store.categories, trim c.name = c.name) ∧
      themedWorld.store.categories.Pairwise (fun a b => IsAsciiText a.name →
        IsAsciiText b.name → lower (trim a.name) ≠ lower (trim b.name)) ∧
      themedWorld.store.themes.Pairwise (fun a b => a.name ≠ b.name ∧
        (IsAsciiText a.name → IsAsciiText b.name → lower a.name ≠ lower b.name)) := by
  obtain ⟨hcategories, hthemes⟩ := themedWorld_rows
  have hnames := congrArg (List.map Prod.fst) hthemes
  rw [List.map_map] at hnames
  exact ⟨themedWorld_reachable, hcategories, hnames, reachable_names_apart themedWorld_reachable⟩

/-- **The checks let two spellings of one Unicode name through**: beside a category `É`, a second
category `É` passes the check of a new category, though both are `é` in lower case; beside a
theme `É`, the search for a theme named `é` up to case finds none, though `É` and `é` are one
name in lower case. -/
theorem unicode_twins_pass_name_checks :
    (Catalog.checkCategory { ({} : Store) with categories := [⟨"1", "É", true, 0⟩] }
        ⟨"", "É", true, 0⟩ none = .ok () ∧ lower "É" = "é") ∧
      (([(⟨"1", "É", none, none, none, none, none, none, false⟩ : Theme)].find?
        fun t => asciiLower t.name == lower (trim "é")) = none ∧ lower "É" = lower "é") := by
  decide +kernel

end Bistro
