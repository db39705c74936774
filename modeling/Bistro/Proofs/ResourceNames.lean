import Bistro.Proofs.NameRules
import Bistro.Proofs.SignedTokens

/-!
# Bistro — resource names are normal forms

The permissions of a resource are built from its normalised name: the text is trimmed, put in
lower case and its spaces made underscores, and what results must be matched in full by
`^[a-z0-9_]+$`. The handlers that generate a resource's permissions or build a comprehensive
role normalise each name and hand the result to the bundle of permissions, which normalises it
once more; the name they report or grant is the one the bundle was built from only because a
normalised name normalises to itself.

Main statement, `normalizeResource_normal_form`: normalisation succeeds exactly when the
trimmed text is not empty and its formatted form is a resource name, and equally when that form
matches the pattern as `re.match` reads it, where `$` may also stand before a final line feed;
its result is that form, a resource name, normalises to itself, and has the bundle of the text
it came from.

* §1 `isResourceNameChar_iff`: the characters of a name by code point; none is blank, lower case
  keeps each (`lowerChar_of_isResourceNameChar`), and none is a space;
* §2 `lowerAt_getLast?`: lower case ends a character with a line feed only when it is one, in
  any context, so the formatted form of a trimmed text never ends with one (`formatResource_getLast?`), and the
  reading of `$` does not matter (`matchesResourcePattern_iff`);
* §3 `normalizeResource_eq_ok_iff`, the result in terms of the formatted form, and
  `normalizeResource_self`, a resource name normalises to itself;
* §4 the main statement.
-/

namespace Bistro

/-! ## §1 — The characters of a resource name -/

/-- Text that `[a-z0-9_]+` matches in full: not empty, and each character a lower-case ASCII
letter, a digit or an underscore. -/
def IsResourceName (s : String) : Prop := s ≠ "" ∧ s.toList.all isResourceNameChar = true

instance (s : String) : Decidable (IsResourceName s) :=
  inferInstanceAs (Decidable (s ≠ "" ∧ s.toList.all isResourceNameChar = true))

theorem IsResourceName.char {s : String} (h : IsResourceName s) {c : Char} (hc : c ∈ s.toList) :
    isResourceNameChar c = true :=
  List.all_eq_true.1 h.2 c hc

/-- Text in which `re.match` finds `^[a-z0-9_]+$`: `$` matches at the end of the text and also
just before a final line feed, so a resource name followed by one line feed matches too. -/
def MatchesResourcePattern (s : String) : Prop :=
  IsResourceName s ∨ ∃ b, IsResourceName b ∧ s = b ++ "\n"

/-- The text trimmed, in lower case, with each space replaced by an underscore. -/
def formatResource (s : String) : String :=
  String.ofList ((lower (trim s)).toList.map fun c => if c = ' ' then '_' else c)

theorem isResourceNameChar_iff (c : Char) :
    isResourceNameChar c = true ↔
      (0x61 ≤ c.toNat ∧ c.toNat ≤ 0x7A) ∨ (0x30 ≤ c.toNat ∧ c.toNat ≤ 0x39) ∨ c.toNat = 0x5F := by
  simp only [isResourceNameChar, isLowerLetter, Char.isDigit, Bool.or_eq_true, Bool.and_eq_true,
    decide_eq_true_eq, beq_iff_eq, Char.le_def, UInt32.le_iff_toNat_le, ← Char.toNat_inj]
  exact or_assoc

theorem isBlank_of_isResourceNameChar {c : Char} (h : isResourceNameChar c = true) :
    isBlank c = false := by
  rw [isResourceNameChar_iff] at h
  simp only [isBlank, Bool.or_eq_false_iff, decide_eq_false_iff_not, beq_eq_false_iff_ne]
  omega

theorem lowerChar_of_isResourceNameChar {c : Char} (h : isResourceNameChar c = true) :
    lowerChar c = [c] := by
  rw [isResourceNameChar_iff] at h
  rw [lowerChar_of_ascii (by omega), asciiLowerChar, if_neg (by rw [capital_iff]; omega)]

theorem underscoreSpace_of_isResourceNameChar {c : Char} (h : isResourceNameChar c = true) :
    underscoreSpace c = c := by
  rw [isResourceNameChar_iff] at h
  have hsp : c ≠ ' ' := fun hc => by
    rw [hc] at h
    simp at h
  simp [underscoreSpace, hsp]

/-! ## §2 — No line feed at the end -/

/-- Past ASCII, lower case never gives a code point below `a`. -/
theorem lowerCodePoint_ge {n : Nat} (hn : 128 ≤ n) : 0x61 ≤ lowerCodePoint n := by
  -- a run lowers to code points from its base on, and no run's base is below `a`
  have hbase : ∀ r ∈ caseRuns, 0x61 ≤ r.base := by decide +kernel
  unfold lowerCodePoint
  rw [if_neg (by omega)]
  split
  · rename_i r hr
    have := hbase r (List.mem_of_find?_eq_some hr)
    omega
  · omega

theorem lowerCodePoint_eq_newline {n : Nat} (h : lowerCodePoint n = 10) : n = 10 := by
  by_cases hn : 128 ≤ n
  · have := lowerCodePoint_ge hn
    omega
  unfold lowerCodePoint at h
  rw [if_pos (by omega)] at h
  split_ifs at h <;> omega

theorem ofNat_eq_newline {m : Nat} (h : Char.ofNat m = '\n') : m = 10 := by
  have h' := congrArg Char.toNat h
  rw [Char.toNat_ofNat] at h'
  split at h'
  · exact h'
  · cases h'

theorem lowerChar_ne_nil (c : Char) : lowerChar c ≠ [] := by
  unfold lowerChar
  split <;> simp

/-- **Lower case ends a character with a line feed only when it is one.** -/
theorem lowerChar_getLast? {c : Char} (h : (lowerChar c).getLast? = some '\n') : c = '\n' := by
  unfold lowerChar at h
  split at h
  · simp at h
  · have hm := lowerCodePoint_eq_newline (ofNat_eq_newline (Option.some.inj h))
    exact Char.toNat_inj.1 hm

theorem lowerAt_ne_nil (before : List Char) (c : Char) (after : List Char) :
    lowerAt before c after ≠ [] := by
  unfold lowerAt
  split
  · simp
  · exact lowerChar_ne_nil c

/-- In any context, lower case ends a character with a line feed only when it is one: a final
sigma is no line feed. -/
theorem lowerAt_getLast? {before after : List Char} {c : Char}
    (h : (lowerAt before c after).getLast? = some '\n') : c = '\n' := by
  unfold lowerAt at h
  split at h
  · simp at h
  · exact lowerChar_getLast? h

theorem lowerFrom_ne_nil (before : List Char) {cs : List Char} (h : cs ≠ []) :
    lowerFrom before cs ≠ [] := by
  cases cs with
  | nil => exact absurd rfl h
  | cons c cs =>
    rw [lowerFrom]
    exact List.append_ne_nil_of_left_ne_nil (lowerAt_ne_nil before c cs) _

/-- The lower case of a text ends as its last character does, in the context of the rest. -/
theorem lowerFrom_append_getLast? (before t : List Char) (c : Char) :
    (lowerFrom before (t ++ [c])).getLast? = (lowerAt (t.reverse ++ before) c []).getLast? := by
  induction t generalizing before with
  | nil => simp [lowerFrom]
  | cons x t ih =>
    rw [List.cons_append, lowerFrom,
      List.getLast?_append_of_ne_nil _ (lowerFrom_ne_nil _ (by simp)), ih]
    simp

theorem trimChars_getLast? {cs : List Char} {c : Char} (h : (trimChars cs).getLast? = some c) :
    isBlank c = false := by
  unfold trimChars at h
  rw [List.getLast?_reverse] at h
  obtain ⟨rest, hrest⟩ := List.head?_eq_some_iff.1 h
  exact dropBlanks_eq_cons hrest

theorem toList_formatResource (s : String) :
    (formatResource s).toList =
      (lowerFrom [] (trimChars s.toList)).map fun c => if c = ' ' then '_' else c := by
  simp [formatResource, lower, trim]

theorem trimChars_ne_nil {s : String} (h : trim s ≠ "") : trimChars s.toList ≠ [] := by
  intro hnil
  apply h
  simp [trim, hnil]

theorem formatResource_ne_empty {s : String} (h : trim s ≠ "") : formatResource s ≠ "" := by
  intro hempty
  have hnil := congrArg String.toList hempty
  rw [toList_formatResource, String.toList_empty, List.map_eq_nil_iff] at hnil
  exact lowerFrom_ne_nil [] (trimChars_ne_nil h) hnil

/-- **The formatted form of a trimmed text never ends with a line feed**: the last character
left by trimming is not blank, and lower case and the spaces made underscores give no line
feed from it. -/
theorem formatResource_getLast? {s : String} (h : trim s ≠ "") :
    (formatResource s).toList.getLast? ≠ some '\n' := by
  obtain ⟨t, c, ht⟩ :=
    (List.eq_nil_or_concat (trimChars s.toList)).resolve_left (trimChars_ne_nil h)
  rw [List.concat_eq_append] at ht
  have hlast : (trimChars s.toList).getLast? = some c := by
    rw [ht]
    simp
  have hc : isBlank c = false := trimChars_getLast? hlast
  obtain ⟨d, hd⟩ := List.getLast?_isSome.2 (lowerAt_ne_nil (t.reverse ++ []) c []) |>
    Option.isSome_iff_exists.1
  have hdn : d ≠ '\n' := by
    rintro rfl
    rw [lowerAt_getLast? hd] at hc
    cases hc
  rw [toList_formatResource, ht, List.getLast?_map, lowerFrom_append_getLast?, hd]
  intro hlast
  simp only [Option.map_some, Option.some.injEq] at hlast
  split at hlast
  · cases hlast
  · exact hdn hlast

/-- **Where a trimmed text is formatted, the pattern matches as if `$` were the end only.** -/
theorem matchesResourcePattern_iff {s : String} (h : trim s ≠ "") :
    MatchesResourcePattern (formatResource s) ↔ IsResourceName (formatResource s) := by
  refine ⟨fun hm => ?_, .inl⟩
  rcases hm with hname | ⟨b, -, hb⟩
  · exact hname
  · -- a formatted text ending with the line feed of `b ++ "\n"` contradicts the lemma above
    exfalso
    apply formatResource_getLast? h
    rw [hb]
    simp

/-! ## §3 — What normalisation returns -/

theorem underscoreSpaces_lower_trim (s : String) :
    underscoreSpaces (lower (trim s)) = formatResource s := by
  rw [← String.toList_inj, toList_formatResource]
  simp [underscoreSpaces, underscoreSpace, lower, trim]

/-- **What normalisation returns**: the formatted form, when the trimmed text is not empty and
that form is a resource name. -/
theorem normalizeResource_eq_ok_iff {s r : String} :
    normalizeResource s = .ok r ↔
      trim s ≠ "" ∧ IsResourceName (formatResource s) ∧ r = formatResource s := by
  by_cases ht : trim s = ""
  · simp [normalizeResource, ht]
  have hname : IsResourceName (formatResource s) ↔ _ := and_iff_right (formatResource_ne_empty ht)
  simp only [normalizeResource, underscoreSpaces_lower_trim, String.isEmpty_iff, ht, if_false,
    ne_eq, not_false_eq_true, true_and, hname]
  by_cases hall : (formatResource s).toList.all isResourceNameChar = true
  · simp [hall, eq_comm]
  · simp [hall]

theorem trim_of_isResourceName {r : String} (h : IsResourceName r) : trim r = r := by
  rw [trim, trimChars_of_not_blank fun c hc => isBlank_of_isResourceNameChar (h.char hc),
    String.ofList_toList]

theorem formatResource_of_isResourceName {r : String} (h : IsResourceName r) :
    formatResource r = r := by
  -- a capital sigma is no character of a resource name
  have hsigma : 'Σ' ∉ r.toList := fun hm => absurd (h.char hm) (by decide)
  rw [← String.toList_inj, toList_formatResource,
    trimChars_of_not_blank fun c hc => isBlank_of_isResourceNameChar (h.char hc),
    lowerFrom_of_not_sigma hsigma,
    List.flatMap_congr fun c hc => lowerChar_of_isResourceNameChar (h.char hc),
    List.flatMap_singleton']
  exact List.map_congr_left (fun c hc => underscoreSpace_of_isResourceNameChar (h.char hc)) |>.trans
    (List.map_id _)

/-- **A resource name normalises to itself.** -/
theorem normalizeResource_self {r : String} (h : IsResourceName r) :
    normalizeResource r = .ok r := by
  have hfmt : formatResource r = r := formatResource_of_isResourceName h
  have htrim : trim r ≠ "" := by
    rw [trim_of_isResourceName h]
    exact h.1
  rw [normalizeResource_eq_ok_iff, hfmt]
  exact ⟨htrim, h, rfl⟩

/-! ## §4 — Normalisation is a normaliser -/

/-- **Resource names are the normal forms of normalisation.** It succeeds exactly when the
trimmed text is not empty and its formatted form is a resource name, whether `$` is read as the
end of the text or, as `re.match` reads it, also before a final line feed. Its result is that
form, a resource name and its own normal form, so the bundle built from the name a handler
reports is the bundle of the text it was given. -/
theorem normalizeResource_normal_form (s : String) :
    ((∃ r, normalizeResource s = .ok r) ↔ trim s ≠ "" ∧ IsResourceName (formatResource s)) ∧
    ((∃ r, normalizeResource s = .ok r) ↔
      trim s ≠ "" ∧ MatchesResourcePattern (formatResource s)) ∧
    ∀ r, normalizeResource s = .ok r →
      r = formatResource s ∧ IsResourceName r ∧ normalizeResource r = .ok r ∧
        permissionBundle r = .ok (crudPermissions r ++ [managementPermission r]) ∧
        permissionBundle r = permissionBundle s := by
  have hok : (∃ r, normalizeResource s = .ok r) ↔
      trim s ≠ "" ∧ IsResourceName (formatResource s) := by
    constructor
    · rintro ⟨r, hr⟩
      obtain ⟨ht, hname, -⟩ := normalizeResource_eq_ok_iff.1 hr
      exact ⟨ht, hname⟩
    · rintro ⟨ht, hname⟩
      exact ⟨_, normalizeResource_eq_ok_iff.2 ⟨ht, hname, rfl⟩⟩
  refine ⟨hok, hok.trans (and_congr_right fun ht => matchesResourcePattern_iff ht).symm,
    fun r hr => ?_⟩
  obtain ⟨-, hname, rfl⟩ := normalizeResource_eq_ok_iff.1 hr
  -- the bundle normalises the name it is given: a second time, to the same name
  have hself := normalizeResource_self hname
  refine ⟨rfl, hname, hself, ?_, ?_⟩
  · rw [permissionBundle, hself]
    rfl
  · rw [permissionBundle, permissionBundle, hself, hr]

/-- The Kelvin sign is no ASCII letter, but its lower case is `k`. -/
example : normalizeResource "\u212A" = .ok "k" := by
  have hfmt : formatResource "\u212A" = "k" :=
    String.toList_inj.1 (by rw [toList_formatResource]; decide)
  rw [normalizeResource_eq_ok_iff, hfmt]
  decide

end Bistro
