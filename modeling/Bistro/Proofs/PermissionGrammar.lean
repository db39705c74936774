import Bistro.Proofs.PermissionNames
import Bistro.Command.Rules

/-!
# Bistro — the permission grammar, rule by rule

A value offered as a permission name is checked in order: a falsy value is empty; a value that
is not a text has no prefix to test; a text that starts with `manage:`, `access:` or `full:` is
accepted whatever follows; a text of the standard shape `[a-z]+:[a-z_]+` (a pattern whose end
anchor also matches before one final line feed) is accepted when its action is one of the
fourteen standard actions and refused naming the action otherwise; any other text is malformed.
An accepted name's action is the text before its first colon and its resource the text after.

* `standardShape?_eq_some_iff` — the shape check on characters reads `StandardShape`, the shape
  stated as a decomposition;
* `ofString_special`, `ofString_standard`, `ofString_malformed` — the three rules of the grammar;
* `Verdict` — the rules as a relation between a value and its answer, written without the
  checking functions;
* `permission_name_verdict` — the answer to every value is exactly its verdict.
-/

namespace Bistro

namespace PermissionName

/-! ## §1 — Prefixes and the first colon -/

/-- A text is a prefix of another when the other is it followed by a rest. -/
theorem isPrefixOf_toList_iff {p s : String} :
    p.toList.isPrefixOf s.toList = true ↔ ∃ rest, s = p ++ rest := by
  rw [List.isPrefixOf_iff_prefix]
  constructor
  · rintro ⟨t, ht⟩
    refine ⟨String.ofList t, ?_⟩
    rw [← String.toList_inj, String.toList_append, String.toList_ofList, ht]
  · rintro ⟨rest, rfl⟩
    exact ⟨rest.toList, String.toList_append.symm⟩

/-- The actions of the special prefixes. -/
def specialActions : List String := ["manage", "access", "full"]

/-- **A special name** is one of the special actions, a colon, and anything. -/
theorem hasSpecialPrefix_iff {s : String} :
    hasSpecialPrefix s = true ↔ ∃ w ∈ specialActions, ∃ rest, s = w ++ ":" ++ rest := by
  simp only [hasSpecialPrefix, specialPrefixes, List.any_cons, List.any_nil, Bool.or_false,
    Bool.or_eq_true, isPrefixOf_toList_iff, specialActions, List.mem_cons, List.not_mem_nil,
    or_false, exists_eq_or_imp, exists_eq_left]
  simp

/-- A name whose text is `w`, a colon and `rest`, with no colon in `w`, has the action `w` and
the resource `rest`. -/
theorem action_resource_of_split {s w rest : String} (hs : s = w ++ ":" ++ rest)
    (hw : ':' ∉ w.toList) :
    (PermissionName.mk s).action = w ∧ (PermissionName.mk s).resource = rest := by
  have hl : s.toList = w.toList ++ ':' :: rest.toList := by
    simp [hs, String.toList_append]
  have hpos : ∀ c ∈ w.toList, decide (c ≠ ':') = true := by
    intro c hc
    simp only [ne_eq, decide_eq_true_eq]
    rintro rfl
    exact hw hc
  have htake : s.toList.takeWhile (· ≠ ':') = w.toList := by
    rw [hl, List.takeWhile_append_of_pos hpos, List.takeWhile_cons_of_neg (by simp),
      List.append_nil]
  have hdrop : s.toList.dropWhile (· ≠ ':') = ':' :: rest.toList := by
    rw [hl, List.dropWhile_append_of_pos hpos, List.dropWhile_cons_of_neg (by simp)]
  constructor
  · show String.ofList (s.toList.takeWhile (· ≠ ':')) = w
    rw [htake, String.ofList_toList]
  · rw [PermissionName.resource]
    simp only [hdrop, String.ofList_toList]

/-! ## §2 — The standard shape -/

/-- Dropping the longest prefix of a property drops exactly its length. -/
theorem drop_length_takeWhile {p : Char → Bool} (cs : List Char) :
    cs.drop (cs.takeWhile p).length = cs.dropWhile p := by
  calc cs.drop (cs.takeWhile p).length
      = (cs.takeWhile p ++ cs.dropWhile p).drop (cs.takeWhile p).length := by
        rw [List.takeWhile_append_dropWhile]
    _ = cs.dropWhile p := List.drop_left

/-- The longest prefix of a property stops at the first character without it. -/
theorem takeWhile_append_stop {p : Char → Bool} {a r : List Char} {d : Char}
    (ha : ∀ c ∈ a, p c = true) (hd : p d = false) :
    (a ++ d :: r).takeWhile p = a ∧ (a ++ d :: r).dropWhile p = d :: r := by
  constructor
  · rw [List.takeWhile_append_of_pos ha, List.takeWhile_cons_of_neg (by simp [hd]),
      List.append_nil]
  · rw [List.dropWhile_append_of_pos ha, List.dropWhile_cons_of_neg (by simp [hd])]

/-- **The standard shape** `[a-z]+:[a-z_]+`, optionally followed by one line feed: an action of
lower-case letters, a colon, and a resource of lower-case letters and underscores, the line feed
included in the resource. -/
def StandardShape (cs action resource : List Char) : Prop :=
  cs = action ++ ':' :: resource ∧ action ≠ [] ∧ (∀ c ∈ action, isLowerLetter c = true) ∧
    ∃ body, body ≠ [] ∧ (∀ c ∈ body, isResourceChar c = true) ∧
      (resource = body ∨ resource = body ++ ['\n'])

/-- **The shape check reads the standard shape**: it names the action exactly when the text
has that shape. -/
theorem standardShape?_eq_some_iff {cs a : List Char} :
    standardShape? cs = some a ↔ ∃ r, StandardShape cs a r := by
  constructor
  · intro h
    unfold standardShape? at h
    simp only [drop_length_takeWhile] at h
    split at h
    · rename_i r hr
      split_ifs at h with hcond
      cases h
      simp only [Bool.and_eq_true, Bool.not_eq_true', List.isEmpty_eq_false_iff, Bool.or_eq_true,
        List.isEmpty_iff, beq_iff_eq] at hcond
      obtain ⟨⟨hact, hres⟩, htail⟩ := hcond
      -- the text is the action, the colon, and the resource and what follows it
      have hcs : cs = cs.takeWhile isLowerLetter ++ ':' :: r := by
        rw [← hr, List.takeWhile_append_dropWhile]
      have hr' : r = r.takeWhile isResourceChar ++ r.dropWhile isResourceChar :=
        List.takeWhile_append_dropWhile.symm
      refine ⟨r, hcs, hact, fun c hc => List.mem_takeWhile_imp hc, r.takeWhile isResourceChar,
        hres, fun c hc => List.mem_takeWhile_imp hc, ?_⟩
      rcases htail with htail | htail
      · rw [htail, List.append_nil] at hr'
        exact .inl hr'
      · rw [htail] at hr'
        exact .inr hr'
    · cases h
  · rintro ⟨r, rfl, hact, hletters, body, hbody, hchars, hr⟩
    obtain ⟨htake, -⟩ := takeWhile_append_stop (r := r) hletters (d := ':') (by decide)
    unfold standardShape?
    simp only [htake, List.drop_left]
    rcases hr with rfl | rfl
    · simp [List.takeWhile_eq_self_iff.2 hchars, hact, hbody]
    · obtain ⟨htake', -⟩ := takeWhile_append_stop (r := []) hchars (d := '\n') (by decide)
      simp [htake', hact, hbody]

/-! ## §3 — The verdict on any value -/

/-- A special name: one of the special actions, a colon, and anything. -/
def Special (s : String) : Prop := ∃ w ∈ specialActions, ∃ rest, s = w ++ ":" ++ rest

/-- The answer of an accepted name: its text, action, resource, whether it is special, and its
description. -/
def answer (s action resource : String) (special : Bool) (description : String) : Json :=
  .obj [("value", .str s), ("action", .str action), ("resource", .str resource),
    ("is_special", .bool special), ("describe", .str description), ("str", .str s)]

/-- **The verdict on a value offered as a permission name**, rule by rule: a falsy value is
empty; a truthy value that is not a text has no `startswith`; a special name is accepted with
the text before its first colon as action and the rest as resource; a text of the standard shape
is accepted when its action is standard, its resource's underscores read as spaces in its
description, and refused naming the action otherwise; any other text is malformed. -/
inductive Verdict : Json → Except Failure Json → Prop
  | empty {v : Json} : v.isFalsy = true →
      Verdict v (.error (.valueError "permission name cannot be empty"))
  | notText {v : Json} : v.isFalsy = false → (∀ s, v ≠ .str s) →
      Verdict v (.error (.attributeError
        ("'" ++ v.typeName ++ "' object has no attribute 'startswith'")))
  | special {s w rest : String} : w ∈ specialActions → s = w ++ ":" ++ rest →
      Verdict (.str s) (.ok (answer s w rest true ("Special permission to " ++ w ++ " " ++ rest)))
  | standard {s : String} {a r : List Char} : ¬ Special s → StandardShape s.toList a r →
      String.ofList a ∈ standardActions →
      Verdict (.str s) (.ok (answer s (String.ofList a) (String.ofList r) false
        ("Permission to " ++ String.ofList a ++ " " ++ label (String.ofList r))))
  | malformed {s : String} : s ≠ "" → ¬ Special s → (∀ a r, ¬ StandardShape s.toList a r) →
      Verdict (.str s) (.error (.valueError
        "permission must follow format 'action:resource' (e.g., 'read:user')"))
  | unknownAction {s : String} {a r : List Char} : ¬ Special s → StandardShape s.toList a r →
      String.ofList a ∉ standardActions →
      Verdict (.str s) (.error (.valueError ("invalid action '" ++ String.ofList a ++
        "', must be one of: " ++ ", ".intercalate standardActions)))

/-- A text the grammar accepts is answered with its name. -/
theorem permissionName_of_ok {s : String} {p : PermissionName} (h : ofString s = .ok p) :
    Rules.permissionName [("value", .str s)] = .ok (Rules.permissionJson p) := by
  have hs : s.isEmpty = false := by
    cases he : s.isEmpty
    · rfl
    · simp [ofString, he] at h
  simp [Rules.permissionName, Rules.arg, Json.isFalsy, hs, h]

/-- A text the grammar refuses is answered with the rule's message. -/
theorem permissionName_of_error {s : String} {e : PermissionNameError} (h : ofString s = .error e) :
    Rules.permissionName [("value", .str s)] = .error (.valueError e.message) := by
  cases he : s.isEmpty
  · simp [Rules.permissionName, Rules.arg, Json.isFalsy, he, h]
  · have : e = .empty := by simpa [ofString, he] using h.symm
    simp [Rules.permissionName, Rules.arg, Json.isFalsy, he, this]

/-- The answer of a name split at its first colon into `w` and `rest`. -/
theorem permissionJson_split {s w rest : String} (hs : s = w ++ ":" ++ rest)
    (hw : ':' ∉ w.toList) :
    Rules.permissionJson ⟨s⟩ = answer s w rest (hasSpecialPrefix s)
      (if hasSpecialPrefix s then "Special permission to " ++ w ++ " " ++ rest
        else "Permission to " ++ w ++ " " ++ label rest) := by
  obtain ⟨hact, hres⟩ := action_resource_of_split hs hw
  unfold Rules.permissionJson answer describe isSpecial
  rw [hact, hres]

/-- A special action has no colon. -/
theorem colon_not_mem_special {w : String} (hw : w ∈ specialActions) : ':' ∉ w.toList := by
  simp only [specialActions, List.mem_cons, List.not_mem_nil, or_false] at hw
  rcases hw with rfl | rfl | rfl <;> decide

/-- The action of the standard shape has no colon. -/
theorem colon_not_mem_action {cs a r : List Char} (h : StandardShape cs a r) : ':' ∉ a := by
  intro hc
  have := h.2.2.1 ':' hc
  simp [isLowerLetter] at this

theorem StandardShape.split {s : String} {a r : List Char} (h : StandardShape s.toList a r) :
    s = String.ofList a ++ ":" ++ String.ofList r := by
  rw [← String.toList_inj, String.toList_append, String.toList_append, String.toList_ofList,
    String.toList_ofList, h.1]
  simp

/-! ## §4 — The three rules of the grammar -/

theorem hasSpecialPrefix_eq_false {s : String} (hns : ¬ Special s) : hasSpecialPrefix s = false := by
  cases h : hasSpecialPrefix s
  · rfl
  · exact absurd (hasSpecialPrefix_iff.1 h) hns

theorem isEmpty_of_toList {s : String} {c : Char} {cs : List Char} (h : s.toList = c :: cs) :
    s.isEmpty = false := by
  cases he : s.isEmpty
  · rfl
  · rw [String.isEmpty_iff.1 he] at h
    cases h

/-- **A special name is accepted**, whatever follows its prefix. -/
theorem ofString_special {s : String} (h : Special s) : ofString s = .ok ⟨s⟩ := by
  have hsp := hasSpecialPrefix_iff.2 h
  obtain ⟨w, hw, rest, rfl⟩ := h
  have hne : (w ++ ":" ++ rest).isEmpty = false := by
    simp only [specialActions, List.mem_cons, List.not_mem_nil, or_false] at hw
    rcases hw with rfl | rfl | rfl <;> simp
  simp [ofString, hsp, hne]

/-- **A name of the standard shape** is accepted when its action is standard, and refused
naming the action otherwise. -/
theorem ofString_standard {s : String} {a r : List Char} (hns : ¬ Special s)
    (hr : StandardShape s.toList a r) :
    ofString s = if String.ofList a ∈ standardActions then .ok ⟨s⟩
      else .error (.unknownAction (String.ofList a)) := by
  have hne : s.isEmpty = false := by
    obtain ⟨hs, hact, -⟩ := hr
    obtain ⟨c, cs, rfl⟩ := List.exists_cons_of_ne_nil hact
    exact isEmpty_of_toList (hs.trans (List.cons_append ..))
  have hshape : standardShape? s.toList = some a := standardShape?_eq_some_iff.2 ⟨r, hr⟩
  simp only [ofString, hne, hasSpecialPrefix_eq_false hns, hshape, List.contains_iff_mem]
  rfl

example : (PermissionName.ofString "read:menu\n").toBool = true := by decide

example : PermissionName.ofString "fly:plane" = .error (.unknownAction "fly") := by rfl

/-- **Any other text is malformed.** -/
theorem ofString_malformed {s : String} (hne : s ≠ "") (hns : ¬ Special s)
    (hno : ∀ a r, ¬ StandardShape s.toList a r) : ofString s = .error .malformed := by
  have hshape : standardShape? s.toList = none := by
    cases h : standardShape? s.toList with
    | none => rfl
    | some a =>
      obtain ⟨r, hr⟩ := standardShape?_eq_some_iff.1 h
      exact absurd hr (hno a r)
  have he : s.isEmpty = false := by simpa [String.isEmpty_iff] using hne
  simp [ofString, he, hasSpecialPrefix_eq_false hns, hshape]

example : PermissionName.ofString "read:menu\n\n" = .error .malformed := by rfl

/-! ## §5 — The answer is the verdict -/

/-- The answer of an accepted standard name. -/
theorem standard_answer {s : String} {a r : List Char} (hns : ¬ Special s)
    (hr : StandardShape s.toList a r) :
    Rules.permissionJson ⟨s⟩ = answer s (String.ofList a) (String.ofList r) false
      ("Permission to " ++ String.ofList a ++ " " ++ label (String.ofList r)) := by
  have hw : ':' ∉ (String.ofList a).toList := by
    rw [String.toList_ofList]
    exact colon_not_mem_action hr
  rw [permissionJson_split hr.split hw, hasSpecialPrefix_eq_false hns]
  rfl

/-- **Every verdict is the answer**: the rule that the verdict names is the one that answers. -/
theorem Verdict.answer_eq {v : Json} {x : Except Failure Json} (h : Verdict v x) :
    Rules.permissionName [("value", v)] = x := by
  cases h with
  | empty hf =>
    simp only [Rules.permissionName, Rules.arg, List.lookup, BEq.rfl, Option.getD_some, hf,
      if_true]
    rfl
  | notText hf hs =>
    cases v with
    | str s => exact absurd rfl (hs s)
    | _ => simp [Rules.permissionName, Rules.arg, hf]
  | special hw hs =>
    rw [permissionName_of_ok (ofString_special ⟨_, hw, _, hs⟩),
      permissionJson_split hs (colon_not_mem_special hw),
      hasSpecialPrefix_iff.2 ⟨_, hw, _, hs⟩]
    rfl
  | standard hns hr ha =>
    have hof := ofString_standard hns hr
    rw [if_pos ha] at hof
    rw [permissionName_of_ok hof, standard_answer hns hr]
  | malformed hne hns hno =>
    rw [permissionName_of_error (ofString_malformed hne hns hno)]
    rfl
  | unknownAction hns hr ha =>
    have hof := ofString_standard hns hr
    rw [if_neg ha] at hof
    rw [permissionName_of_error hof]
    rfl

/-- Every value has a verdict: the rules of the grammar cover every value. -/
theorem Verdict.exists (v : Json) : ∃ x, Verdict v x := by
  cases hf : v.isFalsy
  · by_cases htext : ∃ s, v = .str s
    · obtain ⟨s, rfl⟩ := htext
      have hne : s ≠ "" := by simpa [Json.isFalsy] using hf
      by_cases hsp : Special s
      · obtain ⟨w, hw, rest, hs⟩ := hsp
        exact ⟨_, .special hw hs⟩
      by_cases hshape : ∃ a r, StandardShape s.toList a r
      · obtain ⟨a, r, hr⟩ := hshape
        by_cases ha : String.ofList a ∈ standardActions
        · exact ⟨_, .standard hsp hr ha⟩
        · exact ⟨_, .unknownAction hsp hr ha⟩
      · push Not at hshape
        exact ⟨_, .malformed hne hsp hshape⟩
    · push Not at htext
      exact ⟨_, .notText hf htext⟩
  · exact ⟨_, .empty hf⟩

/-- **A permission name answers exactly its verdict**: for every value, the answer is `x` if and
only if the grammar's rules give `x`. -/
theorem permission_name_verdict (v : Json) (x : Except Failure Json) :
    Rules.permissionName [("value", v)] = x ↔ Verdict v x := by
  constructor
  · rintro rfl
    obtain ⟨y, hy⟩ := Verdict.exists v
    rw [hy.answer_eq]
    exact hy
  · exact Verdict.answer_eq

end PermissionName

end Bistro
