import Mathlib
import Bistro.Json.Reader
import Bistro.Json.Writer

/-!
# Bistro — written JSON reads back

The service writes JSON with its members sorted by key, `", "` between items, `": "` after keys,
and every character outside printable ASCII escaped; its reader takes that text and more. This
module proves that reading gives back what was written, for the values the service signs into
its tokens: objects with distinct keys whose members are null, truth values, integers, texts or
arrays of those.

* §1 code units in hexadecimal (`JsonWriter.hex4?_hex4`) and escapes: each written character
  reads back as itself (`stringBody_escapeChar`), so a quoted text reads back as the text
  (`string_quote`);
* §2 a sign and decimal digits read back as the integer (`number_digits`);
* §3 scalars and arrays of scalars (`value_scalar`, `value_flat`), one item at a time
  (`items_last`, `items_next`, `items_scalars`);
* §4 objects, one member at a time (`members_last`, `members_next`, `members_fields`). Sorting by
  key reorders the members (`sortByKey_renderFields`) and the reader keeps distinct keys as they
  come (`Json.ofFields_of_nodup`), so a written object reads back as a reordering of its members
  (`Json.parse_render_obj`), in which each key finds the value it had (`lookup_eq_of_perm`).

Every reading lemma holds whatever follows the text read, so the lemmas compose as the writer
does: a value, then a comma or a closing bracket, then the rest.
-/

namespace Bistro

/-! ## §1 — Texts -/

namespace JsonWriter

theorem hexValue?_digitChar {d : Nat} (hd : d < 16) :
    JsonReader.hexValue? (Nat.digitChar d) = some d := by
  rcases d with _ | _ | _ | _ | _ | _ | _ | _ | _ | _ | _ | _ | _ | _ | _ | _ | d
  all_goals first | rfl | omega

theorem toDigits_sixteen {n : Nat} (hn : n < 0x10000) :
    List.replicate (4 - (Nat.toDigits 16 n).length) '0' ++ Nat.toDigits 16 n =
      [Nat.digitChar (n / 0x1000), Nat.digitChar (n / 0x100 % 16), Nat.digitChar (n / 16 % 16),
        Nat.digitChar (n % 16)] := by
  have h16 : (1 : Nat) < 16 := by decide
  by_cases h1 : n < 16
  · rw [Nat.toDigits_of_lt_base h1]
    have : n / 0x1000 = 0 ∧ n / 0x100 % 16 = 0 ∧ n / 16 % 16 = 0 ∧ n % 16 = n := by omega
    simp [this]
  by_cases h2 : n < 0x100
  · rw [Nat.toDigits_of_base_le h16 (by omega), Nat.toDigits_of_lt_base (by omega)]
    have : n / 0x1000 = 0 ∧ n / 0x100 % 16 = 0 ∧ n / 16 % 16 = n / 16 := by omega
    simp [this]
  by_cases h3 : n < 0x1000
  · rw [Nat.toDigits_of_base_le h16 (by omega), Nat.toDigits_of_base_le h16 (by omega),
      Nat.toDigits_of_lt_base (by omega)]
    have : n / 0x1000 = 0 ∧ n / 0x100 % 16 = n / 16 / 16 := by omega
    simp [this]
  · rw [Nat.toDigits_of_base_le h16 (by omega), Nat.toDigits_of_base_le h16 (by omega),
      Nat.toDigits_of_base_le h16 (by omega), Nat.toDigits_of_lt_base (by omega)]
    have : n / 0x1000 = n / 16 / 16 / 16 ∧ n / 0x100 % 16 = n / 16 / 16 % 16 := by omega
    simp [this]

theorem hex4_eq {n : Nat} (hn : n < 0x10000) :
    hex4 n = [Nat.digitChar (n / 0x1000), Nat.digitChar (n / 0x100 % 16),
      Nat.digitChar (n / 16 % 16), Nat.digitChar (n % 16)] :=
  toDigits_sixteen hn

theorem hex4_length {n : Nat} (hn : n < 0x10000) : (hex4 n).length = 4 := by
  rw [hex4_eq hn]
  rfl

theorem hex4?_hex4 {n : Nat} (hn : n < 0x10000) : JsonReader.hex4? (hex4 n) = some n := by
  rw [hex4_eq hn]
  simp only [JsonReader.hex4?, hexValue?_digitChar (show n / 0x1000 < 16 by omega),
    hexValue?_digitChar (show n / 0x100 % 16 < 16 by omega),
    hexValue?_digitChar (show n / 16 % 16 < 16 by omega),
    hexValue?_digitChar (show n % 16 < 16 by omega)]
  simp only [Option.bind_eq_bind, Option.bind_some, Option.pure_def, Option.some.injEq]
  omega

end JsonWriter

open JsonWriter

namespace JsonReader

theorem charOf_toNat (c : Char) : charOf c.toNat = c := by
  have hc : Nat.isValidChar c.toNat := c.valid
  unfold Nat.isValidChar at hc
  unfold charOf
  rw [if_pos hc]
  exact Char.ofNat_toNat c

section Escapes

variable (begin fuel pos : Nat) (more acc : List Char)

variable {c : Char}

theorem stringBody_printable (hq : c ≠ '"') (hb : c ≠ '\\') (hp : 32 ≤ c.toNat) :
    stringBody begin (fuel + 1) ⟨c :: more, pos⟩ acc =
      stringBody begin fuel ⟨more, pos + 1⟩ (c :: acc) := by
  simp [stringBody, advance, show ¬ c.toNat ≤ 0x1F by omega]

theorem stringBody_unit (hbmp : c.toNat < 0x10000) (hmore : more ≠ []) :
    stringBody begin (fuel + 1) ⟨'\\' :: 'u' :: (hex4 c.toNat ++ more), pos⟩ acc =
      stringBody begin fuel ⟨more, pos + 6⟩ (c :: acc) := by
  have hv : Nat.isValidChar c.toNat := c.valid
  unfold Nat.isValidChar at hv
  obtain ⟨m, more, rfl⟩ := List.exists_cons_of_ne_nil hmore
  -- the digits read back, and a character is no surrogate, so no second unit is looked for
  have hsur : ∀ k, ¬ (0xD800 ≤ c.toNat ∧ c.toNat ≤ 0xDBFF ∧ k) := fun _ h => by omega
  have hlong : ¬ 4 + (more.length + 1) ≤ 4 := by omega
  simp [stringBody, advance, hex4_length hbmp, hex4?_hex4 hbmp, hsur, hlong, charOf_toNat]

/-- A high and a low surrogate in a row read back as the one code point they stand for. -/
theorem stringBody_pair (hi lo : Nat) (hhi : 0xD800 ≤ hi ∧ hi ≤ 0xDBFF)
    (hlo : 0xDC00 ≤ lo ∧ lo ≤ 0xDFFF) (hmore : more ≠ []) :
    stringBody begin (fuel + 1)
        ⟨'\\' :: 'u' :: (hex4 hi ++ '\\' :: 'u' :: (hex4 lo ++ more)), pos⟩ acc =
      stringBody begin fuel ⟨more, pos + 12⟩
        (charOf (0x10000 + (hi - 0xD800) * 0x400 + (lo - 0xDC00)) :: acc) := by
  obtain ⟨m, more, rfl⟩ := List.exists_cons_of_ne_nil hmore
  have hhi4 : (hex4 hi).length = 4 := hex4_length (by omega)
  have hlo4 : (hex4 lo).length = 4 := hex4_length (by omega)
  simp only [stringBody, advance, List.length_append, List.length_cons, hhi4,
    hlo4, List.take_left' hhi4, List.drop_left' hhi4, List.take_left' hlo4,
    hex4?_hex4 (show hi < 0x10000 by omega), hex4?_hex4 (show lo < 0x10000 by omega)]
  rw [if_neg (by omega), if_pos ⟨hhi.1, hhi.2, by omega⟩]
  dsimp only
  rw [if_pos hlo]
  simp [List.drop_append, List.drop_eq_nil_of_le, hhi4, hlo4]

/-- The seven characters with a short escape read back. -/
theorem stringBody_short_escape (c : Char)
    (hc : c = '"' ∨ c = '\\' ∨ c = '\n' ∨ c = '\r' ∨ c = '\t' ∨ c = '\x08' ∨ c = '\x0c') :
    stringBody begin (fuel + 1) ⟨escapeChar c ++ more, pos⟩ acc =
      stringBody begin fuel ⟨more, pos + (escapeChar c).length⟩ (c :: acc) := by
  rcases hc with rfl | rfl | rfl | rfl | rfl | rfl | rfl
  all_goals simp [escapeChar, stringBody, advance]

theorem escapeChar_plain {c : Char}
    (hc : ¬ (c = '"' ∨ c = '\\' ∨ c = '\n' ∨ c = '\r' ∨ c = '\t' ∨ c = '\x08' ∨ c = '\x0c')) :
    escapeChar c = if 0x20 ≤ c.toNat ∧ c.toNat ≤ 0x7E then [c]
      else if c.toNat < 0x10000 then ['\\', 'u'] ++ hex4 c.toNat
      else ['\\', 'u'] ++ hex4 (0xD800 + (c.toNat - 0x10000) / 0x400) ++ ['\\', 'u'] ++
        hex4 (0xDC00 + (c.toNat - 0x10000) % 0x400) := by
  simp only [not_or] at hc
  obtain ⟨hq, hb, hn, hr, ht, h8, hf⟩ := hc
  simp only [escapeChar]

/-- Any other character reads back: printable as itself, else from one or two code units. -/
theorem stringBody_plain_escape (c : Char)
    (hc : ¬ (c = '"' ∨ c = '\\' ∨ c = '\n' ∨ c = '\r' ∨ c = '\t' ∨ c = '\x08' ∨ c = '\x0c'))
    (hmore : more ≠ []) :
    stringBody begin (fuel + 1) ⟨escapeChar c ++ more, pos⟩ acc =
      stringBody begin fuel ⟨more, pos + (escapeChar c).length⟩ (c :: acc) := by
  rw [escapeChar_plain hc]
  simp only [not_or] at hc
  by_cases hp : 0x20 ≤ c.toNat ∧ c.toNat ≤ 0x7E
  · rw [if_pos hp]
    exact stringBody_printable begin fuel pos more acc hc.1 hc.2.1 hp.1
  rw [if_neg hp]
  by_cases hbmp : c.toNat < 0x10000
  · rw [if_pos hbmp]
    simpa [hex4_length hbmp] using stringBody_unit begin fuel pos more acc hbmp hmore
  rw [if_neg hbmp]
  have hv : Nat.isValidChar c.toNat := c.valid
  unfold Nat.isValidChar at hv
  -- the two code units, named so that their digits are never computed
  obtain ⟨hi, hhi⟩ : ∃ hi, 0xD800 + (c.toNat - 0x10000) / 0x400 = hi := ⟨_, rfl⟩
  obtain ⟨lo, hlo⟩ : ∃ lo, 0xDC00 + (c.toNat - 0x10000) % 0x400 = lo := ⟨_, rfl⟩
  rw [hhi, hlo]
  have hjoin : 0x10000 + (hi - 0xD800) * 0x400 + (lo - 0xDC00) = c.toNat := by omega
  have hpair := stringBody_pair begin fuel pos more acc hi lo
    ⟨by omega, by omega⟩ ⟨by omega, by omega⟩ hmore
  rw [hjoin, charOf_toNat] at hpair
  simpa [hex4_length (show hi < 0x10000 by omega), hex4_length (show lo < 0x10000 by omega)]
    using hpair

/-- **One written character reads back as itself**, whatever follows it. -/
theorem stringBody_escapeChar (c : Char) (hmore : more ≠ []) :
    stringBody begin (fuel + 1) ⟨escapeChar c ++ more, pos⟩ acc =
      stringBody begin fuel ⟨more, pos + (escapeChar c).length⟩ (c :: acc) := by
  by_cases hc : c = '"' ∨ c = '\\' ∨ c = '\n' ∨ c = '\r' ∨ c = '\t' ∨ c = '\x08' ∨ c = '\x0c'
  · exact stringBody_short_escape begin fuel pos more acc c hc
  · exact stringBody_plain_escape begin fuel pos more acc c hc hmore

end Escapes

theorem escapeChar_ne_nil (c : Char) : escapeChar c ≠ [] := by
  by_cases hc : c = '"' ∨ c = '\\' ∨ c = '\n' ∨ c = '\r' ∨ c = '\t' ∨ c = '\x08' ∨ c = '\x0c'
  · rcases hc with rfl | rfl | rfl | rfl | rfl | rfl | rfl <;> simp [escapeChar]
  · rw [escapeChar_plain hc]
    split
    · exact List.cons_ne_nil _ _
    · split <;> exact List.cons_ne_nil _ _

/-- **The escaped characters of a text, then a quote, read back as the text**: the string ends at
that quote, whatever follows it. -/
theorem stringBody_escapes (begin : Nat) :
    ∀ (s : List Char) (fuel pos : Nat) (rest acc : List Char), s.length < fuel →
      ∃ pos', stringBody begin fuel ⟨s.flatMap escapeChar ++ '"' :: rest, pos⟩ acc =
        .ok (String.ofList (acc.reverse ++ s), ⟨rest, pos'⟩)
  | [], fuel + 1, pos, rest, acc, _ => ⟨pos + 1, by simp [stringBody, advance]⟩
  | c :: s, fuel + 1, pos, rest, acc, hlen => by
    rw [List.flatMap_cons, List.append_assoc,
      stringBody_escapeChar begin fuel pos _ acc c (by simp)]
    obtain ⟨pos', h⟩ := stringBody_escapes begin s fuel _ rest (c :: acc)
      (by simp at hlen; omega)
    exact ⟨pos', by simpa using h⟩

theorem length_le_flatMap_escapeChar (s : List Char) : s.length ≤ (s.flatMap escapeChar).length := by
  induction s with
  | nil => simp
  | cons c s ih =>
    have := List.length_pos_iff.2 (escapeChar_ne_nil c)
    simp only [List.flatMap_cons, List.length_append, List.length_cons]
    omega

theorem toList_quote (s : String) :
    (quote s).toList = '"' :: (s.toList.flatMap escapeChar ++ ['"']) := by
  simp [quote]

/-- **A quoted text reads back as the text**, whatever follows its closing quote. -/
theorem string_quote (s : String) (rest : List Char) (pos : Nat) :
    ∃ pos', string ⟨(quote s).toList ++ rest, pos⟩ = .ok (s, ⟨rest, pos'⟩) := by
  have hlen := length_le_flatMap_escapeChar s.toList
  have htext : (quote s).toList ++ rest = '"' :: (s.toList.flatMap escapeChar ++ '"' :: rest) := by
    simp [toList_quote]
  obtain ⟨pos', h⟩ := stringBody_escapes pos s.toList (((quote s).toList ++ rest).length + 1)
    (pos + 1) rest [] (by rw [htext]; simp only [List.length_cons, List.length_append]; omega)
  have hdrop : ((quote s).toList ++ rest).drop 1 = s.toList.flatMap escapeChar ++ '"' :: rest := by
    rw [htext]
    rfl
  refine ⟨pos', ?_⟩
  unfold string advance
  dsimp only
  rw [hdrop, h]
  simp

/-! ## §2 — Integers -/

/-- What may follow a value in written JSON: nothing, or a comma or a closing bracket. -/
def Stops (rest : List Char) : Prop := ∀ c ∈ rest.head?, c = ',' ∨ c = ']' ∨ c = '\x7d'

theorem Stops.comma (rest : List Char) : Stops (',' :: rest) := fun _ h =>
  .inl (Option.some.inj h).symm

theorem Stops.bracket (rest : List Char) : Stops (']' :: rest) := fun _ h =>
  .inr (.inl (Option.some.inj h).symm)

theorem Stops.brace (rest : List Char) : Stops ('\x7d' :: rest) := fun _ h =>
  .inr (.inr (Option.some.inj h).symm)

theorem takeWhile_isDigit_append {ds rest : List Char} (hds : ∀ c ∈ ds, c.isDigit = true)
    (hrest : Stops rest) : (ds ++ rest).takeWhile Char.isDigit = ds := by
  induction ds with
  | nil =>
    cases rest with
    | nil => rfl
    | cons c rest =>
      rcases hrest c rfl with rfl | rfl | rfl <;> rfl
  | cons d ds ih =>
    simp [hds d (by simp), ih (fun c hc => hds c (by simp [hc]))]

theorem digitsValue_toDigits (m : Nat) : digitsValue (Nat.toDigits 10 m) = m := by
  have h : digitsValue (Nat.toDigits 10 m) = Nat.ofDigitChars 10 (Nat.toDigits 10 m) 0 := by
    unfold digitsValue Nat.ofDigitChars
    congr 1
    funext acc c
    omega
  rw [h, Nat.ofDigitChars_ten_toDigits]

theorem toDigits_ten_cons (m : Nat) : ∃ d ds, Nat.toDigits 10 m = d :: ds ∧
    (m = 0 → d = '0' ∧ ds = []) ∧ (0 < m → '1' ≤ d ∧ d ≤ '9') := by
  induction m using Nat.strongRecOn with
  | ind m ih =>
    by_cases hm : m < 10
    · refine ⟨Nat.digitChar m, [], Nat.toDigits_of_lt_base hm, fun h => by simp [h], fun h => ?_⟩
      rcases m with _ | _ | _ | _ | _ | _ | _ | _ | _ | _ | m
      all_goals first | omega | decide
    · -- the leading digit is that of the number without its last digit
      obtain ⟨d, ds, hds, -, hlead⟩ := ih (m / 10) (by omega)
      refine ⟨d, ds ++ [Nat.digitChar (m % 10)], ?_, fun h => by omega, fun _ => hlead (by omega)⟩
      rw [Nat.toDigits_of_base_le (by decide) (by omega), hds, List.cons_append]

/-- **A sign and the decimal digits of a number read back as the integer**, when a comma, a
closing bracket or nothing follows them. -/
theorem number_digits (neg : Bool) (m : Nat) (rest : List Char) (pos : Nat) (hrest : Stops rest) :
    ∃ pos', number ⟨(if neg then ['-'] else []) ++ Nat.toDigits 10 m ++ rest, pos⟩ =
      .ok (.int (if neg then -(m : Int) else m), ⟨rest, pos'⟩) := by
  obtain ⟨d, ds, hdig, hzero, hlead⟩ := toDigits_ten_cons m
  have hall : ∀ c ∈ ds, c.isDigit = true := fun c hc =>
    Nat.isDigit_of_mem_toDigits (by decide) (by decide) (hdig ▸ List.mem_cons_of_mem d hc)
  have hvalue := digitsValue_toDigits m
  rw [hdig] at hvalue ⊢
  have hrun : (ds ++ rest).takeWhile Char.isDigit = ds := takeWhile_isDigit_append hall hrest
  -- the next character ends the number: no fraction and no exponent follow
  have hend : ∀ c ∈ rest.head?, c ≠ '.' ∧ c ≠ 'e' ∧ c ≠ 'E' := fun c hc => by
    rcases hrest c hc with rfl | rfl | rfl <;> decide
  rcases Nat.eq_zero_or_pos m with rfl | hpos
  · -- zero is the one number whose first digit is 0
    obtain ⟨rfl, rfl⟩ := hzero rfl
    cases rest with
    | nil => cases neg <;> simp [number, advance, digitsValue]
    | cons c rest =>
      obtain ⟨hdot, he, hE⟩ := hend c rfl
      cases neg <;> simp [number, advance, hdot, he, hE, digitsValue]
  · obtain ⟨h1, h9⟩ := hlead hpos
    have hd0 : d ≠ '0' := by
      rintro rfl
      exact absurd h1 (by decide)
    have hdm : d ≠ '-' := by
      rintro rfl
      exact absurd h1 (by decide)
    cases rest with
    | nil =>
      rw [List.append_nil] at hrun
      cases neg <;> simp [number, advance, hdm, h1, h9, hrun, hvalue]
    | cons c rest =>
      obtain ⟨hdot, he, hE⟩ := hend c rfl
      have hsign : List.drop (1 + (ds.length + 1)) ('-' :: d :: (ds ++ c :: rest)) = c :: rest := by
        rw [show 1 + (ds.length + 1) = ds.length + 2 by omega]
        simp
      cases neg <;> simp [number, advance, hdm, h1, h9, hrun, hdot, he, hE, hvalue, hsign]

theorem toList_toString_int (n : Int) : (toString n).toList =
    (if n < 0 then ['-'] else []) ++ Nat.toDigits 10 n.natAbs := by
  cases n with
  | ofNat m => simp [Int.repr, Nat.toList_repr]
  | negSucc k => simp [Int.repr, Nat.toList_repr, Int.negSucc_lt_zero]

end JsonReader

/-! ## §3 — Scalars and arrays -/

/-- A value written and read back with no double in it: null, a truth value, an integer or a
text. -/
def Json.IsScalar : Json → Prop
  | .null | .bool _ | .int _ | .str _ => True
  | _ => False

/-- A value written and read back with no double and no nesting: a scalar, or an array of
scalars. -/
def Json.IsFlat : Json → Prop
  | .arr xs => ∀ x ∈ xs, x.IsScalar
  | v => v.IsScalar

namespace JsonReader

theorem skip_of_head {t : List Char} {pos : Nat} (h : ∀ c ∈ t.head?, isSep c = false) :
    skip ⟨t, pos⟩ = ⟨t, pos⟩ := by
  cases t with
  | nil => rfl
  | cons c t => simp [skip, h c rfl]

/-- **A scalar reads back as itself**, when a comma, a closing bracket or nothing follows it. -/
theorem value_scalar {v : Json} (hv : v.IsScalar) (fuel pos : Nat) (rest : List Char)
    (hrest : Stops rest) :
    ∃ pos', value (fuel + 1) ⟨v.render.toList ++ rest, pos⟩ = .ok (v, ⟨rest, pos'⟩) := by
  cases v with
  | null => simp [Json.render, value, startsWith, advance]
  | bool b => cases b <;> simp [Json.render, value, startsWith, advance]
  | str s =>
    obtain ⟨pos', h⟩ := string_quote s rest pos
    refine ⟨pos', ?_⟩
    have htext : (quote s).toList ++ rest = '"' :: (s.toList.flatMap escapeChar ++ '"' :: rest) := by
      simp [toList_quote]
    rw [Json.render, htext]
    simp only [value]
    rw [← htext, h]
    rfl
  | int n =>
    obtain ⟨pos', h⟩ := number_digits (decide (n < 0)) n.natAbs rest pos hrest
    have hint : (if decide (n < 0) then -(n.natAbs : Int) else n.natAbs) = n := by
      by_cases hn : n < 0
      · rw [if_pos (decide_eq_true hn), Int.ofNat_natAbs_of_nonpos hn.le, Int.neg_neg]
      · rw [if_neg (by simpa using hn), Int.natAbs_of_nonneg (by omega)]
    rw [hint] at h
    refine ⟨pos', ?_⟩
    -- the first character is a sign or a digit, which no other kind of value starts with
    obtain ⟨d, ds, hdig, -, -⟩ := toDigits_ten_cons n.natAbs
    have hd : d.isDigit = true :=
      Nat.isDigit_of_mem_toDigits (by decide) (by decide) (hdig ▸ List.mem_cons_self)
    have hne : d ≠ '"' ∧ d ≠ '\x7b' ∧ d ≠ '[' ∧ d ≠ 'n' ∧ d ≠ 't' ∧ d ≠ 'f' ∧ d ≠ 'N' ∧
        d ≠ 'I' ∧ d ≠ '-' := by
      refine ⟨?_, ?_, ?_, ?_, ?_, ?_, ?_, ?_, ?_⟩ <;> (rintro rfl; exact absurd hd (by decide))
    obtain ⟨h1, h2, h3, h4, h5, h6, h7, h8, h9⟩ := hne
    rw [Json.render, toList_toString_int, List.append_assoc]
    rw [List.append_assoc] at h
    rw [hdig] at h ⊢
    by_cases hn : n < 0
    · simp only [hn, decide_true, if_true] at h ⊢
      simpa [value, startsWith, h8.symm] using h
    · simp only [hn, decide_false, if_false, Bool.false_eq_true] at h ⊢
      simpa [value, startsWith, h1, h2, h3, h4.symm, h5.symm, h6.symm, h7.symm, h8.symm, h9.symm]
        using h
  | float x | arr xs | obj fs => exact hv.elim

theorem skip_space {t : List Char} {pos : Nat} (h : ∀ c ∈ t.head?, isSep c = false) :
    skip ⟨' ' :: t, pos⟩ = ⟨t, pos + 1⟩ := by
  cases t with
  | nil => rfl
  | cons c t =>
    have hc := h c rfl
    simp only [isSep, Bool.or_eq_false_iff, beq_eq_false_iff_ne, ne_eq] at hc
    simp [skip, isSep, hc]

/-- The first character of a scalar's text: no separator and no closing bracket. -/
theorem render_scalar_head {v : Json} (hv : v.IsScalar) :
    ∃ c t, v.render.toList = c :: t ∧ isSep c = false ∧ c ≠ ']' ∧ c ≠ '\x7d' := by
  cases v with
  | null => exact ⟨_, _, rfl, by decide, by decide, by decide⟩
  | bool b => cases b <;> exact ⟨_, _, rfl, by decide, by decide, by decide⟩
  | str s => exact ⟨_, _, toList_quote s, by decide, by decide, by decide⟩
  | int n =>
    obtain ⟨d, ds, hdig, -, -⟩ := toDigits_ten_cons n.natAbs
    have hd : d.isDigit = true :=
      Nat.isDigit_of_mem_toDigits (by decide) (by decide) (hdig ▸ List.mem_cons_self)
    rw [Json.render, toList_toString_int, hdig]
    by_cases hn : n < 0
    · exact ⟨'-', d :: ds, by simp [hn], by decide, by decide, by decide⟩
    · have hsep : isSep d = false := by
        simp only [isSep, Bool.or_eq_false_iff, beq_eq_false_iff_ne, ne_eq]
        refine ⟨⟨⟨?_, ?_⟩, ?_⟩, ?_⟩ <;> (rintro rfl; exact absurd hd (by decide))
      refine ⟨d, ds, by simp [hn], hsep, ?_, ?_⟩ <;> (rintro rfl; exact absurd hd (by decide))
  | float x | arr xs | obj fs => exact hv.elim

/-- The text of written items: their texts, a comma and a blank between each two. -/
def itemsText (xs : List Json) : List Char :=
  List.intercalate [',', ' '] (xs.map fun x => x.render.toList)

theorem value_scalar_of_pos {v : Json} (hv : v.IsScalar) {fuel : Nat} (pos : Nat) (rest : List Char)
    (hrest : Stops rest) (hfuel : 0 < fuel) :
    ∃ pos', value fuel ⟨v.render.toList ++ rest, pos⟩ = .ok (v, ⟨rest, pos'⟩) := by
  obtain ⟨fuel, rfl⟩ : ∃ f, fuel = f + 1 := ⟨fuel - 1, by omega⟩
  exact value_scalar hv fuel pos rest hrest

section ItemSteps

variable {fuel p : Nat} {c : Cursor} {acc : List Json} {first : Bool} {v : Json}

/-- The last item: read it, then the closing bracket. -/
theorem items_last {rest : List Char} (hhead : ∀ d ∈ c.rest.head?, d ≠ ']')
    (hval : value fuel c = .ok (v, ⟨']' :: rest, p⟩)) :
    items (fuel + 1) c acc first = .ok (.arr (v :: acc).reverse, ⟨rest, p + 1⟩) := by
  simp only [items]
  split
  · rename_i h
    exact absurd rfl (hhead _ (by simp [h]))
  · rw [hval]
    simp [skip, advance, isSep]

/-- An item that a comma and a blank follow: read it and go on after them. -/
theorem items_next {t : List Char} (ht : ∀ d ∈ t.head?, isSep d = false)
    (hhead : ∀ d ∈ c.rest.head?, d ≠ ']')
    (hval : value fuel c = .ok (v, ⟨',' :: ' ' :: t, p⟩)) :
    items (fuel + 1) c acc first = items fuel ⟨t, p + 2⟩ (v :: acc) false := by
  simp only [items]
  split
  · rename_i h
    exact absurd rfl (hhead _ (by simp [h]))
  · have hcomma : skip ⟨',' :: ' ' :: t, p⟩ = ⟨',' :: ' ' :: t, p⟩ := by simp [skip, isSep]
    rw [hval]
    simp [hcomma, advance, skip_space ht]

end ItemSteps

/-- **Written scalar items read back**, with fuel beyond the length of their text. -/
theorem items_scalars (rest : List Char) (hrest : Stops rest) :
    ∀ (xs : List Json), (∀ x ∈ xs, x.IsScalar) → xs ≠ [] →
      ∀ (fuel pos : Nat) (acc : List Json) (first : Bool), (itemsText xs).length < fuel →
        ∃ pos', items fuel ⟨itemsText xs ++ ']' :: rest, pos⟩ acc first =
          .ok (.arr (acc.reverse ++ xs), ⟨rest, pos'⟩)
  | [], _, hne, _, _, _, _, _ => absurd rfl hne
  | [x], hxs, _, fuel + 1, pos, acc, first, hfuel => by
    have hx := hxs x (by simp)
    obtain ⟨c, t, hct, -, hc, -⟩ := render_scalar_head hx
    have htext : itemsText [x] = x.render.toList := by simp [itemsText]
    rw [htext] at hfuel ⊢
    obtain ⟨pos', hval⟩ := value_scalar_of_pos hx pos (']' :: rest) (Stops.bracket rest)
      (show 0 < fuel by rw [hct] at hfuel; simp at hfuel; omega)
    refine ⟨pos' + 1, ?_⟩
    rw [items_last (by simp [hct, hc]) hval]
    simp
  | x :: y :: ys, hxs, _, fuel + 1, pos, acc, first, hfuel => by
    have hx := hxs x (by simp)
    obtain ⟨c, t, hct, -, hc, -⟩ := render_scalar_head hx
    obtain ⟨d, u, hdu, hd, -, -⟩ := render_scalar_head (hxs y (by simp))
    have htext : itemsText (x :: y :: ys) = x.render.toList ++ ',' :: ' ' :: itemsText (y :: ys) := by
      simp [itemsText, List.intercalate_cons_cons]
    have hnext : (itemsText (y :: ys)).head? = some d := by
      cases ys <;> simp [itemsText, hdu, List.intercalate_cons_cons]
    rw [htext] at hfuel ⊢
    simp only [List.length_append, List.length_cons] at hfuel
    obtain ⟨pos', hval⟩ := value_scalar_of_pos hx pos (',' :: ' ' :: (itemsText (y :: ys) ++ ']' :: rest))
      (Stops.comma _) (show 0 < fuel by rw [hct] at hfuel; simp at hfuel; omega)
    simp only [List.append_assoc, List.cons_append] at hval ⊢
    rw [items_next (by simp [hnext, hd]) (by simp [hct, hc]) hval]
    obtain ⟨pos'', h⟩ := items_scalars rest hrest (y :: ys) (fun z hz => hxs z (by simp_all))
      (by simp) fuel (pos' + 2) (x :: acc) false (by omega)
    exact ⟨pos'', by simpa using h⟩

theorem renderItems_eq (xs : List Json) : Json.renderItems xs = xs.map Json.render := by
  induction xs with
  | nil => simp [Json.renderItems]
  | cons x xs ih => simp [Json.renderItems, ih]

theorem toList_render_arr (xs : List Json) :
    (Json.render (.arr xs)).toList = '[' :: (itemsText xs ++ [']']) := by
  simp [Json.render, renderItems_eq, itemsText, Function.comp_def]

theorem itemsText_head {xs : List Json} (hxs : ∀ x ∈ xs, x.IsScalar)
    (rest : List Char) :
    ∀ d ∈ (itemsText xs ++ ']' :: rest).head?, isSep d = false := by
  cases xs with
  | nil => simp [itemsText, isSep]
  | cons x xs =>
    obtain ⟨c, t, hct, hc, -, -⟩ := render_scalar_head (hxs x (by simp))
    cases xs <;> simp [itemsText, hct, hc, List.intercalate_cons_cons]

/-- **A flat value reads back as itself**, with fuel beyond the length of its text, when a comma,
a closing bracket or nothing follows it. -/
theorem value_flat {v : Json} (hv : v.IsFlat) (fuel pos : Nat) (rest : List Char)
    (hrest : Stops rest) (hfuel : v.render.toList.length < fuel) :
    ∃ pos', value fuel ⟨v.render.toList ++ rest, pos⟩ = .ok (v, ⟨rest, pos'⟩) := by
  cases v with
  | arr xs =>
    -- the opening bracket, then the items
    obtain ⟨fuel, rfl⟩ : ∃ f, fuel = f + 1 := ⟨fuel - 1, by omega⟩
    rw [toList_render_arr] at hfuel ⊢
    simp only [List.length_cons, List.length_append] at hfuel
    have hstart : value (fuel + 1) ⟨'[' :: (itemsText xs ++ [']']) ++ rest, pos⟩ =
        items fuel ⟨itemsText xs ++ ']' :: rest, pos + 1⟩ [] true := by
      simp [value, advance, skip_of_head (itemsText_head hv rest)]
    rw [hstart]
    cases xs with
    | nil =>
      obtain ⟨fuel, rfl⟩ : ∃ f, fuel = f + 1 := ⟨fuel - 1, by omega⟩
      simp [itemsText, items, advance]
    | cons x xs =>
      obtain ⟨pos', h⟩ := items_scalars rest hrest (x :: xs) hv (by simp) fuel (pos + 1) [] true
        (by omega)
      exact ⟨pos', by simpa using h⟩
  | null => exact value_scalar_of_pos (v := .null) hv pos rest hrest (by omega)
  | bool b => exact value_scalar_of_pos (v := .bool b) hv pos rest hrest (by omega)
  | int n => exact value_scalar_of_pos (v := .int n) hv pos rest hrest (by omega)
  | str s => exact value_scalar_of_pos (v := .str s) hv pos rest hrest (by omega)
  | float x | obj fs => exact hv.elim

theorem render_flat_head {v : Json} (hv : v.IsFlat) :
    ∃ c t, v.render.toList = c :: t ∧ isSep c = false := by
  have hscalar : ∀ {w : Json}, w.IsScalar → ∃ c t, w.render.toList = c :: t ∧ isSep c = false :=
    fun hw => by
      obtain ⟨c, t, h, hc, -⟩ := render_scalar_head hw
      exact ⟨c, t, h, hc⟩
  cases v with
  | arr xs => exact ⟨'[', _, toList_render_arr xs, by decide⟩
  | null => exact hscalar (w := .null) hv
  | bool b => exact hscalar (w := .bool b) hv
  | int n => exact hscalar (w := .int n) hv
  | str s => exact hscalar (w := .str s) hv
  | float x | obj fs => exact hv.elim

/-! ## §4 — Objects -/

/-- The text of written members: each key quoted, a colon and a blank, then the value's text; a
comma and a blank between each two. -/
def fieldsText (gs : List (String × Json)) : List Char :=
  List.intercalate [',', ' '] (gs.map fun g => (quote g.1).toList ++ ':' :: ' ' :: g.2.render.toList)

section MemberSteps

variable {fuel p p' : Nat} {c : Cursor} {acc : List (String × Json)} {first : Bool} {k : String}
  {v : Json} {t : List Char}

/-- The last member: its key, a colon, its value, then the closing brace. -/
theorem members_last {rest : List Char} (hq : c.rest.head? = some '"')
    (ht : ∀ d ∈ t.head?, isSep d = false) (hkey : string c = .ok (k, ⟨':' :: ' ' :: t, p⟩))
    (hval : value fuel ⟨t, p + 2⟩ = .ok (v, ⟨'\x7d' :: rest, p'⟩)) :
    members (fuel + 1) c acc first = .ok (Json.ofFields ((k, v) :: acc).reverse, ⟨rest, p' + 1⟩) := by
  obtain ⟨r, hr⟩ : ∃ r, c.rest = '"' :: r := by
    cases h : c.rest with
    | nil => simp [h] at hq
    | cons d r => simp only [h, List.head?_cons, Option.some.injEq] at hq; exact ⟨r, hq ▸ rfl⟩
  have hcolon : skip ⟨':' :: ' ' :: t, p⟩ = ⟨':' :: ' ' :: t, p⟩ := by simp [skip, isSep]
  have hbrace : skip ⟨'\x7d' :: rest, p'⟩ = ⟨'\x7d' :: rest, p'⟩ := by simp [skip, isSep]
  simp only [members, hr, hkey, hcolon, advance, List.drop_one, List.tail_cons, skip_space ht, hval,
    hbrace]

/-- A member that a comma and a blank follow: read it and go on after them. -/
theorem members_next {t' : List Char} (hq : c.rest.head? = some '"')
    (ht : ∀ d ∈ t.head?, isSep d = false) (ht' : ∀ d ∈ t'.head?, isSep d = false)
    (hkey : string c = .ok (k, ⟨':' :: ' ' :: t, p⟩))
    (hval : value fuel ⟨t, p + 2⟩ = .ok (v, ⟨',' :: ' ' :: t', p'⟩)) :
    members (fuel + 1) c acc first = members fuel ⟨t', p' + 2⟩ ((k, v) :: acc) false := by
  obtain ⟨r, hr⟩ : ∃ r, c.rest = '"' :: r := by
    cases h : c.rest with
    | nil => simp [h] at hq
    | cons d r => simp only [h, List.head?_cons, Option.some.injEq] at hq; exact ⟨r, hq ▸ rfl⟩
  have hcolon : skip ⟨':' :: ' ' :: t, p⟩ = ⟨':' :: ' ' :: t, p⟩ := by simp [skip, isSep]
  have hcomma : skip ⟨',' :: ' ' :: t', p'⟩ = ⟨',' :: ' ' :: t', p'⟩ := by simp [skip, isSep]
  simp only [members, hr, hkey, hcolon, advance, List.drop_one, List.tail_cons, skip_space ht, hval,
    hcomma, skip_space ht']

end MemberSteps

theorem fieldsText_cons_cons (g g' : String × Json) (gs : List (String × Json)) :
    fieldsText (g :: g' :: gs) =
      (quote g.1).toList ++ ':' :: ' ' :: (g.2.render.toList ++ ',' :: ' ' :: fieldsText (g' :: gs)) := by
  simp [fieldsText, List.intercalate_cons_cons]

theorem fieldsText_head (gs : List (String × Json)) (hne : gs ≠ []) (rest : List Char) :
    (fieldsText gs ++ rest).head? = some '"' := by
  obtain ⟨g, gs, rfl⟩ := List.exists_cons_of_ne_nil hne
  cases gs <;> simp [fieldsText, toList_quote, List.intercalate_cons_cons]

/-- **Written members with flat values read back**, in their order, with fuel beyond the length of
their text. -/
theorem members_fields (rest : List Char) (gs : List (String × Json)) (hgs : ∀ g ∈ gs, g.2.IsFlat)
    (hne : gs ≠ []) :
    ∀ (fuel pos : Nat) (acc : List (String × Json)) (first : Bool), (fieldsText gs).length < fuel →
      ∃ pos', members fuel ⟨fieldsText gs ++ '\x7d' :: rest, pos⟩ acc first =
        .ok (Json.ofFields (acc.reverse ++ gs), ⟨rest, pos'⟩) := by
  -- one member read per round, the fuel and the text shrinking together
  induction gs with
  | nil => exact absurd rfl hne
  | cons g gs ih =>
    intro fuel pos acc first hfuel
    obtain ⟨k, v⟩ := g
    obtain ⟨fuel, rfl⟩ : ∃ f, fuel = f + 1 := ⟨fuel - 1, by omega⟩
    have hv : v.IsFlat := hgs (k, v) (by simp)
    obtain ⟨c, t, hct, hc⟩ := render_flat_head hv
    cases gs with
    | nil =>
      have htext : fieldsText [(k, v)] = (quote k).toList ++ ':' :: ' ' :: v.render.toList := by
        simp [fieldsText]
      rw [htext] at hfuel ⊢
      simp only [List.length_append, List.length_cons, toList_quote] at hfuel
      obtain ⟨p, hkey⟩ := string_quote k (':' :: ' ' :: (v.render.toList ++ '\x7d' :: rest)) pos
      obtain ⟨p', hval⟩ := value_flat hv fuel (p + 2) ('\x7d' :: rest) (Stops.brace rest)
        (by omega)
      simp only [List.append_assoc, List.cons_append] at hkey hval ⊢
      refine ⟨p' + 1, ?_⟩
      rw [members_last (by simp [toList_quote]) (by simp [hct, hc]) hkey hval]
      simp
    | cons g' gs =>
      rw [fieldsText_cons_cons] at hfuel ⊢
      simp only [List.length_append, List.length_cons, toList_quote] at hfuel
      have hnext := fieldsText_head (g' :: gs) (by simp) ('\x7d' :: rest)
      obtain ⟨p, hkey⟩ := string_quote k
        (':' :: ' ' :: (v.render.toList ++ ',' :: ' ' :: (fieldsText (g' :: gs) ++ '\x7d' :: rest)))
        pos
      obtain ⟨p', hval⟩ := value_flat hv fuel (p + 2)
        (',' :: ' ' :: (fieldsText (g' :: gs) ++ '\x7d' :: rest)) (Stops.comma _) (by omega)
      simp only [List.append_assoc, List.cons_append] at hkey hval ⊢
      rw [members_next (by simp [toList_quote]) (by simp [hct, hc]) (by simp [hnext, isSep]) hkey
        hval]
      obtain ⟨pos', h⟩ := ih (fun g hg => hgs g (by simp_all)) (by simp) fuel (p' + 2)
        ((k, v) :: acc) false (by omega)
      exact ⟨pos', by simpa using h⟩

end JsonReader

namespace Json

/-- Members whose keys are distinct are kept as they are, in their order. -/
theorem foldl_setField_of_nodup :
    ∀ (acc gs : List (String × Json)), ((acc ++ gs).map Prod.fst).Nodup →
      gs.foldl (fun acc kv => setField acc kv.1 kv.2) acc = acc ++ gs
  | acc, [], _ => by simp
  | acc, (k, v) :: gs, hnd => by
    -- the key is new, so setting it appends the member
    have hfresh : acc.any (·.1 == k) = false := by
      rw [List.map_append, List.map_cons, List.nodup_append] at hnd
      simp only [List.any_eq_false, beq_iff_eq]
      intro kv hkv hk
      exact hnd.2.2 kv.1 (List.mem_map_of_mem hkv) k (by simp) hk
    have hstep : setField acc k v = acc ++ [(k, v)] := by simp [setField, hfresh]
    simp only [List.foldl_cons]
    rw [hstep, foldl_setField_of_nodup (acc ++ [(k, v)]) gs (by simpa using hnd)]
    simp

theorem ofFields_of_nodup {gs : List (String × Json)} (h : (gs.map Prod.fst).Nodup) :
    ofFields gs = .obj gs := by
  unfold ofFields
  rw [foldl_setField_of_nodup [] gs (by simpa using h)]
  rfl

end Json

namespace JsonReader

theorem renderFields_eq (gs : List (String × Json)) :
    Json.renderFields gs = gs.map fun g => (g.1, g.2.render) := by
  induction gs with
  | nil => simp [Json.renderFields]
  | cons g gs ih => simp [Json.renderFields, ih]

/-- Inserting a written member among written members writes a reordering of them. -/
theorem insertSorted_renderFields (k : String) (v : Json) :
    ∀ gs : List (String × Json), ∃ hs, hs.Perm ((k, v) :: gs) ∧
      insertSorted (k, v.render) (Json.renderFields gs) = Json.renderFields hs
  | [] => ⟨[(k, v)], List.Perm.refl _, by simp [insertSorted, Json.renderFields]⟩
  | (k', v') :: gs => by
    by_cases hk : k < k'
    · exact ⟨(k, v) :: (k', v') :: gs, List.Perm.refl _,
        by simp [insertSorted, Json.renderFields, hk]⟩
    · obtain ⟨hs, hperm, heq⟩ := insertSorted_renderFields k v gs
      refine ⟨(k', v') :: hs, (hperm.cons _).trans (List.Perm.swap _ _ _), ?_⟩
      simp [insertSorted, Json.renderFields, hk, heq]

/-- **Sorting written members by key writes a reordering of them.** -/
theorem sortByKey_renderFields :
    ∀ fs : List (String × Json), ∃ gs, gs.Perm fs ∧
      sortByKey (Json.renderFields fs) = Json.renderFields gs
  | [] => ⟨[], List.Perm.refl _, rfl⟩
  | (k, v) :: fs => by
    obtain ⟨gs, hperm, heq⟩ := sortByKey_renderFields fs
    obtain ⟨hs, hperm', heq'⟩ := insertSorted_renderFields k v gs
    refine ⟨hs, hperm'.trans (hperm.cons _), ?_⟩
    simp only [sortByKey, Json.renderFields, List.foldr_cons] at heq ⊢
    rw [heq, heq']

theorem toList_render_obj {fs gs : List (String × Json)}
    (hsort : sortByKey (Json.renderFields fs) = Json.renderFields gs) :
    (Json.render (.obj fs)).toList = '\x7b' :: (fieldsText gs ++ ['\x7d']) := by
  rw [Json.render, hsort]
  simp [renderFields_eq, fieldsText, Function.comp_def]

end JsonReader

open JsonReader in
/-- **A written object of flat members with distinct keys reads back**, its members sorted by
key. -/
theorem Json.parse_render_obj {fs : List (String × Json)} (hflat : ∀ g ∈ fs, g.2.IsFlat)
    (hnd : (fs.map Prod.fst).Nodup) :
    ∃ gs, gs.Perm fs ∧ Json.parse (Json.render (.obj fs)) = .ok (.obj gs) := by
  obtain ⟨gs, hperm, hsort⟩ := sortByKey_renderFields fs
  refine ⟨gs, hperm, ?_⟩
  have hgs : ∀ g ∈ gs, g.2.IsFlat := fun g hg => hflat g (hperm.mem_iff.1 hg)
  have hndgs : (gs.map Prod.fst).Nodup := (hperm.map Prod.fst).nodup_iff.2 hnd
  -- the members, then the closing brace and nothing after it
  obtain ⟨pos', hmembers⟩ : ∃ pos', members ((fieldsText gs ++ ['\x7d']).length + 1)
      ⟨fieldsText gs ++ ['\x7d'], 1⟩ [] true = .ok (.obj gs, ⟨[], pos'⟩) := by
    cases gs with
    | nil => exact ⟨2, by simp [fieldsText, members, advance, Json.ofFields]⟩
    | cons g gs =>
      obtain ⟨pos', h⟩ := members_fields [] (g :: gs) hgs (by simp)
        ((fieldsText (g :: gs) ++ ['\x7d']).length + 1) 1 [] true (by simp)
      exact ⟨pos', by rw [h, List.reverse_nil, List.nil_append, Json.ofFields_of_nodup hndgs]⟩
  have hopen : skip ⟨fieldsText gs ++ ['\x7d'], 1⟩ = ⟨fieldsText gs ++ ['\x7d'], 1⟩ := by
    cases gs with
    | nil => simp [fieldsText, skip, isSep]
    | cons g gs => exact skip_of_head (by simp [fieldsText_head (g :: gs) (by simp), isSep])
  have hstart : skip ⟨'\x7b' :: (fieldsText gs ++ ['\x7d']), 0⟩ =
      ⟨'\x7b' :: (fieldsText gs ++ ['\x7d']), 0⟩ := by
    simp [skip, isSep]
  have hvalue : value ((fieldsText gs ++ ['\x7d']).length + 1 + 1)
      ⟨'\x7b' :: (fieldsText gs ++ ['\x7d']), 0⟩ = .ok (.obj gs, ⟨[], pos'⟩) := by
    simp only [value, advance, List.drop_one, List.tail_cons, Nat.zero_add, hopen, hmembers]
  unfold Json.parse
  rw [toList_render_obj hsort]
  simp only [List.head?_cons, List.length_cons, hstart, hvalue]
  simp [skip]

/-- Under distinct keys, a key finds a value exactly when the pair is a member. -/
theorem lookup_eq_some_iff_mem {l : List (String × Json)} (hnd : (l.map Prod.fst).Nodup)
    {k : String} {v : Json} : l.lookup k = some v ↔ (k, v) ∈ l := by
  induction l with
  | nil => simp
  | cons g l ih =>
    obtain ⟨k', v'⟩ := g
    simp only [List.map_cons, List.nodup_cons] at hnd
    by_cases hk : k = k'
    · -- the key is the first one, and no later pair has it
      subst hk
      have hnot : (k, v) ∉ l := fun hmem => hnd.1 (List.mem_map_of_mem (f := Prod.fst) hmem)
      simp [hnot, eq_comm]
    · have hb : (k == k') = false := beq_false_of_ne hk
      simp [List.lookup_cons, hb, hk, ih hnd.2]

/-- **A reordering of members with distinct keys finds the same value under each key.** -/
theorem lookup_eq_of_perm {l l' : List (String × Json)} (hp : l'.Perm l)
    (hnd : (l.map Prod.fst).Nodup) (k : String) : l'.lookup k = l.lookup k := by
  have hnd' : (l'.map Prod.fst).Nodup := (hp.map Prod.fst).nodup_iff.2 hnd
  apply Option.ext
  intro v
  rw [lookup_eq_some_iff_mem hnd', lookup_eq_some_iff_mem hnd]
  exact hp.mem_iff

end Bistro
