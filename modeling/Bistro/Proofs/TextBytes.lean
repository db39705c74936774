import Mathlib
import Bistro.Text.Utf8
import Bistro.Text.Base64

/-!
# Bistro — texts and bytes read back

Two codecs turn texts into bytes and bytes into texts: UTF-8, and the base64 that tokens and
stored files are written in. Reading back what either writes gives what was written:

* `utf8Chars_utf8Bytes`: the UTF-8 bytes of a text read back as the text;
* `Base64.value?_digit`: each of the 64 characters of an alphabet reads back as its value;
* `Base64.decode_encodeBytes`: bytes written three to four characters, without padding, read
  back as the bytes, by induction on the groups `encodeBytes` writes;
* `base64Decode?_base64UrlEncode`: the URL-safe text of bytes reads back as the bytes, and
  `mem_base64UrlEncode` says which characters it is made of.
-/

namespace Bistro

/-! ## §1 — UTF-8 bytes read back -/

/-- A scalar value is below the surrogates, or between them and the top of Unicode. -/
theorem Char.toNat_valid (c : Char) :
    c.toNat < 0xD800 ∨ (0xDFFF < c.toNat ∧ c.toNat < 0x110000) := c.valid

/-- A character's own code point, at or above the least its byte count allows, is read back
as the character. -/
theorem codePoint?_toNat {c : Char} {least : ℕ} (h : least ≤ c.toNat) :
    codePoint? c.toNat least = some c := by
  have hv := Char.toNat_valid c
  unfold codePoint?
  rw [if_neg (by simp only [Bool.or_eq_true, decide_eq_true_eq, Bool.and_eq_true]; omega),
    Char.ofNat_toNat]

theorem utf8Chars_cons_of_lt {a : ℕ} (h : a < 0x80) (rest : List ℕ) :
    utf8Chars (a :: rest) = (utf8Chars rest).map (Char.ofNat a :: ·) := by
  cases rest <;> simp [utf8Chars, h]

/-- The bytes of one character, followed by anything, read back as that character first. -/
theorem utf8Chars_utf8OfChar_append (c : Char) (rest : List ℕ) :
    utf8Chars (utf8OfChar c ++ rest) = (utf8Chars rest).map (c :: ·) := by
  have hv := Char.toNat_valid c
  unfold utf8OfChar
  dsimp only
  split_ifs with h₁ h₂ h₃
  · -- one byte
    rw [List.singleton_append, utf8Chars_cons_of_lt h₁, Char.ofNat_toNat]
  · -- two bytes: a lead byte `110xxxxx` and one continuation byte
    have hn : (0xC0 + c.toNat / 64 - 0xC0) * 64 + (0x80 + c.toNat % 64 - 0x80) = c.toNat := by
      omega
    rw [List.cons_append, List.cons_append, List.nil_append, utf8Chars.eq_2, if_neg (by omega),
      if_pos (by simp only [Bool.and_eq_true, decide_eq_true_eq]; omega),
      if_pos (by simp only [isContinuation, Bool.and_eq_true, decide_eq_true_eq]; omega), hn,
      codePoint?_toNat (by omega)]
    rfl
  · -- three bytes
    have hn : (0xE0 + c.toNat / 4096 - 0xE0) * 4096 + (0x80 + c.toNat / 64 % 64 - 0x80) * 64 +
        (0x80 + c.toNat % 64 - 0x80) = c.toNat := by omega
    rw [List.cons_append, List.cons_append, List.cons_append, List.nil_append, utf8Chars.eq_2,
      if_neg (by omega), if_neg (by simp only [Bool.and_eq_true, decide_eq_true_eq]; omega),
      if_pos (by simp only [Bool.and_eq_true, decide_eq_true_eq]; omega)]
    dsimp only
    rw [if_pos (by simp only [isContinuation, Bool.and_eq_true, decide_eq_true_eq]; omega), hn,
      codePoint?_toNat (by omega)]
    rfl
  · -- four bytes
    have hn : (0xF0 + c.toNat / 262144 - 0xF0) * 262144 + (0x80 + c.toNat / 4096 % 64 - 0x80) * 4096 +
        (0x80 + c.toNat / 64 % 64 - 0x80) * 64 + (0x80 + c.toNat % 64 - 0x80) = c.toNat := by
      omega
    rw [List.cons_append, List.cons_append, List.cons_append, List.cons_append, List.nil_append,
      utf8Chars.eq_2, if_neg (by omega), if_neg (by simp only [Bool.and_eq_true, decide_eq_true_eq]; omega),
      if_neg (by simp only [Bool.and_eq_true, decide_eq_true_eq]; omega),
      if_pos (by simp only [Bool.and_eq_true, decide_eq_true_eq]; omega)]
    dsimp only
    rw [if_pos (by simp only [isContinuation, Bool.and_eq_true, decide_eq_true_eq]; omega), hn,
      codePoint?_toNat (by omega)]
    rfl

/-- **The UTF-8 bytes of a text read back as the text.** -/
theorem utf8Chars_utf8Bytes (s : String) : utf8Chars (utf8Bytes s) = some s.toList := by
  unfold utf8Bytes
  induction s.toList with
  | nil => rfl
  | cons c cs ih => rw [List.flatMap_cons, utf8Chars_utf8OfChar_append, ih]; rfl

theorem utf8Decode?_utf8Bytes (s : String) : utf8Decode? (utf8Bytes s) = some s := by
  simp [utf8Decode?, utf8Chars_utf8Bytes]

/-- Every UTF-8 byte is a byte. -/
theorem lt_of_mem_utf8OfChar {c : Char} {b : ℕ} (hb : b ∈ utf8OfChar c) : b < 256 := by
  have hv := Char.toNat_valid c
  unfold utf8OfChar at hb
  dsimp only at hb
  split_ifs at hb <;> simp only [List.mem_cons, List.not_mem_nil, or_false] at hb <;> omega


/-- The UTF-8 bytes of a text are bytes. -/
theorem utf8Bytes_lt (s : String) : ∀ b ∈ utf8Bytes s, b < 256 := by
  intro b hb
  obtain ⟨c, -, hc⟩ := List.mem_flatMap.1 hb
  exact lt_of_mem_utf8OfChar hc

/-! ## §2 — base64 read back -/

namespace Base64

/-- **Each character of an alphabet reads back as its value.** -/
theorem value?_digit (u : Bool) {n : Nat} (h : n < 64) : value? u (digit u n) = some n := by
  revert n
  cases u <;> decide

/-- No character of an alphabet is the padding `=` or a dot. -/
theorem digit_ne (u : Bool) {n : Nat} (h : n < 64) : digit u n ≠ '=' ∧ digit u n ≠ '.' := by
  revert n
  cases u <;> decide

/-- The characters written for bytes are those of six-bit values. -/
theorem mem_encodeBytes (u : Bool) {bs : List Nat} (hbs : ∀ b ∈ bs, b < 256) {c : Char}
    (hc : c ∈ encodeBytes u false bs) : ∃ n < 64, c = digit u n := by
  fun_induction encodeBytes u false bs with
  | case1 => simp at hc
  | case2 a =>
    have ha := hbs a (by simp)
    simp only [Bool.false_eq_true, if_false, List.append_nil, List.mem_cons,
      List.not_mem_nil, or_false] at hc
    rcases hc with rfl | rfl
    exacts [⟨_, by omega, rfl⟩, ⟨_, by omega, rfl⟩]
  | case3 a b =>
    have ha := hbs a (by simp)
    have hb := hbs b (by simp)
    simp only [Bool.false_eq_true, if_false, List.append_nil, List.mem_cons,
      List.not_mem_nil, or_false] at hc
    rcases hc with rfl | rfl | rfl
    exacts [⟨_, by omega, rfl⟩, ⟨_, by omega, rfl⟩, ⟨_, by omega, rfl⟩]
  | case4 a b c' rest ih =>
    have ha := hbs a (by simp)
    have hb := hbs b (by simp)
    have hc' := hbs c' (by simp)
    simp only [List.cons_append, List.nil_append, List.mem_cons] at hc
    rcases hc with rfl | rfl | rfl | rfl | hc
    · exact ⟨_, by omega, rfl⟩
    · exact ⟨_, by omega, rfl⟩
    · exact ⟨_, by omega, rfl⟩
    · exact ⟨_, by omega, rfl⟩
    · exact ih (fun b hb' => hbs b (by simp [hb'])) hc

/-- **Bytes written without padding read back as the bytes**: the characters of each group of
three bytes read back as four six-bit values, which `decodeValues` turns back into the three. -/
theorem decode_encodeBytes (u : Bool) {bs : List Nat} (hbs : ∀ b ∈ bs, b < 256) :
    ((encodeBytes u false bs).mapM (value? u)).bind decodeValues = some bs := by
  fun_induction encodeBytes u false bs with
  | case1 => rfl
  | case2 a =>
    have ha := hbs a (by simp)
    simp only [Bool.false_eq_true, if_false, List.append_nil, List.mapM_cons,
      List.mapM_nil, value?_digit u (show a / 4 < 64 by omega),
      value?_digit u (show a % 4 * 16 < 64 by omega)]
    simp only [Option.pure_def, Option.bind_eq_bind, Option.bind_some, decodeValues,
      Option.some.injEq, List.cons.injEq, and_true]
    omega
  | case3 a b =>
    have ha := hbs a (by simp)
    have hb := hbs b (by simp)
    simp only [Bool.false_eq_true, if_false, List.append_nil, List.mapM_cons,
      List.mapM_nil, value?_digit u (show a / 4 < 64 by omega),
      value?_digit u (show a % 4 * 16 + b / 16 < 64 by omega),
      value?_digit u (show b % 16 * 4 < 64 by omega)]
    simp only [Option.pure_def, Option.bind_eq_bind, Option.bind_some, decodeValues,
      Option.some.injEq, List.cons.injEq, and_true]
    omega
  | case4 a b c rest ih =>
    have ha := hbs a (by simp)
    have hb := hbs b (by simp)
    have hc := hbs c (by simp)
    have hrest := ih (fun b hb' => hbs b (by simp [hb']))
    -- the values of the first group, then those of the rest, which read back by induction
    cases hvals : (encodeBytes u false rest).mapM (value? u) with
    | none => simp [hvals] at hrest
    | some vs =>
      rw [hvals, Option.bind_some] at hrest
      simp only [List.cons_append, List.nil_append, List.mapM_cons, hvals,
        value?_digit u (show a / 4 < 64 by omega),
        value?_digit u (show a % 4 * 16 + b / 16 < 64 by omega),
        value?_digit u (show b % 16 * 4 + c / 64 < 64 by omega),
        value?_digit u (show c % 64 < 64 by omega)]
      simp only [Option.pure_def, Option.bind_eq_bind, Option.bind_some, decodeValues, hrest,
        Option.map_some, List.cons_append, List.nil_append, Option.some.injEq, List.cons.injEq,
        and_true]
      omega

end Base64

/-- The characters of the URL-safe text of bytes are characters of the alphabet. -/
theorem mem_base64UrlEncode {bs : List Nat} (hbs : ∀ b ∈ bs, b < 256) {c : Char}
    (hc : c ∈ (base64UrlEncode bs).toList) : ∃ n < 64, c = Base64.digit true n := by
  rw [base64UrlEncode, String.toList_ofList] at hc
  exact Base64.mem_encodeBytes true hbs hc

/-- **The URL-safe text of bytes reads back as the bytes.** It ends in no padding to drop. -/
theorem base64Decode?_base64UrlEncode {bs : List Nat} (hbs : ∀ b ∈ bs, b < 256) :
    base64Decode? true (base64UrlEncode bs) = some bs := by
  have hnopad : ∀ c ∈ (Base64.encodeBytes true false bs).reverse, (c == '=') = false := by
    intro c hc
    obtain ⟨n, hn, rfl⟩ := Base64.mem_encodeBytes true hbs (List.mem_reverse.1 hc)
    simpa using (Base64.digit_ne true hn).1
  have hdrop : (Base64.encodeBytes true false bs).reverse.dropWhile (· == '=') =
      (Base64.encodeBytes true false bs).reverse := by
    cases h : (Base64.encodeBytes true false bs).reverse with
    | nil => rfl
    | cons c cs =>
      rw [List.dropWhile_cons_of_neg (by simpa using hnopad c (by simp [h]))]
  rw [base64Decode?, base64UrlEncode, String.toList_ofList, hdrop, List.reverse_reverse]
  exact Base64.decode_encodeBytes true hbs

end Bistro
