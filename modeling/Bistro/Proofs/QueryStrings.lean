import Mathlib
import Bistro.Qr.Table
import Bistro.Command.Rules
import Bistro.Json.Reader
import Bistro.Proofs.TextBytes

/-!
# Bistro — query strings read back

A table's address carries its store and table number as a form-encoded query. This module
proves that encoding unambiguous, in four bricks:

* `utf8Chars_utf8Bytes` (of `Bistro.Proofs.TextBytes`): the UTF-8 bytes of a text read back as
  the text;
* `formDecode?_formEncode`: reading an encoded value back (`+` as a space, `%` and two
  hexadecimal digits as a byte, the bytes as UTF-8) gives the value;
* `formEncode_no_separator`: an encoded value holds no `&`, `=`, `#`, `?` or space;
* `readQuery_formQuery`: splitting a query at `&` and `=` and reading both sides gives its
  pairs back.

`table_address_unambiguous` assembles them: a table's address is its menu address, `?`, and a
query that reads back as its store and table, so the address determines the two.
-/

namespace Bistro

/-! ## §1 — An encoded value read back -/

/-- Reading a form-encoded value back to bytes, as `unquote_plus` does: `+` is a space, `%` and
two hexadecimal digits of either case are that byte, a `%` without them stands for itself, and
every other character is its UTF-8 bytes. -/
def unquoteBytes : List Char → List ℕ
  | [] => []
  | '+' :: rest => 0x20 :: unquoteBytes rest
  | '%' :: tail@(a :: b :: rest) =>
    match JsonReader.hexValue? a, JsonReader.hexValue? b with
    | some x, some y => (16 * x + y) :: unquoteBytes rest
    | _, _ => 0x25 :: unquoteBytes tail
  | c :: rest => utf8OfChar c ++ unquoteBytes rest

/-- A form-encoded value read back as a text; `none` when its bytes are not UTF-8. -/
def formDecode? (v : String) : Option String := utf8Decode? (unquoteBytes v.toList)

/-- A character other than `+` and `%` stands for its own bytes. -/
theorem unquoteBytes_plain {c : Char} (h₁ : c ≠ '+') (h₂ : c ≠ '%') (rest : List Char) :
    unquoteBytes (c :: rest) = utf8OfChar c ++ unquoteBytes rest := by
  rw [unquoteBytes.eq_def]
  split <;> simp_all

theorem hexValue?_hexDigitUpper {n : ℕ} (h : n < 16) :
    JsonReader.hexValue? (hexDigitUpper n) = some n := by
  interval_cases n <;> decide

/-- A byte that stands for itself is printable ASCII, and its character has it as code. -/
theorem toNat_ofNat_unreserved {b : ℕ} (h : isUnreservedByte b = true) :
    (Char.ofNat b).toNat = b := by
  unfold isUnreservedByte at h
  simp only [Bool.or_eq_true, Bool.and_eq_true, decide_eq_true_eq, beq_iff_eq] at h
  rw [Char.toNat_ofNat, if_pos (by simp only [Nat.isValidChar]; omega)]

/-- **One encoded byte reads back as that byte.** -/
theorem unquoteBytes_encodeFormByte {b : ℕ} (hb : b < 256) (rest : List Char) :
    unquoteBytes (encodeFormByte b ++ rest) = b :: unquoteBytes rest := by
  unfold encodeFormByte
  split_ifs with hu hs
  · -- a byte that stands for itself: an ASCII character other than `+` and `%`
    have hc := toNat_ofNat_unreserved hu
    unfold isUnreservedByte at hu
    simp only [Bool.or_eq_true, Bool.and_eq_true, decide_eq_true_eq, beq_iff_eq] at hu
    have h₁ : Char.ofNat b ≠ '+' := fun he => by rw [he] at hc; simp at hc; omega
    have h₂ : Char.ofNat b ≠ '%' := fun he => by rw [he] at hc; simp at hc; omega
    rw [List.singleton_append, unquoteBytes_plain h₁ h₂, utf8OfChar, hc, if_pos (by omega)]
    rfl
  · -- the space is `+`
    simp only [beq_iff_eq] at hs
    subst hs
    rw [List.singleton_append, unquoteBytes.eq_2]
  · -- any other byte is `%` and two upper-case hexadecimal digits
    rw [List.cons_append, List.cons_append, List.cons_append, List.nil_append, unquoteBytes.eq_3,
      hexValue?_hexDigitUpper (show b / 16 < 16 by omega),
      hexValue?_hexDigitUpper (show b % 16 < 16 by omega)]
    dsimp only
    rw [Nat.div_add_mod]

theorem unquoteBytes_flatMap_encodeFormByte (bs : List ℕ) (hbs : ∀ b ∈ bs, b < 256)
    (rest : List Char) :
    unquoteBytes (bs.flatMap encodeFormByte ++ rest) = bs ++ unquoteBytes rest := by
  induction bs with
  | nil => rfl
  | cons b bs ih =>
    rw [List.flatMap_cons, List.append_assoc,
      unquoteBytes_encodeFormByte (hbs b List.mem_cons_self),
      ih fun x hx => hbs x (List.mem_cons_of_mem _ hx), List.cons_append]

/-- **An encoded value reads back as itself.** -/
theorem formDecode?_formEncode (v : String) : formDecode? (formEncode v) = some v := by
  have hbytes : ∀ b ∈ utf8Bytes v, b < 256 := by
    intro b hb
    obtain ⟨c, -, hc⟩ := List.mem_flatMap.1 hb
    exact lt_of_mem_utf8OfChar hc
  have h := unquoteBytes_flatMap_encodeFormByte (utf8Bytes v) hbytes []
  rw [List.append_nil, unquoteBytes.eq_1, List.append_nil] at h
  rw [formDecode?, formEncode, String.toList_ofList, h]
  exact utf8Decode?_utf8Bytes v

/-! ## §2 — No separator inside an encoded value -/

/-- The characters a query uses to separate and end its parts, and the space. -/
def querySeparators : List Char := ['&', '=', '#', '?', ' ']

theorem hexDigitUpper_not_separator {n : ℕ} (h : n < 16) : hexDigitUpper n ∉ querySeparators := by
  interval_cases n <;> decide

/-- No character of an encoded byte is a separator. -/
theorem mem_encodeFormByte {b : ℕ} {c : Char} (hc : c ∈ encodeFormByte b) (hb : b < 256) :
    c ∉ querySeparators := by
  unfold encodeFormByte at hc
  split_ifs at hc with hu hs
  · rw [List.mem_singleton] at hc
    subst hc
    have hcode := toNat_ofNat_unreserved hu
    unfold isUnreservedByte at hu
    simp only [Bool.or_eq_true, Bool.and_eq_true, decide_eq_true_eq, beq_iff_eq] at hu
    intro hm
    simp only [querySeparators, List.mem_cons, List.not_mem_nil, or_false] at hm
    rcases hm with he | he | he | he | he <;> rw [he] at hcode <;> simp at hcode <;> omega
  · rw [List.mem_singleton] at hc
    subst hc
    decide
  · simp only [List.mem_cons, List.not_mem_nil, or_false] at hc
    rcases hc with rfl | rfl | rfl
    · decide
    · exact hexDigitUpper_not_separator (by omega)
    · exact hexDigitUpper_not_separator (by omega)

/-- **An encoded value holds no `&`, `=`, `#`, `?` or space.** -/
theorem formEncode_no_separator (v : String) : ∀ c ∈ (formEncode v).toList, c ∉ querySeparators := by
  intro c hc
  rw [formEncode, String.toList_ofList] at hc
  obtain ⟨b, hb, hcb⟩ := List.mem_flatMap.1 hc
  obtain ⟨d, -, hd⟩ := List.mem_flatMap.1 hb
  exact mem_encodeFormByte hcb (lt_of_mem_utf8OfChar hd)

/-! ## §3 — A query read back -/

/-- One part of a query read back: split at `=` into a name and a value, both read back. -/
def readPair (part : List Char) : Option (String × String) :=
  match part.splitOn '=' with
  | [k, v] => do
    let k ← formDecode? (String.ofList k)
    let v ← formDecode? (String.ofList v)
    pure (k, v)
  | _ => none

/-- A query string read back: split at each `&`, each part read back as a pair. -/
def readQuery (q : String) : Option (List (String × String)) :=
  (q.toList.splitOn '&').mapM readPair

/-- The characters of one written pair. -/
def formPair (p : String × String) : List Char :=
  (formEncode p.1).toList ++ '=' :: (formEncode p.2).toList

theorem not_mem_formEncode {v : String} {c : Char} (hc : c ∈ querySeparators) :
    c ∉ (formEncode v).toList := fun h => formEncode_no_separator v c h hc

/-- A written pair reads back as itself: `=` stands only between its two sides. -/
theorem readPair_formPair (p : String × String) : readPair (formPair p) = some p := by
  have hsplit : (formPair p).splitOn '=' = [(formEncode p.1).toList, (formEncode p.2).toList] := by
    rw [show formPair p = ['='].intercalate [(formEncode p.1).toList, (formEncode p.2).toList] by
      simp [formPair, List.intercalate]]
    apply List.splitOn_intercalate
    · simp only [List.forall_mem_cons, List.not_mem_nil, IsEmpty.forall_iff, implies_true, and_true]
      exact ⟨not_mem_formEncode (by decide), not_mem_formEncode (by decide)⟩
    · simp
  simp [readPair, hsplit, String.ofList_toList, formDecode?_formEncode]

/-- **Reading a written query gives its pairs back**: `&` stands only between its pairs. -/
theorem readQuery_formQuery (pairs : List (String × String)) (h : pairs ≠ []) :
    readQuery (formQuery pairs) = some pairs := by
  have hparts : (formQuery pairs).toList.splitOn '&' = pairs.map formPair := by
    have hq : (formQuery pairs).toList = ['&'].intercalate (pairs.map formPair) := by
      simp [formQuery, String.toList_intercalate, Function.comp_def]
      rfl
    rw [hq]
    apply List.splitOn_intercalate
    · intro l hl
      obtain ⟨⟨k, v⟩, -, rfl⟩ := List.mem_map.1 hl
      simp only [formPair, List.mem_append, List.mem_cons, not_or]
      exact ⟨not_mem_formEncode (by decide), by decide, not_mem_formEncode (by decide)⟩
    · simpa using h
  rw [readQuery, hparts, List.mapM_map]
  clear h hparts
  induction pairs with
  | nil => rfl
  | cons p ps ih => simp [List.mapM_cons, readPair_formPair, ih]

/-! ## §4 — A table's address -/

theorem formEncode_store_id : formEncode "store_id" = "store_id" := by decide

theorem formEncode_table_number : formEncode "table_number" = "table_number" := by decide

/-- A table's address, written out. -/
theorem tableAddress_eq (m s t : String) :
    Qr.tableAddress m s t =
      m ++ "?store_id=" ++ formEncode s ++ "&table_number=" ++ formEncode t := by
  rw [← String.toList_inj]
  simp [Qr.tableAddress, formQuery, formEncode_store_id, formEncode_table_number,
    String.toList_append]

/-- **A table's address is unambiguous.** It is the menu address, `?store_id=`, the encoded
store, `&table_number=` and the encoded table number; an encoded value holds no `&`, `=`, `#`,
`?` or space; the query after the menu address reads back, split at `&` and `=`, as the store
and the table; so two tables on one menu share an address only when they are the same table.
The command writes any value shown as text, so a missing one is written `None`. -/
theorem table_address_unambiguous (m s t : String) :
    Qr.tableAddress m s t =
        m ++ "?store_id=" ++ formEncode s ++ "&table_number=" ++ formEncode t ∧
      (∀ v : String, ∀ c ∈ (formEncode v).toList, c ∉ querySeparators) ∧
      (∃ q, Qr.tableAddress m s t = m ++ "?" ++ q ∧
        readQuery q = some [("store_id", s), ("table_number", t)]) ∧
      (∀ s' t', Qr.tableAddress m s t = Qr.tableAddress m s' t' ↔ s = s' ∧ t = t') ∧
      (∀ fs, Rules.tableUrlCmd fs = .ok (.str (Qr.tableAddress (Rules.arg fs "menu_url").show
        (Rules.arg fs "store_id").show (Rules.arg fs "table_number").show))) ∧
      Json.null.show = "None" := by
  have hread : ∀ s t, readQuery (formQuery [("store_id", s), ("table_number", t)]) =
      some [("store_id", s), ("table_number", t)] := fun s t => readQuery_formQuery _ (by simp)
  refine ⟨tableAddress_eq m s t, formEncode_no_separator, ⟨_, rfl, hread s t⟩, ?_,
    fun _ => rfl, rfl⟩
  intro s' t'
  constructor
  · intro he
    have hq : formQuery [("store_id", s), ("table_number", t)] =
        formQuery [("store_id", s'), ("table_number", t')] := by
      rw [← String.toList_inj]
      have := congrArg String.toList he
      simp only [Qr.tableAddress, String.toList_append, List.append_assoc] at this
      exact List.append_cancel_left (List.append_cancel_left this)
    have := (hread s t).symm.trans ((congrArg readQuery hq).trans (hread s' t'))
    simpa using this
  · rintro ⟨rfl, rfl⟩
    rfl

end Bistro
