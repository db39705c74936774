import Mathlib
import Bistro.Order.Ledger
import Bistro.Store.Session

/-!
# Bistro — the numbers of invoices

An invoice number is `INV-`, the issue date written `YYYYMMDD`, a hyphen and eight hexadecimal
digits in capitals (`Orders.IsInvoiceNumber`). A new invoice takes the number made from the first
eight digits of a fresh identifier; when an invoice has that number already, it takes the first
number of the issue date, counted from `0`, that no invoice has (`freeInvoiceNumber`).

Main statements:

* `freeInvoiceNumber_fresh` — a number given has the form of the issue date, and no invoice has
  it yet;
* `freeInvoiceNumber_isSome` — a number is given whenever fewer than `16^8` numbers are taken,
  since the numbers of one date are told apart by the value of their digits
  (`hexValue_hexPart`).
-/

namespace Bistro

namespace Orders

/-! ## §1 — The form of a number -/

/-- A hexadecimal digit in capitals. -/
def isUpperHexDigit (c : Char) : Bool := c.isDigit || ('A' ≤ c && c ≤ 'F')

/-- **An invoice number of the issue date `issued`**: `INV-`, the date as `YYYYMMDD`, a hyphen
and eight hexadecimal digits in capitals. -/
def IsInvoiceNumber (issued : Stamp) (number : String) : Prop :=
  ∃ digits : List Char, digits.length = 8 ∧ (∀ c ∈ digits, isUpperHexDigit c = true) ∧
    number = "INV-" ++ issued.compactDate ++ "-" ++ String.ofList digits

/-- The value of a hexadecimal digit in capitals. -/
def hexDigitValue (c : Char) : Nat :=
  if c.isDigit then c.toNat - '0'.toNat else c.toNat - 'A'.toNat + 10

/-- The value of hexadecimal digits in capitals, the most significant first. -/
def hexValue (cs : List Char) : Nat := cs.foldl (fun acc c => 16 * acc + hexDigitValue c) 0

theorem hexValue_append_singleton (cs : List Char) (c : Char) :
    hexValue (cs ++ [c]) = 16 * hexValue cs + hexDigitValue c := by
  simp [hexValue, List.foldl_append]

/-- Leading zeros add nothing to the value. -/
theorem hexValue_replicate_zero_append (m : Nat) (cs : List Char) :
    hexValue (List.replicate m '0' ++ cs) = hexValue cs := by
  have hzeros : (List.replicate m '0').foldl (fun acc c => 16 * acc + hexDigitValue c) 0 = 0 := by
    induction m with
    | zero => rfl
    | succ m ih =>
      rw [List.replicate_succ', List.foldl_append, ih]
      rfl
  rw [hexValue, List.foldl_append, hzeros]
  rfl

/-- A digit below sixteen, in capitals, is a hexadecimal digit of its own value. -/
theorem digitChar_upper {d : Nat} (hd : d < 16) :
    isUpperHexDigit (asciiUpperChar d.digitChar) = true ∧
      hexDigitValue (asciiUpperChar d.digitChar) = d := by
  revert d
  decide

/-- **The hexadecimal digits of a number**, in capitals, are digits of its value. -/
theorem toDigits_upper (n : Nat) :
    (∀ c ∈ (Nat.toDigits 16 n).map asciiUpperChar, isUpperHexDigit c = true) ∧
      hexValue ((Nat.toDigits 16 n).map asciiUpperChar) = n := by
  induction n using Nat.strong_induction_on with
  | _ n ih =>
    rw [Nat.toDigits_eq_if (by decide)]
    split
    case isTrue hn =>
      obtain ⟨hup, hval⟩ := digitChar_upper hn
      exact ⟨by simpa using hup, by simpa [hexValue] using hval⟩
    case isFalse hn =>
      -- the digits of `n / 16`, then the last digit `n % 16`
      obtain ⟨hup, hval⟩ := ih (n / 16) (Nat.div_lt_self (by omega) (by decide))
      obtain ⟨hup', hval'⟩ := digitChar_upper (Nat.mod_lt n (show 16 > 0 by decide))
      refine ⟨?_, ?_⟩
      · simp only [List.map_append, List.map_cons, List.map_nil, List.mem_append,
          List.mem_singleton]
        rintro c (hc | rfl)
        exacts [hup c hc, hup']
      · rw [List.map_append, List.map_singleton, hexValue_append_singleton, hval, hval']
        omega

/-! ## §2 — The numbers of a date -/

/-- The digits of `hexPart k`: zeros up to eight, then those of `k`, in capitals. -/
theorem hexPart_toList (k : Nat) :
    (hexPart k).toList =
      List.replicate (8 - (Nat.toDigits 16 k).length) '0' ++
        (Nat.toDigits 16 k).map asciiUpperChar := by
  have hzero : asciiUpperChar '0' = '0' := rfl
  simp [hexPart, asciiUpper, String.toList_map, List.map_replicate, hzero]

/-- **The digits of a number of a date have its value**, so no two numbers share them. -/
theorem hexValue_hexPart (k : Nat) : hexValue (hexPart k).toList = k := by
  rw [hexPart_toList, hexValue_replicate_zero_append]
  exact (toDigits_upper k).2

theorem hexPart_injective : Function.Injective hexPart := fun j k h => by
  rw [← hexValue_hexPart j, h, hexValue_hexPart]

/-- The numbers of a date, from `0`, are of its form up to `16^8`. -/
theorem isInvoiceNumber_hexPart (issued : Stamp) {k : Nat} (hk : k < 16 ^ 8) :
    IsInvoiceNumber issued ("INV-" ++ issued.compactDate ++ "-" ++ hexPart k) := by
  have hlen : (Nat.toDigits 16 k).length ≤ 8 := (Nat.length_toDigits_le_iff (by decide)
    (by decide)).2 hk
  refine ⟨(hexPart k).toList, ?_, ?_, by simp⟩
  · simp only [hexPart_toList, List.length_append, List.length_replicate, List.length_map]
    omega
  · simp only [hexPart_toList, List.mem_append, List.mem_replicate]
    rintro c (⟨-, rfl⟩ | hc)
    exacts [rfl, (toDigits_upper k).1 c hc]

/-- Numbers of one date with different digits are different. -/
theorem dayNumber_injective (issued : Stamp) :
    Function.Injective fun k => "INV-" ++ issued.compactDate ++ "-" ++ hexPart k := by
  intro j k h
  apply hexPart_injective
  rw [← String.toList_inj] at h ⊢
  simpa using h

/-! ## §3 — The number made from a fresh identifier -/

/-- The digits of an identifier, without its hyphens: those of its counter, padded to eight,
then zeros and the version digits. -/
theorem idText_digits (n : Nat) :
    (Txn.idText n).toList.filter (· ≠ '-') =
      List.replicate (8 - (Nat.toDigits 16 n).length) '0' ++ Nat.toDigits 16 n ++
        "000040008000000000000000".toList := by
  have hdigits : ∀ c ∈ Nat.toDigits 16 n, c ≠ '-' := fun c hc h => by
    have hup := (toDigits_upper n).1 (asciiUpperChar c) (List.mem_map_of_mem hc)
    rw [h] at hup
    exact absurd hup (by decide)
  have hsuffix : "-0000-4000-8000-000000000000".toList.filter (· ≠ '-') =
      "000040008000000000000000".toList := by
    decide
  simp only [Txn.idText, String.toList_append, String.toList_ofList, List.filter_append,
    List.filter_replicate, hsuffix]
  rw [List.filter_eq_self.2 (by simpa using hdigits)]
  simp

/-- **The number made from a fresh identifier** has the form of the issue date. -/
theorem isInvoiceNumber_invoiceNumber (issued : Stamp) (n : Nat) :
    IsInvoiceNumber issued (invoiceNumber issued (Txn.idText n)) := by
  have hlen : 8 ≤ (List.replicate (8 - (Nat.toDigits 16 n).length) '0' ++
      Nat.toDigits 16 n).length := by
    simp only [List.length_append, List.length_replicate]
    omega
  -- the first eight digits come from the counter and its padding
  refine ⟨((List.replicate (8 - (Nat.toDigits 16 n).length) '0' ++
      Nat.toDigits 16 n).take 8).map asciiUpperChar, ?_, ?_, ?_⟩
  · simp only [List.length_map, List.length_take]
    omega
  · intro c hc
    obtain ⟨d, hd, rfl⟩ := List.mem_map.1 hc
    rcases List.mem_append.1 (List.mem_of_mem_take hd) with hz | hd
    · rw [(List.mem_replicate.1 hz).2]
      rfl
    · exact (toDigits_upper n).1 _ (List.mem_map_of_mem hd)
  · rw [invoiceNumber, idText_digits, List.take_append_of_le_length hlen]
    simp [asciiUpper, String.ext_iff, String.toList_map]

/-! ## §4 — A free number -/

section Free

variable {taken : List String} {issued : Stamp}

/-- A number the search gives is a number of the date it tried, and is free. -/
theorem firstFreeNumber_spec {number : String} :
    ∀ {fuel k : Nat}, firstFreeNumber taken issued fuel k = some number →
      ∃ j, k ≤ j ∧ j < k + fuel ∧
        number = "INV-" ++ issued.compactDate ++ "-" ++ hexPart j ∧ number ∉ taken
  | 0, _, h => by simp [firstFreeNumber] at h
  | fuel + 1, k, h => by
    unfold firstFreeNumber at h
    dsimp only at h
    split at h
    case isTrue =>
      obtain ⟨j, hkj, hj, hnum, hfree⟩ := firstFreeNumber_spec h
      exact ⟨j, by omega, by omega, hnum, hfree⟩
    case isFalse htaken =>
      cases h
      exact ⟨k, le_refl k, by omega, rfl, by simpa using htaken⟩

/-- A search that gives no number found every number of the date it tried taken. -/
theorem firstFreeNumber_none :
    ∀ {fuel k : Nat}, firstFreeNumber taken issued fuel k = none →
      ∀ j, k ≤ j → j < k + fuel → "INV-" ++ issued.compactDate ++ "-" ++ hexPart j ∈ taken
  | 0, _, _, _, hkj, hj => absurd hj (by omega)
  | fuel + 1, k, h, j, hkj, hj => by
    unfold firstFreeNumber at h
    dsimp only at h
    split at h
    case isTrue htaken =>
      rcases Nat.eq_or_lt_of_le hkj with rfl | hlt
      · simpa using htaken
      · exact firstFreeNumber_none h j hlt (by omega)
    case isFalse => cases h

/-- **A number given has the form of the issue date, and no invoice has it yet.** -/
theorem freeInvoiceNumber_fresh {n : Nat} {number : String}
    (h : freeInvoiceNumber taken issued (Txn.idText n) = some number) :
    number ∉ taken ∧ IsInvoiceNumber issued number := by
  unfold freeInvoiceNumber at h
  dsimp only at h
  split at h
  case isTrue =>
    obtain ⟨j, -, hj, rfl, hfree⟩ := firstFreeNumber_spec h
    exact ⟨hfree, isInvoiceNumber_hexPart issued (by simpa using hj)⟩
  case isFalse htaken =>
    cases h
    exact ⟨by simpa using htaken, isInvoiceNumber_invoiceNumber issued n⟩

/-- **A number is given whenever fewer than `16^8` are taken**: otherwise the `16^8` numbers of the
date, all different, would all be taken. -/
theorem freeInvoiceNumber_isSome (fresh : String) (hfew : taken.length < 16 ^ 8) :
    (freeInvoiceNumber taken issued fresh).isSome := by
  unfold freeInvoiceNumber
  dsimp only
  split
  case isFalse => rfl
  case isTrue =>
    rw [Option.isSome_iff_ne_none]
    intro hnone
    have hall := firstFreeNumber_none hnone
    let day := (List.range (16 ^ 8)).map fun k => "INV-" ++ issued.compactDate ++ "-" ++ hexPart k
    have hsub : day.Subperm taken := by
      refine (List.nodup_range.map (dayNumber_injective issued)).subperm ?_
      intro x hx
      obtain ⟨k, hk, rfl⟩ := List.mem_map.1 hx
      exact hall k (Nat.zero_le k) (by simpa using List.mem_range.1 hk)
    have hlen := hsub.length_le
    simp only [day, List.length_map, List.length_range] at hlen
    omega

end Free

end Orders

end Bistro
