import Cryptoki.Text.Digits
import Mathlib.Data.Nat.Digits.Lemmas

/-! The hexadecimal text of a word. After `0x` come upper-case digits that spell the word, as many
as it has but at least the width (`Digits.exists_numeral`), and there is only one such list of
digits (`Digits.Numeral.unique`). -/

namespace Cryptoki.Digits

/-- The hexadecimal digits in upper case, each at the place of its value. -/
def upperDigits : List Char :=
  ['0', '1', '2', '3', '4', '5', '6', '7', '8', '9', 'A', 'B', 'C', 'D', 'E', 'F']

/-- Upper-case hexadecimal digits spell `n`, the most significant first. There are as many as `n`
has but at least `width`. -/
structure Numeral (width : Nat) (digits : List Char) (n : Nat) : Prop where
  length : digits.length = max width (Nat.digits 16 n).length
  upper : ∀ c ∈ digits, c ∈ upperDigits
  value : Nat.ofDigits 16 (digits.reverse.map upperDigits.idxOf) = n

theorem idxOf_upperDigit : ∀ d < 16, upperDigits.idxOf (upperDigit d) = d := by decide

theorem upperDigit_mem : ∀ d < 16, upperDigit d ∈ upperDigits := by decide

theorem upperDigit_idxOf {c : Char} (h : c ∈ upperDigits) :
    upperDigit (upperDigits.idxOf c) = c := by
  have hrange : upperDigits = (List.range 16).map upperDigit := by decide
  rw [hrange] at h
  obtain ⟨d, hd, rfl⟩ := List.mem_map.mp h
  rw [idxOf_upperDigit d (List.mem_range.mp hd)]

theorem map_upperDigit_idxOf {l : List Char} (h : ∀ c ∈ l, c ∈ upperDigits) :
    (l.map upperDigits.idxOf).map upperDigit = l := by
  rw [List.map_map]
  exact (List.map_congr_left fun c hc => upperDigit_idxOf (h c hc)).trans (List.map_id l)

theorem map_idxOf_upperDigit {l : List Nat} (h : ∀ d ∈ l, d < 16) :
    (l.map upperDigit).map upperDigits.idxOf = l := by
  rw [List.map_map]
  exact (List.map_congr_left fun d hd => idxOf_upperDigit d (h d hd)).trans (List.map_id l)

theorem Numeral.values_lt {width n : Nat} {digits : List Char} (h : Numeral width digits n) :
    ∀ d ∈ digits.reverse.map upperDigits.idxOf, d < 16 := by
  intro d hd
  obtain ⟨c, hc, rfl⟩ := List.mem_map.mp hd
  exact List.idxOf_lt_length_of_mem (h.upper c (List.mem_reverse.mp hc))

theorem Numeral.unique {width n : Nat} {digits digits' : List Char} (h : Numeral width digits n)
    (h' : Numeral width digits' n) : digits = digits' := by
  have hlength : (digits.reverse.map upperDigits.idxOf).length =
      (digits'.reverse.map upperDigits.idxOf).length := by
    simp only [List.length_map, List.length_reverse, h.length, h'.length]
  have hvalues := Nat.ofDigits_inj_of_len_eq (by decide) hlength h.values_lt h'.values_lt
    (h.value.trans h'.value.symm)
  rw [← List.reverse_inj, ← map_upperDigit_idxOf fun c hc => h.upper c (List.mem_reverse.mp hc),
    hvalues, map_upperDigit_idxOf fun c hc => h'.upper c (List.mem_reverse.mp hc)]

/-! ### What is written -/

theorem digitsAppend_succ (count n : Nat) :
    Nat.digitsAppend 16 (count + 1) n = n % 16 :: Nat.digitsAppend 16 count (n / 16) := by
  unfold Nat.digitsAppend
  rcases Nat.eq_zero_or_pos n with rfl | hn
  · simp [List.replicate_succ]
  · rw [Nat.digits_def' (by decide) hn, List.length_cons, Nat.add_sub_add_right, List.cons_append]

theorem nibbles_eq {count n : Nat} (h : n < 16 ^ count) :
    nibbles count n = (Nat.digitsAppend 16 count n).reverse := by
  induction count generalizing n with
  | zero =>
    obtain rfl : n = 0 := by omega
    simp [nibbles, Nat.digitsAppend]
  | succ count ih =>
    have hdiv : n / 16 < 16 ^ count := by omega
    rw [nibbles, ih hdiv, digitsAppend_succ, List.reverse_cons]

theorem dropZeros_of_head? {count : Nat} {digits : List Nat} (h : digits.head? ≠ some 0) :
    dropZeros count digits = digits := by
  unfold dropZeros
  split
  · simp at h
  · rfl

theorem digitsAppend_of_length_lt {count n : Nat} (h : (Nat.digits 16 n).length < count + 1) :
    Nat.digitsAppend 16 (count + 1) n = Nat.digitsAppend 16 count n ++ [0] := by
  unfold Nat.digitsAppend
  rw [Nat.sub_add_comm (Nat.le_of_lt_succ h), List.replicate_succ', List.append_assoc]

theorem digitsAppend_of_le_length {count n : Nat} (h : count ≤ (Nat.digits 16 n).length) :
    Nat.digitsAppend 16 count n = Nat.digits 16 n := by
  rw [Nat.digitsAppend, Nat.sub_eq_zero_of_le h, List.replicate_zero, List.append_nil]

theorem getLast?_digits_ne (n : Nat) : (Nat.digits 16 n).getLast? ≠ some 0 := by
  intro h
  obtain ⟨hne, hlast⟩ := List.mem_getLast?_eq_getLast h
  exact Nat.getLast_digit_ne_zero 16 (Nat.digits_ne_nil_iff_ne_zero.mp hne) hlast.symm

/-- The zeros that are dropped are those beyond the least width. -/
theorem dropZeros_digitsAppend (width count n : Nat) :
    dropZeros count (Nat.digitsAppend 16 (width + count) n).reverse =
      (Nat.digitsAppend 16 width n).reverse := by
  induction count with
  | zero => rfl
  | succ count ih =>
    by_cases hlength : (Nat.digits 16 n).length < width + count + 1
    · rw [← Nat.add_assoc, digitsAppend_of_length_lt hlength, List.reverse_append]
      exact ih
    · rw [digitsAppend_of_le_length (by omega), digitsAppend_of_le_length (by omega)]
      refine dropZeros_of_head? ?_
      rw [List.head?_reverse]
      exact getLast?_digits_ne n

/-- A word is written as a numeral. -/
theorem exists_numeral {width : Nat} (h : width ≤ 16) (w : Word) :
    ∃ digits, hexadecimal width w = String.ofList ('0' :: 'x' :: digits) ∧
      Numeral width digits w.toNat := by
  have hdigits : dropZeros (16 - width) (nibbles 16 w.toNat) =
      (Nat.digitsAppend 16 width w.toNat).reverse := by
    have hlt : w.toNat < 16 ^ 16 := w.toNat_lt
    rw [nibbles_eq hlt, ← dropZeros_digitsAppend width (16 - width), Nat.add_sub_cancel' h]
  have hlt : ∀ d ∈ Nat.digitsAppend 16 width w.toNat, d < 16 := fun d hd =>
    Nat.lt_of_mem_digitsAppend (by decide) _ d hd
  refine ⟨_, by rw [hexadecimal, hdigits], ?_, ?_, ?_⟩
  · rw [List.length_map, List.length_reverse, Nat.digitsAppend, List.length_append,
      List.length_replicate]
    omega
  · intro c hc
    obtain ⟨d, hd, rfl⟩ := List.mem_map.mp hc
    exact upperDigit_mem d (hlt d (List.mem_reverse.mp hd))
  · rw [← List.map_reverse, List.reverse_reverse, map_idxOf_upperDigit hlt, Nat.digitsAppend,
      Nat.ofDigits_append_replicate_zero, Nat.ofDigits_digits]

end Cryptoki.Digits
