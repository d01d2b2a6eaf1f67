import Cryptoki.Date
import Cryptoki.Proofs.Outcome
import Mathlib.Algebra.Group.Nat.Defs
import Mathlib.Data.List.Induction

/-! Dates and their digits. Reading takes exactly the lists of eight digits
(`Date.exists_ofBytes_iff`) and writing gives such a list back (`Date.toBytes_of_ofBytes`). In the
other direction dates survive when the digits are enough: four for the year, two for the month and
two for the day (`Date.kept_iff`). -/

namespace Cryptoki.Date

/-! ### Writing digits -/

theorem length_writeDigits (count n : Nat) : (writeDigits count n).length = count := by
  induction count generalizing n with
  | zero => rfl
  | succ count ih => rw [writeDigits, List.length_append, ih, List.length_singleton]

theorem readDigits_append (m : Nat) (digits rest : List UInt8) :
    readDigits m (digits ++ rest) = (do readDigits (← readDigits m digits) rest) := by
  induction digits generalizing m with
  | nil => rfl
  | cons d digits ih =>
    rw [List.cons_append, readDigits, readDigits]
    split
    · exact ih _
    · rfl

theorem readDigits_digit (m n : Nat) : readDigits m [UInt8.ofNat (48 + n % 10)] =
    .ok (m * 10 + n % 10) := by
  have hvalue : (UInt8.ofNat (48 + n % 10)).toNat = 48 + n % 10 := by
    rw [UInt8.toNat_ofNat']
    omega
  have hdigit : (48 ≤ UInt8.ofNat (48 + n % 10) && UInt8.ofNat (48 + n % 10) ≤ 57) = true := by
    simp only [Bool.and_eq_true, decide_eq_true_eq, UInt8.le_iff_toNat_le, hvalue]
    show 48 ≤ 48 + n % 10 ∧ 48 + n % 10 ≤ 57
    omega
  rw [readDigits, if_pos hdigit, hvalue, readDigits, Nat.add_sub_cancel_left]

/-- The digits of a number are read back as the number, as far as they go. -/
theorem readDigits_writeDigits (m count n : Nat) :
    readDigits m (writeDigits count n) = .ok (m * 10 ^ count + n % 10 ^ count) := by
  induction count generalizing n with
  | zero => simp [writeDigits, readDigits, Nat.mod_one]
  | succ count ih =>
    rw [writeDigits, readDigits_append, ih]
    show readDigits _ _ = _
    have hvalue : (m * 10 ^ count + n / 10 % 10 ^ count) * 10 + n % 10 =
        m * 10 ^ (count + 1) + n % 10 ^ (count + 1) := by
      rw [Nat.pow_succ', Nat.mod_mul, Nat.mul_left_comm]
      omega
    rw [readDigits_digit, hvalue]

theorem readDigits_writeDigits_mod (count n : Nat) :
    readDigits 0 (writeDigits count n) = .ok (n % 10 ^ count) := by
  rw [readDigits_writeDigits, Nat.zero_mul, Nat.zero_add]

theorem readDigits_of_lt {count n : Nat} (h : n < 10 ^ count) :
    readDigits 0 (writeDigits count n) = .ok n := by
  rw [readDigits_writeDigits_mod, Nat.mod_eq_of_lt h]

/-! ### Reading digits -/

/-- A byte is an ASCII digit. -/
def IsDigit (d : UInt8) : Prop := 48 ≤ d ∧ d ≤ 57

theorem IsDigit.toNat {d : UInt8} (h : IsDigit d) : 48 ≤ d.toNat ∧ d.toNat ≤ 57 :=
  ⟨UInt8.le_iff_toNat_le.mp h.1, UInt8.le_iff_toNat_le.mp h.2⟩

theorem readDigits_cons_eq_ok_iff {m n : Nat} {d : UInt8} {rest : List UInt8} :
    readDigits m (d :: rest) = .ok n ↔
      IsDigit d ∧ readDigits (m * 10 + (d.toNat - 48)) rest = .ok n := by
  rw [readDigits, IsDigit]
  by_cases hd : 48 ≤ d ∧ d ≤ 57
  · simp [hd]
  · simp only [Bool.and_eq_true, decide_eq_true_eq, hd, false_and]
    simp

theorem exists_readDigits_iff {m : Nat} {digits : List UInt8} :
    (∃ n, readDigits m digits = .ok n) ↔ ∀ d ∈ digits, IsDigit d := by
  induction digits generalizing m with
  | nil => simp [readDigits]
  | cons d rest ih =>
    simp only [readDigits_cons_eq_ok_iff, exists_and_left, ih, List.forall_mem_cons]

theorem readDigits_lt {m n : Nat} {digits : List UInt8} (h : readDigits m digits = .ok n) :
    n < (m + 1) * 10 ^ digits.length := by
  induction digits generalizing m with
  | nil =>
    cases h
    simp
  | cons d rest ih =>
    obtain ⟨hd, hrest⟩ := readDigits_cons_eq_ok_iff.mp h
    have hdigit : m * 10 + (d.toNat - 48) + 1 ≤ (m + 1) * 10 := by
      have := hd.toNat
      omega
    calc n < (m * 10 + (d.toNat - 48) + 1) * 10 ^ rest.length := ih hrest
      _ ≤ (m + 1) * 10 * 10 ^ rest.length := Nat.mul_le_mul_right _ hdigit
      _ = (m + 1) * 10 ^ (d :: rest).length := by
        rw [List.length_cons, Nat.pow_succ', Nat.mul_assoc]

theorem readDigits_lt_pow {n count : Nat} {digits : List UInt8} (h : readDigits 0 digits = .ok n)
    (hcount : digits.length = count) : n < 10 ^ count := by
  have hlt := readDigits_lt h
  rwa [hcount, Nat.zero_add, Nat.one_mul] at hlt

/-- Digits that are read as a number are what is written of the number. -/
theorem writeDigits_of_readDigits {m n : Nat} {digits : List UInt8}
    (h : readDigits m digits = .ok n) : writeDigits digits.length n = digits := by
  -- Writing puts the last digit down first, so the induction goes from the end of the list.
  induction digits using List.reverseRecOn generalizing n with
  | nil => rfl
  | append_singleton digits d ih =>
    rw [readDigits_append] at h
    obtain ⟨k, hk, hd⟩ := bind_eq_ok_iff.mp h
    obtain ⟨hdigit, hn⟩ := readDigits_cons_eq_ok_iff.mp hd
    have hbounds := hdigit.toNat
    cases hn
    have hlow : 48 + (k * 10 + (d.toNat - 48)) % 10 = d.toNat := by omega
    have hhigh : (k * 10 + (d.toNat - 48)) / 10 = k := by omega
    rw [List.length_append, List.length_singleton, writeDigits, hhigh, ih hk, hlow,
      UInt8.ofNat_toNat]

/-! ### Dates -/

theorem toHalfWord_eq_ok_iff {n : Nat} {w : UInt16} : toHalfWord n = .ok w ↔ w.toNat = n := by
  unfold toHalfWord
  constructor
  · intro h
    split at h
    · next hn =>
      cases h
      exact UInt16.toNat_ofNat_of_lt' hn
    · cases h
  · rintro rfl
    rw [if_pos w.toNat_lt, UInt16.ofNat_toNat]

theorem toByte_eq_ok_iff {n : Nat} {b : UInt8} : toByte n = .ok b ↔ b.toNat = n := by
  unfold toByte
  constructor
  · intro h
    split at h
    · next hn =>
      cases h
      exact UInt8.toNat_ofNat_of_lt' hn
    · cases h
  · rintro rfl
    rw [if_pos b.toNat_lt, UInt8.ofNat_toNat]

/-- A date is read when the three parts of eight bytes spell its fields. -/
theorem ofBytes_eq_ok_iff {b : List UInt8} {d : Date} :
    ofBytes b = .ok d ↔ b.length = 8 ∧ readDigits 0 (b.take 4) = .ok d.year.toNat ∧
      readDigits 0 ((b.drop 4).take 2) = .ok d.month.toNat ∧
      readDigits 0 (b.drop 6) = .ok d.day.toNat := by
  by_cases hlength : b.length = 8
  · rw [ofBytes, if_neg (not_not.mpr hlength)]
    simp only [bind_eq_ok_iff, pure_eq_ok_iff, toHalfWord_eq_ok_iff, toByte_eq_ok_iff, hlength,
      true_and]
    constructor
    · rintro ⟨_, hyear, year, rfl, _, hmonth, month, rfl, _, hday, day, rfl, rfl⟩
      exact ⟨hyear, hmonth, hday⟩
    · rintro ⟨hyear, hmonth, hday⟩
      exact ⟨_, hyear, _, rfl, _, hmonth, _, rfl, _, hday, _, rfl, rfl⟩
  · rw [ofBytes, if_pos hlength]
    exact iff_of_false (fun h => nomatch h) fun h => hlength h.1

theorem split_fields (b : List UInt8) : b.take 4 ++ (b.drop 4).take 2 ++ b.drop 6 = b := by
  have hlast : b.drop 6 = (b.drop 4).drop 2 := by rw [List.drop_drop]
  rw [List.append_assoc, hlast, List.take_append_drop, List.take_append_drop]

theorem length_fields {b : List UInt8} (h : b.length = 8) :
    (b.take 4).length = 4 ∧ ((b.drop 4).take 2).length = 2 ∧ (b.drop 6).length = 2 := by
  simp only [List.length_take, List.length_drop, h]
  decide

/-- The year of a date that is read has four digits, and its month and its day have two. -/
theorem le_of_ofBytes {b : List UInt8} {d : Date} (h : ofBytes b = .ok d) :
    d.year.toNat ≤ 9999 ∧ d.month.toNat ≤ 99 ∧ d.day.toNat ≤ 99 := by
  obtain ⟨hlength, hyear, hmonth, hday⟩ := ofBytes_eq_ok_iff.mp h
  obtain ⟨hfour, htwo, hlast⟩ := length_fields hlength
  exact ⟨Nat.le_of_lt_succ (readDigits_lt_pow hyear hfour),
    Nat.le_of_lt_succ (readDigits_lt_pow hmonth htwo),
    Nat.le_of_lt_succ (readDigits_lt_pow hday hlast)⟩

/-- A date that is read from bytes is written as these bytes. -/
theorem toBytes_of_ofBytes {b : List UInt8} {d : Date} (h : ofBytes b = .ok d) :
    d.toBytes = .ok b := by
  obtain ⟨hlength, hyear, hmonth, hday⟩ := ofBytes_eq_ok_iff.mp h
  obtain ⟨hfour, htwo, hlast⟩ := length_fields hlength
  have hwrite : d.year ≤ maxYear := UInt16.le_iff_toNat_le.mpr (le_of_ofBytes h).1
  have hyear' := writeDigits_of_readDigits hyear
  have hmonth' := writeDigits_of_readDigits hmonth
  have hday' := writeDigits_of_readDigits hday
  rw [hfour] at hyear'
  rw [htwo] at hmonth'
  rw [hlast] at hday'
  rw [toBytes, if_pos hwrite, hyear', hmonth', hday', split_fields]

/-- The bytes that spell a date are eight digits. -/
theorem exists_ofBytes_iff {b : List UInt8} :
    (∃ d, ofBytes b = .ok d) ↔ b.length = 8 ∧ ∀ d ∈ b, IsDigit d := by
  constructor
  · rintro ⟨d, h⟩
    obtain ⟨hlength, hyear, hmonth, hday⟩ := ofBytes_eq_ok_iff.mp h
    refine ⟨hlength, ?_⟩
    rw [← split_fields b, List.forall_mem_append, List.forall_mem_append]
    exact ⟨⟨exists_readDigits_iff.mp ⟨_, hyear⟩, exists_readDigits_iff.mp ⟨_, hmonth⟩⟩,
      exists_readDigits_iff.mp ⟨_, hday⟩⟩
  · rintro ⟨hlength, hdigits⟩
    obtain ⟨hfour, htwo, hlast⟩ := length_fields hlength
    rw [← split_fields b, List.forall_mem_append, List.forall_mem_append] at hdigits
    obtain ⟨⟨hyear, hmonth⟩, hday⟩ := hdigits
    obtain ⟨year, hyear⟩ := (exists_readDigits_iff (m := 0)).mpr hyear
    obtain ⟨month, hmonth⟩ := (exists_readDigits_iff (m := 0)).mpr hmonth
    obtain ⟨day, hday⟩ := (exists_readDigits_iff (m := 0)).mpr hday
    have hy := readDigits_lt_pow hyear hfour
    have hm := readDigits_lt_pow hmonth htwo
    have hd := readDigits_lt_pow hday hlast
    refine ⟨⟨.ofNat year, .ofNat month, .ofNat day⟩, ofBytes_eq_ok_iff.mpr ⟨hlength, ?_, ?_, ?_⟩⟩
    · rw [UInt16.toNat_ofNat_of_lt' (Nat.lt_trans hy (by decide)), hyear]
    · rw [UInt8.toNat_ofNat_of_lt' (Nat.lt_trans hm (by decide)), hmonth]
    · rw [UInt8.toNat_ofNat_of_lt' (Nat.lt_trans hd (by decide)), hday]

theorem ofBytes_digits {d : Date} {year month day : List UInt8}
    (hyear : year.length = 4 ∧ readDigits 0 year = .ok d.year.toNat)
    (hmonth : month.length = 2 ∧ readDigits 0 month = .ok d.month.toNat)
    (hday : day.length = 2 ∧ readDigits 0 day = .ok d.day.toNat) :
    ofBytes (year ++ month ++ day) = .ok d := by
  have hlength : (year ++ month ++ day).length = 8 := by
    rw [List.length_append, List.length_append, hyear.1, hmonth.1, hday.1]
  have hfirst : (year ++ month ++ day).take 4 = year := by
    rw [List.append_assoc, List.take_left' hyear.1]
  have hsecond : ((year ++ month ++ day).drop 4).take 2 = month := by
    rw [List.append_assoc, List.drop_left' hyear.1, List.take_left' hmonth.1]
  have hthird : (year ++ month ++ day).drop 6 = day :=
    List.drop_left' (by rw [List.length_append, hyear.1, hmonth.1])
  rw [ofBytes_eq_ok_iff, hfirst, hsecond, hthird]
  exact ⟨hlength, hyear.2, hmonth.2, hday.2⟩

/-- A date is read back as it was written, with the last two digits of its month and of its day. -/
theorem ofBytes_toBytes_mod {d : Date} (hyear : d.year.toNat ≤ 9999) :
    ∃ b, d.toBytes = .ok b ∧ b.length = 8 ∧
      ofBytes b = .ok ⟨d.year, d.month % 100, d.day % 100⟩ := by
  have hwrite : d.year ≤ maxYear := UInt16.le_iff_toNat_le.mpr hyear
  refine ⟨_, if_pos hwrite, by simp [length_writeDigits], ofBytes_digits ?_ ?_ ?_⟩
  · exact ⟨length_writeDigits _ _, readDigits_of_lt (by omega)⟩
  · exact ⟨length_writeDigits _ _, readDigits_writeDigits_mod 2 _⟩
  · exact ⟨length_writeDigits _ _, readDigits_writeDigits_mod 2 _⟩

theorem mod_hundred_eq_iff (n : UInt8) : n % 100 = n ↔ n.toNat ≤ 99 := by
  rw [← UInt8.toNat_inj, UInt8.toNat_mod, show (100 : UInt8).toNat = 100 from rfl]
  omega

theorem ofBytes_toBytes {d : Date} (hyear : d.year.toNat ≤ 9999) (hmonth : d.month.toNat ≤ 99)
    (hday : d.day.toNat ≤ 99) : ∃ b, d.toBytes = .ok b ∧ b.length = 8 ∧ ofBytes b = .ok d := by
  obtain ⟨b, hb, hlength, hback⟩ := ofBytes_toBytes_mod hyear
  rw [(mod_hundred_eq_iff _).mpr hmonth, (mod_hundred_eq_iff _).mpr hday] at hback
  exact ⟨b, hb, hlength, hback⟩

theorem toBytes_of_year_gt {d : Date} (h : 9999 < d.year.toNat) :
    d.toBytes = .error (.conversion (.year d.year.toNat)) := by
  have hnot : ¬d.year ≤ maxYear := fun hle => Nat.not_le.mpr h (UInt16.le_iff_toNat_le.mp hle)
  exact if_neg hnot

/-- A date is not written as another one: it is refused, or its bytes are read as the date. -/
def Kept (d : Date) : Prop :=
  (∃ fault, d.toBytes = .error (.conversion fault)) ∨ ∃ b, d.toBytes = .ok b ∧ ofBytes b = .ok d

theorem kept_of_toBytes {d d' : Date} {b : List UInt8} (h : d.toBytes = .ok b)
    (h' : ofBytes b = .ok d') : d.Kept ↔ d' = d := by
  constructor
  · rintro (⟨fault, hfault⟩ | ⟨b', hb', hback⟩)
    · exact nomatch h.symm.trans hfault
    · cases h.symm.trans hb'
      exact Except.ok.inj (h'.symm.trans hback)
  · rintro rfl
    exact .inr ⟨b, h, h'⟩

/-- The dates that are not written as other ones are those that are refused for their year and those
whose month and day have two digits. A month or a day of three digits loses the first. -/
theorem kept_iff (d : Date) :
    d.Kept ↔ 9999 < d.year.toNat ∨ d.month.toNat ≤ 99 ∧ d.day.toNat ≤ 99 := by
  by_cases hyear : 9999 < d.year.toNat
  · exact iff_of_true (.inl ⟨_, toBytes_of_year_gt hyear⟩) (.inl hyear)
  · obtain ⟨b, hb, -, hback⟩ := ofBytes_toBytes_mod (Nat.not_lt.mp hyear)
    obtain ⟨year, month, day⟩ := d
    rw [kept_of_toBytes hb hback, ← mod_hundred_eq_iff, ← mod_hundred_eq_iff, Date.mk.injEq]
    simp only [hyear, true_and, false_or]

theorem month_of_three_digits_reduced :
    toBytes ⟨2024, 123, 1⟩ = .ok [50, 48, 50, 52, 50, 51, 48, 49] ∧
      ofBytes [50, 48, 50, 52, 50, 51, 48, 49] = .ok ⟨2024, 23, 1⟩ ∧ ¬Kept ⟨2024, 123, 1⟩ := by
  have hkept : Kept ⟨2024, 123, 1⟩ ↔ (⟨2024, 23, 1⟩ : Date) = ⟨2024, 123, 1⟩ :=
    kept_of_toBytes rfl rfl
  exact ⟨rfl, rfl, fun h => absurd (hkept.mp h) (by decide)⟩

end Cryptoki.Date
