import Cryptoki.Proofs.Date

/-! Which bytes are read as a date, and what becomes of the others. Eight digits are read as the
date that is written as these digits, and anything else is refused for its length or for the first
byte that is no digit (`Date.ofBytes_accepts`). `Date.Fixed.ofBytes` reads dates in bytes and
numbers of 32 bits, where a result can be too large. It never comes to that. -/

namespace Cryptoki.Date

/-! ### What is refused -/

/-- Why bytes are not read as a date. -/
inductive Refused (b : List UInt8) : ConversionFault → Prop
  /-- There are more or fewer than eight. -/
  | length (h : b.length ≠ 8) : Refused b (.dateLength b.length)
  /-- The first byte that is not a digit. -/
  | digit {before after : List UInt8} {c : UInt8} (hlength : b.length = 8)
      (hb : b = before ++ c :: after) (hbefore : ∀ d ∈ before, IsDigit d) (hc : ¬IsDigit c) :
      Refused b (.dateDigit c)

/-- A failed conversion says why bytes are not read as a date. -/
def Refuses (b : List UInt8) (e : Error) : Prop := ∃ fault, e = .conversion fault ∧ Refused b fault

theorem readDigits_failsWith {b before digits after : List UInt8} (hlength : b.length = 8)
    (hb : b = before ++ (digits ++ after)) (hbefore : ∀ d ∈ before, IsDigit d) (m : Nat) :
    FailsWith (Refuses b) (readDigits m digits) := by
  -- The digits that were read go over to those before.
  induction digits generalizing before m with
  | nil => trivial
  | cons d rest ih =>
    rw [readDigits]
    split
    · next hd =>
      have hdigit : IsDigit d := by simpa [IsDigit] using hd
      have hb' : b = (before ++ [d]) ++ (rest ++ after) := by rw [hb, List.append_assoc]; rfl
      refine ih hb' (fun x hx => ?_) _
      rcases List.mem_append.mp hx with hx | hx
      · exact hbefore x hx
      · exact List.mem_singleton.mp hx ▸ hdigit
    · next hd =>
      have hdigit : ¬IsDigit d := by simpa [IsDigit] using hd
      exact ⟨_, rfl, .digit hlength hb hbefore hdigit⟩

theorem toHalfWord_failsWith {P : Error → Prop} {n : Nat} (h : n < 65536) :
    FailsWith P (toHalfWord n) := by
  rw [toHalfWord, if_pos h]
  trivial

theorem toByte_failsWith {P : Error → Prop} {n : Nat} (h : n < 256) : FailsWith P (toByte n) := by
  rw [toByte, if_pos h]
  trivial

/-- The numbers that four and two digits spell fit the fields of a date, so bytes are refused for
their length and their digits only. -/
theorem ofBytes_failsWith (b : List UInt8) : FailsWith (Refuses b) (ofBytes b) := by
  by_cases hlength : b.length = 8
  · obtain ⟨hfour, htwo, hlast⟩ := length_fields hlength
    have hfirst : b = [] ++ (b.take 4 ++ b.drop 4) := (List.take_append_drop 4 b).symm
    have hsecond : b = b.take 4 ++ ((b.drop 4).take 2 ++ b.drop 6) := by
      rw [← List.append_assoc, split_fields]
    have hthird : b = (b.take 4 ++ (b.drop 4).take 2) ++ (b.drop 6 ++ []) := by
      rw [List.append_nil, split_fields]
    rw [ofBytes, if_neg (not_not.mpr hlength)]
    have hnone : ∀ d ∈ [], IsDigit d := List.forall_mem_nil _
    refine .bind (readDigits_failsWith hlength hfirst hnone 0) fun year hyear => ?_
    have hy : year < 65536 := Nat.lt_trans (readDigits_lt_pow hyear hfour) (by decide)
    have hyears := exists_readDigits_iff.mp ⟨_, hyear⟩
    refine .bind (toHalfWord_failsWith hy) fun _ _ => ?_
    refine .bind (readDigits_failsWith hlength hsecond hyears 0) fun month hmonth => ?_
    have hm : month < 256 := Nat.lt_trans (readDigits_lt_pow hmonth htwo) (by decide)
    have hmonths := exists_readDigits_iff.mp ⟨_, hmonth⟩
    refine .bind (toByte_failsWith hm) fun _ _ => ?_
    have hboth := List.forall_mem_append.mpr ⟨hyears, hmonths⟩
    refine .bind (readDigits_failsWith hlength hthird hboth 0) fun day hday => ?_
    have hd : day < 256 := Nat.lt_trans (readDigits_lt_pow hday hlast) (by decide)
    exact .map (toByte_failsWith hd) fun _ => trivial
  · rw [ofBytes, if_pos hlength]
    exact ⟨_, rfl, .length hlength⟩

/-! ### Reading in numbers of fixed width -/

namespace Fixed

/-- A digit is put after a number if that leaves a number of 32 bits. -/
theorem readDigits_cons {n : UInt32} {d : UInt8} {rest : List UInt8} (hd : IsDigit d)
    (hn : (n.toNat + 1) * 10 ≤ UInt32.size) :
    readDigits n (d :: rest) = readDigits (.ofNat (n.toNat * 10 + (d.toNat - 48))) rest := by
  have hbounds := hd.toNat
  have hproduct : n.toNat * (10 : UInt32).toNat < UInt32.size := by
    show n.toNat * 10 < _
    omega
  have hshifted : (n * 10).toNat = n.toNat * 10 := by
    rw [UInt32.toNat_mul]
    exact Nat.mod_eq_of_lt hproduct
  have hdigit : (d - 48).toUInt32.toNat = d.toNat - 48 := by
    rw [UInt8.toNat_toUInt32]
    exact UInt8.toNat_sub_of_le _ _ hd.1
  have hsum : (n * 10).toNat + (d - 48).toUInt32.toNat < UInt32.size := by
    rw [hshifted, hdigit]
    omega
  have hnext : n * 10 + (d - 48).toUInt32 = .ofNat (n.toNat * 10 + (d.toNat - 48)) := by
    rw [← UInt32.toNat_inj, UInt32.toNat_add, hshifted, hdigit, UInt32.toNat_ofNat']
  have htest : (48 ≤ d && d ≤ 57) = true := by simpa [IsDigit] using hd
  rw [readDigits, if_pos htest, mul, if_pos hproduct, sub, if_pos hd.1]
  show (do readDigits (← add _ _) rest) = _
  rw [add, if_pos hsum, ← hnext]
  rfl

/-- Digits are read as in numbers without bound when all numbers of so many digits more fit. -/
theorem map_toNat_readDigits {n : UInt32} {digits : List UInt8}
    (h : (n.toNat + 1) * 10 ^ digits.length ≤ UInt32.size) :
    UInt32.toNat <$> readDigits n digits = (Date.readDigits n.toNat digits).mapError .error := by
  induction digits generalizing n with
  | nil => rfl
  | cons d rest ih =>
    by_cases hd : IsDigit d
    · have hbounds := hd.toNat
      rw [List.length_cons, Nat.pow_succ', ← Nat.mul_assoc] at h
      have hn : (n.toNat + 1) * 10 ≤ UInt32.size :=
        Nat.le_trans (Nat.le_mul_of_pos_right _ (Nat.pow_pos (by decide))) h
      have hnext : (UInt32.ofNat (n.toNat * 10 + (d.toNat - 48))).toNat =
          n.toNat * 10 + (d.toNat - 48) := UInt32.toNat_ofNat_of_lt' (by omega)
      have hroom : (n.toNat * 10 + (d.toNat - 48) + 1) * 10 ^ rest.length ≤ UInt32.size :=
        Nat.le_trans (Nat.mul_le_mul_right _ (by omega)) h
      rw [readDigits_cons hd hn, ih (by rwa [hnext]), hnext, Date.readDigits, if_pos]
      simpa [IsDigit] using hd
    · have htest : ¬(48 ≤ d && d ≤ 57) = true := by simpa [IsDigit] using hd
      rw [readDigits, if_neg htest, Date.readDigits, if_neg htest]
      rfl

/-- Nine digits spell a number of 32 bits. -/
theorem map_toNat_readDigits_zero (digits : List UInt8) (h : digits.length ≤ 9) :
    UInt32.toNat <$> readDigits 0 digits = (Date.readDigits 0 digits).mapError .error := by
  have hsize : (0 + 1) * 10 ^ digits.length ≤ UInt32.size :=
    calc (0 + 1) * 10 ^ digits.length = 10 ^ digits.length := Nat.one_mul _
      _ ≤ 10 ^ 9 := Nat.pow_le_pow_right (by decide) h
      _ ≤ UInt32.size := by decide
  exact map_toNat_readDigits (n := 0) hsize

/-- Ten need not. -/
example : readDigits 0 (List.replicate 10 57) = .error .overflow := by decide

theorem mapError_bind {α β ε ε' : Type} {x : Except ε α} {f : α → Except ε β} {g : ε → ε'} :
    (x >>= f).mapError g = x.mapError g >>= fun a => (f a).mapError g := by
  cases x <;> rfl

/-- No reading of a date overflows. -/
theorem ofBytes_eq (b : List UInt8) : ofBytes b = (Date.ofBytes b).mapError .error := by
  by_cases hlength : b.length = 8
  · obtain ⟨hfour, htwo, hlast⟩ := length_fields hlength
    have hyear := map_toNat_readDigits_zero (b.take 4) (by omega)
    have hmonth := map_toNat_readDigits_zero ((b.drop 4).take 2) (by omega)
    have hday := map_toNat_readDigits_zero (b.drop 6) (by omega)
    rw [ofBytes, Date.ofBytes, if_neg (not_not.mpr hlength), if_neg (not_not.mpr hlength)]
    simp only [mapError_bind, ← hyear, ← hmonth, ← hday, bind_map_left]
    rfl
  · rw [ofBytes, Date.ofBytes, if_pos hlength, if_pos hlength]
    rfl

end Fixed

/-- Bytes are read as a date exactly when they are eight digits. The year then has four digits at
most, the month and the day have two, and the date is written as the same bytes. Other bytes fail to
convert. No number that comes up on the way is too large for its type. -/
theorem ofBytes_accepts (b : List UInt8) :
    ((∃ d, ofBytes b = .ok d) ↔ b.length = 8 ∧ ∀ c ∈ b, IsDigit c) ∧
      Meets (Refuses b)
        (fun d => d.year.toNat ≤ 9999 ∧ d.month.toNat ≤ 99 ∧ d.day.toNat ≤ 99 ∧ d.toBytes = .ok b)
        (ofBytes b) ∧
      Fixed.ofBytes b = (ofBytes b).mapError .error := by
  refine ⟨exists_ofBytes_iff, ?_, Fixed.ofBytes_eq b⟩
  have hfails := ofBytes_failsWith b
  cases h : ofBytes b with
  | ok d =>
    obtain ⟨hyear, hmonth, hday⟩ := le_of_ofBytes h
    exact ⟨hyear, hmonth, hday, toBytes_of_ofBytes h⟩
  | error e => exact hfails.of_error h

end Cryptoki.Date
