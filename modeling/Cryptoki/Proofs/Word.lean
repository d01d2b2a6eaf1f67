import Cryptoki.Word
import Mathlib.Algebra.Group.Nat.Defs

/-! Words survive their layout in memory, one at a time (`Word.ofBytes_toBytes`) and in a row
(`Word.listOfBytes_listToBytes`), and memory that divides into words survives them
(`Word.listToBytes_listOfBytes`). -/

namespace Cryptoki

theorem ofLittleEndian_littleEndian (count n : Nat) :
    ofLittleEndian (littleEndian count n) = n % 256 ^ count := by
  induction count generalizing n with
  | zero => rw [littleEndian, ofLittleEndian, Nat.pow_zero, Nat.mod_one]
  | succ count ih =>
    have hbyte : (UInt8.ofNat n).toNat = n % 256 := UInt8.toNat_ofNat'
    rw [littleEndian, ofLittleEndian, ih, hbyte, Nat.pow_succ', Nat.mod_mul]

theorem ofLittleEndian_lt (bytes : List UInt8) : ofLittleEndian bytes < 256 ^ bytes.length := by
  induction bytes with
  | nil => exact Nat.one_pos
  | cons b bytes ih =>
    have hb := b.toNat_lt
    rw [ofLittleEndian, List.length_cons, Nat.pow_succ']
    omega

theorem littleEndian_ofLittleEndian (bytes : List UInt8) :
    littleEndian bytes.length (ofLittleEndian bytes) = bytes := by
  induction bytes with
  | nil => rfl
  | cons b bytes ih =>
    have hb := b.toNat_lt
    have hbyte : UInt8.ofNat (b.toNat + 256 * ofLittleEndian bytes) = b := by
      rw [← UInt8.toNat_inj, UInt8.toNat_ofNat']
      omega
    have hrest : (b.toNat + 256 * ofLittleEndian bytes) / 256 = ofLittleEndian bytes := by omega
    rw [ofLittleEndian, List.length_cons, littleEndian, hbyte, hrest, ih]

theorem boolToByte_injective {a b : Bool} (h : boolToByte a = boolToByte b) : a = b := by
  cases a <;> cases b <;> first | rfl | cases h

namespace Word

theorem ofSigned_injective {v v' : Int64} (h : ofSigned v = ofSigned v') : v = v' :=
  congrArg toSigned h

@[simp] theorem length_toBytes (w : Word) : w.toBytes.length = wordSize :=
  length_littleEndian wordSize w.toNat

@[simp] theorem ofBytes_toBytes (w : Word) : ofBytes w.toBytes = w := by
  have hw : w.toNat < 256 ^ wordSize := w.toNat_lt
  rw [ofBytes, toBytes, ofLittleEndian_littleEndian, Nat.mod_eq_of_lt hw, UInt64.ofNat_toNat]

@[simp] theorem length_listToBytes (words : List Word) :
    (listToBytes words).length = words.length * wordSize := by
  induction words with
  | nil => exact (Nat.zero_mul wordSize).symm
  | cons w words ih =>
    have hsplit : listToBytes (w :: words) = w.toBytes ++ listToBytes words := List.flatMap_cons
    rw [hsplit, List.length_append, ih, length_toBytes, List.length_cons, Nat.succ_mul,
      Nat.add_comm]

theorem listOfBytes_listToBytes (words : List Word) : listOfBytes (listToBytes words) = words := by
  induction words with
  | nil =>
    rw [listOfBytes]
    rfl
  | cons w words ih =>
    have hsplit : listToBytes (w :: words) = w.toBytes ++ listToBytes words := List.flatMap_cons
    have hroom : wordSize ≤ (listToBytes (w :: words)).length := by
      rw [length_listToBytes, List.length_cons, Nat.succ_mul]
      exact Nat.le_add_left _ _
    rw [listOfBytes, if_pos hroom, hsplit, List.take_left' w.length_toBytes,
      List.drop_left' w.length_toBytes, ofBytes_toBytes, ih]

theorem toBytes_ofBytes {bytes : List UInt8} (h : bytes.length = wordSize) :
    (ofBytes bytes).toBytes = bytes := by
  have hlt : ofLittleEndian bytes < 2 ^ 64 := by
    have := ofLittleEndian_lt bytes
    rwa [h] at this
  rw [ofBytes, toBytes, UInt64.toNat_ofNat_of_lt' hlt, ← h, littleEndian_ofLittleEndian]

theorem listToBytes_listOfBytes {bytes : List UInt8} (h : wordSize ∣ bytes.length) :
    listToBytes (listOfBytes bytes) = bytes := by
  fun_induction listOfBytes bytes with
  | case1 bytes hroom ih =>
    have hfirst : (bytes.take wordSize).length = wordSize := List.length_take_of_le hroom
    have hrest : wordSize ∣ (bytes.drop wordSize).length := by
      rw [List.length_drop]
      exact Nat.dvd_sub h (Nat.dvd_refl wordSize)
    rw [listToBytes, List.flatMap_cons, toBytes_ofBytes hfirst]
    exact (congrArg _ (ih hrest)).trans (List.take_append_drop wordSize bytes)
  | case2 bytes hnot =>
    have hempty : bytes.length = 0 := Nat.eq_zero_of_dvd_of_lt h (Nat.not_le.mp hnot)
    exact (List.length_eq_zero_iff.mp hempty).symm

end Word

end Cryptoki
