import Cryptoki.Proofs.Attribute.RoundTrip
import Cryptoki.Proofs.Span

/-! Native bytes that are read as a value and written again. `Value.rewritten` is what is written,
and `Value.marshal_of_decode` says for which bytes it is the bytes that were read: for all of them,
apart from booleans of other bytes than a single zero or one and text that is not well formed. -/

namespace Cryptoki

namespace NativeValue

/-- A native value has exactly these bytes. Its pointer is null when there are none. -/
structure Holds (n : NativeValue) (b : List UInt8) : Prop where
  pointer : n.pointer = (Pointer.ofStorage b).map .bytes
  length : n.length.toNat = b.length
  flat : n.nested = false

theorem Holds.unique {n : NativeValue} {b b' : List UInt8} (h : n.Holds b) (h' : n.Holds b') :
    b = b' :=
  Pointer.ofStorage_injective (Option.map_injective (fun _ _ => Storage.bytes.inj)
    (h.pointer.symm.trans h'.pointer))

theorem exists_holds {b : List UInt8} (h : b.length < UInt64.size) :
    ∃ n, ofBytes b = .ok n ∧ n.Holds b := by
  refine ⟨⟨(Pointer.ofStorage b).map .bytes, .ofNat b.length, false⟩, ?_, rfl, ?_, rfl⟩
  · rw [ofBytes, Word.ofLength_eq_ok h]
    rfl
  · exact UInt64.toNat_ofNat_of_lt' h

end NativeValue

/-- Bytes of a kind are written as they were read. -/
def Kind.Lossless (encoding : Encoding) : Kind → List UInt8 → Prop
  | bool, b => b = [] ∨ b = [0] ∨ b = [1]
  | text, b => encoding.Reads b
  | _, _ => True

namespace Value

open Memory

variable {allocator : Allocator} {encoding : Encoding} {kind : Kind} {b : List UInt8} {v : Value}

/-- The bytes that are written for what was read from bytes of a kind. -/
def rewritten (encoding : Encoding) : Kind → List UInt8 → List UInt8
  | .bool, [] => []
  | .bool, b => [boolToByte (b.any (· != 0))]
  | .text, b => encoding.encode (encoding.decode b)
  | _, b => b

theorem rewritten_nil (h : kind ≠ .text) : rewritten encoding kind [] = [] := by
  cases kind <;> first | rfl | exact absurd rfl h

theorem rewritten_bool (hne : b ≠ []) :
    rewritten encoding .bool b = [boolToByte (b.any (· != 0))] := by
  cases b with
  | nil => exact absurd rfl hne
  | cons => rfl

theorem boolToByte_ne_zero_iff (x : UInt8) : boolToByte (x != 0) = x ↔ x = 0 ∨ x = 1 := by
  by_cases hzero : x = 0
  · simp [hzero, boolToByte]
  · have hone : boolToByte (x != 0) = 1 := by simp [hzero, boolToByte]
    rw [hone, eq_comm]
    simp [hzero]

theorem rewritten_eq_iff : rewritten encoding kind b = b ↔ kind.Lossless encoding b := by
  cases kind with
  | text => exact Encoding.encode_decode_iff
  | bool =>
    match b with
    | [] => simp [rewritten, Kind.Lossless]
    | [x] => simp [rewritten, Kind.Lossless, boolToByte_ne_zero_iff]
    | x :: y :: rest => simp [rewritten, Kind.Lossless]
  | ulong | date | mechanismArray | templateArray | bytes => exact iff_of_true rfl trivial

/-! ### What is written, kind by kind -/

theorem marshalScalar_of_kept (h : keepBytes b = .ok v) :
    v.marshalScalar encoding = NativeValue.ofBytes b := by
  rw [(keepBytes_eq_ok_iff.mp h).1]
  rfl

theorem marshalScalar_of_copy
    (h : (do return bytes (← copyBytes b) : Except Fault Value) = .ok v) :
    v.marshalScalar encoding = NativeValue.ofBytes b := by
  obtain ⟨copy, hcopy, hv⟩ := bind_eq_ok_iff.mp h
  cases hv
  obtain ⟨rfl, -⟩ := copyBytes_eq_ok_iff.mp (liftM_eq_ok_iff.mp hcopy)
  rfl

theorem marshalScalar_of_ulong (hne : b ≠ []) (h : decode .ulong b encoding = .ok v) :
    v.marshalScalar encoding = NativeValue.ofBytes b := by
  rw [decode_ulong_eq encoding hne] at h
  split at h
  · next hlength =>
    cases h
    show NativeValue.ofBytes (Word.ofBytes b).toBytes = _
    rw [Word.toBytes_ofBytes hlength]
  · exact marshalScalar_of_kept h

theorem marshalScalar_of_date (hne : b ≠ []) (h : decode .date b encoding = .ok v) :
    v.marshalScalar encoding = NativeValue.ofBytes b := by
  rw [decode_date_eq encoding hne] at h
  cases hdate : Date.ofBytes b with
  | ok d =>
    rw [hdate] at h
    cases h
    rw [marshalScalar, Date.toBytes_of_ofBytes hdate]
    rfl
  | error e =>
    rw [hdate] at h
    exact marshalScalar_of_kept h

theorem marshalScalar_of_words
    (h : (do return words (← decodeWords b) : Except Fault Value) = .ok v) :
    v.marshalScalar encoding = NativeValue.ofBytes b := by
  obtain ⟨ws, hwords, hv⟩ := bind_eq_ok_iff.mp h
  cases hv
  obtain ⟨hwhole, rfl, -⟩ := decodeWords_eq_ok_iff.mp (liftM_eq_ok_iff.mp hwords)
  rw [marshalScalar, Word.listToBytes_listOfBytes hwhole]

theorem marshalScalar_of_text (h : decode .text b encoding = .ok v)
    (hroom : (Demand.bytes (rewritten encoding .text b).length).Met) :
    v.marshalScalar encoding = NativeValue.ofBytes (rewritten encoding .text b) := by
  rw [decode_text_eq] at h
  obtain ⟨text, htext, hv⟩ := bind_eq_ok_iff.mp h
  cases hv
  obtain ⟨rfl, -⟩ := decodeChars_eq_ok_iff.mp htext
  rw [marshalScalar, encodeChars_eq_ok hroom]
  rfl

/-- A text is written into memory of its own. -/
theorem room_of_marshalScalar (h : decode .text b encoding = .ok v) {native : NativeValue}
    (hnative : v.marshalScalar encoding = .ok native) :
    (Demand.bytes (rewritten encoding .text b).length).Met := by
  rw [decode_text_eq] at h
  obtain ⟨text, htext, hv⟩ := bind_eq_ok_iff.mp h
  cases hv
  obtain ⟨rfl, -⟩ := decodeChars_eq_ok_iff.mp htext
  obtain ⟨bytes, hbytes, -⟩ := bind_eq_ok_iff.mp hnative
  obtain ⟨rfl, hroom⟩ := encodeChars_eq_ok_iff.mp hbytes
  exact hroom

/-- What was read is written as the rewritten bytes. -/
theorem marshalScalar_of_decode (h : decode kind b encoding = .ok v)
    (hroom : kind = .text → (Demand.bytes (rewritten encoding .text b).length).Met) :
    v.marshalScalar encoding = NativeValue.ofBytes (rewritten encoding kind b) := by
  -- Bytes and text may be empty; no bytes of any other kind stand for no value.
  by_cases habsent : b = [] ∧ kind ≠ .bytes ∧ kind ≠ .text
  · obtain ⟨rfl, hkind⟩ := habsent
    rw [decode_nil encoding hkind] at h
    cases h
    rw [rewritten_nil hkind.2]
    rfl
  have hne (h₁ : kind ≠ .bytes) (h₂ : kind ≠ .text) : b ≠ [] := fun hb => habsent ⟨hb, h₁, h₂⟩
  cases kind with
  | ulong => exact marshalScalar_of_ulong (hne nofun nofun) h
  | bool =>
    rw [decode_bool_eq encoding (hne nofun nofun)] at h
    cases h
    rw [rewritten_bool (hne nofun nofun)]
    rfl
  | text => exact marshalScalar_of_text h (hroom rfl)
  | date => exact marshalScalar_of_date (hne nofun nofun) h
  | mechanismArray =>
    exact marshalScalar_of_words
      ((decode_mechanismArray_eq encoding (hne nofun nofun)).symm.trans h)
  | templateArray =>
    exact marshalScalar_of_copy ((decode_templateArray_eq encoding (hne nofun nofun)).symm.trans h)
  | bytes => exact marshalScalar_of_copy ((decode_bytes_eq encoding b).symm.trans h)

theorem length_rewritten_lt (hlength : b.length < UInt64.size)
    (hroom : kind = .text → (Demand.bytes (rewritten encoding .text b).length).Met) :
    (rewritten encoding kind b).length < UInt64.size := by
  cases kind with
  | text => exact (hroom rfl).bytes_lt
  | bool =>
    match b with
    | [] => exact hlength
    | x :: rest => exact (show 1 < UInt64.size by decide)
  | ulong | date | mechanismArray | templateArray | bytes => exact hlength

theorem marshal_of_marshalScalar {native : NativeValue}
    (h : v.marshalScalar encoding = .ok native) : v.marshal encoding = .ok native := by
  cases v with
  | template => cases h
  | _ =>
    rw [marshal]
    · exact h
    · nofun

/-- What was read from bytes of a kind can be written again, as a value of a template and by itself,
a text where there is memory for it. What is written is these bytes, except for a boolean of other
bytes than a single zero or one and for text that is not well formed in its encoding. The length of
a native value is a word, and so is the length of any bytes in memory. -/
theorem marshal_of_decode (hlength : b.length < UInt64.size)
    (h : decode kind b encoding = .ok v) :
    ((∃ native, v.marshalScalar encoding = .ok native) ↔
      (kind = .text → (Demand.bytes (encoding.encode (encoding.decode b)).length).Met)) ∧
    ∀ native, v.marshalScalar encoding = .ok native →
      v.marshal encoding = .ok native ∧ (native.Holds b ↔ kind.Lossless encoding b) := by
  have room (native : NativeValue) (hnative : v.marshalScalar encoding = .ok native) :
      kind = .text → (Demand.bytes (rewritten encoding .text b).length).Met := by
    rintro rfl
    exact room_of_marshalScalar h hnative
  refine ⟨⟨fun ⟨native, hnative⟩ => room native hnative, fun hroom => ?_⟩,
    fun native hnative => ⟨marshal_of_marshalScalar hnative, ?_⟩⟩
  · obtain ⟨native, hnative, -⟩ := NativeValue.exists_holds (length_rewritten_lt hlength hroom)
    exact ⟨native, (marshalScalar_of_decode h hroom).trans hnative⟩
  · have hroom := room native hnative
    obtain ⟨written, hwritten, hholds⟩ :=
      NativeValue.exists_holds (length_rewritten_lt hlength hroom)
    have hsame := hnative.symm.trans ((marshalScalar_of_decode h hroom).trans hwritten)
    obtain rfl := Except.ok.inj hsame
    rw [← rewritten_eq_iff]
    exact ⟨hholds.unique, fun heq => heq ▸ hholds⟩

end Value

namespace Value

open Simulation

theorem marshal_of_decode_strange_date :
    let b : List UInt8 := [0x32, 0x30, 0x32, 0x34, 0x31, 0x33, 0x39, 0x39]
    b.length < UInt64.size ∧ decode .date b .utf8 = .ok (.date ⟨2024, 13, 99⟩) ∧
      ∃ native, (date ⟨2024, 13, 99⟩).marshalScalar .utf8 = .ok native ∧ native.Holds b := by
  intro b
  have hlength : b.length < UInt64.size := by decide
  have hdecode : decode .date b .utf8 = .ok (.date ⟨2024, 13, 99⟩) := rfl
  obtain ⟨hfits, hwritten⟩ := marshal_of_decode hlength hdecode
  obtain ⟨native, hnative⟩ := hfits.mpr nofun
  obtain ⟨-, hholds⟩ := hwritten native hnative
  exact ⟨hlength, hdecode, native, hnative, hholds.mpr trivial⟩

end Value

end Cryptoki
