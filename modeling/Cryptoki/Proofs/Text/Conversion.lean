import Cryptoki.Attribute.Value
import Cryptoki.Proofs.Memory
import Cryptoki.Proofs.Text.Sequences

/-! Characters and native bytes in both directions. `Encoding.Writes` and `Encoding.Reads` say which
texts and which bytes an encoding loses nothing of, and `Encoding.conversions_lossless_iff` that the
conversions keep exactly these, as far as there is memory for what they make. -/

namespace Cryptoki

namespace Encoding

/-- Bytes that an encoding reads without loss: in UTF-8 those that divide into the sequences of
characters. -/
def Reads : Encoding → List UInt8 → Prop
  | utf8, bytes => Utf8.Divides bytes
  | singleByte, _ => True

variable {encoding : Encoding}

theorem toNat_ofNat_byte (b : UInt8) : (Char.ofNat b.toNat).toNat = b.toNat :=
  Utf8.toNat_char_ofNat (.inl (Nat.lt_trans b.toNat_lt (by decide)))

theorem toNat_le_of_mem_decode {bytes : List UInt8} {c : Char}
    (h : c ∈ singleByte.decode bytes) : c.toNat ≤ 0xFF := by
  obtain ⟨b, -, rfl⟩ := List.mem_map.mp h
  rw [toNat_ofNat_byte]
  exact Nat.le_of_lt_succ b.toNat_lt

theorem decode_encode_iff {text : List Char} :
    encoding.decode (encoding.encode text) = text ↔ encoding.Writes text := by
  refine ⟨fun h => ?_, decode_encode⟩
  cases encoding with
  | utf8 => exact trivial
  | singleByte => exact fun c hc => toNat_le_of_mem_decode (h ▸ hc)

theorem encode_decode_iff {bytes : List UInt8} :
    encoding.encode (encoding.decode bytes) = bytes ↔ encoding.Reads bytes := by
  cases encoding with
  | utf8 => exact Utf8.encode_decodeLossy_iff
  | singleByte =>
    have hback : ∀ b ∈ bytes, UInt8.ofNat (Char.ofNat b.toNat).toNat = b := by
      intro b _
      rw [toNat_ofNat_byte, UInt8.ofNat_toNat]
    refine iff_of_true ?_ trivial
    rw [decode, encode, List.map_map]
    exact (List.map_congr_left hback).trans (List.map_id bytes)

theorem encode_toList (s : String) : Utf8.encode s.toList = s.toByteArray.data.toList := by
  rw [← String.utf8Encode_toList, List.utf8Encode, List.toList_data_toByteArray, Utf8.encode]

end Encoding

namespace Value

variable {allocator : Allocator} {encoding : Encoding} {text : List Char} {bytes : List UInt8}

open Memory

/-- The memory that it takes to decode a text. -/
def textDemands (bytes : List UInt8) (encoding : Encoding) : List Demand :=
  repairBuffers bytes encoding ++ [.chars (encoding.decode bytes).length]

theorem repairBuffers_of_reads (h : encoding.Reads bytes) : repairBuffers bytes encoding = [] := by
  cases encoding with
  | utf8 => exact if_pos (Utf8.encode_decodeLossy_iff.mpr h)
  | singleByte => rfl

theorem textDemands_of_reads (h : encoding.Reads bytes) :
    textDemands bytes encoding = [.chars (encoding.decode bytes).length] := by
  rw [textDemands, repairBuffers_of_reads h, List.nil_append]

theorem encodeChars_eq_ok_iff : encodeChars text encoding = .ok bytes ↔
    encoding.encode text = bytes ∧ (Demand.bytes bytes.length).Met := by
  rw [encodeChars, reserved_eq_ok_iff]
  exact and_congr_right fun h => by rw [h]

theorem encodeChars_eq_ok (h : (Demand.bytes (encoding.encode text).length).Met) :
    encodeChars text encoding = .ok (encoding.encode text) :=
  encodeChars_eq_ok_iff.mpr ⟨rfl, h⟩

theorem decodeChars_eq_ok_iff : decodeChars bytes encoding = .ok text ↔
    encoding.decode bytes = text ∧ Affords (textDemands bytes encoding) := by
  simp only [decodeChars, bind_eq_ok_iff, exists_unit_iff, insistAll_eq_ok_iff, liftM_eq_ok_iff,
    pure_eq_ok_iff, reserveStorage_eq_ok_iff, textDemands, affords_append, affords_cons,
    affords_nil, and_true]
  constructor
  · rintro ⟨hrepair, hroom, htext⟩
    exact ⟨htext, hrepair, hroom⟩
  · rintro ⟨htext, hrepair, hroom⟩
    exact ⟨hrepair, hroom, htext⟩

theorem decodeChars_eq_ok (h : Affords (textDemands bytes encoding)) :
    decodeChars bytes encoding = .ok (encoding.decode bytes) :=
  decodeChars_eq_ok_iff.mpr ⟨rfl, h⟩

theorem encodeText_eq_ok_iff {s : String} : encodeText s encoding = .ok bytes ↔
    encoding.encode s.toList = bytes ∧ Affords (collectBuffers s.toList encoding) ∧
      (encoding = .singleByte → (Demand.bytes bytes.length).Met) := by
  cases encoding with
  | utf8 => simp [encodeText, collectBuffers, Encoding.encode, Encoding.encode_toList]
  | singleByte =>
    simp only [encodeText, bind_eq_ok_iff, exists_unit_iff, insistAll_eq_ok_iff, liftM_eq_ok_iff,
      encodeChars_eq_ok_iff, true_implies]
    exact and_left_comm

end Value

open Memory in
/-- A text comes back from its bytes exactly when the encoding writes all of its characters, and
bytes come back from their text exactly when they are well formed in the encoding, provided that
there is memory for both. A string has the same bytes as its characters. -/
theorem Encoding.conversions_lossless_iff {allocator : Allocator} (encoding : Encoding) :
    (∀ text : List Char,
      (do Value.decodeChars (← Value.encodeChars text encoding) encoding : Except Fault _) =
          .ok text ↔
        encoding.Writes text ∧
          Affords [.bytes (encoding.encode text).length, .chars text.length]) ∧
    (∀ bytes : List UInt8,
      (do Value.encodeChars (← Value.decodeChars bytes encoding) encoding : Except Fault _) =
          .ok bytes ↔
        encoding.Reads bytes ∧
          Affords [.chars (encoding.decode bytes).length, .bytes bytes.length]) ∧
    ∀ (s : String) (bytes : List UInt8),
      Value.encodeChars s.toList encoding = .ok bytes ∧
          Affords (Value.collectBuffers s.toList encoding) ↔
        Value.encodeText s encoding = .ok bytes ∧ (Demand.bytes bytes.length).Met := by
  refine ⟨fun text => ?_, fun bytes => ?_, fun s bytes => ?_⟩
  · simp only [bind_eq_ok_iff, liftM_eq_ok_iff, Value.encodeChars_eq_ok_iff,
      Value.decodeChars_eq_ok_iff, ← decode_encode_iff, affords_cons, affords_nil, and_true]
    constructor
    · rintro ⟨_, ⟨rfl, hbytes⟩, hback, hchars⟩
      rw [Value.textDemands_of_reads (encode_decode_iff.mp (congrArg _ hback)), hback,
        affords_cons] at hchars
      exact ⟨hback, hbytes, hchars.1⟩
    · rintro ⟨hback, hbytes, hchars⟩
      refine ⟨_, ⟨rfl, hbytes⟩, hback, ?_⟩
      rw [Value.textDemands_of_reads (encode_decode_iff.mp (congrArg _ hback)), hback]
      exact affords_cons.mpr ⟨hchars, affords_nil⟩
  · simp only [bind_eq_ok_iff, liftM_eq_ok_iff, Value.encodeChars_eq_ok_iff,
      Value.decodeChars_eq_ok_iff, ← encode_decode_iff, affords_cons, affords_nil, and_true]
    constructor
    · rintro ⟨_, ⟨rfl, hchars⟩, hback, hbytes⟩
      rw [Value.textDemands_of_reads (encode_decode_iff.mp hback), affords_cons] at hchars
      exact ⟨hback, hchars.1, hbytes⟩
    · rintro ⟨hback, hchars, hbytes⟩
      refine ⟨_, ⟨rfl, ?_⟩, hback, hbytes⟩
      rw [Value.textDemands_of_reads (encode_decode_iff.mp hback)]
      exact affords_cons.mpr ⟨hchars, affords_nil⟩
  · rw [Value.encodeChars_eq_ok_iff, Value.encodeText_eq_ok_iff]
    constructor
    · rintro ⟨⟨hbytes, hroom⟩, hcollect⟩
      exact ⟨⟨hbytes, hcollect, fun _ => hroom⟩, hroom⟩
    · rintro ⟨⟨hbytes, hcollect, -⟩, hroom⟩
      exact ⟨⟨hbytes, hroom⟩, hcollect⟩

end Cryptoki
