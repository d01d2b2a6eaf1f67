import Cryptoki.Proofs.Date
import Cryptoki.Proofs.Text.Conversion
import Cryptoki.Simulation.Memory

/-! The decoding of native bytes into attribute values. `Kind.HasLayout` says which bytes have the
layout of a kind, and `Value.decode_eq_bytes_iff_of_malformed` for which kinds bytes of another
layout stay bytes. -/

namespace Cryptoki

namespace Memory

variable {allocator : Allocator} {bytes : List UInt8}

theorem copyBytes_eq_ok_iff {bytes' : List UInt8} :
    copyBytes bytes = .ok bytes' ↔ bytes = bytes' ∧ (Demand.bytes bytes.length).Met :=
  reserved_eq_ok_iff

theorem copyBytes_eq_ok (h : (Demand.bytes bytes.length).Met) : copyBytes bytes = .ok bytes :=
  copyBytes_eq_ok_iff.mpr ⟨rfl, h⟩

theorem decodeWords_of_ragged (h : ¬wordSize ∣ bytes.length) :
    decodeWords bytes = .error (.conversion (.raggedWords bytes.length)) := by
  have hragged : bytes.length % wordSize ≠ 0 := fun hzero => h (Nat.dvd_of_mod_eq_zero hzero)
  rw [decodeWords, if_pos hragged]
  rfl

theorem decodeWords_of_dvd (h : wordSize ∣ bytes.length) : decodeWords bytes = (do
    reserveStorage (.words (bytes.length / wordSize))
    return Word.listOfBytes bytes) :=
  if_neg (not_not.mpr (Nat.mod_eq_zero_of_dvd h))

theorem decodeWords_eq_ok_iff {words : List Word} :
    decodeWords bytes = .ok words ↔ wordSize ∣ bytes.length ∧ Word.listOfBytes bytes = words ∧
      (Demand.words (bytes.length / wordSize)).Met := by
  by_cases hwords : wordSize ∣ bytes.length
  · rw [decodeWords_of_dvd hwords, reserved_eq_ok_iff, and_iff_right hwords]
  · rw [decodeWords_of_ragged hwords]
    exact iff_of_false nofun fun h => hwords h.1

theorem decodeWords_eq_ok (h : (Demand.words (bytes.length / wordSize)).Met)
    (hwords : wordSize ∣ bytes.length) : decodeWords bytes = .ok (Word.listOfBytes bytes) :=
  decodeWords_eq_ok_iff.mpr ⟨hwords, rfl, h⟩

end Memory

/-- Bytes have the native layout of a kind. Text, bytes and nested attributes have none of their
own. -/
def Kind.HasLayout : Kind → List UInt8 → Prop
  | ulong, b => b.length = wordSize
  | bool, b => b.length = 1
  | date, b => b.length = 8 ∧ ∀ d ∈ b, Date.IsDigit d
  | mechanismArray, b => wordSize ∣ b.length
  | text, _ | templateArray, _ | bytes, _ => True

namespace Value

open Memory

/-- The buffers that must be had for the value of native bytes: copies of bytes that do not have the
layout of their kind, and of a text that is repaired. -/
def decodeCopies (kind : Kind) (b : List UInt8) (encoding : Encoding) : List Demand :=
  match kind with
  | .ulong => if b.length = wordSize then [] else [.bytes b.length]
  | .date => match Date.ofBytes b with
    | .ok _ => []
    | .error _ => [.bytes b.length]
  | .text => repairBuffers b encoding
  | .bool | .mechanismArray | .templateArray | .bytes => []

/-- The buffers that are set aside for the value of native bytes. -/
def decodeReserves (kind : Kind) (b : List UInt8) (encoding : Encoding) : List Demand :=
  match kind with
  | .text => [.chars (encoding.decode b).length]
  | .mechanismArray => if wordSize ∣ b.length then [.words (b.length / wordSize)] else []
  | .templateArray | .bytes => [.bytes b.length]
  | .ulong | .bool | .date => []

/-- The memory that it takes to decode native bytes. -/
def decodeDemands (kind : Kind) (b : List UInt8) (encoding : Encoding) : List Demand :=
  decodeCopies kind b encoding ++ decodeReserves kind b encoding

variable {allocator : Allocator} {kind : Kind} {b : List UInt8} {encoding : Encoding}

theorem keepBytes_eq_ok (h : (Demand.bytes b.length).Met) : keepBytes b = .ok (.bytes b) := by
  rw [keepBytes, insist_of_met h]
  rfl

theorem keepBytes_of_not_met (h : ¬(Demand.bytes b.length).Met) : keepBytes b = .error .abort := by
  rw [keepBytes, insist_of_not_met h]
  rfl

theorem keepBytes_eq_ok_iff {v : Value} :
    keepBytes b = .ok v ↔ v = .bytes b ∧ (Demand.bytes b.length).Met := by
  by_cases h : (Demand.bytes b.length).Met
  · simp [keepBytes_eq_ok h, h, eq_comm]
  · simp [keepBytes_of_not_met h, h]

/-! ### Kinds one by one -/

section

variable (encoding)

theorem decode_nil (h : kind ≠ .bytes ∧ kind ≠ .text) :
    decode kind [] encoding = .ok .absent :=
  if_pos (by simp [h])

theorem decode_text_eq (b : List UInt8) :
    decode .text b encoding = (do return chars (← decodeChars b encoding)) :=
  if_neg (by simp)

theorem decode_bytes_eq (b : List UInt8) :
    decode .bytes b encoding = (do return bytes (← Memory.copyBytes b)) :=
  if_neg (by simp)

theorem decode_ulong_eq (hne : b ≠ []) : decode .ulong b encoding =
    if b.length = wordSize then .ok (ofWord (Word.ofBytes b)) else keepBytes b :=
  if_neg (by simp [hne])

theorem decode_bool_eq (hne : b ≠ []) :
    decode .bool b encoding = .ok (.bool (b.any (· != 0))) :=
  if_neg (by simp [hne])

theorem decode_date_eq (hne : b ≠ []) : decode .date b encoding =
    match Date.ofBytes b with
    | .ok d => .ok (.date d)
    | .error _ => keepBytes b :=
  if_neg (by simp [hne])

theorem decode_mechanismArray_eq (hne : b ≠ []) :
    decode .mechanismArray b encoding = (do return words (← Memory.decodeWords b)) :=
  if_neg (by simp [hne])

theorem decode_templateArray_eq (hne : b ≠ []) :
    decode .templateArray b encoding = (do return bytes (← Memory.copyBytes b)) :=
  if_neg (by simp [hne])

end

/-- Bytes have a value when there is memory for it, if mechanism codes come in whole words. -/
theorem exists_decode (hroom : Affords (decodeDemands kind b encoding))
    (hwords : kind = .mechanismArray → wordSize ∣ b.length) :
    ∃ v, decode kind b encoding = .ok v := by
  obtain ⟨hcopies, hreserves⟩ := affords_append.mp hroom
  unfold decode
  split
  · exact ⟨_, rfl⟩
  cases kind with
  | bool => exact ⟨_, rfl⟩
  | ulong =>
    dsimp only [decodeCopies] at hcopies ⊢
    split
    · exact ⟨_, rfl⟩
    · next hlength =>
      rw [if_neg hlength] at hcopies
      exact ⟨_, keepBytes_eq_ok (affords_cons.mp hcopies).1⟩
  | date =>
    dsimp only [decodeCopies] at hcopies ⊢
    split
    · exact ⟨_, rfl⟩
    · next hdate =>
      rw [hdate] at hcopies
      exact ⟨_, keepBytes_eq_ok (affords_cons.mp hcopies).1⟩
  | text => exact ⟨_, by rw [decodeChars_eq_ok hroom]; rfl⟩
  | mechanismArray =>
    rw [decodeReserves, if_pos (hwords rfl)] at hreserves
    exact ⟨_, by rw [decodeWords_eq_ok (affords_cons.mp hreserves).1 (hwords rfl)]; rfl⟩
  | templateArray | bytes =>
    exact ⟨_, by rw [copyBytes_eq_ok (affords_cons.mp hreserves).1]; rfl⟩

/-! ### Bytes of another layout -/

theorem decode_ulong_of_malformed (hne : b ≠ []) (h : ¬Kind.ulong.HasLayout b) :
    decode .ulong b encoding = keepBytes b := by
  have hlength : ¬b.length = wordSize := h
  rw [decode_ulong_eq encoding hne, if_neg hlength]

theorem decode_date_of_malformed (hne : b ≠ []) (h : ¬Kind.date.HasLayout b) :
    decode .date b encoding = keepBytes b := by
  rw [decode_date_eq encoding hne]
  cases hdate : Date.ofBytes b with
  | ok d => exact absurd (Date.exists_ofBytes_iff.mp ⟨d, hdate⟩) h
  | error e => rfl

theorem decode_mechanismArray_of_malformed (hne : b ≠ []) (h : ¬Kind.mechanismArray.HasLayout b) :
    decode .mechanismArray b encoding = .error (.error (.conversion (.raggedWords b.length))) := by
  rw [decode_mechanismArray_eq encoding hne, Memory.decodeWords_of_ragged h]
  rfl

/-- Of the bytes that do not have the layout of their kind, those of words and of dates stay bytes.
A boolean is read from bytes of any number, and mechanism codes that do not divide into words are
refused. -/
theorem decode_eq_bytes_iff_of_malformed (encoding : Encoding) (hne : b ≠ [])
    (h : ¬kind.HasLayout b) :
    (decode kind b encoding = .ok (.bytes b) ↔
        (kind = .ulong ∨ kind = .date) ∧ (Demand.bytes b.length).Met) ∧
      (kind = .bool → decode kind b encoding = .ok (.bool (b.any (· != 0)))) ∧
      (kind = .mechanismArray →
        decode kind b encoding = .error (.error (.conversion (.raggedWords b.length)))) := by
  cases kind with
  | ulong => simp [decode_ulong_of_malformed hne h, keepBytes_eq_ok_iff]
  | date => simp [decode_date_of_malformed hne h, keepBytes_eq_ok_iff]
  | bool => simp [decode_bool_eq encoding hne]
  | mechanismArray => simp [decode_mechanismArray_of_malformed hne h]
  | text | templateArray | bytes => exact absurd trivial h

end Value

namespace Value

open Simulation

theorem decode_short_date :
    [0x32, 0x30, 0x32, 0x34] ≠ ([] : List UInt8) ∧
      ¬Kind.date.HasLayout [0x32, 0x30, 0x32, 0x34] ∧
      decode .date [0x32, 0x30, 0x32, 0x34] .utf8 = .ok (.bytes [0x32, 0x30, 0x32, 0x34]) := by
  have hlayout : ¬Kind.date.HasLayout [0x32, 0x30, 0x32, 0x34] := fun h => absurd h.1 (by decide)
  have hne : [0x32, 0x30, 0x32, 0x34] ≠ ([] : List UInt8) := by decide
  exact ⟨hne, hlayout,
    (decode_eq_bytes_iff_of_malformed .utf8 hne hlayout).1.mpr ⟨.inr rfl, by decide⟩⟩

/-- Three bytes of mechanism codes and two of a boolean have the layout of neither, and do not stay
bytes. -/
theorem malformed_not_kept :
    (¬Kind.mechanismArray.HasLayout [1, 2, 3] ∧
      decode .mechanismArray [1, 2, 3] .utf8 = .error (.error (.conversion (.raggedWords 3)))) ∧
    (¬Kind.bool.HasLayout [0, 2] ∧ decode .bool [0, 2] .utf8 = .ok (.bool true)) ∧
    ¬∀ (kind : Kind) (b : List UInt8) (encoding : Encoding), b ≠ [] → ¬kind.HasLayout b →
      decode kind b encoding = .ok (.bytes b) := by
  have hwords : ¬Kind.mechanismArray.HasLayout [1, 2, 3] := by
    show ¬8 ∣ 3
    decide
  have hbool : ¬Kind.bool.HasLayout [0, 2] := by
    show ¬2 = 1
    decide
  refine ⟨⟨hwords, rfl⟩, ⟨hbool, rfl⟩, fun h => ?_⟩
  exact nomatch h .mechanismArray [1, 2, 3] .utf8 (by decide) hwords

end Value

end Cryptoki
