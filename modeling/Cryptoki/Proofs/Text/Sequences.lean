import Cryptoki.Proofs.Text.Utf8
import Mathlib.Data.List.Basic

/-! UTF-8 by its bytes. `Sequence` says which bytes stand for one character, and
`wellFormed_iff_divides` that the encodings of texts are exactly the byte lists that divide into
such sequences. -/

namespace Cryptoki.Utf8

/-- The bytes of one character. The byte after the lead is restricted where a shorter sequence would
do, for the surrogates, and past the last code point. -/
inductive Sequence : List UInt8 → Prop
  | one {a : UInt8} : a ≤ 0x7F → Sequence [a]
  | two {a b : UInt8} : 0xC2 ≤ a → a ≤ 0xDF → isContinuation b → Sequence [a, b]
  | three {a b c : UInt8} : 0xE0 ≤ a → a ≤ 0xEF → (a = 0xE0 → 0xA0 ≤ b) → (a = 0xED → b ≤ 0x9F) →
      isContinuation b → isContinuation c → Sequence [a, b, c]
  | four {a b c d : UInt8} : 0xF0 ≤ a → a ≤ 0xF4 → (a = 0xF0 → 0x90 ≤ b) → (a = 0xF4 → b ≤ 0x8F) →
      isContinuation b → isContinuation c → isContinuation d → Sequence [a, b, c, d]

/-- Bytes that divide into the sequences of characters. -/
def Divides (bytes : List UInt8) : Prop :=
  ∃ sequences : List (List UInt8), (∀ s ∈ sequences, Sequence s) ∧ sequences.flatten = bytes

theorem isContinuation_iff {b : UInt8} :
    isContinuation b = true ↔ 0x80 ≤ b.toNat ∧ b.toNat ≤ 0xBF := by
  simp only [isContinuation, Bool.and_eq_true, decide_eq_true_eq, UInt8.le_iff_toNat_le]
  rfl

theorem isContinuation_continuation (n : Nat) : isContinuation (continuation n) := by
  rw [isContinuation_iff, toNat_continuation]
  omega

/-- The bytes of a character are a sequence. -/
theorem sequence_encodeChar (c : Char) : Sequence (String.utf8EncodeChar c) := by
  have hvalid : c.val.toNat < 0xD800 ∨ 0xDFFF < c.val.toNat ∧ c.val.toNat < 0x110000 := c.valid
  unfold String.utf8EncodeChar
  generalize c.val.toNat = v at hvalid
  by_cases h1 : v ≤ 0x7F
  · rw [if_pos h1]
    apply Sequence.one
    simp only [UInt8.le_iff_toNat_le, UInt8.reduceToNat, UInt8.toNat_ofNat']
    omega
  rw [if_neg h1]
  by_cases h2 : v ≤ 0x7FF
  · rw [if_pos h2]
    refine .two ?_ ?_ (isContinuation_continuation _)
    all_goals
      simp only [UInt8.le_iff_toNat_le, UInt8.reduceToNat, UInt8.toNat_ofNat']
      omega
  rw [if_neg h2]
  by_cases h3 : v ≤ 0xFFFF
  · rw [if_pos h3]
    refine .three ?_ ?_ ?_ ?_ (isContinuation_continuation _) (isContinuation_continuation _)
    all_goals
      simp only [UInt8.le_iff_toNat_le, ← UInt8.toNat_inj, UInt8.reduceToNat, UInt8.toNat_ofNat']
      omega
  rw [if_neg h3]
  refine .four ?_ ?_ ?_ ?_ (isContinuation_continuation _) (isContinuation_continuation _)
    (isContinuation_continuation _)
  all_goals
    simp only [UInt8.le_iff_toNat_le, ← UInt8.toNat_inj, UInt8.reduceToNat, UInt8.toNat_ofNat']
    omega

theorem toNat_char_ofNat {v : Nat} (h : v.isValidChar) : (Char.ofNat v).toNat = v := by
  rw [Char.ofNat, dif_pos h]
  rfl

theorem encodeChar_ofNat {v : Nat} (h : v.isValidChar) : String.utf8EncodeChar (Char.ofNat v) =
    if v ≤ 0x7F then [.ofNat v]
    else if v ≤ 0x7FF then [.ofNat (v / 64 % 32 + 0xC0), continuation v]
    else if v ≤ 0xFFFF then
      [.ofNat (v / 4096 % 16 + 0xE0), continuation (v / 64), continuation v]
    else [.ofNat (v / 262144 % 8 + 0xF0), continuation (v / 4096), continuation (v / 64),
      continuation v] := by
  have hv : (Char.ofNat v).val.toNat = v := toNat_char_ofNat h
  unfold String.utf8EncodeChar
  rw [hv]
  rfl

theorem ofNat_eq_of_toNat {b : UInt8} {n : Nat} (h : b.toNat = n) : UInt8.ofNat n = b := by
  rw [← h, UInt8.ofNat_toNat]

theorem continuation_eq_of_toNat {b : UInt8} {n : Nat} (h : b.toNat = n % 64 + 0x80) :
    continuation n = b :=
  ofNat_eq_of_toNat h

/-- A sequence is the bytes of a character. -/
theorem Sequence.exists_char {s : List UInt8} (h : Sequence s) :
    ∃ c, String.utf8EncodeChar c = s := by
  cases h with
  | @one a ha =>
    simp only [UInt8.le_iff_toNat_le, UInt8.reduceToNat] at ha
    refine ⟨Char.ofNat a.toNat, ?_⟩
    rw [encodeChar_ofNat (.inl (by omega)), if_pos ha, UInt8.ofNat_toNat]
  | @two a b ha ha' hb =>
    simp only [UInt8.le_iff_toNat_le, UInt8.reduceToNat] at ha ha'
    rw [isContinuation_iff] at hb
    obtain ⟨v, hv⟩ : ∃ v, v = (a.toNat - 0xC0) * 64 + (b.toNat - 0x80) := ⟨_, rfl⟩
    refine ⟨Char.ofNat v, ?_⟩
    rw [encodeChar_ofNat (.inl (by omega)), if_neg (by omega), if_pos (by omega),
      ofNat_eq_of_toNat (b := a) (by omega), continuation_eq_of_toNat (b := b) (by omega)]
  | @three a b c ha ha' hlow hhigh hb hc =>
    simp only [UInt8.le_iff_toNat_le, ← UInt8.toNat_inj, UInt8.reduceToNat] at ha ha' hlow hhigh
    rw [isContinuation_iff] at hb hc
    obtain ⟨v, hv⟩ : ∃ v, v = (a.toNat - 0xE0) * 4096 + (b.toNat - 0x80) * 64 + (c.toNat - 0x80) :=
      ⟨_, rfl⟩
    have hvalid : v.isValidChar := by
      show v < 0xD800 ∨ 0xDFFF < v ∧ v < 0x110000
      omega
    refine ⟨Char.ofNat v, ?_⟩
    rw [encodeChar_ofNat hvalid, if_neg (by omega), if_neg (by omega), if_pos (by omega),
      ofNat_eq_of_toNat (b := a) (by omega), continuation_eq_of_toNat (b := b) (by omega),
      continuation_eq_of_toNat (b := c) (by omega)]
  | @four a b c d ha ha' hlow hhigh hb hc hd =>
    simp only [UInt8.le_iff_toNat_le, ← UInt8.toNat_inj, UInt8.reduceToNat] at ha ha' hlow hhigh
    rw [isContinuation_iff] at hb hc hd
    obtain ⟨v, hv⟩ : ∃ v, v = (a.toNat - 0xF0) * 262144 + (b.toNat - 0x80) * 4096 +
      (c.toNat - 0x80) * 64 + (d.toNat - 0x80) := ⟨_, rfl⟩
    refine ⟨Char.ofNat v, ?_⟩
    rw [encodeChar_ofNat (.inr (by omega)), if_neg (by omega), if_neg (by omega), if_neg (by omega),
      ofNat_eq_of_toNat (b := a) (by omega), continuation_eq_of_toNat (b := b) (by omega),
      continuation_eq_of_toNat (b := c) (by omega), continuation_eq_of_toNat (b := d) (by omega)]

/-! ### Texts -/

/-- The encodings of texts are the bytes that divide into sequences. -/
theorem wellFormed_iff_divides {bytes : List UInt8} : WellFormed bytes ↔ Divides bytes := by
  constructor
  · rintro ⟨text, rfl⟩
    refine ⟨text.map String.utf8EncodeChar, ?_, (List.flatMap_def ..).symm⟩
    rw [List.forall_mem_map]
    exact fun c _ => sequence_encodeChar c
  · rintro ⟨sequences, hall, rfl⟩
    choose! char hchar using fun s hs => (hall s hs).exists_char
    have hback : sequences.map (fun s => String.utf8EncodeChar (char s)) = sequences :=
      (List.map_congr_left hchar).trans (List.map_id _)
    refine ⟨sequences.map char, ?_⟩
    rw [encode, List.flatMap_map, List.flatMap_def, hback]

/-- Lossy decoding loses nothing of the bytes that divide into sequences, and of no others. -/
theorem encode_decodeLossy_iff {bytes : List UInt8} :
    encode (decodeLossy bytes) = bytes ↔ Divides bytes := by
  rw [← wellFormed_iff_divides]
  constructor
  · exact fun h => ⟨_, h⟩
  · rintro ⟨text, rfl⟩
    rw [decodeLossy_encode]

end Cryptoki.Utf8
