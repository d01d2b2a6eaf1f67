import Cryptoki.Text.Encoding
import Mathlib.Data.List.Forall2

/-! Texts survive their encoding. Lossy decoding of the UTF-8 bytes of a text gives the text back
(`Utf8.decodeLossy_encode`), because the item at the head of an encoded character is that character
(`Utf8.item_encode`). -/

namespace Cryptoki

namespace Utf8

/-! ### Bytes of an encoded character -/

/-- A continuation byte for the six low bits of a number. -/
def continuation (n : Nat) : UInt8 := UInt8.ofNat (n % 64 + 0x80)

theorem toNat_continuation (n : Nat) : (continuation n).toNat = n % 64 + 0x80 := by
  rw [continuation, UInt8.toNat_ofNat']
  omega

theorem continuation_low (n : Nat) : (continuation n &&& 0x3F).toNat = n % 64 := by
  have low : ∀ m : Fin 64, (UInt8.ofNat (m.val + 0x80) &&& 0x3F).toNat = m.val := by decide
  exact low ⟨n % 64, Nat.mod_lt n (by decide)⟩

theorem continuation_mem {low high : UInt8} {n : Nat} (hl : low.toNat ≤ n % 64 + 0x80)
    (hh : n % 64 + 0x80 ≤ high.toNat) : low ≤ continuation n ∧ continuation n ≤ high := by
  simp only [UInt8.le_iff_toNat_le, toNat_continuation]
  exact ⟨hl, hh⟩

theorem continuation_mem_all (n : Nat) : 0x80 ≤ continuation n ∧ continuation n ≤ 0xBF := by
  apply continuation_mem
  · show 0x80 ≤ n % 64 + 0x80
    omega
  · show n % 64 + 0x80 ≤ 0xBF
    omega

theorem matching_append {ranges : List (UInt8 × UInt8)} {tail : List UInt8}
    (h : List.Forall₂ (fun r b => r.1 ≤ b ∧ b ≤ r.2) ranges tail) (rest : List UInt8) :
    matching ranges (tail ++ rest) = ranges.length := by
  induction h with
  | nil => simp [matching]
  | cons hb _ ih => simp [matching, hb, ih]

/-- A lead byte with continuation bytes in the ranges that it asks for is a character. -/
theorem item_append {lead : UInt8} {ranges : List (UInt8 × UInt8)} {tail : List UInt8}
    (hlead : 0x80 ≤ lead) (hf : following lead = some ranges)
    (h : List.Forall₂ (fun r b => r.1 ≤ b ∧ b ≤ r.2) ranges tail) (rest : List UInt8) :
    item lead (tail ++ rest) = (.char (Char.ofNat (codePoint lead tail)), tail.length + 1) := by
  have hnot : ¬lead < 0x80 := UInt8.not_lt.mpr hlead
  rw [item, if_neg hnot, hf]
  simp only [matching_append h, if_true, h.length_eq, List.take_left]

theorem lead_two : ∀ q : Fin 32, 2 ≤ q.val →
    0x80 ≤ UInt8.ofNat (q.val + 0xC0) ∧ (UInt8.ofNat (q.val + 0xC0) &&& 0x1F).toNat = q.val ∧
      following (UInt8.ofNat (q.val + 0xC0)) = some [(0x80, 0xBF)] := by
  decide

/-- Three bytes start after the two-byte numbers, and leave out the surrogates. -/
theorem lead_three : ∀ q : Fin 16,
    0x80 ≤ UInt8.ofNat (q.val + 0xE0) ∧ (UInt8.ofNat (q.val + 0xE0) &&& 0x0F).toNat = q.val ∧
      following (UInt8.ofNat (q.val + 0xE0)) =
        some [(if q.val = 0 then 0xA0 else 0x80, if q.val = 13 then 0x9F else 0xBF),
          (0x80, 0xBF)] := by
  decide

/-- Four bytes start after the three-byte numbers, and end with the last code point. -/
theorem lead_four : ∀ q : Fin 5,
    0x80 ≤ UInt8.ofNat (q.val + 0xF0) ∧ (UInt8.ofNat (q.val + 0xF0) &&& 0x07).toNat = q.val ∧
      following (UInt8.ofNat (q.val + 0xF0)) =
        some [(if q.val = 0 then 0x90 else 0x80, if q.val = 4 then 0x8F else 0xBF),
          (0x80, 0xBF), (0x80, 0xBF)] := by
  decide

theorem item_one {v : Nat} (h : v ≤ 0x7F) (rest : List UInt8) :
    item (UInt8.ofNat v) rest = (.char (Char.ofNat v), 1) := by
  have hsame : (UInt8.ofNat v).toNat = v := by
    rw [UInt8.toNat_ofNat']
    omega
  have hsmall : UInt8.ofNat v < 0x80 := by
    rw [UInt8.lt_iff_toNat_lt, hsame]
    show v < 0x80
    omega
  rw [item, if_pos hsmall, hsame]

theorem item_two {v : Nat} (h : 0x80 ≤ v) (h' : v ≤ 0x7FF) (rest : List UInt8) :
    item (UInt8.ofNat (v / 64 % 32 + 0xC0)) ([continuation v] ++ rest) =
      (.char (Char.ofNat v), 2) := by
  obtain ⟨hlead, hlow, hf⟩ := lead_two ⟨v / 64 % 32, by omega⟩ (by show 2 ≤ v / 64 % 32; omega)
  rw [item_append hlead hf (.cons (continuation_mem_all v) .nil)]
  have hcode : codePoint (UInt8.ofNat (v / 64 % 32 + 0xC0)) [continuation v] = v := by
    simp only [codePoint, List.length_cons, List.length_nil, List.foldl_cons, List.foldl_nil, hlow,
      continuation_low]
    omega
  rw [hcode]
  rfl

theorem item_three {v : Nat} (h : 0x800 ≤ v) (h' : v ≤ 0xFFFF) (hs : v < 0xD800 ∨ 0xDFFF < v)
    (rest : List UInt8) : item (UInt8.ofNat (v / 4096 % 16 + 0xE0))
      ([continuation (v / 64), continuation v] ++ rest) = (.char (Char.ofNat v), 3) := by
  obtain ⟨hlead, hlow, hf⟩ := lead_three ⟨v / 4096 % 16, by omega⟩
  have hfirst : (if v / 4096 % 16 = 0 then 0xA0 else 0x80) ≤ continuation (v / 64) ∧
      continuation (v / 64) ≤ if v / 4096 % 16 = 13 then 0x9F else 0xBF := by
    apply continuation_mem
    · split
      · show 0xA0 ≤ v / 64 % 64 + 0x80
        omega
      · show 0x80 ≤ v / 64 % 64 + 0x80
        omega
    · split
      · show v / 64 % 64 + 0x80 ≤ 0x9F
        omega
      · show v / 64 % 64 + 0x80 ≤ 0xBF
        omega
  rw [item_append hlead hf (.cons hfirst (.cons (continuation_mem_all v) .nil))]
  have hcode : codePoint (UInt8.ofNat (v / 4096 % 16 + 0xE0))
      [continuation (v / 64), continuation v] = v := by
    simp only [codePoint, List.length_cons, List.length_nil, List.foldl_cons, List.foldl_nil, hlow,
      continuation_low]
    omega
  rw [hcode]
  rfl

theorem item_four {v : Nat} (h : 0x10000 ≤ v) (h' : v < 0x110000) (rest : List UInt8) :
    item (UInt8.ofNat (v / 262144 % 8 + 0xF0))
      ([continuation (v / 4096), continuation (v / 64), continuation v] ++ rest) =
        (.char (Char.ofNat v), 4) := by
  obtain ⟨hlead, hlow, hf⟩ := lead_four ⟨v / 262144 % 8, by omega⟩
  have hfirst : (if v / 262144 % 8 = 0 then 0x90 else 0x80) ≤ continuation (v / 4096) ∧
      continuation (v / 4096) ≤ if v / 262144 % 8 = 4 then 0x8F else 0xBF := by
    apply continuation_mem
    · split
      · show 0x90 ≤ v / 4096 % 64 + 0x80
        omega
      · show 0x80 ≤ v / 4096 % 64 + 0x80
        omega
    · split
      · show v / 4096 % 64 + 0x80 ≤ 0x8F
        omega
      · show v / 4096 % 64 + 0x80 ≤ 0xBF
        omega
  rw [item_append hlead hf
    (.cons hfirst (.cons (continuation_mem_all _) (.cons (continuation_mem_all v) .nil)))]
  have hcode : codePoint (UInt8.ofNat (v / 262144 % 8 + 0xF0))
      [continuation (v / 4096), continuation (v / 64), continuation v] = v := by
    simp only [codePoint, List.length_cons, List.length_nil, List.foldl_cons, List.foldl_nil, hlow,
      continuation_low]
    omega
  rw [hcode]
  rfl

/-- At the head of an encoded character stands this character. -/
theorem item_encode (c : Char) (rest : List UInt8) :
    ∃ lead tail, String.utf8EncodeChar c = lead :: tail ∧
      item lead (tail ++ rest) = (.char c, tail.length + 1) := by
  have hvalid : c.toNat < 0xD800 ∨ 0xDFFF < c.toNat ∧ c.toNat < 0x110000 := c.valid
  have hback : Char.ofNat c.toNat = c := Char.ofNat_toNat c
  unfold String.utf8EncodeChar
  obtain ⟨v, hv⟩ : ∃ v, v = c.val.toNat := ⟨_, rfl⟩
  rw [show c.toNat = v from hv.symm] at hvalid hback
  simp only [← hv]
  rw [← hback]
  by_cases h1 : v ≤ 0x7F
  · rw [if_pos h1]
    exact ⟨_, [], rfl, item_one h1 rest⟩
  rw [if_neg h1]
  by_cases h2 : v ≤ 0x7FF
  · rw [if_pos h2]
    exact ⟨_, _, rfl, item_two (by omega) h2 rest⟩
  rw [if_neg h2]
  by_cases h3 : v ≤ 0xFFFF
  · rw [if_pos h3]
    exact ⟨_, _, rfl, item_three (by omega) h3 (by omega) rest⟩
  rw [if_neg h3]
  exact ⟨_, _, rfl, item_four (by omega) (by omega) rest⟩

/-! ### Texts -/

/-- Lossy decoding has the characters of an encoded text, whatever bytes come after it. -/
theorem decodeLossy_encode_append (text : List Char) (rest : List UInt8) :
    decodeLossy (encode text ++ rest) = text ++ decodeLossy rest := by
  induction text with
  | nil => rfl
  | cons c text ih =>
    obtain ⟨lead, tail, hc, hitem⟩ := item_encode c (encode text ++ rest)
    have hsplit : encode (c :: text) ++ rest = lead :: (tail ++ (encode text ++ rest)) := by
      rw [encode, List.flatMap_cons, hc, List.append_assoc]
      rfl
    rw [hsplit, decodeLossy, hitem]
    simp only [Nat.add_sub_cancel, List.drop_left, ih, List.cons_append]

/-- Lossy decoding loses nothing of an encoded text. -/
theorem decodeLossy_encode (text : List Char) : decodeLossy (encode text) = text := by
  have happend := decodeLossy_encode_append text []
  rwa [List.append_nil, decodeLossy, List.append_nil] at happend

end Utf8

namespace Encoding

/-- A text that an encoding has bytes for: any text, or code points of one byte. -/
def Writes : Encoding → List Char → Prop
  | utf8, _ => True
  | singleByte, text => ∀ c ∈ text, c.toNat ≤ 0xFF

theorem decode_encode {encoding : Encoding} {text : List Char} (h : encoding.Writes text) :
    encoding.decode (encoding.encode text) = text := by
  cases encoding with
  | utf8 => exact Utf8.decodeLossy_encode text
  | singleByte =>
    have hback : ∀ c ∈ text, Char.ofNat (UInt8.ofNat c.toNat).toNat = c := by
      intro c hc
      have hbyte : c.toNat ≤ 0xFF := h c hc
      rw [UInt8.toNat_ofNat', Nat.mod_eq_of_lt (by omega), Char.ofNat_toNat]
    rw [encode, decode, List.map_map]
    exact (List.map_congr_left hback).trans (List.map_id text)

end Encoding

end Cryptoki
