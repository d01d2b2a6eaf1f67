import Cryptoki.Proofs.Text.Lossy
import Cryptoki.Proofs.Text.Padding

/-! The first bytes of an encoded text. They are the encoding of the characters that fit, unless
some character has bytes on both sides of the end (`Utf8.exists_fitting`). That character is
read as a replacement, and the bytes are then no encoding of any text. -/

namespace Cryptoki.Utf8

/-- The longest beginning of a text whose encoding has room in `width` bytes. -/
structure Fitting (width : Nat) (text kept : List Char) : Prop where
  begins : kept <+: text
  room : (encode kept).length ≤ width
  longest : ∀ longer, longer <+: text → (encode longer).length ≤ width → longer <+: kept

/-- Whether the characters that fit end where the room or the text ends; else the next character has
some of its bytes in the room that is left. -/
def Whole (width : Nat) (text kept : List Char) : Prop :=
  kept = text ∨ (encode kept).length = width

variable {width : Nat} {text kept : List Char} {c : Char}

theorem encode_cons (c : Char) (text : List Char) :
    encode (c :: text) = String.utf8EncodeChar c ++ encode text := List.flatMap_cons

theorem encode_append (text text' : List Char) :
    encode (text ++ text') = encode text ++ encode text' := List.flatMap_append

theorem encode_singleton (c : Char) : encode [c] = String.utf8EncodeChar c := by
  rw [encode_cons, encode, List.flatMap_nil, List.append_nil]

theorem length_encode_cons (c : Char) (text : List Char) :
    (encode (c :: text)).length = c.utf8Size + (encode text).length := by
  rw [encode_cons, List.length_append, String.length_utf8EncodeChar]

/-- A character that has room is kept, and the text after it goes on in what is left. -/
theorem Fitting.cons (h : c.utf8Size ≤ width) (hfit : Fitting (width - c.utf8Size) text kept) :
    Fitting width (c :: text) (c :: kept) where
  begins := (List.prefix_cons_inj c).mpr hfit.begins
  room := by
    have hroom := hfit.room
    rw [length_encode_cons]
    omega
  longest := by
    intro longer hlonger hroom
    cases longer with
    | nil => exact List.nil_prefix
    | cons d longer =>
      obtain ⟨rfl, htail⟩ := List.cons_prefix_cons.mp hlonger
      rw [length_encode_cons] at hroom
      exact (List.prefix_cons_inj d).mpr (hfit.longest longer htail (by omega))

/-- Nothing is kept from a character without room on. -/
theorem Fitting.nil (h : width < c.utf8Size) : Fitting width (c :: text) [] where
  begins := List.nil_prefix
  room := Nat.zero_le width
  longest := by
    intro longer hlonger hroom
    cases longer with
    | nil => exact List.nil_prefix
    | cons d longer =>
      obtain ⟨rfl, -⟩ := List.cons_prefix_cons.mp hlonger
      rw [length_encode_cons] at hroom
      omega

theorem Fitting.eq_of_length_le (h : Fitting width text kept) (hle : (encode text).length ≤ width) :
    kept = text :=
  h.begins.eq_of_length_le (h.longest text (List.prefix_refl text) hle).length_le

/-- The first bytes of an encoding are those of the characters that fit, and after them those of the
next character that are within the room. -/
theorem exists_fitting (width : Nat) (text : List Char) : ∃ kept, Fitting width text kept ∧
    ((encode text).take width = encode kept ∧ Whole width text kept ∨
      ∃ c rest k, text = kept ++ c :: rest ∧ 0 < k ∧ k < c.utf8Size ∧
        (encode kept).length + k = width ∧
        (encode text).take width = encode kept ++ (String.utf8EncodeChar c).take k) := by
  induction text generalizing width with
  | nil =>
    exact ⟨[], ⟨List.nil_prefix, Nat.zero_le width, fun _ h _ => h⟩, .inl ⟨List.take_nil, .inl rfl⟩⟩
  | cons c text ih =>
    by_cases hroom : c.utf8Size ≤ width
    · obtain ⟨kept, hfit, hbytes⟩ := ih (width - c.utf8Size)
      have htake : (encode (c :: text)).take width =
          String.utf8EncodeChar c ++ (encode text).take (width - c.utf8Size) := by
        rw [encode_cons, List.take_append, String.length_utf8EncodeChar,
          List.take_of_length_le (by rwa [String.length_utf8EncodeChar])]
      refine ⟨c :: kept, hfit.cons hroom, ?_⟩
      rw [htake, encode_cons]
      obtain ⟨hbytes, hwhole⟩ | ⟨d, rest, k, rfl, hk, hk', hlength, hbytes⟩ := hbytes
      · refine .inl ⟨by rw [hbytes], hwhole.imp (congrArg (c :: ·)) fun hlength => ?_⟩
        rw [length_encode_cons, hlength]
        omega
      · refine .inr ⟨d, rest, k, rfl, hk, hk', ?_, by rw [hbytes, List.append_assoc]⟩
        rw [List.length_append, String.length_utf8EncodeChar]
        omega
    · refine ⟨[], .nil (by omega), ?_⟩
      cases width with
      | zero => exact .inl ⟨List.take_zero, .inr rfl⟩
      | succ k =>
        refine .inr ⟨c, text, k + 1, rfl, k.succ_pos, by omega, Nat.zero_add _, ?_⟩
        have hsize : k + 1 ≤ (String.utf8EncodeChar c).length := by
          rw [String.length_utf8EncodeChar]
          omega
        rw [encode_cons, List.take_append_of_le_length hsize]
        rfl

/-- Bytes that begin an encoded character and do not end it are the encoding of no character. -/
theorem not_wellFormed_of_cut {k : Nat} (h : 0 < k) (h' : k < c.utf8Size) :
    ¬WellFormed (encode kept ++ (String.utf8EncodeChar c).take k) := by
  rintro ⟨text, htext⟩
  rw [← String.length_utf8EncodeChar] at h'
  have hdecode := congrArg decodeLossy htext
  rw [decodeLossy_encode, decodeLossy_encode_append, decodeLossy_take_encodeChar h h'] at hdecode
  rw [hdecode, encode_append, encode_singleton, List.append_cancel_left_eq] at htext
  -- the bytes are those of the replacement, and go on as those of another character
  have hbytes : encode [replacement] ++ (String.utf8EncodeChar c).drop k = encode [c] := by
    rw [encode_singleton, encode_singleton, htext, List.take_append_drop]
  have hchar := congrArg decodeLossy hbytes
  rw [decodeLossy_encode_append, decodeLossy_encode, List.singleton_append, List.cons.injEq]
    at hchar
  rw [hchar.1] at htext
  have hlength := congrArg List.length htext
  rw [List.length_take_of_le (Nat.le_of_lt h')] at hlength
  omega

/-! ### Padded fields -/

theorem encode_blanks (n : Nat) : encode (List.replicate n ' ') = List.replicate n 0x20 := by
  induction n with
  | zero => rfl
  | succ n ih =>
    rw [List.replicate_succ, encode_cons, ih]
    rfl

/-- A field that holds as much of a text as there is room for: it is well formed and has the
characters that fit, but where a character is cut off it is malformed and has a replacement at its
end. -/
theorem decodeLossy_fill (width : Nat) (text : List Char) : ∃ kept, Fitting width text kept ∧
    (Whole width text kept → WellFormed (Padding.fill width (encode text)) ∧
      (decodeLossy (Padding.fill width (encode text))).rdropWhile Padding.isBlank =
        kept.rdropWhile Padding.isBlank) ∧
    (¬Whole width text kept → ¬WellFormed (Padding.fill width (encode text)) ∧
      (decodeLossy (Padding.fill width (encode text))).rdropWhile Padding.isBlank =
        kept ++ [replacement]) := by
  obtain ⟨kept, hfit, ⟨hbytes, hwhole⟩ | ⟨c, rest, k, rfl, hk, hk', hlength, hbytes⟩⟩ :=
    exists_fitting width text
  · have hfill : Padding.fill width (encode text) =
        encode (kept ++ List.replicate (width - (encode text).length) ' ') := by
      rw [Padding.fill, hbytes, encode_append, encode_blanks]
    refine ⟨kept, hfit, fun _ => ⟨⟨_, hfill.symm⟩, ?_⟩, fun hcut => absurd hwhole hcut⟩
    rw [hfill, decodeLossy_encode, Padding.rdropWhile_append_of_forall]
    intro c hc
    rw [List.eq_of_mem_replicate hc]
    rfl
  · have hfull : width - (encode (kept ++ c :: rest)).length = 0 := by
      rw [encode_append, List.length_append, length_encode_cons]
      omega
    have hfill : Padding.fill width (encode (kept ++ c :: rest)) =
        encode kept ++ (String.utf8EncodeChar c).take k := by
      rw [Padding.fill, hbytes, hfull, List.replicate_zero, List.append_nil]
    have hcut : ¬Whole width (kept ++ c :: rest) kept := by
      rintro (hkept | hkept)
      · simp at hkept
      · omega
    refine ⟨kept, hfit, fun hwhole => absurd hwhole hcut, fun _ => ?_⟩
    rw [hfill]
    refine ⟨not_wellFormed_of_cut hk hk', ?_⟩
    rw [decodeLossy_encode_append,
      decodeLossy_take_encodeChar hk (by rwa [String.length_utf8EncodeChar])]
    apply Padding.rdropWhile_eq_self
    simp [Padding.isBlank, replacement]

end Cryptoki.Utf8
