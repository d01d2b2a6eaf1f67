import Cryptoki.Proofs.Text.Conversion
import Cryptoki.Proofs.Text.Lossy
import Mathlib.Data.List.DropRight

/-! Padding and what it is decoded as. A padding byte is one character in either encoding and ends
every malformed sequence before it, so that removing the padding of a field is removing the blanks
at the end of its text (`Encoding.decode_strip`). -/

namespace Cryptoki

namespace Padding

variable {field padding kept : List UInt8} {b : UInt8}

/-- The characters that padding bytes are read as. -/
def isBlank (c : Char) : Bool := c == ' ' || c == '\x00'

/-- What a field holds without its longest ending of padding bytes. -/
structure Trims (field kept : List UInt8) : Prop where
  ending : ∃ padding, field = kept ++ padding ∧ ∀ b ∈ padding, isPad b
  longest : ∀ b ∈ kept.getLast?, ¬isPad b

theorem isPad_iff : isPad b ↔ b = 0x20 ∨ b = 0 := by
  simp [isPad]

theorem ascii_of_isPad (h : isPad b) : b < 0x80 := by
  obtain rfl | rfl := isPad_iff.mp h <;> decide

/-- In each encoding a padding byte is one blank, and nothing else is. -/
theorem isBlank_ofNat (b : UInt8) : isBlank (Char.ofNat b.toNat) = isPad b := by
  have hchar : ∀ n : Fin 256, isBlank (Char.ofNat n.val) = isPad (UInt8.ofNat n.val) := by
    decide +kernel
  have hb := hchar ⟨b.toNat, b.toNat_lt⟩
  rwa [UInt8.ofNat_toNat] at hb

theorem toNat_lt_of_isBlank {c : Char} (h : isBlank c) : c.toNat < 0x80 := by
  simp only [isBlank, Bool.or_eq_true, beq_iff_eq] at h
  obtain rfl | rfl := h <;> decide

/-! ### Stripping -/

theorem getLast?_rdropWhile {α : Type} {p : α → Bool} {l : List α} {a : α}
    (h : a ∈ (l.rdropWhile p).getLast?) : ¬p a := by
  obtain ⟨hne, rfl⟩ := List.mem_getLast?_eq_getLast h
  exact List.rdropWhile_last_not p l hne

theorem rdropWhile_append_of_forall {α : Type} {p : α → Bool} {l l' : List α}
    (h : ∀ a ∈ l', p a) : (l ++ l').rdropWhile p = l.rdropWhile p := by
  rw [List.rdropWhile, List.reverse_append, List.dropWhile_append_of_pos (by simpa using h)]
  rfl

theorem rdropWhile_eq_self {α : Type} {p : α → Bool} {l : List α}
    (h : ∀ a ∈ l.getLast?, ¬p a) : l.rdropWhile p = l :=
  List.rdropWhile_eq_self_iff.mpr fun hne => h _ (List.getLast?_eq_some_getLast hne)

/-- What stripping takes off the end of a list. -/
theorem exists_append_rdropWhile {α : Type} (p : α → Bool) (l : List α) :
    ∃ l', l = l.rdropWhile p ++ l' ∧ ∀ a ∈ l', p a :=
  ⟨l.rtakeWhile p, List.rdropWhile_append_rtakeWhile.symm, fun _ => List.mem_rtakeWhile_imp⟩

theorem strip_eq (field : List UInt8) : strip field = field.rdropWhile isPad := rfl

theorem trims_iff : Trims field kept ↔ strip field = kept := by
  constructor
  · rintro ⟨⟨padding, rfl, hpadding⟩, hlongest⟩
    rw [strip_eq, rdropWhile_append_of_forall hpadding, rdropWhile_eq_self hlongest]
  · rintro rfl
    exact ⟨exists_append_rdropWhile isPad field, fun _ => getLast?_rdropWhile⟩

theorem strip_append (h : ∀ b ∈ padding, isPad b) : strip (field ++ padding) = strip field :=
  rdropWhile_append_of_forall h

theorem length_fill (width : Nat) (field : List UInt8) : (fill width field).length = width := by
  simp only [fill, List.length_append, List.length_take, List.length_replicate]
  omega

theorem fill_of_length_le {width : Nat} (h : field.length ≤ width) :
    fill width field = field ++ List.replicate (width - field.length) 0x20 := by
  rw [fill, List.take_of_length_le h]

theorem isPad_of_mem_replicate {n : Nat} (h : b ∈ List.replicate n 0x20) : isPad b := by
  rw [List.eq_of_mem_replicate h]
  rfl

end Padding

namespace Encoding

variable {encoding : Encoding} {field padding : List UInt8}

theorem decode_padding (encoding : Encoding) (h : ∀ b ∈ padding, Padding.isPad b) :
    encoding.decode padding = padding.map fun b => Char.ofNat b.toNat := by
  cases encoding with
  | singleByte => rfl
  | utf8 =>
    induction padding with
    | nil => simp [decode, Utf8.decodeLossy]
    | cons b padding ih =>
      obtain ⟨hb, hpadding⟩ := List.forall_mem_cons.mp h
      have happend := Utf8.decodeLossy_append_ascii (Padding.ascii_of_isPad hb) [] padding
      have hrest : Utf8.decodeLossy padding = _ := ih hpadding
      rw [List.nil_append, Utf8.decodeLossy, List.nil_append, hrest] at happend
      exact happend

/-- Padding after a field adds its blanks to the text, even where the field is malformed. -/
theorem decode_append_padding (encoding : Encoding) (field : List UInt8)
    (h : ∀ b ∈ padding, Padding.isPad b) :
    encoding.decode (field ++ padding) = encoding.decode field ++ encoding.decode padding := by
  cases encoding with
  | singleByte => exact List.map_append
  | utf8 =>
    cases padding with
    | nil => simp [decode, Utf8.decodeLossy]
    | cons b padding =>
      have hb := Padding.ascii_of_isPad (List.forall_mem_cons.mp h).1
      have hfirst := Utf8.decodeLossy_append_ascii hb [] padding
      rw [List.nil_append, Utf8.decodeLossy, List.nil_append] at hfirst
      rw [decode, decode, decode, hfirst]
      exact Utf8.decodeLossy_append_ascii hb field padding

theorem isBlank_of_mem_decode (h : ∀ b ∈ padding, Padding.isPad b) :
    ∀ c ∈ encoding.decode padding, Padding.isBlank c := by
  rw [decode_padding encoding h, List.forall_mem_map]
  intro b hb
  rw [Padding.isBlank_ofNat]
  exact h b hb

/-- A text ends in a blank only where its bytes end in a padding byte. -/
theorem exists_isPad_of_decode {c : Char} (hc : Padding.isBlank c)
    (h : c ∈ (encoding.decode field).getLast?) : ∃ b ∈ field.getLast?, Padding.isPad b := by
  cases encoding with
  | singleByte =>
    rw [decode, List.getLast?_map, Option.mem_def, Option.map_eq_some_iff] at h
    obtain ⟨b, hb, rfl⟩ := h
    exact ⟨b, hb, by rwa [← Padding.isBlank_ofNat]⟩
  | utf8 =>
    refine ⟨_, Utf8.getLast?_of_decodeLossy (Padding.toNat_lt_of_isBlank hc) h, ?_⟩
    simp only [Padding.isBlank, Bool.or_eq_true, beq_iff_eq] at hc
    obtain rfl | rfl := hc <;> decide

/-- Stripping bytes and then decoding them is decoding them and then stripping the text. -/
theorem decode_strip (encoding : Encoding) (field : List UInt8) :
    encoding.decode (Padding.strip field) =
      (encoding.decode field).rdropWhile Padding.isBlank := by
  obtain ⟨padding, hfield, hpadding⟩ := Padding.exists_append_rdropWhile Padding.isPad field
  have hends : ∀ c ∈ (encoding.decode (Padding.strip field)).getLast?, ¬Padding.isBlank c := by
    intro c hc hblank
    obtain ⟨b, hb, hpad⟩ := exists_isPad_of_decode hblank hc
    exact Padding.getLast?_rdropWhile hb hpad
  calc encoding.decode (Padding.strip field)
    _ = (encoding.decode (Padding.strip field)).rdropWhile Padding.isBlank :=
      (Padding.rdropWhile_eq_self hends).symm
    _ = (encoding.decode (Padding.strip field) ++ encoding.decode padding).rdropWhile
          Padding.isBlank :=
      (Padding.rdropWhile_append_of_forall (isBlank_of_mem_decode hpadding)).symm
    _ = (encoding.decode field).rdropWhile Padding.isBlank := by
      rw [← decode_append_padding encoding _ hpadding, Padding.strip_eq, ← hfield]

end Encoding

end Cryptoki
