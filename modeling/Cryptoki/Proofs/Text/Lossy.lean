import Cryptoki.Proofs.Text.Sequences

/-! Lossy decoding of bytes that need not be well formed. An ASCII byte is its own character,
wherever it stands (`decodeLossy_append_ascii`), and no other bytes end in an ASCII character
(`getLast?_of_decodeLossy`). A character that is cut off leaves one replacement
(`decodeLossy_take_encodeChar`). -/

namespace Cryptoki.Utf8

/-! ### Bytes after a lead byte -/

/-- Bytes that lie in the ranges, position by position. -/
abbrev InRanges (ranges : List (UInt8 × UInt8)) (tail : List UInt8) : Prop :=
  List.Forall₂ (fun r b => r.1 ≤ b ∧ b ≤ r.2) ranges tail

variable {lead a b : UInt8} {ranges : List (UInt8 × UInt8)} {tail rest bytes : List UInt8}

/-- Bytes in the ranges that a lead byte asks for are, with it, the bytes of a character. -/
theorem sequence_of_following (hf : following lead = some ranges) (h : InRanges ranges tail) :
    Sequence (lead :: tail) := by
  simp only [following, Bool.and_eq_true, decide_eq_true_eq, beq_iff_eq] at hf
  split_ifs at hf <;> cases hf
  case pos hlead =>
    obtain _ | ⟨hb, _ | _⟩ := h
    exact .two hlead.1 hlead.2 (isContinuation_iff.mpr hb)
  -- two bytes after the lead byte, then three
  case pos | pos | pos =>
    obtain _ | ⟨hb, _ | ⟨hc, _ | _⟩⟩ := h
    apply Sequence.three
    all_goals
      simp only [isContinuation_iff, UInt8.le_iff_toNat_le, ← UInt8.toNat_inj,
        UInt8.reduceToNat] at *
      omega
  case pos | pos | pos =>
    obtain _ | ⟨hb, _ | ⟨hc, _ | ⟨hd, _ | _⟩⟩⟩ := h
    apply Sequence.four
    all_goals
      simp only [isContinuation_iff, UInt8.le_iff_toNat_le, ← UInt8.toNat_inj,
        UInt8.reduceToNat] at *
      omega

theorem matching_le (ranges : List (UInt8 × UInt8)) (bytes : List UInt8) :
    matching ranges bytes ≤ ranges.length ∧ matching ranges bytes ≤ bytes.length := by
  fun_induction matching ranges bytes with
  | case1 _ _ _ _ _ _ ih => simp only [List.length_cons]; omega
  | case2 | case3 => omega

theorem inRanges_of_matching (h : matching ranges bytes = ranges.length) :
    InRanges ranges (bytes.take ranges.length) := by
  fun_induction matching ranges bytes with
  | case1 low high ranges b bytes hb ih =>
    rw [Bool.and_eq_true, decide_eq_true_eq, decide_eq_true_eq] at hb
    exact .cons hb (ih (Nat.succ.inj h))
  | case2 => simp at h
  | case3 ranges bytes hne =>
    obtain rfl := List.eq_nil_of_length_eq_zero h.symm
    exact .nil

theorem matching_nil (ranges : List (UInt8 × UInt8)) : matching ranges [] = 0 := by
  cases ranges <;> rfl

theorem matching_take (ranges : List (UInt8 × UInt8)) (bytes : List UInt8) (k : Nat) :
    matching ranges (bytes.take k) = min k (matching ranges bytes) := by
  induction k generalizing ranges bytes with
  | zero => rw [List.take_zero, matching_nil, Nat.zero_min]
  | succ k ih =>
    match ranges, bytes with
    | [], _ => simp [matching]
    | _, [] => simp [matching_nil]
    | (low, high) :: ranges, b :: bytes =>
      rw [List.take_succ_cons, matching, matching, ih]
      split
      · omega
      · exact (Nat.min_zero _).symm

theorem matching_append_ascii (hlow : ∀ r ∈ ranges, 0x80 ≤ r.1) (ha : a < 0x80)
    (bytes rest : List UInt8) :
    matching ranges (bytes ++ a :: rest) = matching ranges bytes := by
  fun_induction matching ranges bytes with
  | case1 low high ranges b bytes hb ih =>
    rw [List.cons_append, matching, if_pos hb, ih (List.forall_mem_cons.mp hlow).2]
  | case2 low high ranges b bytes hb => rw [List.cons_append, matching, if_neg hb]
  | case3 ranges bytes hne =>
    obtain _ | ⟨⟨low, high⟩, ranges⟩ := ranges
    · simp [matching]
    obtain _ | ⟨b, bytes⟩ := bytes
    · have hlow' : 0x80 ≤ low := hlow _ List.mem_cons_self
      have hbelow : ¬low ≤ a := UInt8.not_le.mpr (UInt8.lt_of_lt_of_le ha hlow')
      simp [matching, hbelow]
    · exact (hne _ _ _ _ _ rfl rfl).elim

theorem le_lead_of_following (hf : following lead = some ranges) : 0x80 ≤ lead := by
  simp only [following, Bool.and_eq_true, decide_eq_true_eq, beq_iff_eq] at hf
  split_ifs at hf <;> cases hf
  all_goals
    simp only [UInt8.le_iff_toNat_le, ← UInt8.toNat_inj, UInt8.reduceToNat] at *
    omega

theorem le_low_of_following (hf : following lead = some ranges) : ∀ r ∈ ranges, 0x80 ≤ r.1 := by
  unfold following at hf
  split_ifs at hf <;> cases hf <;> simp

/-! ### Items -/

/-- The character that lossy decoding has for an item. -/
def Item.shown : Item → Char
  | .char c => c
  | .malformed | .incomplete => replacement

theorem decodeLossy_cons (lead : UInt8) (rest : List UInt8) :
    decodeLossy (lead :: rest) =
      (item lead rest).1.shown :: decodeLossy (rest.drop ((item lead rest).2 - 1)) := by
  rw [decodeLossy]
  obtain ⟨_ | _ | _, n⟩ := item lead rest <;> rfl

theorem item_of_following (hf : following lead = some ranges) :
    item lead rest =
      if matching ranges rest = ranges.length then
        (.char (Char.ofNat (codePoint lead (rest.take ranges.length))), ranges.length + 1)
      else (if matching ranges rest = rest.length then .incomplete else .malformed,
        matching ranges rest + 1) := by
  have hlead : ¬lead < 0x80 := UInt8.not_lt.mpr (le_lead_of_following hf)
  rw [item, if_neg hlead, hf]
  dsimp only
  split_ifs with hall
  · rw [hall]
  · rfl
  · rfl

/-- The bytes of an item that is a character are those of this character. -/
theorem encodeChar_of_item {c : Char} {n : Nat} (h : item lead rest = (.char c, n)) :
    String.utf8EncodeChar c = (lead :: rest).take n := by
  have hsequence : ∃ tail, tail <+: rest ∧ Sequence (lead :: tail) := by
    by_cases hlead : lead < 0x80
    · exact ⟨[], List.nil_prefix, .one (Nat.le_of_lt_succ (UInt8.lt_iff_toNat_lt.mp hlead))⟩
    cases hf : following lead with
    | none =>
      rw [item, if_neg hlead, hf] at h
      cases h
    | some ranges =>
      rw [item_of_following hf] at h
      split_ifs at h with hall
      · exact ⟨_, List.take_prefix .., sequence_of_following hf (inRanges_of_matching hall)⟩
      · cases h
      · cases h
  obtain ⟨tail, ⟨rest, rfl⟩, hsequence⟩ := hsequence
  -- the item is the character of these bytes, of which there is only one
  obtain ⟨c', hc⟩ := hsequence.exists_char
  obtain ⟨lead', tail', hbytes, hitem⟩ := item_encode c' rest
  cases hc.symm.trans hbytes
  cases h.symm.trans hitem
  rw [hc, List.take_succ_cons, List.take_left]

/-- An ASCII byte further on changes neither what is shown for an item nor its length. -/
theorem item_append_ascii (ha : a < 0x80) (lead : UInt8) (bytes rest : List UInt8) :
    (item lead (bytes ++ a :: rest)).1.shown = (item lead bytes).1.shown ∧
      (item lead (bytes ++ a :: rest)).2 = (item lead bytes).2 ∧
      (item lead bytes).2 ≤ bytes.length + 1 := by
  by_cases hlead : lead < 0x80
  · simp [item, hlead]
  cases hf : following lead with
  | none => simp [item, hlead, hf]
  | some ranges =>
    have hmatching := matching_append_ascii (le_low_of_following hf) ha bytes rest
    obtain ⟨hranges, hbytes⟩ := matching_le ranges bytes
    rw [item_of_following hf, item_of_following hf, hmatching]
    by_cases hall : matching ranges bytes = ranges.length
    · rw [if_pos hall, if_pos hall, List.take_append_of_le_length (by omega)]
      exact ⟨rfl, rfl, by simp; omega⟩
    · rw [if_neg hall, if_neg hall]
      refine ⟨?_, rfl, by simp; omega⟩
      -- both are shown as a replacement
      split <;> split <;> rfl

/-! ### Byte lists -/

/-- Lossy decoding has an ASCII byte as its character, wherever it stands. -/
theorem decodeLossy_append_ascii (ha : a < 0x80) (bytes rest : List UInt8) :
    decodeLossy (bytes ++ a :: rest) =
      decodeLossy bytes ++ Char.ofNat a.toNat :: decodeLossy rest := by
  match bytes with
  | [] =>
    rw [List.nil_append, decodeLossy_cons, item, if_pos ha, decodeLossy]
    rfl
  | lead :: bytes =>
    obtain ⟨hshown, hlength, hle⟩ := item_append_ascii ha lead bytes rest
    rw [List.cons_append, decodeLossy_cons, decodeLossy_cons, hshown, hlength,
      List.drop_append_of_le_length (by omega), decodeLossy_append_ascii ha, List.cons_append]
termination_by bytes.length
decreasing_by
  simp only [List.length_drop, List.length_cons]
  omega

theorem encodeChar_of_ascii {c : Char} (hc : c.toNat < 0x80) :
    String.utf8EncodeChar c = [UInt8.ofNat c.toNat] := by
  have hsmall : c.val.toNat ≤ 0x7F := Nat.le_of_lt_succ hc
  rw [String.utf8EncodeChar, if_pos hsmall]
  rfl

theorem decodeLossy_ne_nil (lead : UInt8) (rest : List UInt8) :
    decodeLossy (lead :: rest) ≠ [] := by
  rw [decodeLossy_cons]
  exact List.cons_ne_nil _ _

/-- What is shown as an ASCII character is one byte. -/
theorem take_item_of_ascii {c : Char} (hc : c.toNat < 0x80) (h : (item lead rest).1.shown = c) :
    (lead :: rest).take (item lead rest).2 = [UInt8.ofNat c.toNat] := by
  generalize hitem : item lead rest = x at h ⊢
  obtain ⟨found, n⟩ := x
  cases found with
  | char c' =>
    obtain rfl : c' = c := h
    rw [← encodeChar_of_item hitem, encodeChar_of_ascii hc]
  | malformed | incomplete =>
    obtain rfl : replacement = c := h
    exact absurd hc (by decide)

/-- Lossy decoding ends in an ASCII character only for bytes that end in it. -/
theorem getLast?_of_decodeLossy {bytes : List UInt8} {c : Char} (hc : c.toNat < 0x80)
    (h : (decodeLossy bytes).getLast? = some c) : bytes.getLast? = some (UInt8.ofNat c.toNat) := by
  match bytes with
  | [] =>
    rw [decodeLossy] at h
    cases h
  | lead :: rest =>
    rw [decodeLossy_cons] at h
    cases hlast : rest.drop ((item lead rest).2 - 1) with
    | nil =>
      rw [hlast, decodeLossy, List.getLast?_singleton, Option.some.injEq] at h
      have hbyte := take_item_of_ascii hc h
      have hlength := congrArg List.length hbyte
      simp only [List.length_take, List.length_cons, List.length_nil] at hlength
      rw [List.drop_eq_nil_iff] at hlast
      rw [List.take_of_length_le (by simp; omega)] at hbyte
      rw [hbyte]
      rfl
    | cons b last =>
      rw [hlast] at h
      have hshort : last.length < rest.length := by
        have := congrArg List.length hlast
        simp only [List.length_drop, List.length_cons] at this
        omega
      rw [List.getLast?_cons_of_ne_nil (decodeLossy_ne_nil b last)] at h
      have hends := getLast?_of_decodeLossy hc h
      rw [← List.take_append_drop ((item lead rest).2 - 1) rest, hlast, ← List.cons_append,
        List.getLast?_append_of_ne_nil _ (List.cons_ne_nil b last)]
      exact hends
termination_by bytes.length

/-! ### Characters that are cut off -/

/-- The bytes of a character after the first are all in the ranges that the first asks for. -/
theorem following_of_encodeChar {c : Char} (h : String.utf8EncodeChar c = lead :: tail)
    (htail : tail ≠ []) : ∃ ranges, following lead = some ranges ∧
      ranges.length = tail.length ∧ matching ranges tail = tail.length := by
  obtain ⟨lead', tail', hbytes, hitem⟩ := item_encode c []
  cases h.symm.trans hbytes
  rw [List.append_nil] at hitem
  have hlead : ¬lead < 0x80 := by
    intro hlead
    rw [item, if_pos hlead] at hitem
    exact htail (List.eq_nil_of_length_eq_zero (Nat.succ.inj (congrArg Prod.snd hitem)).symm)
  cases hf : following lead with
  | none =>
    rw [item, if_neg hlead, hf] at hitem
    cases hitem
  | some ranges =>
    rw [item_of_following hf] at hitem
    split_ifs at hitem with hall
    · have hlength : ranges.length = tail.length := Nat.succ.inj (congrArg Prod.snd hitem)
      exact ⟨ranges, rfl, hlength, hall.trans hlength⟩
    · cases hitem
    · cases hitem

/-- A character that is cut off within its bytes has a replacement. -/
theorem decodeLossy_take_encodeChar {c : Char} {k : Nat} (h : 0 < k)
    (h' : k < (String.utf8EncodeChar c).length) :
    decodeLossy ((String.utf8EncodeChar c).take k) = [replacement] := by
  obtain ⟨k, rfl⟩ := Nat.exists_eq_add_one.mpr h
  cases hbytes : String.utf8EncodeChar c with
  | nil => simp [hbytes] at h'
  | cons lead tail =>
    rw [hbytes, List.length_cons, Nat.add_lt_add_iff_right] at h'
    obtain ⟨ranges, hf, hlength, hall⟩ :=
      following_of_encodeChar hbytes (List.ne_nil_of_length_pos (by omega))
    -- the bytes there are all match, but they are fewer than the ranges
    have hmatching : matching ranges (tail.take k) = k := by
      rw [matching_take, hall]
      omega
    have hcut : (tail.take k).length = k := List.length_take_of_le (by omega)
    rw [List.take_succ_cons, decodeLossy_cons, item_of_following hf, hmatching, hcut,
      if_neg (by omega), if_pos rfl, Nat.add_sub_cancel, List.drop_of_length_le (by omega),
      decodeLossy]
    rfl

end Cryptoki.Utf8
