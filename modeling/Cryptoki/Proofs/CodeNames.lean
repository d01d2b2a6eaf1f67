import Cryptoki.Mechanism.Code
import Cryptoki.Proofs.Text.Hexadecimal
import Cryptoki.Status
import Mathlib.Data.List.Sort

/-! Names and labels of codes. A code with a name is labelled with it, and any other code with its
hexadecimal digits. No two codes have the same label, neither among status codes nor among
mechanisms (`CodeNames.labels_unambiguous`). -/

namespace Cryptoki.CodeNames

/-! ### Tables of names -/

variable {table : List (Word × String)}

theorem lookup_eq_some_iff (h : (table.map Prod.fst).Nodup) {code : Word} {name : String} :
    table.lookup code = some name ↔ (code, name) ∈ table := by
  constructor
  · intro hlookup
    obtain ⟨before, after, htable, -⟩ := List.lookup_eq_some_iff.mp hlookup
    rw [htable]
    exact List.mem_append_right before List.mem_cons_self
  · intro hmem
    obtain ⟨before, after, htable⟩ := List.append_of_mem hmem
    rw [htable, List.map_append, List.nodup_append] at h
    refine List.lookup_eq_some_iff.mpr ⟨before, after, htable, fun p hp => ?_⟩
    have hne := h.2.2 p.1 (List.mem_map_of_mem hp) code List.mem_cons_self
    simpa using hne.symm

theorem not_mem_of_lookup_eq_none {code : Word} (h : table.lookup code = none) (name : String) :
    (code, name) ∉ table := by
  intro hmem
  simpa using List.lookup_eq_none_iff.mp h _ hmem

/-- A table names no code twice and has no name twice, and none of its names reads as digits. -/
structure Distinct (table : List (Word × String)) : Prop where
  codes : (table.map Prod.fst).Nodup
  names : (table.map Prod.snd).Nodup
  marked : ∀ e ∈ table, ∀ digits, e.2 ≠ String.ofList ('0' :: digits)

/-- A code with a name is labelled with it, and another code with its digits after `0x`. -/
def Labels (table : List (Word × String)) (code : Word) (label : String) : Prop :=
  (code, label) ∈ table ∨
    (∀ name, (code, name) ∉ table) ∧ ∃ digits, label = String.ofList ('0' :: 'x' :: digits) ∧
      Digits.Numeral 8 digits code.toNat

theorem getD_lookup_eq_iff (h : Distinct table) (code : Word) (label : String) :
    (table.lookup code).getD (Digits.hexadecimal 8 code) = label ↔ Labels table code label := by
  cases hlookup : table.lookup code with
  | some name =>
    have hmem := (lookup_eq_some_iff h.codes).mp hlookup
    rw [Option.getD_some, Labels, ← lookup_eq_some_iff h.codes, hlookup, Option.some_inj]
    exact (or_iff_left fun hnone => hnone.1 name hmem).symm
  | none =>
    have hnone := not_mem_of_lookup_eq_none hlookup
    obtain ⟨digits, hdigits, hnumeral⟩ := Digits.exists_numeral (by decide : 8 ≤ 16) code
    rw [Option.getD_none, hdigits]
    constructor
    · rintro rfl
      exact .inr ⟨hnone, digits, rfl, hnumeral⟩
    · rintro (hmem | ⟨-, digits', rfl, hnumeral'⟩)
      · exact absurd hmem (hnone label)
      · rw [hnumeral.unique hnumeral']

theorem Labels.code_eq (h : Distinct table) {a b : Word} {label : String}
    (ha : Labels table a label) (hb : Labels table b label) : a = b := by
  rcases ha with ha | ⟨-, digits, hlabel, hdigits⟩
  · rcases hb with hb | ⟨-, digits, hlabel, -⟩
    · exact congrArg Prod.fst (List.inj_on_of_nodup_map h.names ha hb rfl)
    · exact absurd hlabel (h.marked _ ha _)
  · rcases hb with hb | ⟨-, digits', hlabel', hdigits'⟩
    · exact absurd hlabel (h.marked _ hb _)
    · have hcons := String.ofList_injective (hlabel.symm.trans hlabel')
      have hsame : digits = digits' := List.tail_eq_of_cons_eq (List.tail_eq_of_cons_eq hcons)
      rw [← UInt64.toNat_inj, ← hdigits.value, ← hdigits'.value, hsame]

/-- Since a label tells what was looked up, no two codes have the same. -/
theorem getD_lookup_injective (h : Distinct table) :
    Function.Injective fun code => (table.lookup code).getD (Digits.hexadecimal 8 code) := by
  intro a b hlabel
  have ha := (getD_lookup_eq_iff h a _).mp hlabel
  exact ha.code_eq h ((getD_lookup_eq_iff h b _).mp rfl)

/-! ### The names of status codes and of mechanisms -/

/-- The bytes of a text in UTF-8. -/
def utf8 (s : String) : List UInt8 := s.toByteArray.data.toList

theorem head?_utf8_ofList (rest : List Char) :
    (utf8 (String.ofList ('0' :: rest))).head? = some 48 := by
  rw [utf8, String.toByteArray_ofList, List.utf8Encode_cons, ByteArray.data_append,
    Array.toList_append, List.head?_append]
  rfl

/-- Names are compared by their bytes, as numbers, since comparing them as texts takes long. -/
theorem Distinct.of_bytes (hcodes : (table.map fun e => e.1.toNat).SortedLT)
    (hnames : (table.map fun e => ofLittleEndian (utf8 e.2)).Nodup)
    (hheads : ∀ e ∈ table, (utf8 e.2).head? = some 67) : Distinct table where
  codes := .of_map UInt64.toNat (by rw [List.map_map]; exact hcodes.nodup)
  names := .of_map (fun name => ofLittleEndian (utf8 name)) (by rw [List.map_map]; exact hnames)
  marked := by
    intro e he digits heq
    have hhead := hheads e he
    rw [heq, head?_utf8_ofList] at hhead
    exact absurd hhead (by decide)

theorem distinct_status : Distinct Status.names :=
  .of_bytes (by decide +kernel) (by decide +kernel) (by decide +kernel)

theorem distinct_mechanism : Distinct MechanismCode.names :=
  .of_bytes (by decide +kernel) (by decide +kernel) (by decide +kernel)

/-- No two status codes have the same label, and no two mechanisms. The label of a code in the table
is its name there. Of any other code it is `0x` and at least eight upper-case hexadecimal digits. -/
theorem labels_unambiguous :
    (Function.Injective Status.label ∧
      ∀ code label, Status.label code = label ↔ Labels Status.names code label) ∧
    Function.Injective MechanismCode.label ∧
      ∀ code label, MechanismCode.label code = label ↔ Labels MechanismCode.names code label :=
  ⟨⟨getD_lookup_injective distinct_status, getD_lookup_eq_iff distinct_status⟩,
    getD_lookup_injective distinct_mechanism, getD_lookup_eq_iff distinct_mechanism⟩

end Cryptoki.CodeNames
