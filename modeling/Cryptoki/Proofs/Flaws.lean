import Cryptoki.Proofs.Attribute.Mirroring
import Cryptoki.Proofs.Failures
import Cryptoki.Simulation.Memory

/-! The values that have no native form. As long as memory can be had, putting a template into
native memory fails exactly when such a value stands in it at some depth, and the first one is the
error; for a mechanism only a parameter that is laid out like the value of an attribute can be such
a value (`marshal_reports_first_flaw`). -/

namespace Cryptoki

open Memory

namespace Value

/-- Why the value of an attribute has no native form. -/
def flaw? : Value → Option Error
  | date d => if 9999 < d.year.toNat then some (.conversion (.year d.year.toNat)) else none
  | float _ => some (.unrecognizedValue "Float")
  | _ => none

/-- Why a value has no native form as a parameter: it has none as an attribute, or is a template. -/
def parameterFlaw? : Value → Option Error
  | template _ => some (.unrecognizedValue "Template")
  | v => v.flaw?

/-- The storage that a value takes can be had, and a value that is lent as it lies in memory has a
length there. -/
def Fits [Allocator] (encoding : Encoding) : Value → Prop
  | char c => (Demand.bytes (encoding.encode [c]).length).Met
  | chars cs => (Demand.bytes (encoding.encode cs).length).Met
  | template attributes => Affords [.entries attributes.length, .values attributes.length]
  | text s => (Utf8.encode s.toList).length < UInt64.size
  | bytes b => b.length < UInt64.size
  | words ws => ws.length * wordSize < UInt64.size
  | _ => True

end Value

/-- The storage that a template takes at all depths can be had. -/
structure Template.Fits [Allocator] (encoding : Encoding) (template : Template) : Prop where
  array : Affords [.entries template.length, .values template.length]
  values : ∀ a ∈ template.allAttributes, a.value.Fits encoding

namespace Parameters

/-- Why a parameter has no native form. -/
def flaw? : Parameters → Option Error
  | other v => v.parameterFlaw?
  | _ => none

/-- The storage that a parameter takes can be had. A template takes none, as it is refused. -/
structure Fits [Allocator] (encoding : Encoding) (p : Parameters) : Prop where
  buffers : ∀ b ∈ p.buffers, b.length < UInt64.size
  password : ∀ text ∈ p.password?, (Demand.bytes (encoding.encode text).length).Met
  copies : Affords p.copies
  value : ∀ v, p = other v → v.template? = none → v.Fits encoding

theorem flaw?_eq_none {p : Parameters} (h : ∀ v, p ≠ other v) : p.flaw? = none := by
  cases p with
  | other v => exact absurd rfl (h v)
  | _ => rfl

end Parameters

/-- A value as a parameter takes the storage of the value, and a template none. -/
theorem Parameters.fits_other {allocator : Allocator} {v : Value} {encoding : Encoding}
    (h : v.template? = none → v.Fits encoding) : (other v).Fits encoding where
  buffers _ hb := absurd hb List.not_mem_nil
  password _ htext := absurd htext (Option.not_mem_none _)
  copies := affords_nil
  value _ hv := by
    cases hv
    exact h

/-! ### Templates -/

theorem Word.failure?_ofLength {n : Nat} (h : n < UInt64.size) : failure? (ofLength n) = none := by
  rw [ofLength_eq_ok h]
  rfl

theorem NativeValue.failure?_ofBytes {b : List UInt8} (h : b.length < UInt64.size) :
    failure? (ofBytes b) = none :=
  failure?_map.trans (Word.failure?_ofLength h)

theorem NativeValue.failure?_ofEntries {allocator : Allocator} {entries : NativeTemplate}
    (h : (Demand.entries entries.length).Met) : failure? (ofEntries entries) = none :=
  failure?_map.trans (Word.failure?_ofLength (lt_size_of_le_maximum h.total_le))

namespace Date

theorem failure?_toBytes (d : Date) : failure? d.toBytes = (Value.date d).flaw? := by
  have hyear : d.year ≤ maxYear ↔ ¬9999 < d.year.toNat := UInt16.le_iff_toNat_le.trans not_lt.symm
  unfold toBytes Value.flaw?
  split
  · next hle => exact (if_neg (hyear.mp hle)).symm
  · next hgt => exact (if_pos (not_not.mp (mt hyear.mpr hgt))).symm

theorem length_of_toBytes {d : Date} {b : List UInt8} (h : d.toBytes = .ok b) : b.length = 8 := by
  obtain ⟨_, hb⟩ := (ite_eq_iff.mp h).resolve_right fun h => nomatch h.2
  cases hb
  simp [length_writeDigits]

end Date

namespace Value

variable {allocator : Allocator} {encoding : Encoding}

theorem failure?_marshalChars {text : List Char}
    (h : (Demand.bytes (encoding.encode text).length).Met) :
    failure? (do NativeValue.ofBytes (← encodeChars text encoding)) = none := by
  rw [encodeChars_eq_ok h]
  exact NativeValue.failure?_ofBytes h.bytes_lt

/-- A scalar with a native form can be lent once there is memory for it. -/
theorem failure?_marshalScalar {v : Value} (h : v.template? = none → v.Fits encoding) :
    failure? (v.marshalScalar encoding) = v.parameterFlaw? := by
  have hbyte {b : List UInt8} (hb : b.length ≤ wordSize) :
      failure? (NativeValue.ofBytes b) = none :=
    NativeValue.failure?_ofBytes (Nat.lt_of_le_of_lt hb (by decide))
  cases v with
  | absent | template | float => rfl
  | bool | byte | version => exact hbyte (by simp [wordSize, Version.toBytes])
  | integer | long => exact hbyte (Nat.le_of_eq (Word.length_toBytes _))
  | char | chars => exact failure?_marshalChars (h rfl)
  | bytes b => exact NativeValue.failure?_ofBytes (h rfl)
  | text s => exact NativeValue.failure?_ofBytes (h rfl)
  | words ws =>
    have hlength : ws.length * wordSize < UInt64.size := h rfl
    exact NativeValue.failure?_ofBytes (Word.length_listToBytes ws ▸ hlength)
  | date d =>
    show failure? (d.toBytes >>= NativeValue.ofBytes) = _
    rw [failure?_bind fun b hb => hbyte (Nat.le_of_eq (Date.length_of_toBytes hb)),
      Option.or_none]
    exact d.failure?_toBytes

/-- The flaw of the first attribute that has one. -/
def firstFlaw? (attributes : List Attribute) : Option Error := attributes.findSome? (·.value.flaw?)

theorem firstFlaw?_cons (type : Word) (v : Value) (nested rest : List Attribute) :
    firstFlaw? (⟨type, v⟩ :: (nested ++ rest)) =
      (v.flaw?.or (firstFlaw? nested)).or (firstFlaw? rest) := by
  rw [firstFlaw?, List.findSome?_cons, List.findSome?_append]
  cases v.flaw? <;> rfl

mutual

theorem failure?_marshal (v : Value) (hv : v.Fits encoding)
    (hnested : ∀ a ∈ v.nestedAttributes, a.value.Fits encoding) :
    failure? (v.marshal encoding) = v.flaw?.or (firstFlaw? v.nestedAttributes) := by
  cases v with
  | template attributes =>
    obtain ⟨hentries, hvalues, -⟩ := by simpa only [Fits, affords_cons] using hv
    rw [nestedAttributes] at hnested
    rw [marshal, reserveStorage_eq_ok_iff.mpr hentries, reserveStorage_eq_ok_iff.mpr hvalues,
      nestedAttributes]
    -- An array has no flaw of its own, and as many entries as attributes.
    show failure? (marshalEntries attributes encoding >>= NativeValue.ofEntries) =
      firstFlaw? (Template.allAttributes attributes)
    rw [← failure?_marshalEntries attributes hnested, failure?_bind fun entries hmarshaled => ?_,
      Option.or_none]
    have hlength := (mirrors_of_marshalEntries attributes hmarshaled).1.length_eq
    exact NativeValue.failure?_ofEntries (hlength ▸ hentries)
  | _ =>
    simp only [marshal]
    rw [failure?_marshalScalar fun _ => hv]
    exact Option.or_none.symm

theorem failure?_marshalEntries (attributes : List (Typed Value))
    (h : ∀ a ∈ Template.allAttributes attributes, a.value.Fits encoding) :
    failure? (marshalEntries attributes encoding) =
      firstFlaw? (Template.allAttributes attributes) := by
  match attributes with
  | [] => rfl
  | ⟨type, v⟩ :: rest =>
    rw [Template.allAttributes] at h ⊢
    obtain ⟨hv, hmore⟩ := List.forall_mem_cons.mp h
    obtain ⟨hnested, hrest⟩ := List.forall_mem_append.mp hmore
    rw [marshalEntries, failure?_bind fun native _ => failure?_map, failure?_marshal v hv hnested,
      failure?_marshalEntries rest hrest, firstFlaw?_cons]

end

end Value

theorem Template.failure?_marshal {allocator : Allocator} {template : Template}
    {encoding : Encoding} (h : template.Fits encoding) :
    failure? (template.marshal encoding) = Value.firstFlaw? template.allAttributes := by
  obtain ⟨hentries, hvalues, -⟩ := by simpa only [affords_cons] using h.array
  rw [marshal, reserveStorage_eq_ok_iff.mpr hentries, reserveStorage_eq_ok_iff.mpr hvalues]
  exact Value.failure?_marshalEntries template h.values

/-! ### Mechanisms -/

theorem Span.lend_succeeds {b : List UInt8} (h : b.length < UInt64.size) {P : Error → Prop} :
    FailsWith P (lend b) := by
  unfold lend
  split
  · exact trivial
  · rw [ofOption, Word.ofLength_eq_ok h]
    exact trivial

namespace Parameters

variable {allocator : Allocator} {p : Parameters} {encoding : Encoding}

/-- Only a value can keep a parameter from being lent once there is memory for it. -/
theorem Fits.partsFailWith (h : p.Fits encoding) (hother : ∀ v, p ≠ other v) :
    p.PartsFailWith (fun _ => False) encoding where
  buffers b hb := Span.lend_succeeds (h.buffers b hb)
  password text htext := by
    have hroom := h.password text htext
    rw [lendPassword, Value.encodeChars_eq_ok hroom]
    exact Span.lend_succeeds hroom.bytes_lt
  copies d hd := by
    rw [insist_of_met (h.copies d hd)]
    exact trivial
  value v hv := absurd hv (hother v)

theorem failure?_marshal (h : p.Fits encoding) :
    failure? (p.marshal encoding) = p.flaw?.map .error := by
  by_cases hother : ∃ v, p = other v
  case pos =>
    obtain ⟨v, rfl⟩ := hother
    have hscalar := Value.failure?_marshalScalar (h.value v rfl)
    refine failure?_map.trans ?_
    rw [failure?_liftM, hscalar, flaw?]
  case neg =>
    rw [not_exists] at hother
    rw [(h.partsFailWith hother).marshal.failure?_eq_none, flaw?_eq_none hother]
    rfl

end Parameters

/-- As long as memory can be had, putting a template into native memory fails with the first flaw
among the values at all depths, and putting a mechanism there fails with the flaw of its parameter;
where there is no flaw, it succeeds. -/
theorem marshal_reports_first_flaw {allocator : Allocator} (encoding : Encoding) :
    (∀ template : Template, template.Fits encoding →
      failure? (template.marshal encoding) =
        template.allAttributes.findSome? fun a => a.value.flaw?) ∧
    ∀ m : Mechanism, (∀ p ∈ m.parameters, p.Fits encoding) →
      failure? (m.marshal encoding) = (m.parameters.bind Parameters.flaw?).map .error := by
  refine ⟨fun template h => Template.failure?_marshal h, fun m h => ?_⟩
  obtain ⟨code, parameters⟩ := m
  cases parameters with
  | none => rfl
  | some p => exact failure?_map.trans (Parameters.failure?_marshal (h p rfl))

open Simulation in
/-- A year of five digits in a nested template comes before a floating-point number after it. A
mechanism does not take even an empty template. -/
theorem marshal_reports_nested_year :
    let nested : Template := [⟨2, .bytes []⟩, ⟨0x110, .date ⟨10000, 1, 1⟩⟩]
    let template : Template := [⟨0x40000211, .template nested⟩, ⟨3, .float ⟨0⟩⟩]
    let m : Mechanism := ⟨1, some (.other (.template []))⟩
    template.Fits .utf8 ∧
      failure? (template.marshal .utf8) = some (.conversion (.year 10000)) ∧
      (∀ p ∈ m.parameters, p.Fits .utf8) ∧
      failure? (m.marshal .utf8) = some (.error (.unrecognizedValue "Template")) := by
  intro nested template m
  have hvalues : ∀ a ∈ template.allAttributes, a.value.Fits .utf8 := by
    simp only [template, nested, Template.allAttributes, Value.nestedAttributes,
      List.forall_mem_append, List.forall_mem_cons, Value.Fits]
    exact ⟨by decide, ⟨by decide, nofun, trivial, nofun, nofun⟩, trivial, nofun, nofun⟩
  have htemplate : template.Fits .utf8 := ⟨by decide, hvalues⟩
  have hm : ∀ p ∈ m.parameters, p.Fits .utf8 := by
    intro p hp
    rw [← Option.some.inj hp]
    exact Parameters.fits_other fun htemplate => absurd htemplate (Option.some_ne_none _)
  obtain ⟨hfirst, hparameter⟩ := marshal_reports_first_flaw .utf8
  exact ⟨htemplate, hfirst template htemplate, hm, hparameter m hm⟩

end Cryptoki
