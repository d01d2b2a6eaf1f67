import Cryptoki.Proofs.Attribute.RoundTrip
import Cryptoki.Proofs.Span

/-! The native array of a template beside the template. There is one entry for each attribute, in
order, and the entry of an array attribute leads to an array that mirrors the nested attributes in
the same way (`Template.marshal_mirrors`). -/

namespace Cryptoki

/-- The native bytes of a value. A template is an array of entries instead, and a floating-point
number or a date with a longer year has no native form. -/
def Value.encoded? (encoding : Encoding) : Value → Option (List UInt8)
  | absent => some []
  | bool b => some [boolToByte b]
  | byte b => some [b]
  | char c => some (encoding.encode [c])
  | integer v => some (Word.ofSigned v.toInt64).toBytes
  | long v => some (Word.ofSigned v).toBytes
  | bytes b => some b
  | chars cs => some (encoding.encode cs)
  | text s => some (Utf8.encode s.toList)
  | date d => d.toBytes.toOption
  | version v => some [v.major, v.minor]
  | words ws => some (Word.listToBytes ws)
  | template _ | float _ => none

mutual

/-- The attributes in a value at all depths, each one before those that are nested in it. -/
def Value.nestedAttributes : Value → List Attribute
  | .template attributes => Template.allAttributes attributes
  | _ => []

/-- The attributes of a template at all depths, each one before those that are nested in it. -/
def Template.allAttributes : Template → List Attribute
  | [] => []
  | ⟨type, v⟩ :: rest => ⟨type, v⟩ :: (v.nestedAttributes ++ Template.allAttributes rest)

end

/-- An entry announces `size` bytes and leads to `storage`, unless it announces no bytes: then its
pointer is null. -/
structure NativeEntry.Leads (e : NativeEntry Storage) (storage : Storage) (size : Nat) : Prop where
  length : e.length.toNat = size
  null_iff : e.pointer = none ↔ size = 0
  storage : ∀ s ∈ e.pointer, s = storage

/-- A native entry mirrors an attribute. -/
inductive Mirrors (encoding : Encoding) : Attribute → NativeEntry Storage → Prop
  | scalar {type : Word} {v : Value} {e : NativeEntry Storage} {bytes : List UInt8} :
      v.encoded? encoding = some bytes → e.type = type → e.Leads (.bytes bytes) bytes.length →
      Mirrors encoding ⟨type, v⟩ e
  | array {type : Word} {attributes : Template} {e : NativeEntry Storage}
      {entries : NativeTemplate} :
      e.type = type ||| arrayFlag →
      e.Leads (.entries entries) (attributes.length * entrySize) →
      List.Forall₂ (Mirrors encoding) attributes entries →
      Mirrors encoding ⟨type, .template attributes⟩ e

namespace Pointer

variable {α β : Type} {storage : List α} {f : List α → β}

theorem map_ofStorage_eq_none_iff : (ofStorage storage).map f = none ↔ storage.length = 0 := by
  rw [Option.map_eq_none_iff, ofStorage_eq_none_iff, List.length_eq_zero_iff]

theorem eq_of_mem_map_ofStorage {b : β} (h : b ∈ (ofStorage storage).map f) : b = f storage := by
  obtain ⟨storage', hstorage, rfl⟩ := Option.map_eq_some_iff.mp h
  rw [eq_of_mem_ofStorage hstorage]

/-- The number of values in what a pointer leads to. -/
def valueCount (p : Pointer Storage) : Nat := (p.map Storage.valueCount).getD 0

theorem valueCount_bytes (bytes : List UInt8) : valueCount ((ofStorage bytes).map .bytes) = 0 := by
  cases bytes <;> simp [valueCount, ofStorage, Storage.valueCount]

theorem valueCount_entries (entries : NativeTemplate) :
    valueCount ((ofStorage entries).map .entries) = NativeTemplate.valueCount entries := by
  cases entries <;> simp [valueCount, ofStorage, Storage.valueCount, NativeTemplate.valueCount]

end Pointer

theorem NativeTemplate.valueCount_cons (e : NativeEntry Storage) (rest : NativeTemplate) :
    valueCount (e :: rest) = 1 + Pointer.valueCount e.pointer + valueCount rest := by
  obtain ⟨type, pointer, length⟩ := e
  cases pointer <;> simp [valueCount, Pointer.valueCount]

namespace Value

variable {allocator : Allocator} {encoding : Encoding} {native : NativeValue}

theorem entry_leads_of_ofBytes {bytes : List UInt8} (h : NativeValue.ofBytes bytes = .ok native)
    (type : Word) :
    (entry type native).type = type ∧ (entry type native).Leads (.bytes bytes) bytes.length ∧
      Pointer.valueCount native.pointer = 0 := by
  obtain ⟨length, hlength, hnative⟩ := bind_eq_ok_iff.mp h
  cases hnative
  exact ⟨rfl, ⟨Word.toNat_ofLength hlength, Pointer.map_ofStorage_eq_none_iff, fun _ =>
    Pointer.eq_of_mem_map_ofStorage⟩, Pointer.valueCount_bytes bytes⟩

/-- A scalar that has a native form is lent as its bytes. -/
theorem encoded?_of_marshalScalar {v : Value} (h : v.marshalScalar encoding = .ok native) :
    ∃ bytes, v.encoded? encoding = some bytes ∧ NativeValue.ofBytes bytes = .ok native := by
  cases v with
  | absent => exact ⟨[], rfl, h⟩
  | char | chars =>
    obtain ⟨bytes, hbytes, hnative⟩ := bind_eq_ok_iff.mp h
    exact ⟨bytes, congrArg some (encodeChars_eq_ok_iff.mp hbytes).1, hnative⟩
  | date d =>
    obtain ⟨bytes, hbytes, hnative⟩ := bind_eq_ok_iff.mp h
    exact ⟨bytes, congrArg Except.toOption hbytes, hnative⟩
  | template | float => cases h
  | _ => exact ⟨_, rfl, h⟩

theorem mirrors_of_marshalScalar {v : Value} (h : v.marshalScalar encoding = .ok native)
    (type : Word) :
    Mirrors encoding ⟨type, v⟩ (entry type native) ∧ Pointer.valueCount native.pointer = 0 := by
  obtain ⟨bytes, hbytes, hnative⟩ := encoded?_of_marshalScalar h
  obtain ⟨htype, hleads, hcount⟩ := entry_leads_of_ofBytes hnative type
  exact ⟨.scalar hbytes htype hleads, hcount⟩

theorem entry_leads_of_ofEntries {entries : NativeTemplate}
    (h : NativeValue.ofEntries entries = .ok native) (type : Word) :
    (entry type native).type = type ||| arrayFlag ∧
      (entry type native).Leads (.entries entries) (entries.length * entrySize) ∧
      Pointer.valueCount native.pointer = NativeTemplate.valueCount entries := by
  obtain ⟨length, hlength, hnative⟩ := bind_eq_ok_iff.mp h
  cases hnative
  have hsize : entries.length * entrySize = 0 ↔ entries.length = 0 :=
    Nat.mul_eq_zero.trans (or_iff_left (by decide))
  exact ⟨rfl, ⟨Word.toNat_ofLength hlength, Pointer.map_ofStorage_eq_none_iff.trans hsize.symm,
    fun _ => Pointer.eq_of_mem_map_ofStorage⟩, Pointer.valueCount_entries entries⟩

mutual

theorem mirrors_of_marshal (v : Value) {native : NativeValue} (h : v.marshal encoding = .ok native)
    (type : Word) :
    Mirrors encoding ⟨type, v⟩ (entry type native) ∧
      Pointer.valueCount native.pointer = v.nestedAttributes.length := by
  cases v with
  | template attributes =>
    rw [marshal] at h
    obtain ⟨-, -, h⟩ := bind_eq_ok_iff.mp h
    obtain ⟨-, -, h⟩ := bind_eq_ok_iff.mp h
    obtain ⟨entries, hentries, hnative⟩ := bind_eq_ok_iff.mp h
    obtain ⟨hall, hcount⟩ := mirrors_of_marshalEntries attributes hentries
    obtain ⟨htype, hleads, hpointer⟩ := entry_leads_of_ofEntries hnative type
    rw [← hall.length_eq] at hleads
    refine ⟨.array htype hleads hall, ?_⟩
    rw [hpointer, hcount, nestedAttributes]
  | _ =>
    simp only [marshal] at h
    exact mirrors_of_marshalScalar h type

theorem mirrors_of_marshalEntries (attributes : List (Typed Value)) {entries : NativeTemplate}
    (h : marshalEntries attributes encoding = .ok entries) :
    List.Forall₂ (Mirrors encoding) attributes entries ∧
      NativeTemplate.valueCount entries = (Template.allAttributes attributes).length := by
  match attributes with
  | [] =>
    cases h
    exact ⟨.nil, rfl⟩
  | ⟨type, v⟩ :: rest =>
    rw [marshalEntries] at h
    obtain ⟨native, hnative, h⟩ := bind_eq_ok_iff.mp h
    obtain ⟨entries', hrest, h⟩ := bind_eq_ok_iff.mp h
    obtain rfl := pure_eq_ok_iff.mp h
    obtain ⟨hhead, hcount⟩ := mirrors_of_marshal v hnative type
    obtain ⟨hall, hcounts⟩ := mirrors_of_marshalEntries rest hrest
    refine ⟨.cons hhead hall, ?_⟩
    rw [NativeTemplate.valueCount_cons, hcount, hcounts, Template.allAttributes, List.length_cons,
      List.length_append]
    omega

end

end Value

namespace Template

/-- A native template has one entry for each attribute in order, which mirrors it at every depth,
and as many values as there are attributes at all depths. -/
theorem marshal_mirrors {allocator : Allocator} {template : Template} {encoding : Encoding}
    {native : NativeTemplate} (h : template.marshal encoding = .ok native) :
    List.Forall₂ (Mirrors encoding) template native ∧
      NativeTemplate.valueCount native = template.allAttributes.length := by
  obtain ⟨-, -, h⟩ := bind_eq_ok_iff.mp h
  obtain ⟨-, -, hentries⟩ := bind_eq_ok_iff.mp h
  exact Value.mirrors_of_marshalEntries template hentries

open Simulation in
/-- An array with a version, an empty text and an empty array in it, under a type without the flag
of an array. -/
theorem marshal_mirrors_nested :
    let nested : Template := [⟨2, .version ⟨2, 40⟩⟩, ⟨3, .text ""⟩, ⟨0x40000212, .template []⟩]
    let template : Template := [⟨0x80000001, .template nested⟩, ⟨0x40000600, .words []⟩]
    let native : NativeTemplate :=
      [⟨0xC0000001, some (.entries
        [⟨2, some (.bytes [2, 40]), 2⟩, ⟨3, none, 0⟩, ⟨0x40000212, none, 0⟩]), 72⟩,
       ⟨0x40000600, none, 0⟩]
    template.marshal .utf8 = .ok native ∧ List.Forall₂ (Mirrors .utf8) template native ∧
      NativeTemplate.valueCount native = 5 := by
  intro nested template native
  have h : template.marshal .utf8 = .ok native := by rfl
  exact ⟨h, marshal_mirrors h⟩

end Template

end Cryptoki
