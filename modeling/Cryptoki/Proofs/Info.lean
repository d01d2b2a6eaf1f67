import Cryptoki.Info
import Cryptoki.Proofs.Text.Padding
import Cryptoki.Simulation.Memory

/-! The texts of information records. A text field is read as its text without the blanks at its end
(`Field.text_eq_ok_iff`), so that a record whose fields hold the texts of an application, padded to
their widths, gives these texts back. -/

namespace Cryptoki

namespace Field

open Memory

variable {allocator : Allocator} {width m n : Nat} {encoding : Encoding} {s : String}

/-- A field that holds a text, filled up with blanks. -/
def ofText (encoding : Encoding) (s : String) : Field width :=
  ⟨(Padding.fill width (encoding.encode s.toList)).toArray, by
    rw [List.size_toArray, Padding.length_fill]⟩

/-- A text that a field of some width can hold: the encoding loses none of its characters, its bytes
have room, and it does not end in a blank, which would pass for padding. -/
structure Fits (encoding : Encoding) (width : Nat) (s : String) : Prop where
  written : encoding.Writes s.toList
  short : (encoding.encode s.toList).length ≤ width
  ends : ∀ c ∈ s.toList.getLast?, ¬Padding.isBlank c

/-- The memory for the text of a field with these bytes. -/
def demands (encoding : Encoding) (field : List UInt8) : List Demand :=
  Value.textDemands (Padding.strip field) encoding ++
    stringBuffers (encoding.decode (Padding.strip field))

theorem toList_ofText (width : Nat) (encoding : Encoding) (s : String) :
    (ofText encoding s : Field width).toList = Padding.fill width (encoding.encode s.toList) := rfl

theorem collect_eq_ok_iff {text : List Char} :
    collect text = .ok s ↔ String.ofList text = s ∧ Affords (stringBuffers text) := by
  simp only [collect, bind_eq_ok_iff, exists_unit_iff, pure_eq_ok_iff, insistAll_eq_ok_iff]
  exact And.comm

/-- A field is read as its decoded bytes without the blanks at their end, where the host has the
memory. -/
theorem text_eq_ok_iff {field : Field width} : field.text encoding = .ok s ↔
    s.toList = (encoding.decode field.toList).rdropWhile Padding.isBlank ∧
      Affords (demands encoding field.toList) := by
  simp only [text, bind_eq_ok_iff, Value.decodeChars_eq_ok_iff, collect_eq_ok_iff, demands,
    affords_append, ← Encoding.decode_strip]
  constructor
  · rintro ⟨_, ⟨rfl, hchars⟩, rfl, hstring⟩
    rw [String.toList_ofList]
    exact ⟨rfl, hchars, hstring⟩
  · rintro ⟨htext, hchars, hstring⟩
    exact ⟨_, ⟨rfl, hchars⟩, by rw [← htext, String.ofList_toList], hstring⟩

/-- There is always memory for an empty text. -/
theorem affords_demands_nil : Affords (Value.textDemands [] encoding ++
    stringBuffers (encoding.decode [])) := by
  have hdecode : encoding.decode [] = [] := by
    cases encoding <;> simp [Encoding.decode, Utf8.decodeLossy]
  have hreads : encoding.Reads [] := by
    rw [← Encoding.encode_decode_iff, hdecode]
    cases encoding <;> rfl
  rw [Value.textDemands_of_reads hreads, hdecode]
  simp [stringBuffers, Utf8.encode]

theorem text_append {field : Field m} {padding : Field n} (h : ∀ b ∈ padding, Padding.isPad b) :
    Field.text (field ++ padding) encoding = field.text encoding := by
  have hpadding : ∀ b ∈ padding.toList, Padding.isPad b := by simpa using h
  rw [text, text, Vector.toList_append, Padding.strip_append hpadding]

theorem text_of_isPad {field : Field width} (h : ∀ b ∈ field, Padding.isPad b) :
    field.text encoding = .ok "" := by
  have hfield : ∀ b ∈ field.toList, Padding.isPad b := by simpa using h
  have hstrip : Padding.strip field.toList = [] := List.rdropWhile_eq_nil_iff.mpr hfield
  rw [text_eq_ok_iff, eq_comm, demands, hstrip]
  exact ⟨List.rdropWhile_eq_nil_iff.mpr (Encoding.isBlank_of_mem_decode hfield),
    affords_demands_nil⟩

/-- What is cut off the decoded field is blanks, and none are left at the end. -/
theorem decode_of_text {field : Field width} (h : field.text encoding = .ok s) :
    (∀ c ∈ s.toList.getLast?, ¬Padding.isBlank c) ∧
      ∃ blanks, (∀ c ∈ blanks, Padding.isBlank c) ∧
        encoding.decode field.toList = s.toList ++ blanks := by
  obtain ⟨htext, -⟩ := text_eq_ok_iff.mp h
  obtain ⟨blanks, hdecode, hblanks⟩ :=
    Padding.exists_append_rdropWhile Padding.isBlank (encoding.decode field.toList)
  rw [htext]
  exact ⟨fun _ => Padding.getLast?_rdropWhile, blanks, hblanks, hdecode⟩

/-- A field has a text exactly when there is memory for it. -/
theorem exists_text_iff {field : Field width} :
    (∃ s, field.text encoding = .ok s) ↔ Affords (demands encoding field.toList) := by
  constructor
  · rintro ⟨s, hs⟩
    exact (text_eq_ok_iff.mp hs).2
  · intro h
    refine ⟨String.ofList ((encoding.decode field.toList).rdropWhile Padding.isBlank), ?_⟩
    rw [text_eq_ok_iff, String.toList_ofList]
    exact ⟨rfl, h⟩

/-- A text comes back from the field that holds it. -/
theorem text_ofText (hs : Fits encoding width s)
    (h : Affords (demands encoding (ofText encoding s : Field width).toList)) :
    (ofText encoding s : Field width).text encoding = .ok s := by
  refine text_eq_ok_iff.mpr ⟨?_, h⟩
  rw [toList_ofText, Padding.fill_of_length_le hs.short,
    encoding.decode_append_padding _ fun _ => Padding.isPad_of_mem_replicate,
    Encoding.decode_encode hs.written,
    Padding.rdropWhile_append_of_forall
      (Encoding.isBlank_of_mem_decode fun _ => Padding.isPad_of_mem_replicate),
    Padding.rdropWhile_eq_self hs.ends]

end Field

/-! ### Records -/

namespace LibraryRecord

/-- The fields of text, in the order in which they are read. -/
def texts (r : LibraryRecord) : List (List UInt8) := [r.manufacturer.toList, r.description.toList]

end LibraryRecord

namespace SlotRecord

def texts (r : SlotRecord) : List (List UInt8) := [r.description.toList, r.manufacturer.toList]

end SlotRecord

namespace TokenRecord

def texts (r : TokenRecord) : List (List UInt8) :=
  [r.label.toList, r.manufacturer.toList, r.model.toList, r.serialNumber.toList, r.time.toList]

end TokenRecord

section

open Memory

variable {allocator : Allocator} {encoding : Encoding}

/-- The memory for the texts of the fields of a record. -/
def Field.textsDemands (encoding : Encoding) (fields : List (List UInt8)) : List Demand :=
  fields.flatMap (demands encoding)

namespace LibraryInfo

/-- The record of a module that describes itself in these texts. -/
def record (i : LibraryInfo) (encoding : Encoding) : LibraryRecord where
  cryptokiVersion := i.cryptokiVersion
  manufacturer := .ofText encoding i.manufacturer
  flags := i.flags
  description := .ofText encoding i.description
  libraryVersion := i.libraryVersion

/-- Whether each text has room in its field. -/
structure Fits (encoding : Encoding) (i : LibraryInfo) : Prop where
  manufacturer : Field.Fits encoding 32 i.manufacturer
  description : Field.Fits encoding 32 i.description

theorem ofRecord_record {i : LibraryInfo} (h : i.Fits encoding)
    (hroom : Affords (Field.textsDemands encoding (i.record encoding).texts)) :
    ofRecord (i.record encoding) encoding = .ok i := by
  obtain ⟨hmanufacturer, hdescription, -⟩ := by
    simpa only [Field.textsDemands, LibraryRecord.texts, List.flatMap_cons, affords_append]
      using hroom
  rw [ofRecord, record, Field.text_ofText h.manufacturer hmanufacturer,
    Field.text_ofText h.description hdescription]
  rfl

end LibraryInfo

namespace SlotInfo

/-- The record of a slot that is described in these texts. -/
def record (i : SlotInfo) (encoding : Encoding) : SlotRecord where
  description := .ofText encoding i.description
  manufacturer := .ofText encoding i.manufacturer
  flags := i.flags
  hardwareVersion := i.hardwareVersion
  firmwareVersion := i.firmwareVersion

/-- Whether each text has room in its field. -/
structure Fits (encoding : Encoding) (i : SlotInfo) : Prop where
  description : Field.Fits encoding 64 i.description
  manufacturer : Field.Fits encoding 32 i.manufacturer

theorem ofRecord_record {i : SlotInfo} (h : i.Fits encoding)
    (hroom : Affords (Field.textsDemands encoding (i.record encoding).texts)) :
    ofRecord (i.record encoding) encoding = .ok i := by
  obtain ⟨hdescription, hmanufacturer, -⟩ := by
    simpa only [Field.textsDemands, SlotRecord.texts, List.flatMap_cons, affords_append] using hroom
  rw [ofRecord, record, Field.text_ofText h.description hdescription,
    Field.text_ofText h.manufacturer hmanufacturer]
  rfl

end SlotInfo

namespace TokenInfo

/-- The record of a token that is described in these texts. -/
def record (i : TokenInfo) (encoding : Encoding) : TokenRecord where
  label := .ofText encoding i.label
  manufacturer := .ofText encoding i.manufacturer
  model := .ofText encoding i.model
  serialNumber := .ofText encoding i.serialNumber
  flags := i.flags
  maxSessions := i.maxSessions
  sessions := i.sessions
  maxReadWriteSessions := i.maxReadWriteSessions
  readWriteSessions := i.readWriteSessions
  maxPinLength := i.maxPinLength
  minPinLength := i.minPinLength
  totalPublicMemory := i.totalPublicMemory
  freePublicMemory := i.freePublicMemory
  totalPrivateMemory := i.totalPrivateMemory
  freePrivateMemory := i.freePrivateMemory
  hardwareVersion := i.hardwareVersion
  firmwareVersion := i.firmwareVersion
  time := .ofText encoding i.time

/-- Whether each text has room in its field. -/
structure Fits (encoding : Encoding) (i : TokenInfo) : Prop where
  label : Field.Fits encoding 32 i.label
  manufacturer : Field.Fits encoding 32 i.manufacturer
  model : Field.Fits encoding 16 i.model
  serialNumber : Field.Fits encoding 16 i.serialNumber
  time : Field.Fits encoding 16 i.time

/-- A record of a token can be read exactly when there is memory for its texts. -/
theorem exists_ofRecord_iff {r : TokenRecord} :
    (∃ i, ofRecord r encoding = .ok i) ↔ Affords (Field.textsDemands encoding r.texts) := by
  simp only [Field.textsDemands, TokenRecord.texts, List.flatMap_cons, List.flatMap_nil,
    affords_append, ← Field.exists_text_iff]
  constructor
  · rintro ⟨i, hi⟩
    simp only [ofRecord, bind_eq_ok_iff] at hi
    obtain ⟨label, hlabel, manufacturer, hmanufacturer, model, hmodel, serialNumber,
      hserialNumber, time, htime, -⟩ := hi
    exact ⟨⟨label, hlabel⟩, ⟨manufacturer, hmanufacturer⟩, ⟨model, hmodel⟩,
      ⟨serialNumber, hserialNumber⟩, ⟨time, htime⟩, affords_nil⟩
  · rintro ⟨⟨label, hlabel⟩, ⟨manufacturer, hmanufacturer⟩, ⟨model, hmodel⟩,
      ⟨serialNumber, hserialNumber⟩, ⟨time, htime⟩, -⟩
    rw [ofRecord, hlabel, hmanufacturer, hmodel, hserialNumber, htime]
    exact ⟨_, rfl⟩

/-- The label of a token is read as its field. -/
theorem text_label_of_ofRecord {r : TokenRecord} {i : TokenInfo}
    (h : ofRecord r encoding = .ok i) : r.label.text encoding = .ok i.label := by
  obtain ⟨label, hlabel, h⟩ := bind_eq_ok_iff.mp h
  simp only [bind_eq_ok_iff] at h
  obtain ⟨_, -, _, -, _, -, _, -, h⟩ := h
  cases h
  exact hlabel

theorem ofRecord_record {i : TokenInfo} (h : i.Fits encoding)
    (hroom : Affords (Field.textsDemands encoding (i.record encoding).texts)) :
    ofRecord (i.record encoding) encoding = .ok i := by
  obtain ⟨hlabel, hmanufacturer, hmodel, hserialNumber, htime, -⟩ := by
    simpa only [Field.textsDemands, TokenRecord.texts, List.flatMap_cons, affords_append]
      using hroom
  rw [ofRecord, record, Field.text_ofText h.label hlabel,
    Field.text_ofText h.manufacturer hmanufacturer, Field.text_ofText h.model hmodel,
    Field.text_ofText h.serialNumber hserialNumber, Field.text_ofText h.time htime]
  rfl

end TokenInfo

end

open Memory in
/-- A field is read as its bytes without their longest ending of padding, so that more padding
changes nothing; blanks elsewhere are kept. The texts of a record come back from fields that they
are padded to. All this is so where there is memory for the texts; an empty text needs none. -/
theorem Field.text_strips_padding {allocator : Allocator} (encoding : Encoding) {width : Nat}
    (field : Field width) :
    (∀ {n : Nat} (padding : Field n), (∀ b ∈ padding, Padding.isPad b) →
      Field.text (field ++ padding) encoding = field.text encoding) ∧
    (∃ kept, Padding.Trims field.toList kept ∧
      field.text encoding = Value.decodeChars kept encoding >>= collect) ∧
    ((∀ b ∈ field, Padding.isPad b) → field.text encoding = .ok "") ∧
    (∀ s, field.text encoding = .ok s → (∀ c ∈ s.toList.getLast?, ¬Padding.isBlank c) ∧
      ∃ blanks, (∀ c ∈ blanks, Padding.isBlank c) ∧
        encoding.decode field.toList = s.toList ++ blanks) ∧
    ((∃ s, field.text encoding = .ok s) ↔ Affords (demands encoding field.toList)) ∧
    (∀ s, Fits encoding width s →
      Affords (demands encoding (ofText encoding s : Field width).toList) →
      (ofText encoding s : Field width).text encoding = .ok s) ∧
    (∀ i : LibraryInfo, i.Fits encoding →
      Affords (textsDemands encoding (i.record encoding).texts) →
      LibraryInfo.ofRecord (i.record encoding) encoding = .ok i) ∧
    (∀ i : SlotInfo, i.Fits encoding →
      Affords (textsDemands encoding (i.record encoding).texts) →
      SlotInfo.ofRecord (i.record encoding) encoding = .ok i) ∧
    ∀ i : TokenInfo, i.Fits encoding →
      Affords (textsDemands encoding (i.record encoding).texts) →
      TokenInfo.ofRecord (i.record encoding) encoding = .ok i := by
  refine ⟨fun _ => text_append, ⟨_, Padding.trims_iff.mpr rfl, rfl⟩, text_of_isPad,
    fun _ => decode_of_text, exists_text_iff, fun _ => text_ofText,
    fun _ => LibraryInfo.ofRecord_record, fun _ => SlotInfo.ofRecord_record,
    fun _ => TokenInfo.ofRecord_record⟩

open Simulation in
/-- A field that ends within a character, one of padding only, and a slot with blanks inside its
description. -/
theorem Field.text_strips_padding_within_character :
    Field.text ((#v[0x20, 0x6B, 0xC3] : Field 3) ++ (#v[0, 0x20] : Field 2)) .utf8 =
      Field.text (#v[0x20, 0x6B, 0xC3] : Field 3) .utf8 ∧
    Field.text (#v[0, 0x20] : Field 2) .utf8 = .ok "" ∧
    SlotInfo.Fits .utf8 ⟨"Fente  n° 1", "Clés", 1, ⟨1, 0⟩, ⟨2, 0⟩⟩ ∧
    SlotInfo.ofRecord (SlotInfo.record ⟨"Fente  n° 1", "Clés", 1, ⟨1, 0⟩, ⟨2, 0⟩⟩ .utf8) .utf8 =
      .ok ⟨"Fente  n° 1", "Clés", 1, ⟨1, 0⟩, ⟨2, 0⟩⟩ := by
  have hpadding : ∀ b ∈ (#v[0, 0x20] : Field 2), Padding.isPad b := by simp [Padding.isPad]
  have hfits : SlotInfo.Fits .utf8 ⟨"Fente  n° 1", "Clés", 1, ⟨1, 0⟩, ⟨2, 0⟩⟩ :=
    ⟨⟨trivial, by decide, by simp [Padding.isBlank]⟩,
      ⟨trivial, by decide, by simp [Padding.isBlank]⟩⟩
  obtain ⟨happend, -⟩ := Field.text_strips_padding .utf8 (#v[0x20, 0x6B, 0xC3] : Field 3)
  obtain ⟨-, -, hempty, -, -, -, -, hslot, -⟩ :=
    Field.text_strips_padding .utf8 (#v[0, 0x20] : Field 2)
  exact ⟨happend _ hpadding, hempty hpadding, hfits, hslot _ hfits (by decide +kernel)⟩

end Cryptoki
