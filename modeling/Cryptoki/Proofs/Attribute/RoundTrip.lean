import Cryptoki.Attribute.Native
import Cryptoki.Proofs.Attribute.StoredObject
import Cryptoki.Proofs.Date

/-! Attributes that are written to native memory, stored by a module and read back. `Value.Matches`
says which shapes of a scalar come back as the kind of its type reads them, and `read_marshal` that
a template of such attributes comes back as it was. -/

namespace Cryptoki

open Memory

namespace Value

/-- A scalar has a shape in which values of its kind are read, or the one of an integer or of a text
in UTF-8, and it has a native form in the encoding. -/
inductive Matches (encoding : Encoding) : Kind → Value → Prop
  | long (v : Int64) : Matches encoding .ulong (.long v)
  | integer (v : Int32) : Matches encoding .ulong (.integer v)
  | bool (b : Bool) : Matches encoding .bool (.bool b)
  | chars {text : List Char} : encoding.Writes text → Matches encoding .text (.chars text)
  | text (s : String) : encoding = .utf8 → Matches encoding .text (.text s)
  | date {d : Date} : d.year.toNat ≤ 9999 → d.month.toNat ≤ 99 → d.day.toNat ≤ 99 →
      Matches encoding .date (.date d)
  | words {words : List Word} : words ≠ [] → Matches encoding .mechanismArray (.words words)
  | bytes (b : List UInt8) : Matches encoding .bytes (.bytes b)

def restoredScalar : Value → Value
  | integer v => long v.toInt64
  | text s => chars s.toList
  | v => v

/-- A value as it comes back. -/
def restored : Value → Value
  | template attributes => template (attributes.map fun a => ⟨a.type, a.value.restoredScalar⟩)
  | v => v.restoredScalar

/-- The memory for a text on the way out, for its bytes on the way back and for its characters. -/
def charsDemands (encoding : Encoding) (text : List Char) : List Demand :=
  [.bytes (encoding.encode text).length, Reader.Buffer.demand (encoding.encode text).length,
    .chars text.length]

/-- The memory that it takes to write a scalar and to read it back. -/
def scalarDemands (encoding : Encoding) : Value → List Demand
  | chars cs => charsDemands encoding cs
  | text s => charsDemands .utf8 s.toList
  | words ws => [Reader.Buffer.demand (ws.length * wordSize), .words ws.length]
  | bytes b => [Reader.Buffer.demand b.length, .bytes b.length]
  | _ => [.words 1]

/-- The memory that it takes to write a value and to read it back. -/
def demands (encoding : Encoding) : Value → List Demand
  | template attributes =>
    [.entries attributes.length, .values attributes.length, .cellBuffers attributes.length,
      .attributes attributes.length] ++ attributes.flatMap fun a => a.value.scalarDemands encoding
  | v => v.scalarDemands encoding

def hasNested : Value → Bool
  | template attributes => !attributes.isEmpty
  | _ => false

end Value

theorem lt_size_of_le_maximum {n : Nat} (h : n ≤ maximum) : n < UInt64.size :=
  Nat.lt_of_le_of_lt h (by decide)

theorem NativeValue.ofBytes_eq_ok {b : List UInt8} (h : b.length ≤ maximum) :
    ofBytes b = .ok ⟨(Pointer.ofStorage b).map .bytes, .ofNat b.length, false⟩ := by
  rw [ofBytes, Word.ofLength_eq_ok (lt_size_of_le_maximum h)]
  rfl

namespace Value

variable {allocator : Allocator} {encoding : Encoding}

/-! ### Scalars -/

theorem decode_ulong (w : Word) : decode .ulong w.toBytes encoding = .ok (ofWord w) := by
  have hlength := Word.length_toBytes w
  rw [decode_ulong_eq encoding (List.ne_nil_of_length_eq_add_one hlength), if_pos hlength,
    Word.ofBytes_toBytes]

theorem decode_bool (b : Bool) : decode .bool [boolToByte b] encoding = .ok (.bool b) := by
  cases b <;> rfl

theorem decode_text {text : List Char} (h : encoding.Writes text)
    (hroom : (Demand.chars text.length).Met) :
    decode .text (encoding.encode text) encoding = .ok (.chars text) := by
  have hback := Encoding.decode_encode h
  have hreads : encoding.Reads (encoding.encode text) :=
    Encoding.encode_decode_iff.mp (congrArg encoding.encode hback)
  have hdemands : Affords (textDemands (encoding.encode text) encoding) := by
    rw [textDemands_of_reads hreads, hback]
    exact affords_cons.mpr ⟨hroom, affords_nil⟩
  rw [decode_text_eq, decodeChars_eq_ok hdemands, hback]
  rfl

theorem decode_date {d : Date} {b : List UInt8} (hlength : b.length = 8)
    (h : Date.ofBytes b = .ok d) : decode .date b encoding = .ok (.date d) := by
  rw [decode_date_eq encoding (List.ne_nil_of_length_eq_add_one hlength), h]

theorem decode_words {ws : List Word} (hne : ws ≠ [])
    (hroom : (Demand.words ws.length).Met) :
    decode .mechanismArray (Word.listToBytes ws) encoding = .ok (.words ws) := by
  have hlength := Word.length_listToBytes ws
  have hpos : 0 < ws.length * wordSize := Nat.mul_pos (List.length_pos_iff.mpr hne) (by decide)
  have hwords : (Word.listToBytes ws).length / wordSize = ws.length := by
    rw [hlength]
    exact Nat.mul_div_cancel ws.length (by decide)
  rw [decode_mechanismArray_eq encoding (List.ne_nil_of_length_pos (hlength ▸ hpos)),
    Memory.decodeWords_eq_ok (hwords ▸ hroom) (hlength ▸ Nat.dvd_mul_left _ _),
    Word.listOfBytes_listToBytes]
  rfl

theorem decode_bytes {b : List UInt8} (hroom : (Demand.bytes b.length).Met) :
    decode .bytes b encoding = .ok (.bytes b) := by
  rw [decode_bytes_eq, Memory.copyBytes_eq_ok hroom]
  rfl

/-- A scalar has native bytes, and these are decoded to the scalar as it comes back. -/
theorem Matches.exists_bytes {kind : Kind} {v : Value} (h : Matches encoding kind v)
    (hroom : Affords (v.scalarDemands encoding)) :
    ∃ b : List UInt8, (Reader.Buffer.demand b.length).Met ∧
      marshalScalar v encoding = NativeValue.ofBytes b ∧
      decode kind b encoding = .ok v.restoredScalar := by
  have hbyte (h : Affords [.words 1]) : (Reader.Buffer.demand 1).Met := (affords_cons.mp h).1
  have hword (w : Word) (h : Affords [.words 1]) :
      (Reader.Buffer.demand w.toBytes.length).Met := by
    rw [Word.length_toBytes]
    exact (affords_cons.mp h).1
  cases h with
  | long v =>
    refine ⟨_, hword _ hroom, rfl, ?_⟩
    rw [decode_ulong]
    rfl
  | integer v =>
    refine ⟨_, hword _ hroom, rfl, ?_⟩
    rw [decode_ulong]
    rfl
  | bool b => exact ⟨[boolToByte b], hbyte hroom, rfl, decode_bool b⟩
  | @chars cs hcs =>
    obtain ⟨hbytes, hbuffer, hchars, -⟩ := by
      simpa only [scalarDemands, charsDemands, affords_cons] using hroom
    refine ⟨_, hbuffer, ?_, decode_text hcs hchars⟩
    rw [marshalScalar, encodeChars_eq_ok hbytes]
    rfl
  | text s hutf8 =>
    subst hutf8
    obtain ⟨-, hbuffer, hchars, -⟩ := by
      simpa only [scalarDemands, charsDemands, affords_cons] using hroom
    exact ⟨_, hbuffer, rfl, decode_text (show Encoding.utf8.Writes _ from trivial) hchars⟩
  | date hyear hmonth hday =>
    obtain ⟨b, hb, hlength, hback⟩ := Date.ofBytes_toBytes hyear hmonth hday
    refine ⟨b, by rw [hlength]; exact (affords_cons.mp hroom).1, ?_, decode_date hlength hback⟩
    rw [marshalScalar, hb]
    rfl
  | @words ws hne =>
    obtain ⟨hbuffer, hwords, -⟩ := by simpa only [scalarDemands, affords_cons] using hroom
    exact ⟨_, by rwa [Word.length_listToBytes], rfl, decode_words hne hwords⟩
  | bytes b =>
    obtain ⟨hbuffer, hbytes, -⟩ := by simpa only [scalarDemands, affords_cons] using hroom
    exact ⟨b, hbuffer, rfl, decode_bytes hbytes⟩

end Value

/-! ### Native entries -/

namespace NativeEntry

/-- The bytes that a module finds behind the pointer of an entry. -/
def bytes (e : NativeEntry Storage) : List UInt8 :=
  match e.pointer with
  | some (.bytes b) => b.take e.length.toNat
  | _ => []

/-- The nested entries that a module finds behind the pointer of an entry. -/
def nested (e : NativeEntry Storage) : NativeTemplate :=
  match e.pointer with
  | some (.entries entries) => entries.take (e.length.toNat / entrySize)
  | _ => []

/-- What a module stores of an entry: the types and bytes of the nested entries for an array type,
else the bytes. -/
def stored (e : NativeEntry Storage) : StoredValue :=
  if Kind.of e.type = .templateArray then .nested (e.nested.map fun n => ⟨n.type, n.bytes⟩)
  else .bytes e.bytes

theorem isNested_stored (e : NativeEntry Storage) :
    Kind.of e.type = .templateArray ↔ e.stored.isNested = true := by
  unfold stored
  split
  · next hk => exact ⟨fun _ => rfl, fun _ => hk⟩
  · next hk => exact ⟨fun h => absurd h hk, fun h => nomatch h⟩

end NativeEntry

/-- The object that a module makes of a native template. -/
def StoredObject.ofNative (native : NativeTemplate) : StoredObject :=
  .ofList (native.map fun e => ⟨e.type, e.stored⟩) fun e he => by
    obtain ⟨n, -, rfl⟩ := List.mem_map.mp he
    exact n.isNested_stored

theorem or_arrayFlag {type : Word} (h : Kind.of type = .templateArray) :
    type ||| arrayFlag = type := by
  have hmem : Kind.templateArrayTypes.contains type = true := by
    unfold Kind.of at h
    repeat' split at h
    all_goals first
      | assumption
      | cases h
  have htypes : type = 0x40000211 ∨ type = 0x40000212 ∨ type = 0x40000213 := by
    simpa [Kind.templateArrayTypes] using hmem
  obtain rfl | rfl | rfl := htypes <;> rfl

theorem NativeEntry.bytes_mk (type : Word) {b : List UInt8} (h : b.length ≤ maximum) :
    (NativeEntry.mk type ((Pointer.ofStorage b).map Storage.bytes) (.ofNat b.length)).bytes =
      b := by
  unfold NativeEntry.bytes Pointer.ofStorage
  cases b with
  | nil => rfl
  | cons x b =>
    simp only [List.isEmpty_cons, Bool.false_eq_true, if_false, Option.map_some,
      toNat_ofNat_of_le_maximum h, List.take_length]

theorem NativeEntry.nested_mk (type : Word) {entries : NativeTemplate}
    (h : entries.length * entrySize ≤ maximum) :
    (NativeEntry.mk type ((Pointer.ofStorage entries).map Storage.entries)
      (.ofNat (entries.length * entrySize))).nested = entries := by
  unfold NativeEntry.nested Pointer.ofStorage
  cases entries with
  | nil => rfl
  | cons e entries =>
    simp only [List.isEmpty_cons, Bool.false_eq_true, if_false, Option.map_some,
      toNat_ofNat_of_le_maximum h, Nat.mul_div_cancel _ (show 0 < entrySize by decide),
      List.take_length]

namespace Value

variable {allocator : Allocator} {encoding : Encoding}

def entry (type : Word) (native : NativeValue) : NativeEntry Storage :=
  ⟨if native.nested then type ||| arrayFlag else type, native.pointer, native.length⟩

theorem exists_marshalEntries {R : Attribute → NativeEntry Storage → Prop} {template : Template}
    (h : ∀ a ∈ template,
      ∃ native, marshal a.value encoding = .ok native ∧ R a (entry a.type native)) :
    ∃ entries, marshalEntries template encoding = .ok entries ∧
      List.Forall₂ R template entries := by
  induction template with
  | nil => exact ⟨[], rfl, .nil⟩
  | cons a template ih =>
    obtain ⟨native, hnative, hR⟩ := h a List.mem_cons_self
    obtain ⟨entries, hentries, hall⟩ := ih fun a' ha' => h a' (List.mem_cons_of_mem _ ha')
    refine ⟨entry a.type native :: entries, ?_, .cons hR hall⟩
    rw [marshalEntries, hnative]
    simp only [bind_eq_ok_iff, pure_eq_ok_iff]
    exact ⟨native, rfl, entries, hentries, rfl⟩

/-- An entry from which a scalar is read back. -/
structure Kept [Allocator] (encoding : Encoding) (a : Attribute) (e : NativeEntry Storage) :
    Prop where
  type : e.type = a.type
  kind : a.kind ≠ .templateArray
  held : (Reader.Buffer.demand e.bytes.length).Met
  value : decode a.kind e.bytes encoding = .ok a.value.restoredScalar

theorem Matches.exists_kept {a : Attribute} (h : Matches encoding a.kind a.value)
    (hroom : Affords (a.value.scalarDemands encoding)) :
    ∃ native, marshal a.value encoding = .ok native ∧ Kept encoding a (entry a.type native) := by
  obtain ⟨b, hbuffer, hmarshal, hdecode⟩ := h.exists_bytes hroom
  have hlength := Reader.Buffer.length_le hbuffer
  have hscalar : marshal a.value encoding = marshalScalar a.value encoding := by
    generalize a.kind = kind, a.value = v at h
    cases h <;> simp [marshal]
  have hk : a.kind ≠ .templateArray := by
    intro hk
    rw [hk] at h
    cases h
  rw [NativeValue.ofBytes_eq_ok hlength] at hmarshal
  refine ⟨_, hscalar.trans hmarshal, rfl, hk, ?_, ?_⟩
  · rw [entry, NativeEntry.bytes_mk _ hlength]
    exact hbuffer
  · rw [entry, NativeEntry.bytes_mk _ hlength]
    exact hdecode

/-- An entry from which an attribute is read back. -/
structure Restores [Allocator] (encoding : Encoding) (a : Attribute) (e : NativeEntry Storage) :
    Prop where
  type : e.type = a.type
  nested : e.stored.hasNested = a.value.hasNested
  held : Affords e.stored.demands
  value : e.stored.decode encoding a.type = .ok a.value.restored

theorem Matches.restored_eq {kind : Kind} {v : Value} (h : Matches encoding kind v) :
    v.restored = v.restoredScalar := by
  cases h <;> rfl

theorem Kept.restores {a : Attribute} {e : NativeEntry Storage} (h : Kept encoding a e)
    (hm : Matches encoding a.kind a.value) : Restores encoding a e := by
  have hstored : e.stored = .bytes e.bytes := by
    unfold NativeEntry.stored
    rw [h.type]
    exact if_neg h.kind
  refine ⟨h.type, ?_, hstored ▸ affords_cons.mpr ⟨h.held, affords_nil⟩, ?_⟩
  · rw [hstored]
    generalize a.kind = kind, a.value = v at hm
    cases hm <;> rfl
  · rw [hstored, hm.restored_eq]
    exact h.value

theorem decodeNested_entries {attributes : Template} {entries : NativeTemplate}
    (h : List.Forall₂ (Kept encoding) attributes entries) :
    (entries.map fun n => (⟨n.type, n.bytes⟩ : Typed (List UInt8))).mapM
      (StoredValue.decodeNested encoding) =
        .ok (attributes.map fun a => ⟨a.type, a.value.restoredScalar⟩) := by
  rw [mapM_eq_ok_iff, List.forall₂_map_left_iff, List.forall₂_map_right_iff]
  refine h.flip.imp ?_
  intro e a hkept
  have hk : Reader.nestedKind e.type = a.kind := by
    rw [Reader.nestedKind, hkept.type]
    exact if_neg hkept.kind
  rw [StoredValue.decodeNested, hk, hkept.value, hkept.type]
  rfl

theorem exists_restores_template {type : Word} {attributes : Template}
    (hk : Kind.of type = .templateArray)
    (hm : ∀ a ∈ attributes, Matches encoding a.kind a.value)
    (hroom : Affords ((template attributes).demands encoding)) :
    ∃ native, marshal (template attributes) encoding = .ok native ∧
      Restores encoding ⟨type, template attributes⟩ (entry type native) := by
  obtain ⟨⟨hentriesRoom, hvaluesRoom, hbuffers, hattributes, -⟩, hscalars⟩ := by
    simpa only [demands, affords_append, affords_cons, affords_flatMap] using hroom
  obtain ⟨entries, hentries, hall⟩ := exists_marshalEntries fun a ha =>
    (hm a ha).exists_kept (hscalars a ha)
  have hcount : entries.length = attributes.length := hall.length_eq.symm
  have hlength : entries.length * entrySize ≤ maximum := hcount ▸ hentriesRoom.total_le
  refine ⟨⟨(Pointer.ofStorage entries).map .entries, .ofNat (entries.length * entrySize), true⟩,
    ?_, ?_⟩
  · rw [marshal, reserveStorage_eq_ok_iff.mpr hentriesRoom,
      reserveStorage_eq_ok_iff.mpr hvaluesRoom]
    show (do NativeValue.ofEntries (← marshalEntries attributes encoding)) = _
    rw [hentries]
    show NativeValue.ofEntries entries = _
    rw [NativeValue.ofEntries, Word.ofLength_eq_ok (lt_size_of_le_maximum hlength)]
    rfl
  · have htype : type ||| arrayFlag = type := or_arrayFlag hk
    have hstored : (entry type ⟨(Pointer.ofStorage entries).map .entries,
        .ofNat (entries.length * entrySize), true⟩).stored =
          .nested (entries.map fun n => ⟨n.type, n.bytes⟩) := by
      unfold NativeEntry.stored
      rw [entry, if_pos rfl, htype, if_pos hk, NativeEntry.nested_mk _ hlength]
    refine ⟨htype, ?_, ?_, ?_⟩
    · rw [hstored]
      cases hall <;> rfl
    · rw [hstored, StoredValue.demands, affords_cons, affords_cons, List.length_map, hcount,
        List.map_map]
      refine ⟨hentriesRoom, hbuffers, fun d hd => ?_⟩
      obtain ⟨e, he, rfl⟩ := List.mem_map.mp hd
      obtain ⟨a, -, hkept⟩ := forall₂_mem_right hall he
      exact hkept.held
    · rw [hstored, StoredValue.decode, List.length_map, hcount,
        reserveStorage_eq_ok_iff.mpr hattributes, decodeNested_entries hall]
      rfl

theorem Matches.demands_eq {kind : Kind} {v : Value} (h : Matches encoding kind v) :
    v.demands encoding = v.scalarDemands encoding := by
  cases h <;> rfl

end Value

/-! ### Templates -/

/-- An attribute has a scalar of the kind of its type, or an array type and nested scalars. -/
inductive Typed.Storable (encoding : Encoding) (a : Attribute) : Prop
  | scalar : Value.Matches encoding a.kind a.value → Storable encoding a
  | template {nested : Template} : a.kind = .templateArray → a.value = .template nested →
      (∀ n ∈ nested, Value.Matches encoding n.kind n.value) → Storable encoding a

theorem Typed.Storable.exists_restores {allocator : Allocator} {encoding : Encoding}
    {a : Attribute} (h : a.Storable encoding) (hroom : Affords (a.value.demands encoding)) :
    ∃ native, a.value.marshal encoding = .ok native ∧
      Value.Restores encoding a (Value.entry a.type native) := by
  cases h with
  | scalar hm =>
    obtain ⟨native, hnative, hkept⟩ := hm.exists_kept (hm.demands_eq ▸ hroom)
    exact ⟨native, hnative, hkept.restores hm⟩
  | template hk hv hm =>
    obtain ⟨type, value⟩ := a
    subst hv
    exact Value.exists_restores_template hk hm hroom

/-- The host has the memory to write a template and to read it back. -/
structure Template.Held [Allocator] (encoding : Encoding) (template : Template) : Prop where
  entries : (Demand.entries template.length).Met
  marshaled : (Demand.values template.length).Met
  slots : (Demand.slots template.length).Met
  values : ∀ a ∈ template, Affords (a.value.demands encoding)
  arrays : Affords (Reader.arrayDemands (template.countP fun a => a.value.hasNested))

def Template.restored (template : Template) : Template :=
  template.map fun a => ⟨a.type, a.value.restored⟩

namespace StoredObject

variable {allocator : Allocator} {σ : Type} {encoding : Encoding} {template : Template}
  {native : NativeTemplate}

theorem exists_value?_ofNative (hall : List.Forall₂ (Value.Restores encoding) template native)
    (hdistinct : (template.map Typed.type).Nodup) {a : Attribute} (ha : a ∈ template) :
    ∃ v, (ofNative native).value? a.type = some v ∧ v.hasNested = a.value.hasNested ∧
      Affords v.demands ∧ v.decode encoding a.type = .ok a.value.restored := by
  obtain ⟨e, he, hrestores⟩ := forall₂_mem_right hall.flip ha
  have htypes : (native.map fun e => (⟨e.type, e.stored⟩ : Typed StoredValue)).map Typed.type =
      template.map Typed.type := by
    rw [List.map_map, ← List.forall₂_eq_eq_eq, List.forall₂_map_left_iff,
      List.forall₂_map_right_iff]
    exact hall.flip.imp fun _ _ h => h.type
  have hmem : (⟨e.type, e.stored⟩ : Typed StoredValue) ∈
      native.map fun e => (⟨e.type, e.stored⟩ : Typed StoredValue) := List.mem_map_of_mem he
  refine ⟨e.stored, ?_, hrestores.nested, hrestores.held, hrestores.value⟩
  rw [← hrestores.type]
  exact value?_ofList (htypes ▸ hdistinct) hmem

theorem verdict_eq_ok {o : StoredObject} (h : ∀ a ∈ template, ∃ v, o.value? a.type = some v) :
    o.verdict template = .ok () := by
  have hnone : template.findIdx? (fun a => (o.value? a.type).isNone) = none := by
    rw [List.findIdx?_eq_none_iff]
    intro a ha
    obtain ⟨v, hv⟩ := h a ha
    rw [hv]
    rfl
  rw [verdict, hnone]

/-- A read of the object that a module has made of a native template gives the template back. -/
theorem read_ofNative (hall : List.Forall₂ (Value.Restores encoding) template native)
    (hdistinct : (template.map Typed.type).Nodup)
    (hheld : template.Held encoding) {call : Reader.Callee σ}
    (hcall : (ofNative native).Conforms call) (s : σ) :
    ((Reader.read encoding (template.map fun a => .query a.type) call).run s).1 =
      (.ok (), template.restored) := by
  have hstored {a : Attribute} (ha : a ∈ template) := exists_value?_ofNative hall hdistinct ha
  have hroom : (ofNative native).Affordable (template.map fun a => .query a.type) := by
    refine ⟨by rw [List.length_map]; exact hheld.entries,
      by rw [List.length_map]; exact hheld.slots, fun q hq v hv => ?_, ?_⟩
    · obtain ⟨a, ha, rfl⟩ := List.mem_map.mp hq
      obtain ⟨v', hv', -, hdemands, -⟩ := hstored ha
      rw [Option.some.inj (hv.symm.trans hv')]
      exact hdemands
    · have hcount : (template.map fun a => Typed.query a.type).countP
          (fun a => (ofNative native).hasNested a.type) =
            template.countP fun a => a.value.hasNested := by
        rw [List.countP_map]
        refine List.countP_congr fun a ha => ?_
        obtain ⟨v, hv, hnested, -⟩ := hstored ha
        show (ofNative native).hasNested a.type = true ↔ _
        rw [hasNested, hv]
        exact iff_of_eq (congrArg (· = true) hnested)
      rw [hcount]
      exact hheld.arrays
  have hvalues : (template.map fun a => Typed.query a.type).mapM
      (fun a => (ofNative native).decode encoding a.type) =
        .ok (template.map fun a => a.value.restored) := by
    rw [mapM_eq_ok_iff, List.forall₂_map_left_iff, List.forall₂_map_right_iff, List.forall₂_same]
    intro a ha
    obtain ⟨v, hv, -, -, hdecode⟩ := hstored ha
    show (ofNative native).decode encoding a.type = _
    rw [decode, hv]
    exact hdecode
  have hverdict : (ofNative native).verdict (template.map fun a => .query a.type) = .ok () := by
    apply verdict_eq_ok
    intro q hq
    obtain ⟨a, ha, rfl⟩ := List.mem_map.mp hq
    obtain ⟨v, hv, -⟩ := hstored ha
    exact ⟨v, hv⟩
  have hrestored : Reader.withValues (template.map fun a => .query a.type)
      (template.map fun a => a.value.restored) = template.restored := by
    rw [Reader.withValues, List.zipWith_map, List.zipWith_self]
    rfl
  rw [hcall.read_eq hroom hvalues, hverdict, hrestored]

end StoredObject

/-- A template of distinct types whose values match the kinds of their types has a native form, and
a read from any module that has stored this form returns the template as it was, with integers as
longs and texts as characters. -/
theorem Template.read_marshal {allocator : Allocator} {σ : Type} (encoding : Encoding)
    (template : Template)
    (hdistinct : (template.map Typed.type).Nodup) (hstorable : ∀ a ∈ template, a.Storable encoding)
    (hroom : template.Held encoding) :
    ∃ native, template.marshal encoding = .ok native ∧
      ∀ call : Reader.Callee σ, (StoredObject.ofNative native).Conforms call → ∀ s,
        ((Reader.read encoding (template.map fun a => .query a.type) call).run s).1 =
          (.ok (), template.restored) := by
  obtain ⟨native, hnative, hall⟩ := Value.exists_marshalEntries fun a ha =>
    (hstorable a ha).exists_restores (hroom.values a ha)
  refine ⟨native, ?_, fun call hcall s =>
    StoredObject.read_ofNative hall hdistinct hroom hcall s⟩
  rw [marshal, reserveStorage_eq_ok_iff.mpr hroom.entries,
    reserveStorage_eq_ok_iff.mpr hroom.marshaled]
  exact hnative

def mixedTemplate : Template :=
  [⟨0x100, .integer (-1)⟩, ⟨0x162, .bool false⟩, ⟨0x3, .text (String.ofList ['n', 'é'])⟩,
    ⟨0x110, .date ⟨2030, 12, 31⟩⟩, ⟨0x40000600, .words [0x1085, 0x1087]⟩, ⟨0x102, .bytes []⟩,
    ⟨0x40000211, .template [⟨0x0, .long 4⟩, ⟨0x10, .chars []⟩, ⟨0x0, .integer 5⟩]⟩,
    ⟨0x40000212, .template []⟩]

open Simulation in
theorem read_marshal_mixedTemplate :
    ∃ native, mixedTemplate.marshal .utf8 = .ok native ∧
      ((Reader.read .utf8 (mixedTemplate.map fun a => .query a.type)
        (StoredObject.ofNative native).module).run ()).1 =
        (.ok (), [⟨0x100, .long (-1)⟩, ⟨0x162, .bool false⟩, ⟨0x3, .chars ['n', 'é']⟩,
          ⟨0x110, .date ⟨2030, 12, 31⟩⟩, ⟨0x40000600, .words [0x1085, 0x1087]⟩,
          ⟨0x102, .bytes []⟩,
          ⟨0x40000211, .template [⟨0x0, .long 4⟩, ⟨0x10, .chars []⟩, ⟨0x0, .long 5⟩]⟩,
          ⟨0x40000212, .template []⟩]) := by
  have hstorable : ∀ a ∈ mixedTemplate, a.Storable .utf8 := by
    simp only [mixedTemplate, List.forall_mem_cons]
    refine ⟨.scalar (.integer _), .scalar (.bool _), .scalar (.text _ rfl),
      .scalar (.date (by decide) (by decide) (by decide)), .scalar (.words (by decide)),
      .scalar (.bytes _), .template rfl rfl ?_, .template rfl rfl ?_, fun _ h => nomatch h⟩
    · simp only [List.forall_mem_cons]
      exact ⟨.long _, .chars trivial, .integer _, fun _ h => nomatch h⟩
    · exact fun _ h => nomatch h
  have hheld : mixedTemplate.Held .utf8 := by
    refine ⟨by decide, by decide, by decide, ?_, by decide⟩
    simp only [mixedTemplate, List.forall_mem_cons]
    exact ⟨by decide, by decide, by decide, by decide, by decide, by decide, by decide, by decide,
      fun _ h => nomatch h⟩
  obtain ⟨native, hnative, hread⟩ :=
    Template.read_marshal (σ := Unit) .utf8 mixedTemplate (by decide) hstorable hheld
  refine ⟨native, hnative, ?_⟩
  rw [hread _ (StoredObject.module_conforms _)]
  rfl

end Cryptoki
