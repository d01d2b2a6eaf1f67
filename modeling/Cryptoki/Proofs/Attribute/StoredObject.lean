import Cryptoki.Proofs.Attribute.Decoding
import Cryptoki.Proofs.Attribute.Reading

/-! Reading an object from a module that follows the rules of the query function: it reports the
length of a value for a null pointer and copies the value to any other, and it reports a missing
attribute as unavailable. `StoredObject.read_of_conforms` says that a read returns the decoded
values of the object, whichever module serves it. -/

namespace Cryptoki

open Memory

/-- The value of an attribute in a module: bytes, or the types and bytes of nested attributes. -/
inductive StoredValue where
  | bytes (bytes : List UInt8)
  | nested (attributes : List (Typed (List UInt8)))

namespace StoredValue

def length : StoredValue → Nat
  | bytes b => b.length
  | nested attributes => attributes.length * entrySize

def cellWrite (a : Typed (List UInt8)) : CellWrite :=
  { type := some a.type, length := some (.ofNat a.value.length), bytes := a.value }

/-- What a module writes into the entry of a value. -/
def entryWrite (v : StoredValue) : EntryWrite :=
  match v with
  | bytes b => { length := some (.ofNat v.length), bytes := b }
  | nested attributes => { length := some (.ofNat v.length), cells := attributes.map cellWrite }

/-- The memory for the bytes of a value, which are read into whole words. -/
def demands : StoredValue → List Demand
  | bytes b => [Reader.Buffer.demand b.length]
  | nested attributes => .entries attributes.length :: .cellBuffers attributes.length ::
      attributes.map fun a => Reader.Buffer.demand a.value.length

/-- The memory that it takes to decode a value. -/
def decodeDemands (encoding : Encoding) (type : Word) : StoredValue → List Demand
  | bytes b => Value.decodeDemands (Kind.of type) b encoding
  | nested attributes => .attributes attributes.length ::
      attributes.flatMap fun a => Value.decodeDemands (Reader.nestedKind a.type) a.value encoding

/-- Mechanism codes come in whole words. -/
def Whole (type : Word) : StoredValue → Prop
  | bytes b => Kind.of type = .mechanismArray → wordSize ∣ b.length
  | nested attributes => ∀ a ∈ attributes, Kind.of a.type = .mechanismArray →
      wordSize ∣ a.value.length

instance (type : Word) : DecidablePred (Whole type) := fun v =>
  match v with
  | bytes b => inferInstanceAs (Decidable (Kind.of type = .mechanismArray → wordSize ∣ b.length))
  | nested attributes => inferInstanceAs (Decidable (∀ a ∈ attributes,
      Kind.of a.type = .mechanismArray → wordSize ∣ a.value.length))

def decodeNested [Allocator] (encoding : Encoding) (a : Typed (List UInt8)) :
    Except Fault Attribute := do
  return ⟨a.type, ← Value.decode (Reader.nestedKind a.type) a.value encoding⟩

/-- The decoded value of an attribute of a type. -/
def decode [Allocator] (encoding : Encoding) (type : Word) : StoredValue → Except Fault Value
  | bytes b => Value.decode (Kind.of type) b encoding
  | nested attributes => do
    reserveStorage (.attributes attributes.length)
    return .template (← attributes.mapM (decodeNested encoding))

def isNested : StoredValue → Bool
  | bytes _ => false
  | nested _ => true

def hasNested : StoredValue → Bool
  | bytes _ => false
  | nested attributes => !attributes.isEmpty

end StoredValue

/-- The pointer of a nested attribute is null, or leads to the announced room for a value. -/
def QueryCell.Holds (c : QueryCell) (b : List UInt8) : Prop :=
  ∀ space ∈ c.buffer, b.length ≤ c.length.toNat ∧ b.length ≤ space.length

def QueryEntry.Holds (e : QueryEntry) : StoredValue → Prop
  | .bytes b => e.storage = .null ∨
      ∃ space, e.storage = .buffer space ∧ b.length ≤ e.length.toNat ∧ b.length ≤ space.length
  | .nested attributes => e.storage = .null ∨
      ∃ cells, e.storage = .cells cells ∧ attributes.length * entrySize ≤ e.length.toNat ∧
        attributes.length ≤ cells.length ∧ ∀ x ∈ cells.zip attributes, x.1.Holds x.2.value

/-- The attributes of an object in a module. The array types have nested attributes, all others have
bytes. -/
structure StoredObject where
  value? : Word → Option StoredValue
  isArray_iff : ∀ type v, value? type = some v →
    (Kind.of type = .templateArray ↔ v.isNested = true)

namespace StoredObject

variable {σ : Type}

def writes (o : StoredObject) (type : Word) : EntryWrite :=
  match o.value? type with
  | some v => v.entryWrite
  | none => { length := some unavailable }

/-- An entry as a module leaves it. -/
def answer (o : StoredObject) (e : QueryEntry) : QueryEntry := e.write (o.writes e.type)

def status (o : StoredObject) (query : List QueryEntry) : Word :=
  if query.all fun e => (o.value? e.type).isSome then Status.ok else Status.attributeTypeInvalid

/-- Every pointer of a query is null, or leads to the announced room for the value of its type. -/
def Offered (o : StoredObject) (query : List QueryEntry) : Prop :=
  ∀ e ∈ query, ∀ v, o.value? e.type = some v → e.Holds v

/-- A module that serves an object as the rules say. Of a query that offers too little room nothing
is said. -/
structure Conforms (o : StoredObject) (call : Reader.Callee σ) : Prop where
  entries : ∀ query s, o.Offered query →
    QueryEntry.writeAll query (call query s).1.entries = query.map o.answer
  status : ∀ query s, o.Offered query → (call query s).1.status = o.status query

def WholeMechanisms (o : StoredObject) : Prop :=
  ∀ type v, o.value? type = some v → v.Whole type

/-- The object has nested attributes of a type. -/
def hasNested (o : StoredObject) (type : Word) : Bool :=
  match o.value? type with
  | some v => v.hasNested
  | none => false

/-- The host has the memory for the queries of a template of an object. -/
structure Affordable [Allocator] (o : StoredObject) (template : Template) : Prop where
  entries : (Demand.entries template.length).Met
  slots : (Demand.slots template.length).Met
  values : ∀ a ∈ template, ∀ v, o.value? a.type = some v → Affords v.demands
  arrays : Affords (Reader.arrayDemands (template.countP fun a => o.hasNested a.type))

/-- The host has the memory to decode the values of a template of an object. -/
def DecodingAffordable [Allocator] (o : StoredObject) (encoding : Encoding)
    (template : Template) : Prop :=
  ∀ a ∈ template, ∀ v, o.value? a.type = some v → Affords (v.decodeDemands encoding a.type)

/-- The decoded value of an attribute, absent when the object has none. -/
def decode [Allocator] (o : StoredObject) (encoding : Encoding) (type : Word) :
    Except Fault Value :=
  match o.value? type with
  | none => .ok .absent
  | some v => v.decode encoding type

/-- The result of reading a template: the first attribute that the object lacks is the error. -/
def verdict (o : StoredObject) (template : Template) : Except Fault Unit :=
  match template.findIdx? fun a => (o.value? a.type).isNone with
  | some i => .error (.error (.attributeUnavailable i ((template.map Typed.type)[i]?.getD 0)))
  | none => .ok ()

/-! ### Lengths -/

def reported (o : StoredObject) (type : Word) : Word :=
  match o.value? type with
  | some v => .ofNat v.length
  | none => unavailable

@[simp] theorem answer_length (o : StoredObject) (e : QueryEntry) :
    (o.answer e).length = o.reported e.type := by
  unfold answer writes reported
  cases o.value? e.type with
  | none => rfl
  | some v => cases v <;> rfl

theorem answer_written (o : StoredObject) (e : QueryEntry) : e.Written (o.answer e) := ⟨_, rfl⟩

end StoredObject

section

variable {allocator : Allocator} {v : StoredValue} {attributes : List (Typed (List UInt8))}

theorem Reader.Buffer.length_le {n : Nat} (h : (Buffer.demand n).Met) : n ≤ maximum := by
  have htotal : (n + (wordSize - 1)) / wordSize * wordSize ≤ maximum := h.total_le
  exact Nat.le_trans (le_wholeWords n) htotal

theorem StoredValue.length_le (h : Affords v.demands) : v.length ≤ maximum := by
  cases v with
  | bytes b => exact Reader.Buffer.length_le (affords_cons.mp h).1
  | nested attributes => exact (affords_cons.mp h).1.total_le

theorem StoredValue.buffer_met (h : Affords (StoredValue.nested attributes).demands) :
    ∀ a ∈ attributes, (Reader.Buffer.demand a.value.length).Met := fun _ ha =>
  h _ (List.mem_cons_of_mem _ (List.mem_cons_of_mem _ (List.mem_map_of_mem ha)))

theorem kind_of_nestedKind {type : Word} {kind : Kind} (h : Reader.nestedKind type = kind)
    (hkind : kind ≠ .bytes) : Kind.of type = kind := by
  unfold Reader.nestedKind at h
  split at h
  · exact absurd h.symm hkind
  · exact h

/-- A value can be decoded if there is memory for it and mechanism codes come in whole words. -/
theorem StoredValue.exists_decode {encoding : Encoding} {type : Word}
    (hroom : Affords (v.decodeDemands encoding type)) (hwhole : v.Whole type) :
    ∃ value, v.decode encoding type = .ok value := by
  cases v with
  | bytes b => exact Value.exists_decode hroom hwhole
  | nested attributes =>
    obtain ⟨hattributes, hvalues⟩ := affords_cons.mp hroom
    obtain ⟨nested, hnested⟩ : ∃ nested, attributes.mapM (decodeNested encoding) = .ok nested := by
      refine exists_mapM_eq_ok fun a ha => ?_
      obtain ⟨value, hvalue⟩ := Value.exists_decode (affords_flatMap.mp hvalues a ha)
        (fun hk => hwhole a ha (kind_of_nestedKind hk nofun))
      exact ⟨⟨a.type, value⟩, by rw [decodeNested, hvalue]; rfl⟩
    exact ⟨.template nested, by
      rw [StoredValue.decode, reserveStorage_eq_ok_iff.mpr hattributes, hnested]; rfl⟩

end

theorem toNat_ofNat_of_le_maximum {n : Nat} (h : n ≤ maximum) : (UInt64.ofNat n).toNat = n := by
  unfold maximum at h
  rw [UInt64.toNat_ofNat']
  omega

theorem ofNat_ne_unavailable {n : Nat} (h : n ≤ maximum) : UInt64.ofNat n ≠ unavailable := by
  intro hu
  have hn := congrArg UInt64.toNat hu
  rw [toNat_ofNat_of_le_maximum h] at hn
  have hmaximum : maximum < unavailable.toNat := by decide
  omega

namespace StoredObject

variable {allocator : Allocator} {σ : Type} {o : StoredObject}

theorem toNat_reported {type : Word} {v : StoredValue} (hv : o.value? type = some v)
    (h : Affords v.demands) : (o.reported type).toNat = v.length := by
  rw [reported, hv]
  exact toNat_ofNat_of_le_maximum (StoredValue.length_le h)

theorem reported_ne_unavailable {type : Word} {v : StoredValue} (hv : o.value? type = some v)
    (h : Affords v.demands) : o.reported type ≠ unavailable := by
  rw [reported, hv]
  exact ofNat_ne_unavailable (StoredValue.length_le h)

theorem reported_eq_unavailable {type : Word} (hv : o.value? type = none) :
    o.reported type = unavailable := by
  rw [reported, hv]

theorem kind_of_nested {type : Word} {attributes : List (Typed (List UInt8))}
    (hv : o.value? type = some (.nested attributes)) : Kind.of type = .templateArray :=
  (o.isArray_iff type _ hv).mpr rfl

theorem kind_of_bytes {type : Word} {b : List UInt8} (hv : o.value? type = some (.bytes b)) :
    Kind.of type ≠ .templateArray := by
  intro hk
  cases (o.isArray_iff type _ hv).mp hk

theorem slot_of_bytes {p : QueryEntry} {slot : Reader.Slot} {b : List UInt8}
    (hp : p.length = o.reported p.type) (hv : o.value? p.type = some (.bytes b))
    (hheld : Affords (StoredValue.bytes b).demands) (hfits : slot.Fits p) :
    ∃ buffer, slot = .scalar buffer ∧ buffer.Sized p.length := by
  cases slot with
  | unavailable => exact absurd (hp.symm.trans hfits) (reported_ne_unavailable hv hheld)
  | scalar buffer => exact ⟨buffer, rfl, hfits.2.2⟩
  | nested cells => exact absurd hfits.2.1 (kind_of_bytes hv)

theorem slot_of_nested {p : QueryEntry} {slot : Reader.Slot}
    {attributes : List (Typed (List UInt8))} (hp : p.length = o.reported p.type)
    (hv : o.value? p.type = some (.nested attributes))
    (hheld : Affords (StoredValue.nested attributes).demands) (hfits : slot.Fits p) :
    ∃ cells, slot = .nested cells ∧ cells.length = attributes.length := by
  cases slot with
  | unavailable => exact absurd (hp.symm.trans hfits) (reported_ne_unavailable hv hheld)
  | scalar buffer => exact absurd (kind_of_nested hv) hfits.2.1
  | nested cells =>
    refine ⟨cells, rfl, ?_⟩
    rw [hfits.2.2.1, hp, toNat_reported hv hheld]
    exact Nat.mul_div_cancel attributes.length (by decide)

/-! ### What is offered and what is left -/

theorem scalar_holds {p : QueryEntry} {buffer : Reader.Buffer} {b : List UInt8}
    (hsized : buffer.Sized p.length) (hp : p.length.toNat = b.length) :
    (Reader.bind p (.scalar buffer)).Holds (.bytes b) := by
  cases hpointer : buffer.pointer with
  | none => exact .inl (by simp [Reader.bind, Reader.Slot.storage, hpointer])
  | some space =>
    refine .inr ⟨space, by simp [Reader.bind, Reader.Slot.storage, hpointer], Nat.le_of_eq hp.symm,
      ?_⟩
    rw [← hp]
    exact hsized.covers space hpointer

theorem nested_holds {p : QueryEntry} {cells : List (QueryCell × Option Reader.Buffer)}
    {attributes : List (Typed (List UInt8))} (hlength : cells.length = attributes.length)
    (hp : p.length.toNat = attributes.length * entrySize)
    (hcells : ∀ x ∈ cells.zip attributes, (Reader.Slot.bindCell x.1).Holds x.2.value) :
    (Reader.bind p (.nested cells)).Holds (.nested attributes) := by
  by_cases hnil : cells = []
  · exact .inl (by simp [Reader.bind, Reader.Slot.storage, hnil])
  · refine .inr ⟨cells.map Reader.Slot.bindCell, by simp [Reader.bind, Reader.Slot.storage, hnil],
      Nat.le_of_eq hp.symm, by simp [hlength], ?_⟩
    intro x hx
    rw [List.zip_map_left] at hx
    obtain ⟨y, hy, rfl⟩ := List.mem_map.mp hx
    exact hcells y hy

theorem answer_cells {p : QueryEntry} {cells : List (QueryCell × Option Reader.Buffer)}
    {attributes : List (Typed (List UInt8))} (hv : o.value? p.type = some (.nested attributes))
    (hp : p.length.toNat = attributes.length * entrySize) :
    (o.answer (Reader.bind p (.nested cells))).cells =
      QueryCell.writeAll (cells.map Reader.Slot.bindCell)
        (attributes.map StoredValue.cellWrite) := by
  have hw : o.writes p.type = (StoredValue.nested attributes).entryWrite := by rw [writes, hv]
  have hcount : p.length.toNat / entrySize = attributes.length := by
    rw [hp]
    exact Nat.mul_div_cancel attributes.length (by decide)
  show ((Reader.bind p (.nested cells)).write (o.writes p.type)).cells = _
  rw [hw]
  cases cells with
  | nil => simp [Reader.bind, Reader.Slot.storage, QueryEntry.write, QueryEntry.cells,
      QueryCell.writeAll]
  | cons cell cells =>
    simp only [Reader.bind, Reader.Slot.storage, QueryEntry.write, QueryEntry.cells,
      StoredValue.entryWrite, List.isEmpty_cons, Bool.false_eq_true, if_false, hcount]
    rw [List.take_of_length_le (by rw [List.length_map])]

theorem writeAll_cellWrites {cells : List QueryCell} {attributes : List (Typed (List UInt8))}
    (h : cells.length = attributes.length) :
    List.Forall₂ (fun c a => c.type = a.type ∧ c.length = .ofNat a.value.length)
      (QueryCell.writeAll cells (attributes.map StoredValue.cellWrite)) attributes := by
  induction cells generalizing attributes with
  | nil =>
    rw [List.length_eq_zero_iff.mp h.symm]
    exact .nil
  | cons c cells ih =>
    cases attributes with
    | nil => cases h
    | cons a attributes => exact .cons ⟨rfl, rfl⟩ (ih (Nat.succ.inj h))

theorem take_overwrite {buffer : Reader.Buffer} {length : Word} {v : List UInt8}
    (hsized : buffer.Sized length) (hv : length.toNat = v.length) :
    ((buffer.pointer.map (overwrite · (v.take length.toNat))).getD []).take v.length = v := by
  rw [hv, List.take_length]
  cases hpointer : buffer.pointer with
  | none =>
    have hzero : v.length = 0 := by
      unfold Reader.Buffer.pointer at hpointer
      split at hpointer
      · next h => rw [← hv, ← hsized.1, h]
      · cases hpointer
    rw [List.length_eq_zero_iff.mp hzero]
    rfl
  | some space =>
    have hroom : v.length ≤ space.length := hv ▸ hsized.covers space hpointer
    simp only [Option.map_some, Option.getD_some, overwrite, List.take_of_length_le hroom,
      List.take_left]

/-! ### Values -/

/-- An entry and its storage, when the module has answered as the object says. -/
abbrev Ready (o : StoredObject) : QueryEntry → Reader.Slot → Prop :=
  Reader.Slot.Ready fun e q => q = o.answer e

theorem asked_nested {p : QueryEntry} {cells : List (QueryCell × Option Reader.Buffer)}
    {attributes : List (Typed (List UInt8))} (hp : p.length = o.reported p.type)
    (hv : o.value? p.type = some (.nested attributes))
    (hheld : Affords (StoredValue.nested attributes).demands) (h : o.Ready p (.nested cells))
    (hlength : cells.length = attributes.length) :
    List.Forall₂ (fun c a => c.1.type = a.type ∧ c.1.length = .ofNat a.value.length)
      cells attributes := by
  by_cases hnil : attributes = []
  · subst hnil
    rw [List.length_eq_zero_iff.mp hlength]
    exact .nil
  · have hlen : p.length.toNat = attributes.length * entrySize := by
      rw [hp]
      exact toNat_reported hv hheld
    have hhas : p.HasCells := by
      refine ⟨h.fits.1, kind_of_nested hv, ?_⟩
      rw [hlen]
      exact Nat.le_mul_of_pos_left _ (List.length_pos_iff.mpr hnil)
    obtain ⟨blank, q, hblank, rfl, hasked⟩ := h.probed hhas
    obtain ⟨blanks, rfl, hblanks⟩ := slot_of_nested hp hv hheld hblank
    have hnested := writeAll_cellWrites
      (show (blanks.map Reader.Slot.bindCell).length = _ by rw [List.length_map, hblanks])
    rw [← answer_cells hv hlen, ← hasked] at hnested
    exact List.forall₂_map_left_iff.mp hnested

theorem ready_holds {p : QueryEntry} {slot : Reader.Slot} {v : StoredValue}
    (hp : p.length = o.reported p.type) (hv : o.value? p.type = some v) (hheld : Affords v.demands)
    (h : o.Ready p slot) : (Reader.bind p slot).Holds v := by
  cases v with
  | bytes b =>
    obtain ⟨buffer, rfl, hsized⟩ := slot_of_bytes hp hv hheld h.fits
    exact scalar_holds hsized (by rw [hp]; exact toNat_reported hv hheld)
  | nested attributes =>
    obtain ⟨cells, rfl, hlength⟩ := slot_of_nested hp hv hheld h.fits
    refine nested_holds hlength (by rw [hp]; exact toNat_reported hv hheld) ?_
    intro x hx space hspace
    have hx' := List.forall₂_zip (asked_nested hp hv hheld h hlength) hx
    have hlen : x.1.1.length.toNat = x.2.value.length := by
      rw [hx'.2]
      apply toNat_ofNat_of_le_maximum
      exact Reader.Buffer.length_le (StoredValue.buffer_met hheld x.2 (List.of_mem_zip hx).2)
    obtain ⟨buffer, hb, hpointer⟩ := Option.bind_eq_some_iff.mp hspace
    have hsized := h.fits.2.2.2 x.1 (List.of_mem_zip hx).1 buffer hb
    show x.2.value.length ≤ x.1.1.length.toNat ∧ _
    rw [← hlen]
    exact ⟨Nat.le_refl _, hsized.covers space hpointer⟩

theorem nestedAttribute_eq {encoding : Encoding} {cell : QueryCell × Option Reader.Buffer}
    {a : Typed (List UInt8)} (hlength : cell.1.length = .ofNat a.value.length)
    (hle : a.value.length ≤ maximum) (hbuffer : ∃ b, cell.2 = some b)
    (hsized : ∀ b, cell.2 = some b → b.Sized cell.1.length) :
    Reader.nestedAttribute encoding
      (cell.1, (Reader.Slot.bindCell cell).write (StoredValue.cellWrite a)) =
        StoredValue.decodeNested encoding a := by
  obtain ⟨b, hb⟩ := hbuffer
  have hlen : cell.1.length.toNat = a.value.length := by
    rw [hlength]
    exact toNat_ofNat_of_le_maximum hle
  have htake := take_overwrite (hsized b hb) hlen
  have hbytes : ((Reader.Slot.bindCell cell).write (StoredValue.cellWrite a)).bytes.take
      a.value.length = a.value := by
    simpa [QueryCell.bytes, QueryCell.write, Reader.Slot.bindCell, hb, StoredValue.cellWrite]
      using htake
  have hfinal : ((Reader.Slot.bindCell cell).write (StoredValue.cellWrite a)).length =
      .ofNat a.value.length := rfl
  have htype : ((Reader.Slot.bindCell cell).write (StoredValue.cellWrite a)).type = a.type := rfl
  simp only [Reader.nestedAttribute, Reader.cellValue, hfinal, ofNat_ne_unavailable hle, if_false,
    hlen, toNat_ofNat_of_le_maximum hle, Nat.min_self, hbytes, htype]
  rfl

theorem nestedAttributes_forall₂ (encoding : Encoding)
    {cells : List (QueryCell × Option Reader.Buffer)} {attributes : List (Typed (List UInt8))}
    (hcells : List.Forall₂ (fun c a => c.1.type = a.type ∧ c.1.length = .ofNat a.value.length)
      cells attributes) (hheld : ∀ a ∈ attributes, (Reader.Buffer.demand a.value.length).Met)
    (hstocked : (Reader.Slot.nested cells).Stocked)
    (hsized : ∀ c ∈ cells, ∀ b, c.2 = some b → b.Sized c.1.length) :
    List.Forall₂
      (fun c a => Reader.nestedAttribute encoding c = StoredValue.decodeNested encoding a)
      ((cells.map Prod.fst).zip (QueryCell.writeAll (cells.map Reader.Slot.bindCell)
        (attributes.map StoredValue.cellWrite))) attributes := by
  induction hcells with
  | nil => exact .nil
  | @cons c a cells attributes hc _ ih =>
    have ha := Reader.Buffer.length_le (hheld a List.mem_cons_self)
    have hknown : c.1.length ≠ unavailable := by
      rw [hc.2]
      exact ofNat_ne_unavailable ha
    refine .cons ?_ (ih (fun a' h' => hheld a' (List.mem_cons_of_mem _ h'))
      (fun c' h' => hstocked c' (List.mem_cons_of_mem _ h'))
      fun c' h' => hsized c' (List.mem_cons_of_mem _ h'))
    exact nestedAttribute_eq hc.2 ha (hstocked c List.mem_cons_self hknown)
      (hsized c List.mem_cons_self)

theorem filled_bytes {p : QueryEntry} {buffer : Reader.Buffer} {b : List UInt8}
    (hv : o.value? p.type = some (.bytes b)) (hsized : buffer.Sized p.length)
    (hlen : p.length.toNat = b.length) :
    (o.answer (Reader.bind p (.scalar buffer))).bytes.take b.length = b := by
  have hw : o.writes p.type = (StoredValue.bytes b).entryWrite := by rw [writes, hv]
  have hbytes : ((Reader.bind p (.scalar buffer)).write (o.writes p.type)).bytes =
      (buffer.pointer.map (overwrite · (b.take p.length.toNat))).getD [] := by
    rw [hw]
    cases hpointer : buffer.pointer <;>
      simp [Reader.bind, Reader.Slot.storage, hpointer, QueryEntry.write, QueryEntry.bytes,
        StoredValue.entryWrite]
  show ((Reader.bind p (.scalar buffer)).write (o.writes p.type)).bytes.take b.length = b
  rw [hbytes]
  exact take_overwrite hsized hlen

theorem filled_nested (encoding : Encoding) {p : QueryEntry}
    {cells : List (QueryCell × Option Reader.Buffer)} {attributes : List (Typed (List UInt8))}
    (hp : p.length = o.reported p.type) (hv : o.value? p.type = some (.nested attributes))
    (hheld : Affords (StoredValue.nested attributes).demands) (h : o.Ready p (.nested cells))
    (hlength : cells.length = attributes.length) :
    List.Forall₂
      (fun c a => Reader.nestedAttribute encoding c = StoredValue.decodeNested encoding a)
      (Reader.Answers.mk p (cells.map Prod.fst) (o.answer (Reader.bind p (.nested cells)))).nested
      attributes := by
  have hlen : p.length.toNat = attributes.length * entrySize := by
    rw [hp]
    exact toNat_reported hv hheld
  have hfinal : (o.answer (Reader.bind p (.nested cells))).length = p.length := by
    rw [answer_length, hp]
    rfl
  have hcount : p.length.toNat / entrySize = attributes.length := by
    rw [hlen]
    exact Nat.mul_div_cancel attributes.length (by decide)
  have hnested := nestedAttributes_forall₂ encoding (asked_nested hp hv hheld h hlength)
    (StoredValue.buffer_met hheld) h.stocked h.fits.2.2.2
  rw [Reader.Answers.nested, Reader.Answers.nestedCount, hfinal, hcount, Nat.min_self,
    answer_cells hv hlen, List.take_of_length_le (Nat.le_of_eq hnested.length_eq)]
  exact hnested

/-- An attribute that the module has answered about as the object says has the value of the
object. -/
theorem value_eq (encoding : Encoding) {p : QueryEntry} {slot : Reader.Slot}
    (hp : p.length = o.reported p.type) (hheld : ∀ v, o.value? p.type = some v → Affords v.demands)
    (h : o.Ready p slot) :
    (Reader.Answers.mk p slot.asked (o.answer (Reader.bind p slot))).value encoding =
      o.decode encoding p.type := by
  have hfinal : (o.answer (Reader.bind p slot)).length = p.length := by
    rw [answer_length, hp]
    rfl
  cases hv : o.value? p.type with
  | none =>
    have hu := hp.trans (reported_eq_unavailable hv)
    simp [Reader.Answers.value, Reader.Answers.hidden, hu, decode, hv]
  | some v =>
    have hheld := hheld v hv
    have hknown : p.length ≠ unavailable := by
      rw [hp]
      exact reported_ne_unavailable hv hheld
    have hlen : p.length.toNat = v.length := by
      rw [hp]
      exact toNat_reported hv hheld
    have hshown :
        (Reader.Answers.mk p slot.asked (o.answer (Reader.bind p slot))).hidden = false := by
      simp only [Reader.Answers.hidden, hfinal, beq_eq_false_iff_ne.mpr hknown, Bool.or_self]
    rw [Reader.Answers.value, hshown, if_neg Bool.false_ne_true, decode, hv]
    cases v with
    | bytes b =>
      obtain ⟨buffer, rfl, hsized⟩ := slot_of_bytes hp hv hheld h.fits
      rw [if_neg (kind_of_bytes hv)]
      simp only [hfinal, Nat.min_self]
      rw [hlen, StoredValue.length, filled_bytes hv hsized hlen]
      rfl
    | nested attributes =>
      obtain ⟨cells, rfl, hlength⟩ := slot_of_nested hp hv hheld h.fits
      have hnested := filled_nested encoding hp hv hheld h hlength
      have hcount : (Reader.Answers.mk p (Reader.Slot.nested cells).asked
          (o.answer (Reader.bind p (.nested cells)))).nestedCount = attributes.length := by
        rw [Reader.Answers.nestedCount, hfinal, Nat.min_self, hlen]
        exact Nat.mul_div_cancel attributes.length (by decide)
      rw [if_pos (kind_of_nested hv), hcount, Reader.Slot.asked, mapM_eq_of_forall₂ hnested]
      rfl

theorem hidden_eq {p : QueryEntry} {slot : Reader.Slot} (hp : p.length = o.reported p.type)
    (hheld : ∀ v, o.value? p.type = some v → Affords v.demands) :
    (Reader.Answers.mk p slot.asked (o.answer (Reader.bind p slot))).hidden =
      (o.value? p.type).isNone := by
  have hfinal : (o.answer (Reader.bind p slot)).length = p.length := by
    rw [answer_length, hp]
    rfl
  rw [Reader.Answers.hidden, hfinal, Bool.or_self, hp]
  cases hv : o.value? p.type with
  | none => simp [reported_eq_unavailable hv]
  | some v => exact beq_eq_false_iff_ne.mpr (reported_ne_unavailable hv (hheld v hv))

/-! ### Runs -/

/-- The module has answered every query that offers the room as the object says. -/
def Served (o : StoredObject) (made : List Reader.QueryExchange) : Prop :=
  ∀ x ∈ made, o.Offered x.request →
    Reader.after x = x.request.map o.answer ∧ x.reply.status = o.status x.request

theorem Conforms.served {call : Reader.Callee σ} (hc : o.Conforms call) {s s' : σ}
    {made : List Reader.QueryExchange} (h : Calls call s made s') : o.Served made := by
  intro x hx hoffered
  obtain ⟨state, hreply⟩ := h.reply_eq hx
  rw [Reader.after, ← hreply]
  exact ⟨hc.entries x.request state hoffered, hc.status x.request state hoffered⟩

theorem tolerated_status (o : StoredObject) (query : List QueryEntry) :
    Reader.tolerated (o.status query) = true := by
  unfold status
  split <;> decide

/-- An entry that has been probed: its length is the one of the object, and the host can hold its
value. -/
def Probed [Allocator] (o : StoredObject) (p : QueryEntry) : Prop :=
  p.length = o.reported p.type ∧ ∀ v, o.value? p.type = some v → Affords v.demands

theorem offered_probe (o : StoredObject) (template : Template) :
    o.Offered (Reader.probeQuery template) := by
  intro e he v _
  obtain ⟨a, -, rfl⟩ := List.mem_map.mp he
  cases v <;> exact .inl rfl

theorem probed_of_mem {template : Template} {probe : Reader.QueryExchange}
    (hroom : o.Affordable template) (hprobe : probe.request = Reader.probeQuery template)
    (hafter : Reader.after probe = probe.request.map o.answer) {p : QueryEntry}
    (hp : p ∈ Reader.after probe) : o.Probed p := by
  rw [hafter, hprobe, Reader.probeQuery, List.map_map] at hp
  obtain ⟨a, ha, rfl⟩ := List.mem_map.mp hp
  exact ⟨answer_length o _, hroom.values a ha⟩

theorem Probed.affords {p : QueryEntry} (hp : o.Probed p) : Affords p.demands := by
  unfold QueryEntry.demands
  cases hv : o.value? p.type with
  | none =>
    rw [if_pos (hp.1.trans (reported_eq_unavailable hv))]
    exact affords_nil
  | some v =>
    have hheld := hp.2 v hv
    have hlen : p.length.toNat = v.length := by
      rw [hp.1]
      exact toNat_reported hv hheld
    rw [if_neg (hp.1 ▸ reported_ne_unavailable hv hheld), hlen]
    cases v with
    | bytes b =>
      rw [if_neg (kind_of_bytes hv)]
      exact hheld
    | nested attributes =>
      have hcount : (StoredValue.nested attributes).length / entrySize = attributes.length :=
        Nat.mul_div_cancel attributes.length (by decide)
      rw [if_pos (kind_of_nested hv), hcount]
      obtain ⟨hentries, hrest⟩ := affords_cons.mp hheld
      exact affords_cons.mpr ⟨hentries, affords_cons.mpr ⟨(affords_cons.mp hrest).1, affords_nil⟩⟩

theorem Probed.hasCells_iff {p : QueryEntry} (hp : o.Probed p) :
    p.HasCells ↔ o.hasNested p.type = true := by
  unfold hasNested
  cases hv : o.value? p.type with
  | none =>
    refine iff_of_false (fun hcells => hcells.1 ?_) nofun
    exact hp.1.trans (reported_eq_unavailable hv)
  | some v =>
    have hheld := hp.2 v hv
    cases v with
    | bytes b => exact iff_of_false (fun hcells => kind_of_bytes hv hcells.2.1) nofun
    | nested attributes =>
      have hlen : p.length.toNat = attributes.length * entrySize := by
        rw [hp.1]
        exact toNat_reported hv hheld
      have hknown : p.length ≠ unavailable := hp.1 ▸ reported_ne_unavailable hv hheld
      cases attributes with
      | nil => simp [QueryEntry.HasCells, StoredValue.hasNested, hlen, entrySize]
      | cons a attributes =>
        have hle : entrySize ≤ (a :: attributes).length * entrySize :=
          Nat.le_mul_of_pos_left _ (Nat.succ_pos _)
        exact iff_of_true ⟨hknown, kind_of_nested hv, hlen ▸ hle⟩ rfl

theorem Probed.nested_of_mem_arrays {entries : List QueryEntry} {slots : List Reader.Slot}
    (hs : List.Forall₂ (fun p slot => Reader.Slot.allocate p = .ok slot) entries slots)
    {e : QueryEntry × Reader.Slot} (he : e ∈ Reader.arrays entries slots) (hp : o.Probed e.1) :
    ∃ attributes cells, o.value? e.1.type = some (.nested attributes) ∧
      e.2 = .nested cells ∧ cells.length = attributes.length ∧ ∀ c ∈ cells, c.2 = none := by
  obtain ⟨hzip, harray⟩ := List.mem_filter.mp he
  have hallocate := List.forall₂_zip hs hzip
  obtain ⟨hfits, hhas⟩ := Reader.Slot.of_allocate hallocate
  obtain ⟨hknown, hk, -⟩ := hhas.mp harray
  cases hv : o.value? e.1.type with
  | none => exact absurd (hp.1.trans (reported_eq_unavailable hv)) hknown
  | some v =>
    cases v with
    | bytes b => exact absurd hk (kind_of_bytes hv)
    | nested attributes =>
      obtain ⟨cells, hslot, hlength⟩ := slot_of_nested hp.1 hv (hp.2 _ hv) hfits
      have hblank := Reader.Slot.blank_of_allocate hallocate
      rw [hslot] at hblank
      exact ⟨attributes, cells, rfl, hslot, hlength, hblank⟩

theorem offered_arrays {entries : List QueryEntry} {slots : List Reader.Slot}
    (hs : List.Forall₂ (fun p slot => Reader.Slot.allocate p = .ok slot) entries slots)
    (hprobed : ∀ p ∈ entries, o.Probed p) :
    o.Offered (Reader.lentQuery (Reader.arrays entries slots)) := by
  intro e he v hv
  obtain ⟨⟨p, slot⟩, hmem, rfl⟩ := List.mem_map.mp he
  have hp := hprobed p (List.of_mem_zip (List.mem_of_mem_filter hmem)).1
  obtain ⟨attributes, cells, hnested, rfl, hlength, hblank⟩ := hp.nested_of_mem_arrays hs hmem
  have hsame : v = .nested attributes := Option.some.inj (hv.symm.trans hnested)
  subst hsame
  refine nested_holds hlength (by rw [hp.1]; exact toNat_reported hv (hp.2 _ hv)) ?_
  intro x hx space hspace
  simp [Reader.Slot.bindCell, hblank x.1 (List.of_mem_zip hx).1] at hspace

theorem cells_affords {entries : List QueryEntry} {slots : List Reader.Slot}
    (hs : List.Forall₂ (fun p slot => Reader.Slot.allocate p = .ok slot) entries slots)
    (hprobed : ∀ p ∈ entries, o.Probed p) {e : QueryEntry}
    (he : e ∈ (Reader.lentQuery (Reader.arrays entries slots)).map o.answer) {c : QueryCell}
    (hc : c ∈ e.cells) : Affords c.demands := by
  obtain ⟨_, hlent, rfl⟩ := List.mem_map.mp he
  obtain ⟨⟨p, slot⟩, hmem, rfl⟩ := List.mem_map.mp hlent
  have hp := hprobed p (List.of_mem_zip (List.mem_of_mem_filter hmem)).1
  obtain ⟨attributes, cells, hv, rfl, hlength, -⟩ := hp.nested_of_mem_arrays hs hmem
  have hheld := hp.2 _ hv
  rw [answer_cells hv (by rw [hp.1]; exact toNat_reported hv hheld)] at hc
  have hcells := writeAll_cellWrites
    (show (cells.map Reader.Slot.bindCell).length = _ by rw [List.length_map, hlength])
  obtain ⟨a, ha, -, hlen⟩ := forall₂_mem_right hcells.flip hc
  have hmet := StoredValue.buffer_met hheld a ha
  have hle := Reader.Buffer.length_le hmet
  unfold QueryCell.demands
  rw [hlen, if_neg (ofNat_ne_unavailable hle), toNat_ofNat_of_le_maximum hle]
  exact affords_cons.mpr ⟨hmet, affords_nil⟩

/-- The answer to the first probe calls for the memory of the object. -/
theorem affords_probed {template : Template} {probe : Reader.QueryExchange}
    (hroom : o.Affordable template) (hprobe : probe.request = Reader.probeQuery template)
    (hafter : Reader.after probe = probe.request.map o.answer) :
    Affords (Reader.probedDemands (Reader.after probe)) := by
  have hprobed {p : QueryEntry} (hp : p ∈ Reader.after probe) : o.Probed p :=
    probed_of_mem hroom hprobe hafter hp
  have hcount : Reader.arrayCount (Reader.after probe) =
      template.countP fun a => o.hasNested a.type := by
    rw [hprobe, Reader.probeQuery, List.map_map] at hafter
    rw [Reader.arrayCount, hafter, List.countP_map]
    refine List.countP_congr fun a ha => ?_
    rw [hafter] at hprobed
    exact decide_eq_true_iff.trans (hprobed (List.mem_map_of_mem ha)).hasCells_iff
  have hlength : (Reader.after probe).length = template.length := by
    rw [hafter, hprobe, List.length_map, Reader.probeQuery, List.length_map]
  rw [Reader.probedDemands, Reader.slotDemands, affords_append, affords_cons, hlength, hcount]
  exact ⟨⟨hroom.slots, affords_flatMap.mpr fun p hp => (hprobed hp).affords⟩, hroom.arrays⟩

theorem Served.readies {template : Template} {probe : Reader.QueryExchange}
    {second rest : List Reader.QueryExchange} {ready : List Reader.Slot}
    (h : o.Served (probe :: (second ++ rest))) (hroom : o.Affordable template)
    (hready : Reader.Readied template probe second ready) :
    (∀ p ∈ Reader.after probe, o.Probed p) ∧
      Reader.Readies (fun e q => q = o.answer e) (Reader.after probe)
        (second.flatMap Reader.after) ready := by
  have hoffered : o.Offered probe.request := by
    rw [hready.request]
    exact offered_probe o template
  have hprobed : ∀ p ∈ Reader.after probe, o.Probed p := fun p hp =>
    probed_of_mem hroom hready.request (h probe List.mem_cons_self hoffered).1 hp
  refine ⟨hprobed, hready.readies ?_ ?_⟩
  · rintro e q rfl
    exact answer_written o e
  · intro x hx
    obtain ⟨slots, hslots, hprovided⟩ := hready.provided
    have hx' : x.request = Reader.lentQuery (Reader.arrays (Reader.after probe) slots) := by
      generalize Except.ok ready = outcome at hprovided
      cases hprovided with
      | plain => cases hx
      | refused _ hrequest _ | answered _ hrequest _ =>
        rw [List.mem_singleton.mp hx]
        exact hrequest
    have hoffered := offered_arrays (Reader.allocateSlots_eq_ok_iff.mp hslots).2.1 hprobed
    rw [← hx'] at hoffered
    have hmem : x ∈ probe :: (second ++ rest) :=
      List.mem_cons_of_mem _ (List.mem_append_left _ hx)
    rw [(h x hmem hoffered).1, List.forall₂_map_right_iff]
    exact List.forall₂_same.mpr fun _ _ => rfl

theorem Served.offered_fill {template : Template} {probe fill : Reader.QueryExchange}
    {second : List Reader.QueryExchange} {ready : List Reader.Slot}
    (h : o.Served (probe :: (second ++ [fill]))) (hroom : o.Affordable template)
    (hready : Reader.Readied template probe second ready)
    (hfill : fill.request = Reader.lentQuery ((Reader.after probe).zip ready)) :
    o.Offered fill.request := by
  obtain ⟨hprobed, hreadies⟩ := h.readies hroom hready
  rw [hfill]
  intro e he v hv
  obtain ⟨⟨p, slot⟩, hmem, rfl⟩ := List.mem_map.mp he
  have hp := hprobed p (List.of_mem_zip hmem).1
  exact ready_holds hp.1 hv (hp.2 v hv) (hreadies.ready hmem)

/-- A module that serves an object never stops a fetch. -/
theorem Served.unhindered {template : Template} {made : List Reader.QueryExchange}
    (h : o.Served made) (hroom : o.Affordable template) : Reader.Unhindered template made where
  entries := hroom.entries
  probe := by
    rintro probe rest rfl hrequest
    have hoffered := offered_probe o template
    rw [← hrequest] at hoffered
    obtain ⟨hafter, hstatus⟩ := h probe List.mem_cons_self hoffered
    rw [hstatus]
    exact ⟨tolerated_status o _, affords_probed hroom hrequest hafter⟩
  second := by
    rintro probe x rest slots rfl hprobe hslots hrequest
    have hs := (Reader.allocateSlots_eq_ok_iff.mp hslots).2.1
    have hoffered := offered_probe o template
    rw [← hprobe.request] at hoffered
    have hafter := (h probe List.mem_cons_self hoffered).1
    have hprobed : ∀ p ∈ Reader.after probe, o.Probed p := fun p hp =>
      probed_of_mem hroom hprobe.request hafter hp
    have hlent := offered_arrays hs hprobed
    rw [← hrequest] at hlent
    obtain ⟨hafter, hstatus⟩ := h x (List.mem_cons_of_mem _ List.mem_cons_self) hlent
    rw [hstatus, hafter, hrequest]
    exact ⟨tolerated_status o _, fun e he c hc => cells_affords hs hprobed he hc⟩
  fill := by
    rintro probe fill second ready rfl hready hfill
    have hmem : fill ∈ probe :: (second ++ [fill]) := by simp
    rw [(h fill hmem (h.offered_fill hroom hready hfill)).2]
    exact tolerated_status o _

/-- Every attribute of a template is answered with the value of the object, and is hidden when the
object lacks it. -/
theorem Served.answers_forall₂ {template : Template} {probe fill : Reader.QueryExchange}
    {second : List Reader.QueryExchange} {ready : List Reader.Slot}
    (h : o.Served (probe :: (second ++ [fill]))) (hroom : o.Affordable template)
    (hready : Reader.Readied template probe second ready)
    (hfill : fill.request = Reader.lentQuery ((Reader.after probe).zip ready))
    (encoding : Encoding) :
    List.Forall₂ (fun x a => x.value encoding = o.decode encoding a.type ∧
        x.hidden = (o.value? a.type).isNone)
      (Reader.answers (Reader.after probe) (second.flatMap Reader.after) (Reader.after fill))
      template := by
  obtain ⟨hprobed, hreadies⟩ := h.readies hroom hready
  have hmem : fill ∈ probe :: (second ++ [fill]) := by simp
  have hfilled : List.Forall₂ (fun e f => f = o.answer e)
      (Reader.lentQuery ((Reader.after probe).zip ready)) (Reader.after fill) := by
    rw [(h fill hmem (h.offered_fill hroom hready hfill)).1, ← hfill, List.forall₂_map_right_iff]
    exact List.forall₂_same.mpr fun _ _ => rfl
  have hoffered := offered_probe o template
  rw [← hready.request] at hoffered
  have hafter := (h probe List.mem_cons_self hoffered).1
  rw [hready.request, Reader.probeQuery, List.map_map] at hafter
  have hsame := (Reader.answers_probed hreadies hfilled).trans hafter
  rw [← List.forall₂_eq_eq_eq, List.forall₂_map_left_iff, List.forall₂_map_right_iff] at hsame
  refine ((List.forall₂_and_left _ _).mpr ⟨fun x hx => hx, hsame⟩).imp ?_
  rintro ⟨p, asked, filled⟩ a ⟨hx, hpa⟩
  obtain ⟨slot, hslot, (rfl : slot.asked = asked),
    (rfl : filled = o.answer (Reader.bind p slot))⟩ := Reader.mem_answers hreadies hfilled hx
  have hp := hprobed p (List.of_mem_zip hslot).1
  have htype : p.type = a.type := congrArg QueryEntry.type hpa
  rw [← htype]
  exact ⟨value_eq encoding hp.1 hp.2 (hreadies.ready hslot), hidden_eq hp.1 hp.2⟩

theorem Served.verdict_eq {template : Template} {probe fill : Reader.QueryExchange}
    {second : List Reader.QueryExchange} {ready : List Reader.Slot}
    (h : o.Served (probe :: (second ++ [fill]))) (hroom : o.Affordable template)
    (hready : Reader.Readied template probe second ready)
    (hfill : fill.request = Reader.lentQuery ((Reader.after probe).zip ready)) :
    Reader.verdict template
      (Reader.answers (Reader.after probe) (second.flatMap Reader.after) (Reader.after fill))
      fill.reply.status = o.verdict template := by
  have hanswers := h.answers_forall₂ hroom hready hfill .utf8
  have hfirst := findIdx?_eq_of_forall₂ (hanswers.imp fun _ _ hx => hx.2)
  unfold Reader.verdict Reader.firstHidden verdict
  rw [hfirst]
  cases hfind : template.findIdx? fun a => (o.value? a.type).isNone with
  | some i => simp only [Option.map_some, Nat.zero_add]
  | none =>
    have hmem : fill ∈ probe :: (second ++ [fill]) := by simp
    have hall : fill.request.all (fun e => (o.value? e.type).isSome) = true := by
      rw [List.all_eq_true]
      intro e he
      rw [hfill] at he
      obtain ⟨⟨p, slot⟩, hzip, rfl⟩ := List.mem_map.mp he
      have hp := (List.of_mem_zip hzip).1
      obtain ⟨e, hasked, w, rfl⟩ := forall₂_mem_right (Reader.after_written probe) hp
      rw [hready.request] at hasked
      obtain ⟨a, ha, rfl⟩ := List.mem_map.mp hasked
      show (o.value? a.type).isSome = true
      simpa [Option.isSome_iff_ne_none] using List.findIdx?_eq_none_iff.mp hfind a ha
    have hstatus : fill.reply.status = Status.ok := by
      rw [(h fill hmem (h.offered_fill hroom hready hfill)).2, status, if_pos hall]
    simp only [Option.map_none, hstatus, if_true]

/-- What a read comes to when all values of the template can be decoded. -/
theorem Conforms.read_eq {call : Reader.Callee σ} (hc : o.Conforms call) {encoding : Encoding}
    {template : Template} (hroom : o.Affordable template) {values : List Value}
    (hvalues : template.mapM (fun a => o.decode encoding a.type) = .ok values) (s : σ) :
    ((Reader.read encoding template call).run s).1 =
      (o.verdict template, Reader.withValues template values) := by
  by_cases hne : template = []
  · subst hne
    rfl
  obtain ⟨outcome, s', hfetched, hcalls, hread⟩ := Reader.read_fetched encoding hne call s
  have hserved := hc.served hcalls
  obtain ⟨probe, second, fill, ready, hmade, hready, hfill, rfl⟩ :=
    hfetched.completed (hserved.unhindered hroom)
  rw [hmade] at hserved
  have hanswers := hserved.answers_forall₂ hroom hready hfill encoding
  rw [← mapM_eq_of_forall₂ (hanswers.imp fun _ _ hx => hx.1)] at hvalues
  rw [hread, Reader.conclude_eq hready hfill hvalues, hserved.verdict_eq hroom hready hfill]

/-- A read from a module that serves an object returns the decoded values of the object, absent for
an attribute that it lacks, and names the first of these as the error. -/
theorem read_of_conforms {call : Reader.Callee σ} (hc : o.Conforms call)
    (hwhole : o.WholeMechanisms) (encoding : Encoding) (template : Template)
    (hroom : o.Affordable template) (hdecoding : o.DecodingAffordable encoding template) (s : σ) :
    ∃ values, template.mapM (fun a => o.decode encoding a.type) = .ok values ∧
      ((Reader.read encoding template call).run s).1 =
        (o.verdict template, Reader.withValues template values) := by
  obtain ⟨values, hvalues⟩ :
      ∃ values, template.mapM (fun a => o.decode encoding a.type) = .ok values := by
    refine exists_mapM_eq_ok fun a ha => ?_
    unfold decode
    cases hv : o.value? a.type with
    | none => exact ⟨_, rfl⟩
    | some v =>
      exact StoredValue.exists_decode (hdecoding a ha v hv) (hwhole _ v hv)
  exact ⟨values, hvalues, hc.read_eq hroom hvalues s⟩

/-- The module that writes what the object says. -/
def module (o : StoredObject) : Reader.Callee Unit := fun query =>
  pure { status := o.status query, entries := query.map fun e => o.writes e.type }

/-- Every object is served by some module. -/
theorem module_conforms (o : StoredObject) : o.Conforms o.module where
  entries := by
    intro query s _
    have hwritten : ∀ query : List QueryEntry,
        QueryEntry.writeAll query (query.map fun e => o.writes e.type) = query.map o.answer := by
      intro query
      induction query with
      | nil => rfl
      | cons e query ih => rw [List.map_cons, QueryEntry.writeAll, ih, List.map_cons, answer]
    exact hwritten query
  status := fun _ _ _ => rfl

/-- The object with the values of a list, the first one for each type. -/
def ofList (values : List (Typed StoredValue))
    (h : ∀ e ∈ values, (Kind.of e.type = .templateArray ↔ e.value.isNested = true)) :
    StoredObject where
  value? := fun type => (values.find? fun e => e.type == type).map Typed.value
  isArray_iff := by
    intro type v hv
    obtain ⟨e, he, rfl⟩ := Option.map_eq_some_iff.mp hv
    have htype : e.type = type := by simpa using List.find?_some he
    rw [← htype]
    exact h e (List.mem_of_find?_eq_some he)

theorem value?_ofList {values : List (Typed StoredValue)}
    {h : ∀ e ∈ values, (Kind.of e.type = .templateArray ↔ e.value.isNested = true)}
    (hdistinct : (values.map Typed.type).Nodup) {e : Typed StoredValue} (he : e ∈ values) :
    (ofList values h).value? e.type = some e.value := by
  show (values.find? fun e' => e'.type == e.type).map Typed.value = some e.value
  clear h
  induction values with
  | nil => cases he
  | cons e' values ih =>
    obtain ⟨hfirst, hrest⟩ := List.nodup_cons.mp hdistinct
    rcases List.mem_cons.mp he with rfl | he
    · simp
    · have hne : (e'.type == e.type) = false := by
        refine beq_eq_false_iff_ne.mpr fun heq => hfirst ?_
        rw [heq]
        exact List.mem_map_of_mem he
      rw [List.find?_cons, hne]
      exact ih hrest he

theorem mem_of_ofList {values : List (Typed StoredValue)}
    {h : ∀ e ∈ values, (Kind.of e.type = .templateArray ↔ e.value.isNested = true)} {type : Word}
    {v : StoredValue} (hv : (ofList values h).value? type = some v) :
    (⟨type, v⟩ : Typed StoredValue) ∈ values := by
  obtain ⟨e, he, rfl⟩ := Option.map_eq_some_iff.mp hv
  have htype : e.type = type := by simpa using List.find?_some he
  rw [← htype]
  exact List.mem_of_find?_eq_some he

end StoredObject

namespace StoredObject

open Simulation

def wrappingKey : List (Typed StoredValue) :=
  [⟨0x0, .bytes [4, 0, 0, 0, 0, 0, 0, 0]⟩, ⟨0x40000600, .bytes [0x85, 0x10, 0, 0, 0, 0, 0, 0]⟩,
    ⟨0x40000211, .nested [⟨0x3, [0x61]⟩, ⟨0x162, [1]⟩, ⟨0x40000211, [7]⟩]⟩,
    ⟨0x40000212, .nested []⟩]

/-- A read of repeated, nested and missing attributes. -/
theorem read_wrappingKey :
    ((Reader.read .singleByte ([0x40000211, 0x0, 0x3, 0x40000212, 0x0, 0x40000600].map Typed.query)
      (ofList wrappingKey (by decide)).module).run ()).1 =
      (.error (.error (.attributeUnavailable 2 0x3)),
        [⟨0x40000211, .template [⟨0x3, .chars ['a']⟩, ⟨0x162, .bool true⟩,
          ⟨0x40000211, .bytes [7]⟩]⟩,
          ⟨0x0, .long 4⟩, ⟨0x3, .absent⟩, ⟨0x40000212, .template []⟩, ⟨0x0, .long 4⟩,
          ⟨0x40000600, .words [0x1085]⟩]) := by
  have hwhole : ∀ e ∈ wrappingKey, e.value.Whole e.type := by decide
  have hheld : ∀ e ∈ wrappingKey, Affords e.value.demands := by decide
  have hdecoding : ∀ e ∈ wrappingKey, Affords (e.value.decodeDemands .singleByte e.type) := by
    decide
  obtain ⟨values, hvalues, hread⟩ := read_of_conforms
    (module_conforms (ofList wrappingKey (by decide)))
    (fun _ _ hv => hwhole _ (mem_of_ofList hv)) .singleByte
    ([0x40000211, 0x0, 0x3, 0x40000212, 0x0, 0x40000600].map Typed.query)
    ⟨by decide, by decide, fun _ _ _ hv => hheld _ (mem_of_ofList hv), by decide⟩
    (fun _ _ _ hv => hdecoding _ (mem_of_ofList hv)) ()
  have hcodes : Word.listOfBytes [0x85, 0x10, 0, 0, 0, 0, 0, 0] = [0x1085] := by decide +kernel
  have hexpected : ([0x40000211, 0x0, 0x3, 0x40000212, 0x0, 0x40000600].map Typed.query).mapM
      (fun a => (ofList wrappingKey (by decide)).decode .singleByte a.type) =
      .ok [.template [⟨0x3, .chars ['a']⟩, ⟨0x162, .bool true⟩, ⟨0x40000211, .bytes [7]⟩],
        .long 4, .absent, .template [], .long 4, .words [0x1085]] := by
    rw [mapM_eq_ok_iff, ← hcodes]
    exact .cons rfl (.cons rfl (.cons rfl (.cons rfl (.cons rfl (.cons rfl .nil)))))
  rw [hread]
  cases hexpected.symm.trans hvalues
  rfl

end StoredObject

end Cryptoki
