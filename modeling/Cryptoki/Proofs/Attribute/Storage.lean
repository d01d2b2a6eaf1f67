import Cryptoki.Proofs.Attribute.Fetch
import Cryptoki.Proofs.Memory
import Cryptoki.Proofs.Word

/-! The storage that a fetch sets aside: what the module does to the entries that it is lent, and
`Slot.Fits`, which ties the storage of an attribute to the length that was probed for it. -/

namespace Cryptoki

open Memory

/-! ### What a module writes -/

namespace QueryCell

def bytes (c : QueryCell) : List UInt8 := c.buffer.getD []

theorem writeAll_forall₂ (cells : List QueryCell) (writes : List CellWrite) :
    List.Forall₂ (fun c c' => ∃ w, c' = c.write w) cells (writeAll cells writes) := by
  have unchanged (c : QueryCell) : c.write {} = c := by
    cases c with
    | mk type length buffer => cases buffer <;> simp [write, overwrite]
  induction cells generalizing writes with
  | nil => cases writes <;> exact .nil
  | cons c cells ih =>
    cases writes with
    | nil => exact List.forall₂_same.mpr fun c _ => ⟨{}, (unchanged c).symm⟩
    | cons w writes => exact .cons ⟨w, rfl⟩ (ih writes)

end QueryCell

namespace QueryEntry

/-- The bytes of the buffer behind the pointer. -/
def bytes (e : QueryEntry) : List UInt8 :=
  match e.storage with
  | .buffer bytes => bytes
  | _ => []

def cells (e : QueryEntry) : List QueryCell :=
  match e.storage with
  | .cells cells => cells
  | _ => []

theorem write_cells (e : QueryEntry) (w : EntryWrite) :
    ∃ writes, (e.write w).cells = QueryCell.writeAll e.cells writes := by
  unfold cells write
  cases e.storage with
  | null | buffer => exact ⟨[], rfl⟩
  | cells cells => exact ⟨_, rfl⟩

/-- The entry was probed as an array of at least one nested attribute. -/
def HasCells (e : QueryEntry) : Prop :=
  e.length ≠ unavailable ∧ Kind.of e.type = .templateArray ∧ entrySize ≤ e.length.toNat

instance : DecidablePred HasCells := fun _ => inferInstanceAs (Decidable (_ ∧ _ ∧ _))

/-- An entry as a module can leave it. -/
def Written (e e' : QueryEntry) : Prop := ∃ w, e' = e.write w

theorem writeAll_forall₂ (entries : List QueryEntry) (writes : List EntryWrite) :
    List.Forall₂ Written entries (writeAll entries writes) := by
  have unchanged (e : QueryEntry) : e.write {} = e := by
    cases e with
    | mk type length storage =>
      cases storage with
      | null => rfl
      | buffer bytes => simp [write, overwrite]
      | cells cells => cases cells <;> simp [write, QueryCell.writeAll]
  induction entries generalizing writes with
  | nil => cases writes <;> exact .nil
  | cons e entries ih =>
    cases writes with
    | nil => exact List.forall₂_same.mpr fun e _ => ⟨{}, (unchanged e).symm⟩
    | cons w writes => exact .cons ⟨w, rfl⟩ (ih writes)

end QueryEntry

namespace Reader

variable {allocator : Allocator}

/-! ### Storage of the probed length -/

/-- A buffer for as many bytes as a length field announces, in whole words. -/
def Buffer.Sized (b : Buffer) (length : Word) : Prop :=
  b.length = length.toNat ∧ b.bytes.length = wholeWords b.length

/-- The memory for a value of `length` bytes, in whole words. -/
def Buffer.demand (length : Nat) : Demand := .words ((length + (wordSize - 1)) / wordSize)

theorem Buffer.allocate_eq_ok_iff {n : Nat} {b : Buffer} : Buffer.allocate n = .ok b ↔
    (Buffer.demand n).Met ∧
      b = ⟨Word.listToBytes (List.replicate ((n + (wordSize - 1)) / wordSize) 0), n⟩ := by
  unfold Buffer.allocate
  simp only [bind_eq_ok_iff, pure_eq_ok_iff, Memory.allocateWords_eq_ok_iff, Buffer.demand]
  constructor
  · rintro ⟨_, ⟨h, rfl⟩, rfl⟩
    exact ⟨h, rfl⟩
  · rintro ⟨h, rfl⟩
    exact ⟨_, ⟨h, rfl⟩, rfl⟩

theorem Buffer.sized_of_allocate {length : Word} {b : Buffer}
    (h : Buffer.allocate length.toNat = .ok b) : b.Sized length := by
  obtain ⟨-, rfl⟩ := Buffer.allocate_eq_ok_iff.mp h
  exact ⟨rfl, by simp [wholeWords]⟩

theorem Buffer.Sized.covers {b : Buffer} {length : Word} (h : b.Sized length) :
    ∀ bytes ∈ b.pointer, length.toNat ≤ bytes.length := by
  intro bytes hbytes
  unfold Buffer.pointer at hbytes
  split at hbytes
  · cases hbytes
  · cases hbytes
    rw [h.2, ← h.1]
    exact le_wholeWords _

@[simp] theorem bind_scalar_cells (p : QueryEntry) (b : Buffer) :
    (bind p (.scalar b)).cells = [] := by
  cases h : b.pointer <;> simp [QueryEntry.cells, bind, Slot.storage, h]

@[simp] theorem bind_nested_cells (p : QueryEntry) (cells : List (QueryCell × Option Buffer)) :
    (bind p (.nested cells)).cells = cells.map Slot.bindCell := by
  cases cells <;> rfl

namespace Slot

/-- The storage of an attribute is of the kind and the size that were probed for it. -/
def Fits (p : QueryEntry) : Slot → Prop
  | .unavailable => p.length = Cryptoki.unavailable
  | .scalar b => p.length ≠ Cryptoki.unavailable ∧ Kind.of p.type ≠ .templateArray ∧
      b.Sized p.length
  | .nested cells => p.length ≠ Cryptoki.unavailable ∧ Kind.of p.type = .templateArray ∧
      cells.length = p.length.toNat / entrySize ∧
      ∀ c ∈ cells, ∀ b, c.2 = some b → b.Sized c.1.length

/-- The nested attributes as the second probe left them. -/
def asked : Slot → List QueryCell
  | nested cells => cells.map Prod.fst
  | _ => []

theorem asked_of_not_isArray {slot : Slot} (h : ¬slot.isArray = true) : slot.asked = [] := by
  cases slot with
  | unavailable | scalar => rfl
  | nested cells => simpa [isArray, asked] using h

theorem of_allocate {p : QueryEntry} {slot : Slot} (h : allocate p = .ok slot) :
    slot.Fits p ∧ (slot.isArray = true ↔ p.HasCells) := by
  unfold allocate at h
  split at h
  · next hu =>
    cases h
    exact ⟨hu, by simp [isArray, QueryEntry.HasCells, hu]⟩
  · next hu =>
    split at h
    · next hk =>
      simp only [bind_eq_ok_iff, exists_unit_iff, pure_eq_ok_iff] at h
      obtain ⟨-, -, rfl⟩ := h
      refine ⟨⟨hu, hk, List.length_replicate, fun c hc b hb => ?_⟩, ?_⟩
      · rw [List.eq_of_mem_replicate hc] at hb
        cases hb
      · simp [isArray, QueryEntry.HasCells, hu, hk, entrySize]
    · next hk =>
      simp only [bind_eq_ok_iff, pure_eq_ok_iff] at h
      obtain ⟨b, hb, rfl⟩ := h
      exact ⟨⟨hu, hk, Buffer.sized_of_allocate hb⟩,
        by simp [isArray, QueryEntry.HasCells, show Kind.of p.type ≠ .templateArray from hk]⟩

def Blank : Slot → Prop
  | nested cells => ∀ c ∈ cells, c.2 = none
  | _ => True

theorem blank_of_allocate {p : QueryEntry} {slot : Slot} (h : allocate p = .ok slot) :
    slot.Blank := by
  unfold allocate at h
  split at h
  · cases h
    trivial
  · split at h
    · simp only [bind_eq_ok_iff, exists_unit_iff, pure_eq_ok_iff] at h
      obtain ⟨-, -, rfl⟩ := h
      intro c hc
      rw [List.eq_of_mem_replicate hc]
    · simp only [bind_eq_ok_iff, pure_eq_ok_iff] at h
      obtain ⟨_, -, rfl⟩ := h
      trivial

/-- Every nested attribute that is not unavailable has a buffer. -/
def Stocked : Slot → Prop
  | nested cells => ∀ c ∈ cells, c.1.length ≠ Cryptoki.unavailable → ∃ b, c.2 = some b
  | _ => True

theorem allocateCell_eq_ok {c : QueryCell} {cell : QueryCell × Option Buffer}
    (h : allocateCell c = .ok cell) : cell.1 = c ∧ (∀ b, cell.2 = some b → b.Sized c.length) ∧
      (c.length ≠ Cryptoki.unavailable → ∃ b, cell.2 = some b) := by
  unfold allocateCell at h
  split at h
  · next hu =>
    cases h
    exact ⟨rfl, fun b hb => (nomatch hb), fun hne => absurd hu hne⟩
  · simp only [bind_eq_ok_iff, pure_eq_ok_iff] at h
    obtain ⟨b, hb, rfl⟩ := h
    refine ⟨rfl, fun b' hb' => ?_, fun _ => ⟨b, rfl⟩⟩
    cases hb'
    exact Buffer.sized_of_allocate hb

theorem of_allocateCells {p : QueryEntry} {slot ready : Slot} (hs : slot.Fits p)
    (ha : slot.isArray = true) (w : EntryWrite)
    (h : slot.allocateCells ((bind p slot).write w) = .ok ready) :
    ready.Fits p ∧ ready.asked = ((bind p slot).write w).cells ∧ ready.Stocked := by
  cases slot with
  | unavailable | scalar => simp [isArray] at ha
  | nested cells =>
    obtain ⟨hu, hk, hlength, -⟩ := hs
    have hne : cells.isEmpty = false := by simpa [isArray] using ha
    obtain ⟨q, hq⟩ : ∃ q, q = (bind p (nested cells)).write w := ⟨_, rfl⟩
    obtain ⟨writes, hwrites⟩ := QueryEntry.write_cells (bind p (nested cells)) w
    have hstorage : q.storage = .cells q.cells := by
      simp [hq, QueryEntry.write, QueryEntry.cells, bind, storage, hne]
    rw [← hq] at h hwrites ⊢
    simp only [allocateCells, hstorage, bind_eq_ok_iff, pure_eq_ok_iff, mapM_eq_ok_iff] at h
    obtain ⟨readied, hcells, rfl⟩ := h
    have hasked : readied.map Prod.fst = q.cells := by
      have := hcells.imp fun c cell h => (allocateCell_eq_ok h).1.symm
      rw [← List.forall₂_eq_eq_eq, List.forall₂_map_left_iff]
      exact this.flip.imp fun _ _ h => h.symm
    refine ⟨⟨hu, hk, ?_, ?_⟩, hasked, ?_⟩
    · have hsame := (QueryCell.writeAll_forall₂ (bind p (nested cells)).cells writes).length_eq
      rw [← hlength, ← hcells.length_eq, hwrites, ← hsame]
      simp [QueryEntry.cells, bind, storage, hne]
    · intro cell hcell
      obtain ⟨c, -, h⟩ := forall₂_mem_right hcells hcell
      obtain ⟨rfl, hsized, -⟩ := allocateCell_eq_ok h
      exact hsized
    · intro cell hcell
      obtain ⟨c, -, h⟩ := forall₂_mem_right hcells hcell
      obtain ⟨rfl, -, hstocked⟩ := allocateCell_eq_ok h
      exact hstocked

end Slot

theorem arrays_fit {entries : List QueryEntry} {slots : List Slot}
    (hs : List.Forall₂ (fun p slot => Slot.allocate p = .ok slot) entries slots)
    {e : QueryEntry × Slot} (he : e ∈ arrays entries slots) : e.2.Fits e.1 :=
  (Slot.of_allocate (List.forall₂_zip hs (List.mem_of_mem_filter he))).1

theorem hasCells_mem_arrays {entries : List QueryEntry} {slots : List Slot}
    (hs : List.Forall₂ (fun p slot => Slot.allocate p = .ok slot) entries slots)
    {p : QueryEntry} (hp : p ∈ entries) (hcells : p.HasCells) :
    ∃ slot, (p, slot) ∈ arrays entries slots := by
  induction hs with
  | nil => cases hp
  | @cons p' slot _ _ ha _ ih =>
    rcases List.mem_cons.mp hp with rfl | hp
    · refine ⟨slot, List.mem_filter.mpr ⟨List.mem_cons_self, ?_⟩⟩
      exact (Slot.of_allocate ha).2.mpr hcells
    · obtain ⟨slot', h⟩ := ih hp
      obtain ⟨hzip, harray⟩ := List.mem_filter.mp h
      exact ⟨slot', List.mem_filter.mpr ⟨List.mem_cons_of_mem _ hzip, harray⟩⟩

theorem arrays_eq_nil_iff {entries : List QueryEntry} {slots : List Slot}
    (hs : List.Forall₂ (fun p slot => Slot.allocate p = .ok slot) entries slots) :
    arrays entries slots = [] ↔ ¬∃ p ∈ entries, p.HasCells := by
  constructor
  · rintro hno ⟨p, hp, hcells⟩
    obtain ⟨slot, hslot⟩ := hasCells_mem_arrays hs hp hcells
    rw [hno] at hslot
    cases hslot
  · intro hno
    refine List.eq_nil_iff_forall_not_mem.mpr fun e he => hno ?_
    obtain ⟨hzip, harray⟩ := List.mem_filter.mp he
    exact ⟨e.1, (List.of_mem_zip hzip).1, (Slot.of_allocate (List.forall₂_zip hs hzip)).2.mp harray⟩

/-- Every entry has its storage after the second probe, in which the arrays take part in order.
`W` relates what is asked in that probe to what the module leaves. -/
inductive Readies (W : QueryEntry → QueryEntry → Prop) :
    (entries probed : List QueryEntry) → (ready : List Slot) → Prop
  | nil : Readies W [] [] []
  | plain {p : QueryEntry} {entries probed : List QueryEntry} {slot : Slot} {ready : List Slot} :
      ¬p.HasCells → slot.Fits p → slot.asked = [] → Readies W entries probed ready →
      Readies W (p :: entries) probed (slot :: ready)
  | array {p q : QueryEntry} {entries probed : List QueryEntry} {blank slot : Slot}
      {ready : List Slot} :
      p.HasCells → blank.Fits p → W (bind p blank) q → slot.Fits p → slot.asked = q.cells →
      slot.Stocked → Readies W entries probed ready →
      Readies W (p :: entries) (q :: probed) (slot :: ready)

variable {W : QueryEntry → QueryEntry → Prop}

/-- What is known of an entry and its storage before the fill. -/
structure Slot.Ready (W : QueryEntry → QueryEntry → Prop) (p : QueryEntry) (slot : Slot) :
    Prop where
  fits : slot.Fits p
  stocked : slot.Stocked
  probed : p.HasCells → ∃ blank q, Slot.Fits p blank ∧ W (bind p blank) q ∧ slot.asked = q.cells

theorem Readies.ready {entries probed : List QueryEntry} {ready : List Slot}
    (h : Readies W entries probed ready) {e : QueryEntry × Slot} (he : e ∈ entries.zip ready) :
    e.2.Ready W e.1 := by
  induction h with
  | nil => cases he
  | @plain p _ _ slot _ hno hfits hasked _ ih =>
    rcases List.mem_cons.mp he with rfl | he
    · refine ⟨hfits, ?_, fun hhas => absurd hhas hno⟩
      cases slot with
      | unavailable | scalar => trivial
      | nested cells =>
        rw [List.map_eq_nil_iff.mp hasked]
        intro c hc
        cases hc
    · exact ih he
  | array _ hblank hq hfits hasked hstocked _ ih =>
    rcases List.mem_cons.mp he with rfl | he
    · exact ⟨hfits, hstocked, fun _ => ⟨_, _, hblank, hq, hasked⟩⟩
    · exact ih he

theorem allocateNested_nil (slots : List Slot) : allocateNested slots [] = .ok slots := by
  induction slots with
  | nil => rfl
  | cons slot slots ih =>
    unfold allocateNested
    rw [ih]
    split <;> rfl

theorem readies_of_allocateNested (hW : ∀ e q, W e q → e.Written q) {entries : List QueryEntry}
    {slots ready : List Slot} {probed : List QueryEntry}
    (hs : List.Forall₂ (fun p slot => Slot.allocate p = .ok slot) entries slots)
    (hp : List.Forall₂ W (lentQuery (arrays entries slots)) probed)
    (h : allocateNested slots probed = .ok ready) : Readies W entries probed ready := by
  induction hs generalizing probed ready with
  | nil =>
    cases h
    cases hp
    exact .nil
  | @cons p slot entries slots ha _ ih =>
    obtain ⟨hfits, harray⟩ := Slot.of_allocate ha
    unfold allocateNested at h
    by_cases hslot : slot.isArray = true
    · have hp' : List.Forall₂ W (bind p slot :: lentQuery (arrays entries slots)) probed := by
        simpa [arrays, lentQuery, hslot] using hp
      cases hp' with
      | cons hq hp' =>
        obtain ⟨w, rfl⟩ := hW _ _ hq
        simp only [hslot, if_true, bind_eq_ok_iff, pure_eq_ok_iff] at h
        obtain ⟨slot', hslot', ready, hready, rfl⟩ := h
        obtain ⟨hfits', hasked, hstocked⟩ := Slot.of_allocateCells hfits hslot w hslot'
        exact .array (harray.mp hslot) hfits hq hfits' hasked hstocked (ih hp' hready)
    · have hp' : List.Forall₂ W (lentQuery (arrays entries slots)) probed := by
        simpa [arrays, lentQuery, hslot] using hp
      rw [if_neg hslot, bind_eq_ok_iff] at h
      simp only [pure_eq_ok_iff] at h
      obtain ⟨ready, hready, rfl⟩ := h
      exact .plain (mt harray.mpr hslot) hfits (Slot.asked_of_not_isArray hslot) (ih hp' hready)

theorem Provided.readies {entries : List QueryEntry} {slots ready : List Slot}
    {second : List QueryExchange} (h : Provided entries slots second (.ok ready))
    (hs : List.Forall₂ (fun p slot => Slot.allocate p = .ok slot) entries slots)
    (hW : ∀ e q, W e q → e.Written q) (hsecond : ∀ x ∈ second, List.Forall₂ W x.request (after x)) :
    Readies W entries (second.flatMap after) ready := by
  generalize hout : Except.ok ready = outcome at h
  cases h with
  | plain hno =>
    cases hout
    exact readies_of_allocateNested hW hs (by rw [hno]; exact .nil) (allocateNested_nil _)
  | refused => cases hout
  | @answered x _ hx _ =>
    rw [List.flatMap_singleton]
    refine readies_of_allocateNested hW hs ?_ (liftM_eq_ok_iff.mp hout.symm)
    rw [← hx]
    exact hsecond x (List.mem_singleton_self x)

theorem after_written (x : QueryExchange) :
    List.Forall₂ QueryEntry.Written x.request (after x) :=
  QueryEntry.writeAll_forall₂ _ _

theorem allocateSlots_eq_ok_iff {entries : List QueryEntry} {slots : List Slot} :
    allocateSlots entries = .ok slots ↔ (Demand.slots entries.length).Met ∧
      List.Forall₂ (fun p slot => Slot.allocate p = .ok slot) entries slots ∧
      Affords (Demand.arrayIndices (arrays entries slots).length) ∧
      (Demand.entries (arrays entries slots).length).Met := by
  simp only [allocateSlots, bind_eq_ok_iff, exists_unit_iff, pure_eq_ok_iff, liftM_eq_ok_iff,
    reserveStorage_eq_ok_iff, insistAll_eq_ok_iff, mapM_eq_ok_iff]
  constructor
  · rintro ⟨hslots, _, hallocated, hindices, hentries, rfl⟩
    exact ⟨hslots, hallocated, hindices, hentries⟩
  · rintro ⟨hslots, hallocated, hindices, hentries⟩
    exact ⟨hslots, _, hallocated, hindices, hentries, rfl⟩

theorem Readied.readies {template : Template} {probe : QueryExchange}
    {second : List QueryExchange} {ready : List Slot} (h : Readied template probe second ready)
    (hW : ∀ e q, W e q → e.Written q) (hsecond : ∀ x ∈ second, List.Forall₂ W x.request (after x)) :
    Readies W (after probe) (second.flatMap after) ready := by
  obtain ⟨slots, hslots, hprovided⟩ := h.provided
  exact hprovided.readies (allocateSlots_eq_ok_iff.mp hslots).2.1 hW hsecond

theorem Readied.readies_written {template : Template} {probe : QueryExchange}
    {second : List QueryExchange} {ready : List Slot} (h : Readied template probe second ready) :
    Readies QueryEntry.Written (after probe) (second.flatMap after) ready :=
  h.readies (fun _ _ hw => hw) fun x _ => after_written x

end Reader

end Cryptoki
