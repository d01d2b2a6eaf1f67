import Cryptoki.Proofs.Attribute.Storage
import Cryptoki.Simulation.Memory

/-! The storage lent to a module when attributes are read. A scalar and a nested attribute always
have at least as many bytes as are announced for them. An array has room for the whole nested
attributes in its announced length, so it has as many bytes as are announced exactly when that
length divides into them (`queries_covered_iff`). -/

namespace Cryptoki

/-- The bytes behind a pointer: an array takes 24 for each nested attribute. -/
def QueryStorage.size? : QueryStorage → Option Nat
  | .null => none
  | .buffer bytes => some bytes.length
  | .cells nested => some (nested.length * entrySize)

/-- A nested attribute has a null pointer, or at least as many bytes as are announced. -/
def QueryCell.Covered (c : QueryCell) : Prop := ∀ bytes ∈ c.buffer, c.length.toNat ≤ bytes.length

/-- An attribute has a null pointer, or at least as many bytes as are announced, and so have its
nested attributes. -/
def QueryEntry.Covered (e : QueryEntry) : Prop :=
  (∀ size ∈ e.storage.size?, e.length.toNat ≤ size) ∧ ∀ c ∈ e.cells, c.Covered

instance : DecidablePred QueryCell.Covered := fun c =>
  inferInstanceAs (Decidable (∀ bytes ∈ c.buffer, c.length.toNat ≤ bytes.length))

instance : DecidablePred QueryEntry.Covered := fun _ => inferInstanceAs (Decidable (_ ∧ _))

/-- What holds of every attribute that is lent. -/
structure QueryEntry.Lent (e : QueryEntry) : Prop where
  scalar : e.cells = [] → e.Covered
  nested : ∀ c ∈ e.cells, c.Covered
  /-- An array falls short by less than one nested attribute. -/
  array : e.cells ≠ [] → e.length.toNat < (e.cells.length + 1) * entrySize

theorem QueryEntry.Covered.lent {e : QueryEntry} (h : e.Covered) (hcells : e.cells = []) : e.Lent :=
  ⟨fun _ => h, h.2, fun hne => absurd hcells hne⟩

namespace Reader

variable {allocator : Allocator} {σ : Type}

theorem bind_scalar_size? (p : QueryEntry) (b : Buffer) :
    (bind p (.scalar b)).storage.size? = b.pointer.map List.length := by
  cases h : b.pointer <;> simp [QueryStorage.size?, bind, Slot.storage, h]

theorem bind_nested_size? (p : QueryEntry) {cells : List (QueryCell × Option Buffer)}
    (h : cells ≠ []) :
    (bind p (.nested cells)).storage.size? = some (cells.length * entrySize) := by
  simp [QueryStorage.size?, bind, Slot.storage, h]

namespace Slot.Fits

variable {p : QueryEntry} {slot : Slot}

theorem nested_covered {cells : List (QueryCell × Option Buffer)} (h : (nested cells).Fits p) :
    ∀ c ∈ (bind p (nested cells)).cells, c.Covered := by
  intro c hc
  rw [bind_nested_cells] at hc
  obtain ⟨cell, hcell, rfl⟩ := List.mem_map.mp hc
  intro bytes hbytes
  obtain ⟨b, hb, hpointer⟩ := Option.bind_eq_some_iff.mp hbytes
  exact (h.2.2.2 cell hcell b hb).covers bytes hpointer

theorem covered_iff (h : slot.Fits p) :
    (bind p slot).Covered ↔ (p.HasCells → entrySize ∣ p.length.toNat) := by
  cases slot with
  | unavailable =>
    have hu : p.length = Cryptoki.unavailable := h
    simp [QueryEntry.Covered, bind, storage, QueryStorage.size?, QueryEntry.cells,
      QueryEntry.HasCells, hu]
  | scalar b =>
    obtain ⟨-, hk, hsized⟩ := h
    have hno : ¬p.HasCells := fun hp => hk hp.2.1
    refine ⟨fun _ hp => absurd hp hno, fun _ => ⟨?_, by simp⟩⟩
    rw [bind_scalar_size?]
    intro size hsize
    obtain ⟨bytes, hbytes, rfl⟩ := Option.map_eq_some_iff.mp hsize
    exact hsized.covers bytes hbytes
  | nested cells =>
    have hnested := h.nested_covered
    obtain ⟨hu, hk, hlength, -⟩ := h
    by_cases hp : p.HasCells
    · have hne : cells ≠ [] := by
        have : 0 < p.length.toNat / entrySize := Nat.div_pos hp.2.2 (by decide)
        exact List.ne_nil_of_length_pos (hlength ▸ this)
      have hsize : (bind p (nested cells)).Covered ↔
          p.length.toNat ≤ p.length.toNat / entrySize * entrySize := by
        rw [QueryEntry.Covered, bind_nested_size? p hne, hlength]
        simpa [bind] using fun _ => hnested
      rw [hsize]
      constructor
      · intro hle _
        exact ⟨_, by rw [Nat.mul_comm]; exact Nat.le_antisymm hle (Nat.div_mul_le_self _ _)⟩
      · intro hdvd
        exact Nat.le_of_eq (Nat.div_mul_cancel (hdvd hp)).symm
    · have hshort : cells = [] := by
        refine List.eq_nil_of_length_eq_zero (hlength.trans (Nat.div_eq_of_lt ?_))
        exact Nat.lt_of_not_le fun hle => hp ⟨hu, hk, hle⟩
      subst hshort
      refine ⟨fun _ hp' => absurd hp' hp, fun _ => ⟨?_, hnested⟩⟩
      rintro size ⟨⟩

theorem lent (h : slot.Fits p) : (bind p slot).Lent := by
  have hcovered := h.covered_iff
  cases slot with
  | unavailable =>
    have hall := hcovered.mpr fun hp => absurd h hp.1
    exact ⟨fun _ => hall, hall.2, fun hne => absurd rfl hne⟩
  | scalar b =>
    have hall := hcovered.mpr fun hp => absurd hp.2.1 h.2.1
    exact ⟨fun _ => hall, hall.2, fun hne => absurd (bind_scalar_cells p b) hne⟩
  | nested cells =>
    refine ⟨fun hnil => hcovered.mpr fun hp => ?_, h.nested_covered, fun _ => ?_⟩
    · have hzero : cells.length = 0 := by simpa using hnil
      rw [h.2.2.1] at hzero
      exact absurd hzero (Nat.ne_of_gt (Nat.div_pos hp.2.2 (by decide)))
    · rw [bind_nested_cells, List.length_map, h.2.2.1]
      exact Nat.lt_mul_of_div_lt (Nat.lt_succ_self _) (by decide)

end Slot.Fits

theorem probeQuery_covered {template : Template} {e : QueryEntry} (he : e ∈ probeQuery template) :
    e.Covered ∧ e.cells = [] := by
  obtain ⟨a, -, rfl⟩ := List.mem_map.mp he
  exact ⟨⟨fun _ hsize => (nomatch hsize), fun _ hc => nomatch hc⟩, rfl⟩

/-- A query lends storage that fits what was probed. -/
def Lends (entries : List QueryEntry) (x : QueryExchange) : Prop :=
  ∃ lent, x.request = lentQuery lent ∧ ∀ e ∈ lent, e.2.Fits e.1 ∧ e.1 ∈ entries

theorem Provided.lends {entries : List QueryEntry} {slots : List Slot}
    {second : List QueryExchange} {outcome : Except Fault (List Slot)}
    (h : Provided entries slots second outcome)
    (hs : List.Forall₂ (fun p slot => Slot.allocate p = .ok slot) entries slots) :
    (∀ x ∈ second, Lends entries x) ∧ ∀ p ∈ entries, p.HasCells →
      ∃ x ∈ second, ∃ slot, slot.Fits p ∧ bind p slot ∈ x.request := by
  have hmem {e : QueryEntry × Slot} (he : e ∈ arrays entries slots) : e.1 ∈ entries :=
    (List.of_mem_zip (List.mem_of_mem_filter he)).1
  cases h with
  | plain hno =>
    refine ⟨fun _ hx => (nomatch hx), fun p hp hcells => ?_⟩
    obtain ⟨slot, hslot⟩ := hasCells_mem_arrays hs hp hcells
    rw [hno] at hslot
    cases hslot
  | @refused x _ hx _ | @answered x _ hx _ =>
    refine ⟨fun y hy => ?_, fun p hp hcells => ?_⟩
    · rw [List.mem_singleton.mp hy]
      exact ⟨_, hx, fun e he => ⟨arrays_fit hs he, hmem he⟩⟩
    · obtain ⟨slot, hslot⟩ := hasCells_mem_arrays hs hp hcells
      refine ⟨x, List.mem_singleton_self x, slot, arrays_fit hs hslot, ?_⟩
      rw [hx]
      exact List.mem_map_of_mem hslot

theorem Readied.lends {template : Template} {probe fill : QueryExchange}
    {second : List QueryExchange} {ready : List Slot} (h : Readied template probe second ready)
    (hfill : fill.request = lentQuery ((after probe).zip ready)) :
    (∀ x ∈ second ++ [fill], Lends (after probe) x) ∧ ∀ p ∈ after probe, p.HasCells →
      ∃ x ∈ second ++ [fill], ∃ slot, slot.Fits p ∧ bind p slot ∈ x.request := by
  obtain ⟨slots, hslots, hprovided⟩ := h.provided
  have hs := (allocateSlots_eq_ok_iff.mp hslots).2.1
  obtain ⟨hlends, harrays⟩ := hprovided.lends hs
  refine ⟨fun x hx => ?_, fun p hp hcells => ?_⟩
  · rcases List.mem_append.mp hx with hx | hx
    · exact hlends x hx
    · rw [List.mem_singleton.mp hx]
      exact ⟨_, hfill, fun e he => ⟨(h.readies_written.ready he).fits, (List.of_mem_zip he).1⟩⟩
  · obtain ⟨x, hx, h⟩ := harrays p hp hcells
    exact ⟨x, List.mem_append_left _ hx, h⟩

/-- After the first probe every query lends storage that fits what was probed, and every array that
was probed is lent in some query. -/
theorem Fetched.lends {template : Template} {probe : QueryExchange} {rest : List QueryExchange}
    {outcome : Except Fault (Word × List (Slot × QueryEntry))}
    (h : Fetched template (probe :: rest) outcome) (hrest : rest ≠ []) :
    (∀ x ∈ rest, Lends (after probe) x) ∧ ∀ p ∈ after probe, p.HasCells →
      ∃ x ∈ rest, ∃ slot, slot.Fits p ∧ bind p slot ∈ x.request := by
  cases h with
  | unprobed | unallocated => exact absurd rfl hrest
  | unprovided _ hs hsecond => exact hsecond.lends (allocateSlots_eq_ok_iff.mp hs).2.1
  | unfilled hready hfill _ | filled hready hfill _ => exact hready.lends hfill

theorem Fetched.probe_request {template : Template} {probe : QueryExchange}
    {rest : List QueryExchange} {outcome : Except Fault (Word × List (Slot × QueryEntry))}
    (h : Fetched template (probe :: rest) outcome) : probe.request = probeQuery template := by
  cases h with
  | unprobed _ hp _ => exact hp
  | unallocated hp _ | unprovided hp _ _ => exact hp.request
  | unfilled hready _ _ | filled hready _ _ => exact hready.request

/-- Scalars and nested attributes have at least as many bytes as are announced for them, and an
array falls short by less than one nested attribute. All attributes are covered in all queries
exactly when every array that the first probe finds, if the module is asked again at all, has a
length that divides into nested attributes. -/
theorem queries_covered_iff (encoding : Encoding) (template : Template) (call : Callee σ) (s : σ) :
    (∀ x ∈ exchanges encoding template call s, ∀ e ∈ x.request, e.Lent) ∧
    ((∀ x ∈ exchanges encoding template call s, ∀ e ∈ x.request, e.Covered) ↔
      ∀ probe rest, exchanges encoding template call s = probe :: rest → rest ≠ [] →
        ∀ p ∈ after probe, p.HasCells → entrySize ∣ p.length.toNat) := by
  by_cases hne : template = []
  · subst hne
    simp [exchanges_nil]
  obtain ⟨outcome, -, hf, -, -⟩ := read_fetched encoding hne call s
  cases hmade : exchanges encoding template call s with
  | nil => simp
  | cons probe rest =>
    rw [hmade] at hf
    have hprobe {e : QueryEntry} (he : e ∈ probe.request) : e.Covered ∧ e.cells = [] := by
      rw [hf.probe_request] at he
      exact probeQuery_covered he
    refine ⟨fun x hx e he => ?_, fun hall probe' rest' heq hrest p hp hcells => ?_,
      fun hdvd x hx e he => ?_⟩
    · rcases List.mem_cons.mp hx with rfl | hx
      · exact (hprobe he).1.lent (hprobe he).2
      · obtain ⟨lent, hlent, hfits⟩ := (hf.lends (List.ne_nil_of_mem hx)).1 x hx
        rw [hlent] at he
        obtain ⟨⟨p, slot⟩, hmem, rfl⟩ := List.mem_map.mp he
        exact (hfits _ hmem).1.lent
    · cases heq
      obtain ⟨x, hx, slot, hfits, he⟩ := (hf.lends hrest).2 p hp hcells
      exact hfits.covered_iff.mp (hall x (List.mem_cons_of_mem _ hx) _ he) hcells
    · rcases List.mem_cons.mp hx with rfl | hx
      · exact (hprobe he).1
      · have hrest := List.ne_nil_of_mem hx
        obtain ⟨lent, hlent, hfits⟩ := (hf.lends hrest).1 x hx
        rw [hlent] at he
        obtain ⟨⟨p, slot⟩, hmem, rfl⟩ := List.mem_map.mp he
        obtain ⟨hfit, hp⟩ := hfits _ hmem
        exact hfit.covered_iff.mpr (hdvd probe rest rfl hrest p hp)

end Reader

namespace Reader

open Simulation

/-- A module that reports 50 bytes for an array is lent two nested attributes, which take 48. -/
theorem array_of_fifty_bytes_not_covered :
    ¬∀ x ∈ exchanges .utf8 [Typed.query 0x40000211]
        (fun _ => pure { entries := [{ length := some 50 }] } : Callee Unit) (),
      ∀ e ∈ x.request, e.Covered := by
  decide +kernel

end Reader

end Cryptoki
