import Cryptoki.Proofs.Attribute.Reading
import Cryptoki.Proofs.Failures

/-! What stops a read of attribute values, and what it leaves of the template. A status that is not
tolerated or memory that cannot be had ends the read with the template as it was; a value that
cannot be decoded ends it with the values before it (`Reader.read_updates`). -/

namespace Cryptoki

open Memory

variable {α σ : Type}

/-- A result says that memory could not be had. -/
def OutOfMemory (result : Except Fault α) : Prop :=
  ∃ fault, result = .error (.error (.allocation fault))

theorem exists_allocation {x : Except Error α} (h : FailsWith Error.IsAllocation x)
    (hfails : ¬∃ a, x = .ok a) : ∃ fault, x = .error (.allocation fault) := by
  cases x with
  | ok a => exact absurd ⟨a, rfl⟩ hfails
  | error e =>
    obtain ⟨fault, rfl⟩ := h
    exact ⟨fault, rfl⟩

/-- A step that is short of memory leaves the computation short of it. -/
theorem outOfMemory_bind {β : Type} {x : Except Error β} {f : β → Except Fault α}
    (h : FailsWith Error.IsAllocation x) (hfails : ¬∃ a, x = .ok a) :
    OutOfMemory (liftM x >>= f) := by
  obtain ⟨fault, rfl⟩ := exists_allocation h hfails
  exact ⟨fault, rfl⟩

theorem OutOfMemory.bind {β : Type} {x : Except Fault β} {f : β → Except Fault α}
    (h : OutOfMemory x) : OutOfMemory (x >>= f) := by
  obtain ⟨fault, rfl⟩ := h
  exact ⟨fault, rfl⟩

/-- A list is worked through up to the element for which memory is short. -/
theorem OutOfMemory.mapM {β : Type} {f : β → Except Fault α} {before rest : List β} {b : β}
    {results : List α} (hbefore : before.mapM f = .ok results) (h : OutOfMemory (f b)) :
    OutOfMemory ((before ++ b :: rest).mapM f) := by
  obtain ⟨fault, hfault⟩ := h
  refine ⟨fault, ?_⟩
  rw [List.mapM_append, hbefore, List.mapM_cons, hfault]
  rfl

section

variable {allocator : Allocator} {d : Demand}

theorem exists_reserveStorage_eq_error (hd : ¬d.Met) :
    ∃ fault, reserveStorage d = .error (.allocation fault) :=
  exists_allocation (reserveStorage_failsWith d) fun ⟨_, hroom⟩ =>
    hd (reserveStorage_eq_ok_iff.mp hroom)

theorem outOfMemory_reserve {f : Unit → Except Fault α} (hd : ¬d.Met) :
    OutOfMemory (liftM (reserveStorage d) >>= f) := by
  obtain ⟨fault, hfault⟩ := exists_reserveStorage_eq_error hd
  exact ⟨fault, by rw [hfault]; rfl⟩

end

namespace Reader

variable {allocator : Allocator}

def Tolerated (x : QueryExchange) : Prop := tolerated x.reply.status = true

theorem ne_ok_of_not_tolerated {x : QueryExchange} (h : ¬Tolerated x) :
    x.reply.status ≠ Status.ok := by
  intro hok
  refine h ?_
  rw [Tolerated, hok]
  rfl

theorem Provided.tolerated {entries : List QueryEntry} {slots ready : List Slot}
    {second : List QueryExchange} (h : Provided entries slots second (.ok ready)) :
    ∀ x ∈ second, Tolerated x := by
  generalize hout : Except.ok ready = outcome at h
  cases h with
  | plain => exact List.forall_mem_nil _
  | refused => cases hout
  | answered _ _ ht => exact List.forall_mem_singleton.mpr ht

theorem Readied.all_tolerated {template : Template} {probe : QueryExchange}
    {second : List QueryExchange} {ready : List Slot} (h : Readied template probe second ready) :
    ∀ x ∈ probe :: second, Tolerated x := by
  obtain ⟨_, -, hprovided⟩ := h.provided
  exact List.forall_mem_cons.mpr ⟨h.tolerated, hprovided.tolerated⟩

/-! ### Memory that cannot be had -/

section

variable {entries : List QueryEntry}

/-- When there is memory for the values, the places of the arrays and the second probe are left. -/
theorem exists_allocateSlots_eq (h : Affords (slotDemands entries)) :
    ∃ slots, allocateSlots entries = (do
      insistAll (Demand.arrayIndices (arrayCount entries))
      reserveStorage (.entries (arrayCount entries))
      return slots) := by
  obtain ⟨hslots, hvalues⟩ := affords_cons.mp h
  obtain ⟨slots, hmapM⟩ := exists_mapM_eq_ok fun e he =>
    Slot.exists_allocate_iff.mpr (affords_flatMap.mp hvalues e he)
  refine ⟨slots, ?_⟩
  rw [allocateSlots, reserveStorage_eq_ok_iff.mpr hslots, hmapM,
    ← length_arrays (mapM_eq_ok_iff.mp hmapM)]
  rfl

theorem allocateSlots_of_slots (h : ¬Affords (slotDemands entries)) :
    OutOfMemory (allocateSlots entries) := by
  by_cases hslots : (Demand.slots entries.length).Met
  · rw [allocateSlots, reserveStorage_eq_ok_iff.mpr hslots]
    show OutOfMemory (liftM (entries.mapM Slot.allocate) >>= _)
    refine outOfMemory_bind (.mapM fun e _ => Slot.allocate_failsWith e) ?_
    rintro ⟨slots, hmapM⟩
    refine h (affords_cons.mpr ⟨hslots, affords_flatMap.mpr fun e he => ?_⟩)
    obtain ⟨slot, -, hslot⟩ := forall₂_mem_right (mapM_eq_ok_iff.mp hmapM).flip he
    exact Slot.exists_allocate_iff.mp ⟨slot, hslot⟩
  · exact outOfMemory_reserve hslots

theorem allocateSlots_of_arrays (hindices : Affords (Demand.arrayIndices (arrayCount entries)))
    (h : ¬(Demand.entries (arrayCount entries)).Met) : OutOfMemory (allocateSlots entries) := by
  by_cases hslots : Affords (slotDemands entries)
  · obtain ⟨slots, heq⟩ := exists_allocateSlots_eq hslots
    rw [heq, insistAll_of_affords hindices]
    exact outOfMemory_reserve h
  · exact allocateSlots_of_slots hslots

end

theorem Slot.affords_of_allocateCells {slot ready : Slot} {q : QueryEntry}
    (hslot : slot.isArray = true) (h : slot.allocateCells q = .ok ready) :
    ∀ c ∈ q.cells, Affords c.demands := by
  intro c hc
  cases slot with
  | unavailable | scalar => cases hslot
  | nested cells =>
    unfold allocateCells at h
    unfold QueryEntry.cells at hc
    split at hc
    next cells hq =>
      rw [hq] at h
      obtain ⟨readied, hreadied, -⟩ := bind_eq_ok_iff.mp h
      obtain ⟨cell, -, hcell⟩ := forall₂_mem_right (mapM_eq_ok_iff.mp hreadied).flip hc
      exact exists_allocateCell_iff.mp ⟨cell, hcell⟩
    next => cases hc

theorem affords_of_allocateNested {slots ready : List Slot} {probed : List QueryEntry}
    (h : allocateNested slots probed = .ok ready)
    (hcount : probed.length ≤ slots.countP Slot.isArray) :
    ∀ q ∈ probed, ∀ c ∈ q.cells, Affords c.demands := by
  induction slots generalizing probed ready with
  | nil =>
    rw [List.countP_nil, Nat.le_zero, List.length_eq_zero_iff] at hcount
    rw [hcount]
    exact List.forall_mem_nil _
  | cons slot slots ih =>
    unfold allocateNested at h
    split at h
    · next harray =>
      rw [List.countP_cons_of_pos harray] at hcount
      cases probed with
      | nil => exact List.forall_mem_nil _
      | cons q probed =>
        obtain ⟨first, hfirst, hrest⟩ := bind_eq_ok_iff.mp h
        obtain ⟨rest, hrest, -⟩ := bind_eq_ok_iff.mp hrest
        refine List.forall_mem_cons.mpr ⟨Slot.affords_of_allocateCells harray hfirst, ?_⟩
        exact ih hrest (Nat.le_of_succ_le_succ hcount)
    · next harray =>
      rw [List.countP_cons_of_neg harray] at hcount
      obtain ⟨rest, hrest, -⟩ := bind_eq_ok_iff.mp h
      exact ih hrest hcount

theorem arrays_length {entries : List QueryEntry} {slots : List Slot}
    (h : slots.length ≤ entries.length) :
    (arrays entries slots).length = slots.countP Slot.isArray := by
  rw [arrays, ← List.countP_eq_length_filter]
  conv_rhs => rw [← List.map_snd_zip h, List.countP_map]
  rfl

/-- Entries that are lent without arrays have no nested attributes after the call. -/
theorem cells_eq_nil_of_arrays_eq_nil {entries : List QueryEntry} {slots : List Slot}
    (h : arrays entries slots = []) {x : QueryExchange}
    (hx : x.request = lentQuery (entries.zip slots)) : ∀ e ∈ after x, e.cells = [] := by
  intro e he
  obtain ⟨lent, hlent, w, rfl⟩ := forall₂_mem_right (after_written x) he
  rw [hx] at hlent
  obtain ⟨⟨p, slot⟩, hmem, rfl⟩ := List.mem_map.mp hlent
  have hplain : ¬slot.isArray = true := List.filter_eq_nil_iff.mp h (p, slot) hmem
  have hcells : (bind p slot).cells = [] := by
    cases slot with
    | unavailable => rfl
    | scalar b => exact bind_scalar_cells p b
    | nested cells =>
      have hempty : cells = [] := by simpa [Slot.isArray] using hplain
      rw [hempty]
      rfl
  obtain ⟨writes, hwrites⟩ := (bind p slot).write_cells w
  rw [hwrites, hcells]
  cases writes <;> rfl

/-- After these queries of a template a buffer is set aside whose want is reported: for the first
query, for the values that the first probe has told the lengths of, for the second probe, which
comes after the list of the arrays, and for the nested values that the second probe has told the
lengths of. -/
inductive Wants [Allocator] (template : Template) : List QueryExchange → Demand → Prop
  | entries : Wants template [] (.entries template.length)
  | values {probe : QueryExchange} {d : Demand} : Tolerated probe → d ∈ slotDemands (after probe) →
      Wants template [probe] d
  | arrays {probe : QueryExchange} : Tolerated probe →
      Affords (Demand.arrayIndices (arrayCount (after probe))) →
      Wants template [probe] (.entries (arrayCount (after probe)))
  | nested {probe x : QueryExchange} {e : QueryEntry} {c : QueryCell} {d : Demand} : Tolerated x →
      e ∈ after x → c ∈ e.cells → d ∈ c.demands → Wants template [probe, x] d

theorem affords_of_provided {probe x : QueryExchange} {slots ready : List Slot}
    (hslots : allocateSlots (after probe) = .ok slots)
    (hx : x.request = lentQuery (arrays (after probe) slots))
    (h : allocateNested slots (after x) = .ok ready) :
    ∀ e ∈ after x, ∀ c ∈ e.cells, Affords c.demands := by
  have hslotsLength := (allocateSlots_eq_ok_iff.mp hslots).2.1.length_eq
  have hlength := (after_written x).length_eq
  rw [hx, lentQuery, List.length_map, arrays_length (Nat.le_of_eq hslotsLength.symm)] at hlength
  exact affords_of_allocateNested h (Nat.le_of_eq hlength.symm)

section

variable {template : Template} {probe x : QueryExchange} {rest : List QueryExchange}
  {outcome : Except Fault (Word × List (Slot × QueryEntry))}

/-- Without storage for what the first probe told of, the fetch ends there. -/
theorem Fetched.unallocated_of_error (h : Fetched template (probe :: rest) outcome)
    (ht : Tolerated probe) {fault : Fault} (hslots : allocateSlots (after probe) = .error fault) :
    rest = [] ∧ outcome = .error fault := by
  cases h with
  | unprobed _ _ hno => cases ht.symm.trans hno
  | unallocated _ hfailed =>
    cases hfailed.symm.trans hslots
    exact ⟨rfl, rfl⟩
  | unprovided _ hallocated => cases hallocated.symm.trans hslots
  | unfilled hready | filled hready =>
    obtain ⟨slots, hallocated, -⟩ := hready.provided
    cases hallocated.symm.trans hslots

theorem Fetched.cramped_of_probed (h : Fetched template (probe :: rest) outcome)
    (ht : Tolerated probe) (hslots : OutOfMemory (allocateSlots (after probe))) :
    rest = [] ∧ OutOfMemory outcome := by
  obtain ⟨fault, hfault⟩ := hslots
  obtain ⟨hrest, rfl⟩ := h.unallocated_of_error ht hfault
  exact ⟨hrest, fault, rfl⟩

theorem Fetched.cramped_of_nested (h : Fetched template (probe :: x :: rest) outcome)
    (ht : Tolerated x) {e : QueryEntry} (he : e ∈ after x) {c : QueryCell} (hc : c ∈ e.cells)
    (hroom : ¬Affords c.demands) : rest = [] ∧ OutOfMemory outcome := by
  -- the second query is the fill unless there are arrays to probe
  have filled {slots ready : List Slot} {second : List QueryExchange} {fill : QueryExchange}
      (hslots : allocateSlots (after probe) = .ok slots)
      (hprovided : Provided (after probe) slots second (.ok ready))
      (hmade : second ++ [fill] = x :: rest)
      (hfill : fill.request = lentQuery ((after probe).zip ready)) : False := by
    generalize hout : Except.ok ready = provided at hprovided
    cases hprovided with
    | plain hno =>
      cases hout
      cases hmade
      rw [cells_eq_nil_of_arrays_eq_nil hno hfill e he] at hc
      cases hc
    | refused => cases hout
    | answered _ hx _ =>
      cases hmade
      exact hroom (affords_of_provided hslots hx (liftM_eq_ok_iff.mp hout.symm) e he c hc)
  generalize hmade : probe :: x :: rest = made at h
  cases h with
  | cramped | unprobed | unallocated => cases hmade
  | unprovided _ _ hprovided =>
    cases hmade
    generalize hout : Except.error _ = provided at hprovided
    cases hprovided with
    | refused _ _ hno => cases ht.symm.trans hno
    | answered =>
      obtain ⟨e, hnested, rfl⟩ := liftM_eq_error_iff.mp hout.symm
      obtain ⟨fault, rfl⟩ := (allocateNested_failsWith _ _).of_error hnested
      exact ⟨rfl, fault, rfl⟩
  | unfilled hready hfill | filled hready hfill =>
    obtain ⟨rfl, hrest⟩ := List.cons.inj hmade
    obtain ⟨slots, hslots, hprovided⟩ := hready.provided
    exact (filled hslots hprovided hrest.symm hfill).elim

theorem Fetched.cramped_of_entries {made : List QueryExchange} (h : Fetched template made outcome)
    (hroom : ¬(Demand.entries template.length).Met) : made = [] ∧ OutOfMemory outcome := by
  have beyond (hreserve : reserveStorage (.entries template.length) = .ok ()) : False :=
    hroom (reserveStorage_eq_ok_iff.mp hreserve)
  cases h with
  | cramped he =>
    obtain ⟨fault, rfl⟩ := (reserveStorage_failsWith _).of_error he
    exact ⟨rfl, fault, rfl⟩
  | unprobed hreserve => exact (beyond hreserve).elim
  | unallocated hprobed | unprovided hprobed => exact (beyond hprobed.room).elim
  | unfilled hready | filled hready => exact (beyond hready.room).elim

theorem Fetched.cramped_of_wants {made before : List QueryExchange} {d : Demand}
    (h : Fetched template made outcome) (hmade : made = before ++ rest)
    (hwants : Wants template before d) (hd : ¬d.Met) : rest = [] ∧ OutOfMemory outcome := by
  subst hmade
  cases hwants with
  | entries => exact h.cramped_of_entries hd
  | values ht hmem =>
    exact h.cramped_of_probed ht (allocateSlots_of_slots fun hroom => hd (hroom d hmem))
  | arrays ht hindices => exact h.cramped_of_probed ht (allocateSlots_of_arrays hindices hd)
  | nested ht he hc hmem => exact h.cramped_of_nested ht he hc fun hroom => hd (hroom d hmem)

end

/-! ### How a fetch ends -/

/-- A fetch comes to its end: the fill follows the probes, of which the second is made when there
are nested attributes, and every status is tolerated. -/
structure Completes (made : List QueryExchange) (probe : QueryExchange)
    (second : List QueryExchange) (fill : QueryExchange) : Prop where
  made_eq : made = probe :: (second ++ [fill])
  second_length : second.length = if ∃ p ∈ after probe, p.HasCells then 1 else 0
  tolerated : ∀ x ∈ made, Tolerated x

theorem Completes.length_eq_three {made : List QueryExchange} {probe fill : QueryExchange}
    {second : List QueryExchange} (h : Completes made probe second fill)
    (hcells : ∃ p ∈ after probe, p.HasCells) : made.length = 3 := by
  rw [h.made_eq, List.length_cons, List.length_append, h.second_length, if_pos hcells]
  rfl

theorem Readied.completes {template : Template} {probe fill : QueryExchange}
    {second : List QueryExchange} {ready : List Slot} (h : Readied template probe second ready)
    (ht : Tolerated fill) : Completes (probe :: (second ++ [fill])) probe second fill := by
  refine ⟨rfl, h.second_length, ?_⟩
  show ∀ y ∈ (probe :: second) ++ [fill], Tolerated y
  exact List.forall_mem_append.mpr ⟨h.all_tolerated, List.forall_mem_singleton.mpr ht⟩

/-- A fetch ends in one of three ways: with a status that is not tolerated, for want of memory, or
with the answers to the fill. -/
inductive Ends [Allocator] (template : Template) :
    List QueryExchange → Except Fault (Word × List (Slot × QueryEntry)) → Prop
  | refused {before : List QueryExchange} {x : QueryExchange} : (∀ y ∈ before, Tolerated y) →
      ¬Tolerated x → Ends template (before ++ [x])
        (.error (.error (.status function x.reply.status)))
  | cramped {made : List QueryExchange} {fault : Fault} : (∀ y ∈ made, Tolerated y) →
      (¬∃ probe second fill, Completes made probe second fill) →
      fault.Within Error.IsAllocation → Ends template made (.error fault)
  | filled {made : List QueryExchange} {probe fill : QueryExchange} {second : List QueryExchange}
      {ready : List Slot} : Completes made probe second fill →
      Readied template probe second ready → fill.request = lentQuery ((after probe).zip ready) →
      Ends template made (.ok (fill.reply.status, ready.zip (after fill)))

theorem Fetched.ends {template : Template} {made : List QueryExchange}
    {outcome : Except Fault (Word × List (Slot × QueryEntry))} (h : Fetched template made outcome) :
    Ends template made outcome := by
  cases h with
  | cramped he =>
    refine .cramped (List.forall_mem_nil _) ?_ ((reserveStorage_failsWith _).of_error he)
    rintro ⟨probe, second, fill, hmade, -, -⟩
    cases hmade
  | unprobed _ _ ht => exact .refused (List.forall_mem_nil _) (Bool.eq_false_iff.mp ht)
  | @unallocated probe _ hprobed he =>
    refine .cramped (List.forall_mem_singleton.mpr hprobed.tolerated) ?_
      ((allocateSlots_failsWith _).of_error he)
    rintro ⟨probe, second, fill, hmade, -, -⟩
    simp at hmade
  | @unprovided probe slots _ _ hprobed hslots hprovided =>
    generalize hout : Except.error _ = provided at hprovided
    have hbefore : ∀ y ∈ [probe], Tolerated y := List.forall_mem_singleton.mpr hprobed.tolerated
    cases hprovided with
    | plain => cases hout
    | refused _ _ ht =>
      cases hout
      exact .refused hbefore (Bool.eq_false_iff.mp ht)
    | @answered x harrays _ ht =>
      have hallocated := (allocateSlots_eq_ok_iff.mp hslots).2.1
      have hcells : ∃ p ∈ after probe, p.HasCells :=
        not_not.mp (mt (arrays_eq_nil_iff hallocated).mpr harrays)
      refine .cramped (List.forall_mem_cons.mpr ⟨hprobed.tolerated,
        List.forall_mem_singleton.mpr ht⟩) ?_
        ((allocateNested_failsWith _ _).within.of_error hout.symm)
      rintro ⟨probe', second, fill, hcompletes⟩
      obtain rfl : probe' = probe := (List.cons.inj hcompletes.made_eq).1.symm
      cases hcompletes.length_eq_three hcells
  | @unfilled probe fill second _ hready _ ht =>
    show Ends template ((probe :: second) ++ [fill]) _
    exact .refused hready.all_tolerated (Bool.eq_false_iff.mp ht)
  | filled hready hfill ht => exact .filled (hready.completes ht) hready hfill

/-! ### What a read leaves of the template -/

theorem decodeAll_types (encoding : Encoding) (index : Nat) (template : Template)
    (fetched : List (Slot × QueryEntry)) :
    (decodeAll encoding index template fetched).2.map Typed.type = template.map Typed.type := by
  induction template generalizing index fetched with
  | nil => rfl
  | cons a template ih =>
    cases fetched with
    | nil => rfl
    | cons e fetched =>
      unfold decodeAll
      split
      · rfl
      · exact congrArg (a.type :: ·) (ih (index + 1) fetched)

theorem decodeAll_error {encoding : Encoding} {template : Template} {values : List Value}
    {fetched : List (Slot × QueryEntry)} {xs : List Answers} {k : Nat} {x : Answers} {fault : Fault}
    (hdecodes : List.Forall₂ (Decodes encoding) fetched xs)
    (hlength : template.length = xs.length) (hk : xs[k]? = some x)
    (hvalues : (xs.take k).mapM (Answers.value encoding) = .ok values)
    (hx : x.value encoding = .error fault) (index : Nat) :
    decodeAll encoding index template fetched =
      (.error fault, withValues (template.take k) values ++ template.drop k) := by
  obtain ⟨hlt, rfl⟩ := List.getElem?_eq_some_iff.mp hk
  have hfetched : k < fetched.length := hdecodes.length_eq ▸ hlt
  have htemplate : k < template.length := hlength ▸ hlt
  have hfails : decodeEntry fetched[k].1 fetched[k].2 encoding = .error fault := by
    have hdecoded := List.Forall₂.get hdecodes hfetched hlt
    rw [List.get_eq_getElem, List.get_eq_getElem, Decodes, hx] at hdecoded
    exact hdecoded
  have hstop : decodeAll encoding (index + (template.take k).length) (template.drop k)
      (fetched.drop k) = (.error fault, template.drop k) := by
    rw [List.drop_eq_getElem_cons hfetched, List.drop_eq_getElem_cons htemplate, decodeAll, hfails]
  have htaken : (template.take k).length = (xs.take k).length := by
    rw [List.length_take, List.length_take, hlength]
  have happend := decodeAll_append (List.forall₂_take k hdecodes) htaken hvalues index
    (template.drop k) (fetched.drop k)
  rwa [List.take_append_drop, List.take_append_drop, hstop] at happend

theorem conclude_types (encoding : Encoding) (template : Template)
    (outcome : Except Fault (Word × List (Slot × QueryEntry))) :
    (conclude encoding template outcome).2.map Typed.type = template.map Typed.type := by
  cases outcome with
  | error => rfl
  | ok => exact decodeAll_types encoding 0 template _

namespace Ends

variable {template : Template} {made : List QueryExchange}
  {outcome : Except Fault (Word × List (Slot × QueryEntry))}

theorem stopped (h : Ends template made outcome) {before rest : List QueryExchange}
    {x : QueryExchange} (hmade : made = before ++ x :: rest) (hx : ¬Tolerated x) :
    rest = [] ∧ outcome = .error (.error (.status function x.reply.status)) := by
  cases h with
  | refused hbefore _ =>
    obtain ⟨rfl, rfl⟩ := eq_of_not_tolerated hbefore hmade hx
    exact ⟨rfl, rfl⟩
  | cramped hall => exact absurd (hall x (by simp [hmade])) hx
  | filled hcompletes => exact absurd (hcompletes.tolerated x (by simp [hmade])) hx

theorem kept (h : Ends template made outcome)
    (hshort : ¬∃ probe second fill, Completes made probe second fill) (encoding : Encoding) :
    (conclude encoding template outcome).2 = template := by
  cases h with
  | refused | cramped => rfl
  | filled hcompletes => exact absurd ⟨_, _, _, hcompletes⟩ hshort

theorem filled_of_completes (h : Ends template made outcome) {probe fill : QueryExchange}
    {second : List QueryExchange} (hcompletes : Completes made probe second fill) :
    ∃ ready, Readied template probe second ready ∧
      fill.request = lentQuery ((after probe).zip ready) ∧
      outcome = .ok (fill.reply.status, ready.zip (after fill)) := by
  cases h with
  | refused _ hx => exact absurd (hcompletes.tolerated _ (by simp)) hx
  | cramped _ hshort => exact absurd ⟨probe, second, fill, hcompletes⟩ hshort
  | @filled _ probe' fill' second' ready hfilled hready hfill =>
    obtain ⟨rfl, hrest⟩ := List.cons.inj (hfilled.made_eq.symm.trans hcompletes.made_eq)
    obtain ⟨rfl, hlast⟩ := List.append_inj' hrest rfl
    obtain rfl := List.singleton_inj.mp hlast
    exact ⟨ready, hready, hfill, rfl⟩

theorem updates (h : Ends template made outcome) {probe fill : QueryExchange}
    {second : List QueryExchange} (hcompletes : Completes made probe second fill)
    (encoding : Encoding) :
    let xs := answers (after probe) (second.flatMap after) (after fill)
    xs.map (fun x => x.probed.type) = template.map Typed.type ∧
    ∀ k x values fault, xs[k]? = some x →
      (xs.take k).mapM (Answers.value encoding) = .ok values → x.value encoding = .error fault →
      conclude encoding template outcome =
        (.error fault, withValues (template.take k) values ++ template.drop k) := by
  obtain ⟨ready, hready, hfill, rfl⟩ := h.filled_of_completes hcompletes
  refine ⟨hready.answers_types hfill, fun k x values fault hk hvalues hx => ?_⟩
  rw [conclude, decodeAll_error (hready.decodes encoding hfill) (hready.answers_length hfill)
    hk hvalues hx]

end Ends

/-- A read changes values only after a tolerated fill. A status that is not tolerated and a buffer
that cannot be had end it with the template as it was; a value that cannot be decoded ends it with
those before it, whether or not one of them is hidden. Number, order and types stay. -/
theorem read_updates (encoding : Encoding) (template : Template) (call : Callee σ) (s : σ) :
    let made := exchanges encoding template call s
    let result := ((read encoding template call).run s).1
    result.2.map Typed.type = template.map Typed.type ∧
    (∀ before x rest, made = before ++ x :: rest → ¬Tolerated x →
      rest = [] ∧ result = (.error (.error (.status function x.reply.status)), template)) ∧
    (∀ before rest d, made = before ++ rest → Wants template before d → ¬d.Met →
      rest = [] ∧ ∃ fault, result = (.error (.error (.allocation fault)), template)) ∧
    ((¬∃ probe second fill, Completes made probe second fill) → result.2 = template) ∧
    ∀ probe second fill, Completes made probe second fill →
      let xs := answers (after probe) (second.flatMap after) (after fill)
      xs.map (fun x => x.probed.type) = template.map Typed.type ∧
      ∀ k x values fault, xs[k]? = some x →
        (xs.take k).mapM (Answers.value encoding) = .ok values → x.value encoding = .error fault →
        result = (.error fault, withValues (template.take k) values ++ template.drop k) := by
  intro made result
  by_cases hne : template = []
  · subst hne
    have hmade : made = [] := exchanges_nil encoding call s
    rw [hmade]
    refine ⟨rfl, fun before x rest h => ?_, fun before rest d h hwants hd => ?_, fun _ => rfl,
      fun probe second fill h => ?_⟩
    · simp at h
    · obtain ⟨rfl, -⟩ := List.append_eq_nil_iff.mp h.symm
      cases hwants
      exact absurd (Demand.met_of_total_eq_zero rfl) hd
    · cases h.made_eq
  obtain ⟨outcome, s', hfetched, -, hread⟩ := read_fetched encoding hne call s
  have hresult : result = conclude encoding template outcome := congrArg Prod.fst hread
  rw [hresult]
  have hends := hfetched.ends
  refine ⟨conclude_types encoding template outcome, fun before x rest hmade hx => ?_,
    fun before rest d hmade hwants hd => ?_, fun hshort => hends.kept hshort encoding,
    fun probe second fill hcompletes => hends.updates hcompletes encoding⟩
  · obtain ⟨hrest, rfl⟩ := hends.stopped hmade hx
    exact ⟨hrest, rfl⟩
  · obtain ⟨hrest, fault, rfl⟩ := hfetched.cramped_of_wants hmade hwants hd
    exact ⟨hrest, fault, rfl⟩

end Reader

namespace Reader

open Simulation

/-- The answers of a module that does not reveal the first attribute, and has seven bytes for the
words of the third. -/
def ragged : List Reply :=
  [{ status := Status.attributeSensitive
     entries := [{ length := some unavailable }, { length := some 8 }, { length := some 7 },
       { length := some 2 }] },
   { entries := [{}, { bytes := [4, 0, 0, 0, 0, 0, 0, 0] }, { bytes := [1, 2, 3, 4, 5, 6, 7] },
       { bytes := [1, 2] }] }]

/-- The ragged words are reported, and not the attribute before them that is hidden. -/
theorem read_ragged :
    ((read .utf8 [⟨0x3, .bytes [9]⟩, ⟨0x0, .bytes [9]⟩, ⟨0x40000600, .bytes [9]⟩,
        ⟨0x102, .bytes [9]⟩] prepared).run ragged).1 =
      (.error (.error (.conversion (.raggedWords 7))),
        [⟨0x3, .absent⟩, ⟨0x0, .long 4⟩, ⟨0x40000600, .bytes [9]⟩, ⟨0x102, .bytes [9]⟩]) := by
  let template : Template :=
    [⟨0x3, .bytes [9]⟩, ⟨0x0, .bytes [9]⟩, ⟨0x40000600, .bytes [9]⟩, ⟨0x102, .bytes [9]⟩]
  let probe : QueryExchange := ⟨probeQuery template, ragged[0]⟩
  let fill : QueryExchange :=
    ⟨[⟨0x3, unavailable, .null⟩, ⟨0x0, 8, .buffer (List.replicate 8 0)⟩,
      ⟨0x40000600, 7, .buffer (List.replicate 8 0)⟩, ⟨0x102, 2, .buffer (List.replicate 8 0)⟩],
      ragged[1]⟩
  have hmade : exchanges .utf8 template prepared ragged = [probe, fill] := rfl
  have htolerated : ∀ x ∈ [probe, fill], tolerated x.reply.status = true := by decide +kernel
  have hcompletes : Completes (exchanges .utf8 template prepared ragged) probe [] fill :=
    ⟨hmade, rfl, hmade ▸ htolerated⟩
  obtain ⟨-, hdecoded⟩ := (read_updates .utf8 template prepared ragged).2.2.2.2 _ _ _ hcompletes
  exact hdecoded 2 _ [.absent, .long 4] _ rfl rfl rfl

end Reader

end Cryptoki
