import Cryptoki.Proofs.Attribute.Storage
import Cryptoki.Simulation.Memory
import Mathlib.Data.List.Zip

/-! Reading attributes from a module that answers as it likes. `answers` collects what the module
says of each attribute, `Answers.value` is the value that this stands for, and
`read_eq_of_answers` says that a read returns these values, after a second probe if there are
nested attributes to probe. -/

namespace Cryptoki

open Memory

/-- The memory for the value of a nested attribute whose length has been probed. -/
def QueryCell.demands (c : QueryCell) : List Demand :=
  if c.length = unavailable then [] else [Reader.Buffer.demand c.length.toNat]

/-- The memory for the value of an attribute whose length has been probed: whole nested attributes
with their buffers, or whole words. -/
def QueryEntry.demands (e : QueryEntry) : List Demand :=
  if e.length = unavailable then []
  else if Kind.of e.type = .templateArray then
    [.entries (e.length.toNat / entrySize), .cellBuffers (e.length.toNat / entrySize)]
  else [Reader.Buffer.demand e.length.toNat]

namespace Reader

variable {allocator : Allocator} {σ : Type}

/-! ### The values that answers stand for -/

/-- What a module answers about an attribute: the entry after the first probe, its nested attributes
after the second, none for an entry without, and the entry after the fill. -/
structure Answers where
  probed : QueryEntry
  asked : List QueryCell
  filled : QueryEntry

/-- The answers about each attribute. The second probe has the arrays only. -/
def answers : (probed second filled : List QueryEntry) → List Answers
  | p :: probed, second, f :: filled =>
    if p.HasCells then
      match second with
      | q :: second => ⟨p, q.cells, f⟩ :: answers probed second filled
      | [] => ⟨p, [], f⟩ :: answers probed [] filled
    else ⟨p, [], f⟩ :: answers probed second filled
  | _, _, _ => []

theorem answers_plain {p f : QueryEntry} {probed second filled : List QueryEntry}
    (h : ¬p.HasCells) : answers (p :: probed) second (f :: filled) =
      ⟨p, [], f⟩ :: answers probed second filled :=
  if_neg h

theorem answers_array {p q f : QueryEntry} {probed second filled : List QueryEntry}
    (h : p.HasCells) : answers (p :: probed) (q :: second) (f :: filled) =
      ⟨p, q.cells, f⟩ :: answers probed second filled :=
  if_pos h

/-- The kind of a nested attribute: an array inside an array is bytes. -/
def nestedKind (type : Word) : Kind :=
  if Kind.of type = .templateArray then .bytes else Kind.of type

def cellValue [Allocator] (encoding : Encoding) (probed final : QueryCell) : Except Fault Value :=
  if final.length = unavailable then .ok .absent
  else Value.decode (nestedKind final.type)
    (final.bytes.take (min probed.length.toNat final.length.toNat)) encoding

/-- A nested attribute after the second probe and after the fill, with its value. -/
def nestedAttribute [Allocator] (encoding : Encoding) (c : QueryCell × QueryCell) :
    Except Fault Attribute := do
  return ⟨c.2.type, ← cellValue encoding c.1 c.2⟩

namespace Answers

/-- An attribute is hidden when its length is unavailable after the first probe or the fill. -/
def hidden (x : Answers) : Bool :=
  x.probed.length == unavailable || x.filled.length == unavailable

def nestedCount (x : Answers) : Nat :=
  min (x.probed.length.toNat / entrySize) (x.filled.length.toNat / entrySize)

/-- The nested attributes that both lengths cover, after the second probe and after the fill. -/
def nested (x : Answers) : List (QueryCell × QueryCell) :=
  (x.asked.zip x.filled.cells).take x.nestedCount

/-- The value that the answers stand for. -/
def value [Allocator] (encoding : Encoding) (x : Answers) : Except Fault Value :=
  if x.hidden then .ok .absent
  else if Kind.of x.probed.type = .templateArray then do
    Memory.reserveStorage (.attributes x.nestedCount)
    return .template (← x.nested.mapM (nestedAttribute encoding))
  else Value.decode (Kind.of x.probed.type)
    (x.filled.bytes.take (min x.probed.length.toNat x.filled.length.toNat)) encoding

end Answers

/-- The error for the first hidden attribute of a template that starts at an index. -/
def firstHidden (index : Nat) (template : Template) (xs : List Answers) : Option Error :=
  (xs.findIdx? Answers.hidden).map fun i =>
    .attributeUnavailable (index + i) ((template.map Typed.type)[i]?.getD 0)

/-- The result of a read: the first hidden attribute, else the status of the fill. -/
def verdict (template : Template) (xs : List Answers) (status : Word) : Except Fault Unit :=
  match firstHidden 0 template xs with
  | some e => .error (.error e)
  | none => if status = Status.ok then .ok () else .error (.error (.status function status))

def withValues (template : Template) (values : List Value) : Template :=
  List.zipWith (fun a v => ⟨a.type, v⟩) template values

/-! ### Decoding -/

theorem decodeScalar_eq (type final : Word) (bytes : List UInt8) (n : Nat) (encoding : Encoding) :
    decodeScalar type final bytes n encoding =
      if final = unavailable then .ok .absent
      else Value.decode (nestedKind type) (bytes.take (min n final.toNat)) encoding := by
  unfold decodeScalar nestedKind
  rw [Nat.min_comm]
  split
  · rfl
  · cases Kind.of type <;> rfl

theorem decodeCell_eq (encoding : Encoding) {cell : QueryCell × Option Buffer} {c : QueryCell}
    (hsized : ∀ b, cell.2 = some b → b.Sized cell.1.length)
    (hc : ∃ w, c = (Slot.bindCell cell).write w) :
    decodeCell encoding (c, cell.2) = nestedAttribute encoding (cell.1, c) := by
  simp only [decodeCell, decodeScalar_eq, nestedAttribute, cellValue,
    show c.buffer.getD [] = c.bytes from rfl]
  cases hbuffer : cell.2 with
  | none =>
    obtain ⟨w, rfl⟩ := hc
    have hbytes : ((Slot.bindCell cell).write w).bytes = [] := by
      simp [QueryCell.bytes, QueryCell.write, Slot.bindCell, hbuffer]
    rw [hbytes, List.take_nil, List.take_nil]
  | some b => simp only [(hsized b hbuffer).1]

theorem filled_cells {p f : QueryEntry} {cells : List (QueryCell × Option Buffer)}
    (hf : (bind p (.nested cells)).Written f) :
    List.Forall₂ (fun cell c => ∃ w, c = (Slot.bindCell cell).write w) cells f.cells := by
  obtain ⟨w, rfl⟩ := hf
  obtain ⟨writes, hwrites⟩ := QueryEntry.write_cells (bind p (.nested cells)) w
  rw [hwrites, bind_nested_cells]
  exact List.forall₂_map_left_iff.mp (QueryCell.writeAll_forall₂ _ writes)

theorem decodeCells_eq (encoding : Encoding) {p f : QueryEntry}
    {cells : List (QueryCell × Option Buffer)} (hfits : (Slot.nested cells).Fits p)
    (hf : (bind p (.nested cells)).Written f) :
    ((f.cells.zip (cells.map Prod.snd)).take (f.length.toNat / entrySize)).mapM
        (decodeCell encoding) =
      (Answers.mk p (cells.map Prod.fst) f).nested.mapM (nestedAttribute encoding) := by
  obtain ⟨-, -, hcells, hsized⟩ := hfits
  have hwritten := filled_cells hf
  -- Both lists pair the readied attributes with the filled ones, and keep different halves.
  have hasked : (cells.map Prod.fst).zip f.cells =
      (cells.zip f.cells).map fun e => (e.1.1, e.2) := by
    rw [List.zip_map_left]
    rfl
  have hfilled : f.cells.zip (cells.map Prod.snd) =
      (cells.zip f.cells).map fun e => (e.2, e.1.2) := by
    rw [← List.zip_swap, List.zip_map_left, List.map_map]
    rfl
  have htake : (cells.zip f.cells).take (f.length.toNat / entrySize) =
      (cells.zip f.cells).take (Answers.mk p (cells.map Prod.fst) f).nestedCount := by
    rw [List.take_eq_take_min, List.length_zip, ← hwritten.length_eq, Nat.min_self, hcells,
      Nat.min_comm]
    rfl
  rw [Answers.nested, hasked, hfilled, ← List.map_take, ← List.map_take, htake]
  refine mapM_eq_of_forall₂ ?_
  rw [List.forall₂_map_left_iff, List.forall₂_map_right_iff, List.forall₂_same]
  intro e he
  have hzip := List.mem_of_mem_take he
  exact decodeCell_eq encoding (hsized e.1 (List.of_mem_zip hzip).1)
    (List.forall₂_zip hwritten hzip)

/-- What the decoding of an attribute gives: the value of its answers, and nothing for one that is
hidden. -/
theorem decodeEntry_eq (encoding : Encoding) {p f : QueryEntry} {slot : Slot}
    (hfits : slot.Fits p) (hf : (bind p slot).Written f) :
    decodeEntry slot f encoding = ((Answers.mk p slot.asked f).value encoding).map fun v =>
      if (Answers.mk p slot.asked f).hidden then none else some v := by
  have htype : f.type = p.type := by
    obtain ⟨w, rfl⟩ := hf
    rfl
  unfold Answers.value
  by_cases hhidden : (Answers.mk p slot.asked f).hidden = true
  · rw [hhidden, if_pos rfl]
    have hor : p.length = unavailable ∨ f.length = unavailable := by
      simpa [Answers.hidden] using hhidden
    unfold decodeEntry
    split
    · rfl
    · next hfinal =>
      have hp : p.length = unavailable := hor.resolve_right hfinal
      cases slot with
      | unavailable => rfl
      | scalar | nested => exact absurd hp hfits.1
  · have hshown : ¬(p.length = unavailable ∨ f.length = unavailable) := by
      simpa [Answers.hidden] using hhidden
    obtain ⟨hp, hfinal⟩ := not_or.mp hshown
    simp only [if_neg hhidden]
    cases slot with
    | unavailable => exact absurd hfits hp
    | scalar b =>
      obtain ⟨-, hk, hsized⟩ := hfits
      simp only [decodeEntry, hfinal, if_false, decodeScalar_eq, htype, hsized.1, nestedKind, hk]
      exact bind_pure_comp _ _
    | nested cells =>
      have hcount : min (f.length.toNat / entrySize) cells.length =
          (Answers.mk p (cells.map Prod.fst) f).nestedCount := by
        rw [hfits.2.2.1, Nat.min_comm]
        rfl
      rw [if_pos hfits.2.1]
      simp only [decodeEntry, hfinal, if_false, Slot.asked, hcount]
      change (_ >>= fun _ =>
        ((f.cells.zip (cells.map Prod.snd)).take (f.length.toNat / entrySize)).mapM
          (decodeCell encoding) >>= fun nested => pure (some (Value.template nested))) = _
      rw [decodeCells_eq encoding hfits hf]
      cases reserveStorage (.attributes (Answers.mk p (cells.map Prod.fst) f).nestedCount) with
      | error e => rfl
      | ok _ =>
        cases (Answers.mk p (cells.map Prod.fst) f).nested.mapM (nestedAttribute encoding) <;> rfl

/-- An attribute with its storage after the fill is decoded as its answers say. -/
def Decodes [Allocator] (encoding : Encoding) (e : Slot × QueryEntry) (x : Answers) : Prop :=
  decodeEntry e.1 e.2 encoding =
    (x.value encoding).map fun v => if x.hidden then none else some v

theorem Readies.decodes (encoding : Encoding) {W : QueryEntry → QueryEntry → Prop}
    {probed second filled : List QueryEntry} {ready : List Slot}
    (hready : Readies W probed second ready)
    (hfilled : List.Forall₂ QueryEntry.Written (lentQuery (probed.zip ready)) filled) :
    List.Forall₂ (Decodes encoding) (ready.zip filled) (answers probed second filled) := by
  induction hready generalizing filled with
  | nil => exact .nil
  | plain hno hfits hasked _ ih =>
    cases hfilled with
    | cons hf hfilled =>
      rw [answers_plain hno, ← hasked]
      exact .cons (decodeEntry_eq encoding hfits hf) (ih hfilled)
  | array hhas _ _ hfits hasked _ _ ih =>
    cases hfilled with
    | cons hf hfilled =>
      rw [answers_array hhas, ← hasked]
      exact .cons (decodeEntry_eq encoding hfits hf) (ih hfilled)

theorem answers_probed {V W : QueryEntry → QueryEntry → Prop}
    {probed second filled : List QueryEntry} {ready : List Slot}
    (hready : Readies W probed second ready)
    (hfilled : List.Forall₂ V (lentQuery (probed.zip ready)) filled) :
    (answers probed second filled).map Answers.probed = probed := by
  induction hready generalizing filled with
  | nil => rfl
  | plain hno _ _ _ ih =>
    cases hfilled with
    | cons _ hfilled => rw [answers_plain hno, List.map_cons, ih hfilled]
  | array hhas _ _ _ _ _ _ ih =>
    cases hfilled with
    | cons _ hfilled => rw [answers_array hhas, List.map_cons, ih hfilled]

theorem firstHidden_cons (index : Nat) (a : Attribute) (template : Template) (x : Answers)
    (xs : List Answers) : firstHidden index (a :: template) (x :: xs) =
      if x.hidden then some (.attributeUnavailable index a.type)
      else firstHidden (index + 1) template xs := by
  unfold firstHidden
  rw [List.findIdx?_cons]
  split
  · rfl
  · rw [Option.map_map]
    congr 1
    funext i
    simp only [Function.comp_apply, Nat.add_assoc, Nat.add_comm 1, List.map_cons,
      List.getElem?_cons_succ]

theorem decodeAll_cons {encoding : Encoding} {a : Attribute} {e : Slot × QueryEntry} {x : Answers}
    {v : Value} (hx : Decodes encoding e x) (hv : x.value encoding = .ok v) (index : Nat)
    (template : Template) (rest : List (Slot × QueryEntry)) :
    decodeAll encoding index (a :: template) (e :: rest) =
      let (result, decoded) := decodeAll encoding (index + 1) template rest
      (result.map fun found =>
          if x.hidden then some (.attributeUnavailable index a.type) else found,
        ⟨a.type, v⟩ :: decoded) := by
  rw [Decodes, hv] at hx
  rw [decodeAll, hx]
  obtain ⟨result, decoded⟩ := decodeAll encoding (index + 1) template rest
  by_cases hhidden : x.hidden = true
  · rw [Answers.value, if_pos hhidden] at hv
    cases hv
    cases result <;> simp [Except.map, hhidden]
  · cases result <;> simp [Except.map, hhidden]

/-- Attributes that can be decoded get their values, whatever becomes of those after them. -/
theorem decodeAll_append {encoding : Encoding} {template : Template} {values : List Value}
    {fetched : List (Slot × QueryEntry)} {xs : List Answers}
    (hdecodes : List.Forall₂ (Decodes encoding) fetched xs)
    (hlength : template.length = xs.length)
    (h : xs.mapM (Answers.value encoding) = .ok values) (index : Nat) (rest : Template)
    (others : List (Slot × QueryEntry)) :
    decodeAll encoding index (template ++ rest) (fetched ++ others) =
      let (result, decoded) := decodeAll encoding (index + template.length) rest others
      (result.map (firstHidden index template xs).or, withValues template values ++ decoded) := by
  rw [mapM_eq_ok_iff] at h
  induction hdecodes generalizing template values index with
  | nil =>
    rw [List.length_eq_zero_iff.mp hlength]
    change decodeAll encoding index rest others = _
    rcases decodeAll encoding index rest others with ⟨_ | _, _⟩ <;> rfl
  | cons hx _ ih =>
    cases template with
    | nil => cases hlength
    | cons a template =>
      cases h with
      | cons hv hvs =>
        rw [List.cons_append, List.cons_append, decodeAll_cons hx hv,
          ih (Nat.succ.inj hlength) hvs, firstHidden_cons, List.length_cons, Nat.add_right_comm]
        obtain ⟨result, decoded⟩ := decodeAll encoding (index + template.length + 1) rest others
        refine Prod.ext ?_ rfl
        cases result with
        | error e => rfl
        | ok found =>
          refine congrArg Except.ok ?_
          split <;> rfl

theorem decodeAll_eq {encoding : Encoding} {template : Template} {values : List Value}
    {fetched : List (Slot × QueryEntry)} {xs : List Answers}
    (hdecodes : List.Forall₂ (Decodes encoding) fetched xs)
    (hlength : template.length = xs.length)
    (h : xs.mapM (Answers.value encoding) = .ok values) (index : Nat) :
    decodeAll encoding index template fetched =
      (.ok (firstHidden index template xs), withValues template values) := by
  have happend := decodeAll_append hdecodes hlength h index [] []
  rw [List.append_nil, List.append_nil] at happend
  simpa [decodeAll, Except.map] using happend

/-! ### Runs that come to the fill -/

/-- The memory for the values of attributes whose lengths have been probed. -/
def slotDemands (entries : List QueryEntry) : List Demand :=
  .slots entries.length :: entries.flatMap QueryEntry.demands

/-- The number of attributes that are arrays with nested attributes. -/
def arrayCount (entries : List QueryEntry) : Nat := entries.countP fun e => e.HasCells

/-- The memory for a second probe of `count` arrays. -/
def arrayDemands (count : Nat) : List Demand := Demand.arrayIndices count ++ [.entries count]

/-- The memory that an answer to the first probe calls for. -/
def probedDemands (entries : List QueryEntry) : List Demand :=
  slotDemands entries ++ arrayDemands (arrayCount entries)

/-- Nothing stops a fetch: the host has the memory that it comes to need, and no status stops it. -/
structure Unhindered [Allocator] (template : Template) (made : List QueryExchange) : Prop where
  entries : (Demand.entries template.length).Met
  probe : ∀ {probe : QueryExchange} {rest : List QueryExchange}, made = probe :: rest →
    probe.request = probeQuery template →
    tolerated probe.reply.status = true ∧ Affords (probedDemands (after probe))
  second : ∀ {probe x : QueryExchange} {rest : List QueryExchange} {slots : List Slot},
    made = probe :: x :: rest → Probed template probe → allocateSlots (after probe) = .ok slots →
    x.request = lentQuery (arrays (after probe) slots) →
    tolerated x.reply.status = true ∧ ∀ e ∈ after x, ∀ c ∈ e.cells, Affords c.demands
  fill : ∀ {probe fill : QueryExchange} {second : List QueryExchange} {ready : List Slot},
    made = probe :: (second ++ [fill]) → Readied template probe second ready →
    fill.request = lentQuery ((after probe).zip ready) → tolerated fill.reply.status = true

theorem Buffer.exists_allocate_iff {n : Nat} :
    (∃ b, Buffer.allocate n = .ok b) ↔ (Buffer.demand n).Met := by
  simp only [Buffer.allocate_eq_ok_iff, exists_and_left, exists_eq, and_true]

namespace Slot

theorem exists_allocate_iff {p : QueryEntry} :
    (∃ slot, allocate p = .ok slot) ↔ Affords p.demands := by
  unfold allocate QueryEntry.demands
  split
  · exact iff_of_true ⟨_, rfl⟩ affords_nil
  · split
    · next hk =>
      rw [if_pos hk]
      simp only [bind_eq_ok_iff, exists_unit_iff, reserveStorage_eq_ok_iff, pure_eq_ok_iff,
        exists_and_left, exists_eq', and_true, affords_cons, affords_nil]
    · next hk =>
      rw [if_neg hk]
      simp only [bind_eq_ok_iff, pure_eq_ok_iff, affords_cons, affords_nil, and_true,
        ← Buffer.exists_allocate_iff]
      exact exists_comm.trans (exists_congr fun b => by simp)

theorem exists_allocateCell_iff {c : QueryCell} :
    (∃ cell, allocateCell c = .ok cell) ↔ Affords c.demands := by
  unfold allocateCell QueryCell.demands
  split
  · exact iff_of_true ⟨_, rfl⟩ affords_nil
  · simp only [bind_eq_ok_iff, pure_eq_ok_iff, affords_cons, affords_nil, and_true,
      ← Buffer.exists_allocate_iff]
    exact exists_comm.trans (exists_congr fun b => by simp)

theorem exists_allocateCells {q : QueryEntry} (h : ∀ c ∈ q.cells, Affords c.demands)
    (slot : Slot) : ∃ ready, slot.allocateCells q = .ok ready := by
  unfold allocateCells
  split
  · split
    · next cells hq =>
      have hcells : q.cells = cells := by simp [QueryEntry.cells, hq]
      obtain ⟨readied, hr⟩ := exists_mapM_eq_ok fun c hc =>
        exists_allocateCell_iff.mpr (h c (hcells ▸ hc))
      exact ⟨_, bind_eq_ok_iff.mpr ⟨readied, hr, rfl⟩⟩
    · exact ⟨_, rfl⟩
  · exact ⟨_, rfl⟩

end Slot

theorem length_arrays {entries : List QueryEntry} {slots : List Slot}
    (hs : List.Forall₂ (fun p slot => Slot.allocate p = .ok slot) entries slots) :
    (arrays entries slots).length = arrayCount entries := by
  unfold arrays arrayCount
  induction hs with
  | nil => rfl
  | @cons p slot _ _ ha _ ih =>
    have harray := (Slot.of_allocate ha).2
    rw [List.zip_cons_cons, List.filter_cons, List.countP_cons]
    by_cases hcells : p.HasCells
    · simp [harray.mpr hcells, hcells, ih]
    · simp [mt harray.mp hcells, hcells, ih]

theorem exists_allocateSlots_iff {entries : List QueryEntry} :
    (∃ slots, allocateSlots entries = .ok slots) ↔ Affords (probedDemands entries) := by
  simp only [allocateSlots_eq_ok_iff, probedDemands, slotDemands, arrayDemands, affords_append,
    affords_cons, affords_nil, and_true, affords_flatMap, ← Slot.exists_allocate_iff]
  constructor
  · rintro ⟨slots, hslots, hs, hindices, hentries⟩
    rw [length_arrays hs] at hindices hentries
    have hall : ∀ p ∈ entries, ∃ slot, Slot.allocate p = .ok slot :=
      fun p hp => (forall₂_mem_right hs.flip hp).imp fun _ h => h.2
    exact ⟨⟨hslots, hall⟩, hindices, hentries⟩
  · rintro ⟨⟨hslots, hall⟩, hindices, hentries⟩
    obtain ⟨slots, hs⟩ := exists_mapM_eq_ok hall
    rw [mapM_eq_ok_iff] at hs
    rw [← length_arrays hs] at hindices hentries
    exact ⟨slots, hslots, hs, hindices, hentries⟩

theorem exists_allocateNested {probed : List QueryEntry}
    (h : ∀ q ∈ probed, ∀ c ∈ q.cells, Affords c.demands) (slots : List Slot) :
    ∃ ready, allocateNested slots probed = .ok ready := by
  induction slots generalizing probed with
  | nil => exact ⟨_, rfl⟩
  | cons slot slots ih =>
    unfold allocateNested
    split
    · cases probed with
      | nil => exact ⟨_, rfl⟩
      | cons q probed =>
        obtain ⟨r, hr⟩ := Slot.exists_allocateCells (h q List.mem_cons_self) slot
        obtain ⟨ready, hready⟩ := ih fun q' hq' => h q' (List.mem_cons_of_mem _ hq')
        exact ⟨_, bind_eq_ok_iff.mpr ⟨r, hr, bind_eq_ok_iff.mpr ⟨ready, hready, rfl⟩⟩⟩
    · obtain ⟨ready, hready⟩ := ih h
      exact ⟨_, bind_eq_ok_iff.mpr ⟨ready, hready, rfl⟩⟩

/-- A fetch that nothing stops comes to the fill. -/
theorem Fetched.completed {template : Template} {made : List QueryExchange}
    {outcome : Except Fault (Word × List (Slot × QueryEntry))} (h : Fetched template made outcome)
    (hu : Unhindered template made) :
    ∃ probe second fill ready, made = probe :: (second ++ [fill]) ∧
      Readied template probe second ready ∧
      fill.request = lentQuery ((after probe).zip ready) ∧
      outcome = .ok (fill.reply.status, ready.zip (after fill)) := by
  have refuted {x : QueryExchange} (h : tolerated x.reply.status = true)
      (hr : tolerated x.reply.status = false) : False := by
    rw [h] at hr
    cases hr
  cases h with
  | cramped he =>
    rw [reserveStorage_eq_ok_iff.mpr hu.entries] at he
    cases he
  | unprobed _ hp hr => exact (refuted (hu.probe rfl hp).1 hr).elim
  | @unallocated probe _ hp he =>
    obtain ⟨slots, hs⟩ := exists_allocateSlots_iff.mpr (hu.probe rfl hp.request).2
    rw [hs] at he
    cases he
  | @unprovided probe slots second _ hp hs he =>
    generalize hout : Except.error _ = outcome at he
    cases he with
    | plain => cases hout
    | refused _ hx hr => exact (refuted (hu.second rfl hp hs hx).1 hr).elim
    | @answered x _ hx _ =>
      obtain ⟨ready, hr⟩ := exists_allocateNested (hu.second rfl hp hs hx).2 slots
      rw [hr] at hout
      cases hout
  | unfilled hready hfill hr => exact (refuted (hu.fill rfl hready hfill) hr).elim
  | filled hready hfill _ => exact ⟨_, _, _, _, rfl, hready, hfill, rfl⟩

theorem Readied.second_length {template : Template} {probe : QueryExchange}
    {second : List QueryExchange} {ready : List Slot} (h : Readied template probe second ready) :
    second.length = if ∃ p ∈ after probe, p.HasCells then 1 else 0 := by
  obtain ⟨slots, hslots, hprovided⟩ := h.provided
  have hnil := arrays_eq_nil_iff (allocateSlots_eq_ok_iff.mp hslots).2.1
  generalize hout : Except.ok ready = outcome at hprovided
  cases hprovided with
  | plain hno => rw [if_neg (hnil.mp hno), List.length_nil]
  | refused => cases hout
  | answered hne => rw [if_pos (not_not.mp (mt hnil.mpr hne)), List.length_singleton]

theorem Readied.probed_types {template : Template} {probe : QueryExchange}
    {second : List QueryExchange} {ready : List Slot} (h : Readied template probe second ready) :
    (after probe).map QueryEntry.type = template.map Typed.type := by
  have hwritten := after_written probe
  rw [h.request, probeQuery, List.forall₂_map_left_iff] at hwritten
  rw [← List.forall₂_eq_eq_eq, List.forall₂_map_left_iff, List.forall₂_map_right_iff]
  refine hwritten.flip.imp ?_
  rintro p a ⟨w, rfl⟩
  rfl

theorem Readied.answers_types {template : Template} {probe fill : QueryExchange}
    {second : List QueryExchange} {ready : List Slot}
    (hready : Readied template probe second ready)
    (hfill : fill.request = lentQuery ((after probe).zip ready)) :
    (answers (after probe) (second.flatMap after) (after fill)).map (fun x => x.probed.type) =
      template.map Typed.type := by
  have hfilled : List.Forall₂ QueryEntry.Written (lentQuery ((after probe).zip ready))
      (after fill) := hfill ▸ after_written fill
  have htypes := hready.probed_types
  rw [← answers_probed hready.readies_written hfilled, List.map_map] at htypes
  exact htypes

theorem Readied.answers_length {template : Template} {probe fill : QueryExchange}
    {second : List QueryExchange} {ready : List Slot}
    (hready : Readied template probe second ready)
    (hfill : fill.request = lentQuery ((after probe).zip ready)) :
    template.length = (answers (after probe) (second.flatMap after) (after fill)).length := by
  simpa using (congrArg List.length (hready.answers_types hfill)).symm

theorem Readied.decodes (encoding : Encoding) {template : Template} {probe fill : QueryExchange}
    {second : List QueryExchange} {ready : List Slot}
    (hready : Readied template probe second ready)
    (hfill : fill.request = lentQuery ((after probe).zip ready)) :
    List.Forall₂ (Decodes encoding) (ready.zip (after fill))
      (answers (after probe) (second.flatMap after) (after fill)) :=
  hready.readies_written.decodes encoding (hfill ▸ after_written fill)

theorem conclude_eq {encoding : Encoding} {template : Template} {probe fill : QueryExchange}
    {second : List QueryExchange} {ready : List Slot} {values : List Value}
    (hready : Readied template probe second ready)
    (hfill : fill.request = lentQuery ((after probe).zip ready))
    (h : (answers (after probe) (second.flatMap after) (after fill)).mapM
      (Answers.value encoding) = .ok values) :
    conclude encoding template (.ok (fill.reply.status, ready.zip (after fill))) =
      (verdict template (answers (after probe) (second.flatMap after) (after fill))
        fill.reply.status, withValues template values) := by
  rw [conclude, decodeAll_eq (hready.decodes encoding hfill) (hready.answers_length hfill) h 0]
  unfold verdict Negotiation.check
  cases firstHidden 0 template (answers (after probe) (second.flatMap after) (after fill)) with
  | some e => rfl
  | none =>
    by_cases hok : fill.reply.status = Status.ok <;> simp only [hok, if_true, if_false] <;> rfl

/-- Every attribute is answered on the storage that it was lent. -/
theorem mem_answers {V W : QueryEntry → QueryEntry → Prop} {probed second filled : List QueryEntry}
    {ready : List Slot} (hready : Readies W probed second ready)
    (hfilled : List.Forall₂ V (lentQuery (probed.zip ready)) filled) {x : Answers}
    (hx : x ∈ answers probed second filled) :
    ∃ slot, (x.probed, slot) ∈ probed.zip ready ∧ slot.asked = x.asked ∧
      V (bind x.probed slot) x.filled := by
  induction hready generalizing filled with
  | nil => cases hx
  | plain hno _ hasked _ ih =>
    cases hfilled with
    | cons hf hfilled =>
      rw [answers_plain hno] at hx
      rcases List.mem_cons.mp hx with rfl | hx
      · exact ⟨_, List.mem_cons_self, hasked, hf⟩
      · obtain ⟨slot, hmem, h⟩ := ih hfilled hx
        exact ⟨slot, List.mem_cons_of_mem _ hmem, h⟩
  | array hhas _ _ _ hasked _ _ ih =>
    cases hfilled with
    | cons hf hfilled =>
      rw [answers_array hhas] at hx
      rcases List.mem_cons.mp hx with rfl | hx
      · exact ⟨_, List.mem_cons_self, hasked, hf⟩
      · obtain ⟨slot, hmem, h⟩ := ih hfilled hx
        exact ⟨slot, List.mem_cons_of_mem _ hmem, h⟩

theorem nested_length {x : Answers} {slot : Slot} (hfits : slot.Fits x.probed)
    (hasked : slot.asked = x.asked) (hf : (bind x.probed slot).Written x.filled)
    (hk : Kind.of x.probed.type = .templateArray) (hshown : x.hidden = false) :
    x.nested.length = x.nestedCount := by
  cases slot with
  | unavailable =>
    have hu : x.probed.length = unavailable := hfits
    simp [Answers.hidden, hu] at hshown
  | scalar => exact absurd hk hfits.2.1
  | nested cells =>
    have hlength := (filled_cells hf).length_eq
    rw [Answers.nested, ← hasked, List.length_take, List.length_zip, ← hlength, Slot.asked,
      List.length_map, Nat.min_self, hfits.2.2.1]
    exact Nat.min_eq_left (Nat.min_le_left _ _)

/-- The host has the memory that the answers of a module call for: the lengths after the first
probe, and the nested lengths after the second. -/
structure Affordable [Allocator] (template : Template) (made : List QueryExchange) : Prop where
  entries : (Demand.entries template.length).Met
  probed : ∀ x ∈ made.take 1, Affords (probedDemands (after x))
  nested : ∀ x ∈ made.take 2, ∀ e ∈ after x, ∀ c ∈ e.cells, Affords c.demands

theorem Affordable.unhindered {template : Template} {made : List QueryExchange}
    (h : Affordable template made)
    (hstatus : ∀ x ∈ made, tolerated x.reply.status = true) : Unhindered template made where
  entries := h.entries
  probe := by
    rintro probe rest rfl -
    exact ⟨hstatus probe (by simp), h.probed probe (by simp)⟩
  second := by
    rintro probe x rest slots rfl - - -
    exact ⟨hstatus x (by simp), h.nested x (by simp)⟩
  fill := by
    rintro probe fill second ready rfl - -
    exact hstatus fill (by simp)

/-- A read from a module that returns only tolerated statuses makes a second probe exactly when
there are nested attributes to probe, and returns the values that its answers stand for, unless one
cannot be decoded. -/
theorem read_eq_of_answers (encoding : Encoding) {template : Template} (hne : template ≠ [])
    (call : Callee σ) (s : σ)
    (hstatus : ∀ x ∈ exchanges encoding template call s, tolerated x.reply.status = true)
    (hroom : Affordable template (exchanges encoding template call s)) :
    ∃ probe second fill s', exchanges encoding template call s = probe :: (second ++ [fill]) ∧
      Calls call s (exchanges encoding template call s) s' ∧
      second.length = (if ∃ p ∈ after probe, p.HasCells then 1 else 0) ∧
      let xs := answers (after probe) (second.flatMap after) (after fill)
      xs.map (fun x => x.probed.type) = template.map Typed.type ∧
      (∀ x ∈ xs, Kind.of x.probed.type = .templateArray → x.hidden = false →
        x.nested.length = x.nestedCount) ∧
      ∀ values, xs.mapM (Answers.value encoding) = .ok values →
        (read encoding template call).run s =
          ((verdict template xs fill.reply.status, withValues template values), s') := by
  obtain ⟨outcome, s', hfetched, hcalls, hread⟩ := read_fetched encoding hne call s
  obtain ⟨probe, second, fill, ready, hmade, hready, hfill, rfl⟩ :=
    hfetched.completed (hroom.unhindered hstatus)
  have hfilled : List.Forall₂ QueryEntry.Written (lentQuery ((after probe).zip ready))
      (after fill) := hfill ▸ after_written fill
  refine ⟨probe, second, fill, s', hmade, hcalls, hready.second_length,
    hready.answers_types hfill, ?_, ?_⟩
  · intro x hx hk hshown
    obtain ⟨slot, hmem, hasked, hf⟩ := mem_answers hready.readies_written hfilled hx
    exact nested_length (hready.readies_written.ready hmem).fits hasked hf hk hshown
  · intro values hvalues
    rw [hread, conclude_eq hready hfill hvalues]

end Reader

namespace Reader

open Simulation

/-- A module that gives prepared replies, one after the other. -/
def prepared : Callee (List Reply) := fun _ => modifyGet fun rs => (rs.headD {}, rs.tail)

def shrinking : List Reply :=
  [{ status := Status.attributeTypeInvalid
     entries := [{ length := some 8 }, { length := some 72 }, { length := some unavailable }] },
   { entries := [{ cells := [{ type := some 0x0, length := some 8 },
       { type := some 0x1, length := some 1 },
       { type := some 0x3, length := some unavailable }] }] },
   { status := Status.attributeSensitive
     entries := [{ bytes := [4, 0, 0, 0, 0, 0, 0, 0] },
       { length := some 48, cells := [{ bytes := [3, 0, 0, 0, 0, 0, 0, 0] }, { bytes := [1] }] },
       { length := some 5 }] }]

/-- An array keeps the nested attributes that are left, and an attribute that was hidden in the
first probe stays hidden. -/
theorem read_shrinking_array :
    ((read .utf8 [.query 0x0, .query 0x40000211, .query 0x3] prepared).run shrinking).1 =
      (.error (.error (.attributeUnavailable 2 0x3)),
        [⟨0x0, .long 4⟩, ⟨0x40000211, .template [⟨0x0, .long 3⟩, ⟨0x1, .bool true⟩]⟩,
          ⟨0x3, .absent⟩]) := by
  obtain ⟨probe, second, fill, s', hmade, -, hsecond, -, -, hread⟩ := read_eq_of_answers .utf8
    (List.cons_ne_nil (Typed.query 0x0) [.query 0x40000211, .query 0x3]) prepared shrinking
    (by decide +kernel) ⟨by decide, by decide +kernel, by decide +kernel⟩
  have hthree : second.length = 1 := by
    have hcount : (exchanges .utf8 [Typed.query 0x0, .query 0x40000211, .query 0x3] prepared
      shrinking).length = 3 := by decide +kernel
    rw [hmade] at hcount
    simpa using hcount
  obtain ⟨x, rfl⟩ := List.length_eq_one_iff.mp hthree
  cases hmade
  rw [hread [.long 4, .template [⟨0x0, .long 3⟩, ⟨0x1, .bool true⟩], .absent] rfl]
  rfl

end Reader

end Cryptoki
