import Cryptoki.Attribute.Reader
import Cryptoki.Proofs.Exchanges
import Cryptoki.Proofs.Outcome

/-! The ways in which the values of a template can be fetched. `Fetched` relates the exchanges of a
fetch to its outcome, with a constructor for each point at which it can end, and `fetch_reports`
says that every fetch is one of these. -/

namespace Cryptoki.Reader

variable {σ τ : Type}

abbrev QueryExchange := Exchange (List QueryEntry)

/-- The entries of a query as the module leaves them. -/
def after (x : QueryExchange) : List QueryEntry := QueryEntry.writeAll x.request x.reply.entries

/-- The query of the first probe: null pointers and no lengths. -/
def probeQuery (template : Template) : List QueryEntry := template.map fun a => ⟨a.type, 0, .null⟩

/-- A query for attributes that have storage. -/
def lentQuery (entries : List (QueryEntry × Slot)) : List QueryEntry :=
  entries.map fun e => bind e.1 e.2

section Ways

variable [Allocator]

/-- How nested attributes get their buffers: without a call when there are none, else from the
answer to the second probe. -/
inductive Provided (entries : List QueryEntry) (slots : List Slot) :
    List QueryExchange → Except Fault (List Slot) → Prop
  | plain : arrays entries slots = [] → Provided entries slots [] (.ok slots)
  | refused {x : QueryExchange} : arrays entries slots ≠ [] →
      x.request = lentQuery (arrays entries slots) → tolerated x.reply.status = false →
      Provided entries slots [x] (.error (.error (.status function x.reply.status)))
  | answered {x : QueryExchange} : arrays entries slots ≠ [] →
      x.request = lentQuery (arrays entries slots) → tolerated x.reply.status = true →
      Provided entries slots [x] (liftM (allocateNested slots (after x)))

/-- The first probe has been answered. -/
structure Probed (template : Template) (probe : QueryExchange) : Prop where
  room : Memory.reserveStorage (.entries template.length) = .ok ()
  request : probe.request = probeQuery template
  tolerated : tolerated probe.reply.status = true

/-- Every attribute has its storage, and the fill is all that is left to do. -/
structure Readied (template : Template) (probe : QueryExchange) (second : List QueryExchange)
    (ready : List Slot) : Prop extends Probed template probe where
  provided : ∃ slots, allocateSlots (after probe) = .ok slots ∧
    Provided (after probe) slots second (.ok ready)

/-- How a fetch goes: the exchanges it makes and what it comes to. -/
inductive Fetched (template : Template) :
    List QueryExchange → Except Fault (Word × List (Slot × QueryEntry)) → Prop
  | cramped {e : Error} : Memory.reserveStorage (.entries template.length) = .error e →
      Fetched template [] (.error (.error e))
  | unprobed {probe : QueryExchange} :
      Memory.reserveStorage (.entries template.length) = .ok () →
      probe.request = probeQuery template → tolerated probe.reply.status = false →
      Fetched template [probe] (.error (.error (.status function probe.reply.status)))
  | unallocated {probe : QueryExchange} {fault : Fault} : Probed template probe →
      allocateSlots (after probe) = .error fault → Fetched template [probe] (.error fault)
  | unprovided {probe : QueryExchange} {slots : List Slot} {second : List QueryExchange}
      {fault : Fault} : Probed template probe → allocateSlots (after probe) = .ok slots →
      Provided (after probe) slots second (.error fault) →
      Fetched template (probe :: second) (.error fault)
  | unfilled {probe fill : QueryExchange} {second : List QueryExchange} {ready : List Slot} :
      Readied template probe second ready → fill.request = lentQuery ((after probe).zip ready) →
      tolerated fill.reply.status = false →
      Fetched template (probe :: (second ++ [fill]))
        (.error (.error (.status function fill.reply.status)))
  | filled {probe fill : QueryExchange} {second : List QueryExchange} {ready : List Slot} :
      Readied template probe second ready → fill.request = lentQuery ((after probe).zip ready) →
      tolerated fill.reply.status = true →
      Fetched template (probe :: (second ++ [fill]))
        (.ok (fill.reply.status, ready.zip (after fill)))

def asked (x : QueryExchange) : Except Fault (Word × List QueryEntry) :=
  if tolerated x.reply.status then .ok (x.reply.status, after x)
  else .error (.error (.status function x.reply.status))

/-- What a read makes of its fetch: the result, and the template with the values. -/
def conclude (encoding : Encoding) (template : Template) :
    Except Fault (Word × List (Slot × QueryEntry)) → Except Fault Unit × Template
  | .error fault => (.error fault, template)
  | .ok (status, fetched) =>
    let (result, decoded) := decodeAll encoding 0 template fetched
    (match result with
      | .error fault => .error fault
      | .ok (some e) => .error (.error e)
      | .ok none => Negotiation.check function status, decoded)

end Ways

section Reports

variable {allocator : Allocator} {S : Tally (List QueryEntry) τ σ} {noted : Callee τ}
  {call : Callee σ}

theorem ask_reports (h : Notes S noted call) (query : List QueryEntry) :
    Reports S (ask noted query) (ask call query) fun made outcome =>
      ∃ x : QueryExchange, x.request = query ∧ made = [x] ∧ outcome = asked x := by
  have next (reply : Reply) : Reports S
      (if tolerated reply.status then pure (reply.status, QueryEntry.writeAll query reply.entries)
        else throw (.error (.status function reply.status)))
      (if tolerated reply.status then pure (reply.status, QueryEntry.writeAll query reply.entries)
        else throw (.error (.status function reply.status))) fun made outcome =>
      made = [] ∧ outcome = asked ⟨query, reply⟩ := by
    unfold asked after
    split
    · exact .lift (.ok _)
    · exact .lift (.error _)
  refine (Reports.bind (.call_once h query) next).mono ?_
  rintro made outcome (⟨e, ⟨_, _, h⟩, _⟩ | ⟨_, _, _, rfl, ⟨reply, rfl, h⟩, rfl, rfl⟩)
  · cases h
  · cases h
    exact ⟨⟨query, _⟩, rfl, rfl, rfl⟩

theorem asked_eq_ok {x : QueryExchange} {b : Word × List QueryEntry} (h : asked x = .ok b) :
    tolerated x.reply.status = true ∧ b = (x.reply.status, after x) := by
  unfold asked at h
  split at h
  · cases h
    exact ⟨‹_›, rfl⟩
  · cases h

theorem asked_eq_error {x : QueryExchange} {fault : Fault} (h : asked x = .error fault) :
    tolerated x.reply.status = false ∧ fault = .error (.status function x.reply.status) := by
  unfold asked at h
  split at h
  · cases h
  · cases h
    exact ⟨Bool.eq_false_iff.mpr ‹_›, rfl⟩

theorem fill_reports (h : Notes S noted call) (entries : List QueryEntry) (ready : List Slot) :
    Reports S
      (do
        let (status, filled) ← ask noted ((entries.zip ready).map fun e => bind e.1 e.2)
        return (status, ready.zip filled))
      (do
        let (status, filled) ← ask call ((entries.zip ready).map fun e => bind e.1 e.2)
        return (status, ready.zip filled))
      fun made outcome => ∃ fill : QueryExchange,
        fill.request = lentQuery (entries.zip ready) ∧ made = [fill] ∧
          outcome = (asked fill).map fun (status, filled) => (status, ready.zip filled) := by
  refine (Reports.bind (ask_reports h _) fun b => .lift (.ok (b.1, ready.zip b.2))).mono ?_
  rintro made outcome (⟨e, ⟨x, hx, rfl, h⟩, rfl⟩ | ⟨b, _, _, rfl, ⟨x, hx, rfl, h⟩, rfl, rfl⟩)
  · exact ⟨x, hx, rfl, by rw [← h]; rfl⟩
  · exact ⟨x, hx, rfl, by rw [← h]; rfl⟩

theorem fetch_reports (h : Notes S noted call) (template : Template) :
    Reports S (fetch template noted) (fetch template call) (Fetched template) := by
  unfold fetch
  refine (Reports.bind (.lift (liftM (Memory.reserveStorage (.entries template.length))))
    fun _ => Reports.bind (ask_reports h _) fun b =>
    Reports.bind (.lift (allocateSlots b.2)) fun slots => (?_ :
      Reports S _ _ fun made outcome =>
        (∃ e, Provided b.2 slots made (.error e) ∧ outcome = .error e) ∨
        ∃ second ready, Provided b.2 slots second (.ok ready) ∧
          ∃ fill : QueryExchange, fill.request = lentQuery (b.2.zip ready) ∧
            made = second ++ [fill] ∧
            outcome = (asked fill).map fun (status, filled) => (status, ready.zip filled))).mono ?_
  · change Reports S (ite ((arrays b.2 slots).isEmpty = true) _ _)
      (ite ((arrays b.2 slots).isEmpty = true) _ _) _
    by_cases hno : arrays b.2 slots = []
    · simp only [hno, List.isEmpty_nil, if_true]
      refine (fill_reports h b.2 slots).mono ?_
      rintro made outcome ⟨fill, hfill, rfl, ho⟩
      exact .inr ⟨[], slots, .plain hno, fill, hfill, rfl, ho⟩
    · simp only [List.isEmpty_iff, hno, if_false]
      refine (Reports.bind (ask_reports h _) fun c => Reports.bind
        (.lift (liftM (allocateNested slots c.2))) fun ready => fill_reports h b.2 ready).mono ?_
      rintro made outcome (⟨e, ⟨x, hx, rfl, he⟩, rfl⟩ | ⟨c, _, _, rfl, ⟨x, hx, rfl, hc⟩, hrest⟩)
      · obtain ⟨ht, rfl⟩ := asked_eq_error he.symm
        exact .inl ⟨_, .refused hno hx ht, rfl⟩
      · obtain ⟨ht, rfl⟩ := asked_eq_ok hc.symm
        rcases hrest with ⟨e, ⟨rfl, he⟩, rfl⟩ | ⟨ready, _, _, rfl, ⟨rfl, hr⟩, fill, hfill, rfl, ho⟩
        · exact .inl ⟨e, he ▸ .answered hno hx ht, rfl⟩
        · exact .inr ⟨[x], ready, hr ▸ .answered hno hx ht, fill, hfill, rfl, ho⟩
  · rintro made outcome (⟨e, ⟨rfl, he⟩, rfl⟩ | ⟨_, _, _, rfl, ⟨rfl, hroom⟩, hprobe⟩)
    · obtain ⟨e, hreserve, rfl⟩ := liftM_eq_error_iff.mp he.symm
      exact .cramped hreserve
    replace hroom := liftM_eq_ok_iff.mp hroom.symm
    rcases hprobe with ⟨e, ⟨probe, hp, rfl, he⟩, rfl⟩ | ⟨b, _, _, rfl, ⟨probe, hp, rfl, hb⟩, hslots⟩
    · obtain ⟨ht, rfl⟩ := asked_eq_error he.symm
      exact .unprobed hroom hp ht
    obtain ⟨ht, rfl⟩ := asked_eq_ok hb.symm
    have probed : Probed template probe := ⟨hroom, hp, ht⟩
    rcases hslots with ⟨e, ⟨rfl, he⟩, rfl⟩ | ⟨slots, _, _, rfl, ⟨rfl, hs⟩, hrest⟩
    · exact .unallocated probed he.symm
    rcases hrest with ⟨e, he, rfl⟩ | ⟨second, ready, hready, fill, hfill, rfl, ho⟩
    · exact .unprovided probed hs.symm he
    have readied : Readied template probe second ready := ⟨probed, slots, hs.symm, hready⟩
    cases hf : asked fill with
    | error e =>
      obtain ⟨ht, rfl⟩ := asked_eq_error hf
      rw [ho, hf]
      exact .unfilled readied hfill ht
    | ok c =>
      obtain ⟨ht, rfl⟩ := asked_eq_ok hf
      rw [ho, hf]
      exact .filled readied hfill ht

theorem read_tracks (h : Notes S noted call) (encoding : Encoding) {template : Template}
    (hne : template ≠ []) :
    Tracks S (read encoding template noted) (read encoding template call) fun made result =>
      ∃ outcome, Fetched template made outcome ∧ result = conclude encoding template outcome := by
  have hempty : template.isEmpty = false := List.isEmpty_eq_false_iff.mpr hne
  simp only [read, hempty, Bool.false_eq_true, if_false]
  refine (Tracks.bind (fetch_reports h template) fun outcome => (?_ : Tracks S _ _
    fun made result => made = [] ∧ result = conclude encoding template outcome)).mono ?_
  · cases outcome <;> exact .pure _
  · rintro made result ⟨outcome, first, rest, rfl, hfetched, rfl, rfl⟩
    exact ⟨outcome, by rwa [List.append_nil], rfl⟩

end Reports

/-- The exchanges that a read makes, in order. -/
def exchanges [Allocator] (encoding : Encoding) (template : Template) (call : Callee σ) (s : σ) :
    List QueryExchange :=
  ((read encoding template (recorded call)).run (s, [])).2.2

/-- A read of any attributes makes the exchanges of a fetch, and concludes from its outcome. -/
theorem read_fetched {allocator : Allocator} (encoding : Encoding) {template : Template}
    (h : template ≠ []) (call : Callee σ) (s : σ) : ∃ outcome s',
      Fetched template (exchanges encoding template call s) outcome ∧
      Calls call s (exchanges encoding template call s) s' ∧
      (read encoding template call).run s = (conclude encoding template outcome, s') := by
  obtain ⟨made, result, t, s', hn, hp, ⟨rfl, hc⟩, outcome, hf, rfl⟩ :=
    read_tracks (recorded_notes call s []) encoding h [] (s, []) s ⟨rfl, .nil s⟩
  have hmade : exchanges encoding template call s = made := by
    rw [exchanges, StateT.run, hn]
    rfl
  rw [hmade]
  exact ⟨outcome, s', hf, hc, hp⟩

theorem exchanges_nil {allocator : Allocator} (encoding : Encoding) (call : Callee σ) (s : σ) :
    exchanges encoding [] call s = [] := rfl

end Cryptoki.Reader
