import Cryptoki.Proofs.Host.Connecting
import Cryptoki.Proofs.Replay
import Cryptoki.Proofs.Span
import Cryptoki.Simulation.Memory

/-! What an operation returns when its output is in a buffer that it has lent to the module. However
often the module has asked for a larger buffer and whatever length it reports, the output is what
the module has left in the buffer of the last call (`Host.perform_returns`). -/

namespace Cryptoki

variable {allocator : Allocator} {α κ η ρ μ : Type}

/-- The calls that lend a buffer for an output, with the number of elements that it holds. -/
inductive Call.Lends : Call → Word → Prop
  | output {entry : EntryPoint} {arguments : List Argument} {capacity : Word} :
      Lends ⟨entry, arguments ++ [.output true capacity]⟩ capacity
  | objects {session limit : Word} : Lends ⟨.findObjects, [.word session, .word limit]⟩ limit
  | random {session length : Word} : Lends ⟨.generateRandom, [.word session, .word length]⟩ length

namespace Negotiation

/-- `output` is what a successful call has left in its buffer for `capacity` elements: as many as
are `reported`, at most all of them. -/
structure OutputKind.LeftBy (kind : OutputKind α) (x : Exchange Call) (capacity : Word)
    (reported : Reply → Word) (output : List α) : Prop where
  lends : x.request.Lends capacity
  status : x.reply.status = Status.ok
  output : ∃ buffer, kind.allocate capacity.toNat = .ok buffer ∧
    output = (overwrite buffer (kind.written x.reply)).take
      (min (reported x.reply).toNat capacity.toNat)

/-- `output` is what the last call has left in its buffer. -/
def OutputKind.Returns (kind : OutputKind α) (made : List (Exchange Call)) (capacity : Word)
    (reported : Reply → Word) (output : List α) : Prop :=
  ∃ before last, made = before ++ [last] ∧ kind.LeftBy last capacity reported output

theorem OutputKind.Returns.length_le {kind : OutputKind α} {made : List (Exchange Call)}
    {capacity : Word} {reported : Reply → Word} {output : List α}
    (h : kind.Returns made capacity reported output) : output.length ≤ capacity.toNat := by
  obtain ⟨before, last, -, -, -, buffer, -, rfl⟩ := h
  have htake := List.length_take_le (min (reported last.reply).toNat capacity.toNat)
    (overwrite buffer (kind.written last.reply))
  omega

/-- The elements that a fetch keeps are bounded by the capacity, which is the buffer's length. -/
theorem outcome_eq {kind : OutputKind α} (hkind : kind.Exact) {capacity : Word} {buffer : List α}
    (h : kind.allocate capacity.toNat = .ok buffer) (reply : Reply) :
    outcome kind buffer capacity reply = (overwrite buffer (kind.written reply)).take
      (min (reportedLength capacity reply).toNat capacity.toNat) := by
  have hlength : (overwrite buffer (kind.written reply)).length = capacity.toNat := by
    rw [length_overwrite, hkind _ _ h]
  rw [outcome, List.take_eq_take_min, hlength]

section Fetches

variable {kind : OutputKind α} {function : String} {made : List OutputExchange}
  {output : List α} {entry : EntryPoint} {arguments : List Argument}

/-- The output of a negotiation is what the last of its calls has left. -/
def Ends (kind : OutputKind α) (made : List OutputExchange) (output : List α) : Prop :=
  ∃ before last buffer, made = before ++ [last] ∧ last.request.present = true ∧
    last.reply.status = Status.ok ∧ kind.allocate last.request.capacity.toNat = .ok buffer ∧
    output = outcome kind buffer last.request.capacity last.reply

theorem Ends.cons (h : Ends kind made output) (x : OutputExchange) :
    Ends kind (x :: made) output := by
  obtain ⟨before, last, buffer, rfl, hlast⟩ := h
  exact ⟨x :: before, last, buffer, rfl, hlast⟩

theorem Ends.single {x : OutputExchange} {buffer : List α} (hpresent : x.request.present = true)
    (hok : x.reply.status = Status.ok)
    (hroom : kind.allocate x.request.capacity.toNat = .ok buffer) :
    Ends kind [x] (outcome kind buffer x.request.capacity x.reply) :=
  ⟨[], x, buffer, rfl, hpresent, hok, hroom, rfl⟩

theorem Filled.ends {capacity : Word} (h : Filled kind function capacity made (.ok output)) :
    Ends kind made output := by
  generalize hresult : (Except.ok output : Except Error (List α)) = result at h
  induction h with
  | cramped | failed => cases hresult
  | @done capacity buffer x hroom hrequest hok =>
    obtain ⟨request, reply⟩ := x
    obtain rfl : request = ⟨true, capacity⟩ := hrequest
    cases hresult
    exact .single rfl hok hroom
  | grown _ _ _ _ ih => exact (ih hresult).cons _

theorem Negotiated.ends (h : Negotiated kind function made (.ok output)) :
    Ends kind made output := by
  cases h with
  | told _ _ hfilled => exact hfilled.ends.cons _

theorem Guessed.ends {guess : Nat} {made : List OutputExchange} {output : List UInt8}
    (h : Guessed function guess made (.ok output)) : Ends bytes made output := by
  cases h with
  | done htried hok =>
    refine .single htried.present hok ?_
    rw [Word.toNat_ofLength htried.capacity]
    exact htried.room
  | @retried _ larger x y htried hgrew hroom hrequest hok =>
    obtain ⟨request, reply⟩ := y
    obtain rfl : request = ⟨true, reported x⟩ := hrequest
    exact (Ends.single rfl hok hroom).cons x
  | unsized _ _ _ hnegotiated => exact hnegotiated.ends.cons _

/-- With the arguments of the calls, an output that ends a negotiation is returned by the last
call. -/
theorem Ends.returns (hkind : kind.Exact) (h : Ends kind made output) (entry : EntryPoint)
    (arguments : List Argument) :
    ∃ capacity, kind.Returns (made.map (Exchange.map (Plan.outputCall entry arguments))) capacity
      (reportedLength capacity) output := by
  obtain ⟨before, ⟨⟨present, capacity⟩, reply⟩, buffer, rfl, rfl, hok, hroom, rfl⟩ := h
  exact ⟨capacity, _, _, List.map_append, .output, hok, buffer, hroom, outcome_eq hkind hroom reply⟩

end Fetches

end Negotiation

theorem Plan.respond_eq_ok {respond : List α → Response} {result : Except Error (List α)}
    {response : Response} (h : Plan.respond respond result = .ok response) :
    ∃ output, result = .ok output ∧ response = respond output := by
  cases result with
  | error e => cases h
  | ok output =>
    cases h
    exact ⟨output, rfl, rfl⟩

namespace Plan.Carried

open Negotiation (Ends OutputExchange OutputKind reportedLength)

variable {entry : EntryPoint} {template : Template} {mechanism : Option Mechanism} {plan : Plan}
  {made : List (Exchange Call)} {answer : Answer} {o : Operation} {response : Response}

/-- A response with what the last of the calls of a negotiation has left. -/
theorem exists_returns {kind : OutputKind α} (hkind : kind.Exact) {respond : List α → Response}
    {fetched : List OutputExchange} {result : Except Error (List α)}
    (hresult : Plan.respond respond result = .ok response)
    (hends : ∀ output, result = .ok output → Ends kind fetched output) (entry : EntryPoint)
    (arguments : List Argument) :
    ∃ capacity output, response = respond output ∧
      kind.Returns (fetched.map (Exchange.map (outputCall entry arguments))) capacity
        (reportedLength capacity) output := by
  obtain ⟨output, rfl, rfl⟩ := respond_eq_ok hresult
  obtain ⟨capacity, hreturns⟩ := (hends output rfl).returns hkind entry arguments
  exact ⟨capacity, output, rfl, hreturns⟩

theorem returns_bytes (h : plan.Carried entry template mechanism made answer)
    (hplans : o.Plans plan) (hunit : o.outputUnit = some 1)
    (hresult : answer.result = .ok response) :
    ∃ capacity output, response = .bytes output ∧
      Negotiation.bytes.Returns made capacity (reportedLength capacity) output := by
  cases h with
  | once => cases hunit.symm.trans hplans.1
  | words => cases hunit.symm.trans hplans
  | nothing | attributes =>
    obtain rfl := hplans
    cases hunit
  | bytes hnegotiated =>
    refine exists_returns Negotiation.bytes_exact hresult (fun output houtput => ?_) entry _
    subst houtput
    exact hnegotiated.ends
  | guessed hguessed =>
    refine exists_returns Negotiation.bytes_exact hresult (fun output houtput => ?_) entry _
    subst houtput
    exact hguessed.ends

theorem returns_words (h : plan.Carried entry template mechanism made answer)
    (hplans : o.Plans plan) (hunit : o.outputUnit = some wordSize)
    (hresult : answer.result = .ok response) :
    ∃ capacity output, response = .words output ∧
      Negotiation.words.Returns made capacity (reportedLength capacity) output := by
  cases h with
  | once => cases hunit.symm.trans hplans.1
  | bytes | guessed => cases hunit.symm.trans hplans
  | nothing | attributes =>
    obtain rfl := hplans
    cases hunit
  | words hnegotiated =>
    refine exists_returns Negotiation.words_exact hresult (fun output houtput => ?_) entry _
    subst houtput
    exact hnegotiated.ends

end Plan.Carried

namespace Operation

open Negotiation (reportedLength)

variable {plan : Plan} {template : Template} {mechanism : Option Mechanism}
  {made : List (Exchange Call)} {answer : Answer} {response : Response}

theorem foundObjects_eq {limit : Word} {buffer : List Word}
    (h : Memory.allocateWords limit.toNat = .ok buffer) (reply : Reply) :
    foundObjects buffer reply = (overwrite buffer reply.words).take
      (min (reportedLength 0 reply).toNat limit.toNat) := by
  rw [foundObjects, Negotiation.words_exact _ _ h]
  rfl

/-- A plan of one call whose reply is the response. -/
theorem ok_of_carried_once {entry : EntryPoint} {arguments : List Argument}
    {respond : Reply → Response} (h : (Plan.once arguments fun reply =>
      return { response := respond reply }).Carried entry template mechanism made answer)
    (hresult : answer.result = .ok response) :
    ∃ reply, made = [⟨⟨entry, arguments⟩, reply⟩] ∧ reply.status = Status.ok ∧
      response = respond reply := by
  cases h with
  | once reply =>
    refine ⟨reply, rfl, ?_⟩
    by_cases hok : reply.status = Status.ok
    · rw [Plan.conclusion_of_ok hok] at hresult
      cases hresult
      exact ⟨hok, rfl⟩
    · rw [Plan.conclusion_of_ne_ok hok] at hresult
      cases hresult

theorem findObjects_returns {session limit : Word}
    (hplan : (findObjects session limit).plan = .ok plan)
    (h : plan.Carried .findObjects template mechanism made answer)
    (hresult : answer.result = .ok response) :
    ∃ output, response = .words output ∧
      Negotiation.words.Returns made limit (reportedLength 0) output := by
  obtain ⟨buffer, hbuffer, hplan⟩ := bind_eq_ok_iff.mp hplan
  cases hplan
  obtain ⟨reply, rfl, hok, rfl⟩ := ok_of_carried_once h hresult
  refine ⟨_, rfl, [], _, rfl, .objects, hok, buffer, liftM_eq_ok_iff.mp hbuffer, ?_⟩
  exact foundObjects_eq (liftM_eq_ok_iff.mp hbuffer) reply

theorem generateRandom_returns {session length : Word}
    (hplan : (generateRandom session length).plan = .ok plan)
    (h : plan.Carried .generateRandom template mechanism made answer)
    (hresult : answer.result = .ok response) :
    ∃ output, response = .bytes output ∧
      Negotiation.bytes.Returns made length (fun _ => length) output ∧
      output.length = length.toNat := by
  obtain ⟨buffer, hbuffer, hplan⟩ := bind_eq_ok_iff.mp hplan
  cases hplan
  obtain ⟨reply, rfl, hok, rfl⟩ := ok_of_carried_once h hresult
  have hroom := liftM_eq_ok_iff.mp hbuffer
  have hlength : (overwrite buffer reply.bytes).length = length.toNat := by
    rw [length_overwrite, Negotiation.bytes_exact _ _ hroom]
  refine ⟨_, rfl, ⟨[], _, rfl, .random, hok, buffer, hroom, ?_⟩, hlength⟩
  -- the whole buffer is returned
  rw [Nat.min_self, ← hlength]
  exact List.take_length.symm

end Operation

namespace Host

open Negotiation (reportedLength)

theorem Performed.exists_carried {replies : Replies η ρ μ} {handle : Nat} {o : Operation}
    {host after : Host κ η ρ μ} {made : List (Exchange Call)} {answer : Answer}
    {response : Response} (h : Performed replies handle host (.operate o) made answer after)
    (hresult : answer.result = .ok response) :
    ∃ plan, o.plan = .ok plan ∧
      plan.Carried o.entry o.outputTemplate o.outputMechanism made answer := by
  cases h with
  | unreached | unprepared => cases hresult
  | unprovided hrequest | called hrequest => exact hrequest.elim
  | carried _ hprepare _ hcarried =>
    exact ⟨_, (Operation.plan_of_prepare hprepare).2, hcarried⟩

/-- An output that an operation returns is what the module has left in the buffer of the last call:
as many elements as it reports, and no more than the buffer holds. A search returns no more handles
than were asked for, and random bytes are all that were asked for. -/
theorem perform_returns (replies : Replies η ρ μ) (handle : Nat) (host : Host κ η ρ μ)
    (o : Operation) {response : Response}
    (h : ((perform replies handle (.operate o)).run host).1.result = .ok response) :
    let made := calls replies handle (.operate o) host
    (o.outputUnit = some 1 → ∃ capacity output, response = .bytes output ∧
      Negotiation.bytes.Returns made capacity (reportedLength capacity) output ∧
      output.length ≤ capacity.toNat) ∧
    (o.outputUnit = some wordSize → ∃ capacity output, response = .words output ∧
      Negotiation.words.Returns made capacity (reportedLength capacity) output ∧
      output.length ≤ capacity.toNat) ∧
    (∀ session limit, o = .findObjects session limit → ∃ output, response = .words output ∧
      Negotiation.words.Returns made limit (reportedLength 0) output ∧
      output.length ≤ limit.toNat) ∧
    ∀ session length, o = .generateRandom session length → ∃ output, response = .bytes output ∧
      Negotiation.bytes.Returns made length (fun _ => length) output ∧
      output.length = length.toNat := by
  intro made
  obtain ⟨plan, hplan, hcarried⟩ :=
    (perform_performed replies handle host (.operate o)).exists_carried h
  have hplans : o.Plans plan := o.plan_meets.of_ok hplan
  refine ⟨fun hunit => ?_, fun hunit => ?_, ?_, ?_⟩
  · obtain ⟨capacity, output, hresponse, hreturns⟩ := hcarried.returns_bytes hplans hunit h
    exact ⟨capacity, output, hresponse, hreturns, hreturns.length_le⟩
  · obtain ⟨capacity, output, hresponse, hreturns⟩ := hcarried.returns_words hplans hunit h
    exact ⟨capacity, output, hresponse, hreturns, hreturns.length_le⟩
  · rintro session limit rfl
    obtain ⟨output, hresponse, hreturns⟩ := Operation.findObjects_returns hplan hcarried h
    exact ⟨output, hresponse, hreturns, hreturns.length_le⟩
  · rintro session length rfl
    exact Operation.generateRandom_returns hplan hcarried h

end Host

end Cryptoki

namespace Cryptoki.Host

open Negotiation (reportedLength)
open Simulation

/-- A library whose one function lists slots. -/
def slotLibrary : Library := ⟨"slots", some [.getSlotList], false⟩

/-- Replies of a module that tells of one slot, has two when it is asked for them, and then reports
seven while it writes three. -/
def growingSlots : List Reply :=
  [{ length := some 1 }, { status := Status.bufferTooSmall, length := some 2 },
    { words := [5, 6, 7], length := some 7 }]

theorem slotList_growing :
    let replies : Replies Unit Unit (List Reply) := fun _ _ => scripted
    let host : Host Unit Unit Unit (List Reply) :=
      ((connect slotLibrary).run (fresh () none growingSlots)).2
    let request : Request Unit Unit := .operate (.slotList true)
    ((perform replies 0 request).run host).1.result = .ok (.words [5, 6]) ∧
      ∃ capacity, Negotiation.words.Returns (calls replies 0 request host) capacity
        (reportedLength capacity) [5, 6] := by
  intro replies host request
  let asked : Negotiation.OutputExchange := ⟨⟨false, 0⟩, growingSlots[0]⟩
  let cramped : Negotiation.OutputExchange := ⟨⟨true, 1⟩, growingSlots[1]⟩
  let fetched : Negotiation.OutputExchange := ⟨⟨true, 2⟩, growingSlots[2]⟩
  have hfilled : Negotiation.Filled Negotiation.words EntryPoint.getSlotList.name 2 [fetched]
      (.ok [5, 6]) :=
    @Negotiation.Filled.done _ _ _ 2 [0, 0] _ rfl rfl rfl
  have hnegotiated : Negotiation.Negotiated Negotiation.words EntryPoint.getSlotList.name
      [asked, cramped, fetched] (.ok [5, 6]) :=
    .told rfl rfl (.grown rfl rfl ⟨rfl, by decide⟩ hfilled)
  have hmade : Calls (fun r => call replies slotLibrary (Plan.outputCall .getSlotList [.byte 1] r))
      host [asked, cramped, fetched] { host with modules := [] } :=
    .cons rfl (.cons rfl (.single rfl))
  have hresult : ((perform replies 0 request).run host).1.result = .ok (.words [5, 6]) := by
    rw [run_perform_operate]
    exact congrArg (fun answered : Answer × Host Unit Unit Unit (List Reply) => answered.1.result)
      (bind_of_eq (hnegotiated.run_eq hmade))
  obtain ⟨capacity, output, houtput, hreturns, -⟩ :=
    (perform_returns replies 0 host (.slotList true) hresult).2.1 rfl
  cases houtput
  exact ⟨hresult, capacity, hreturns⟩

end Cryptoki.Host
