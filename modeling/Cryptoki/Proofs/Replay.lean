import Cryptoki.Proofs.Plan

/-! A program is determined by the replies that it gets. Where `Filled`, `Negotiated`, `Guessed` or
`Fetched` relates exchanges to an outcome, every module that gives these replies brings the program
to that outcome, so the calls of a plan follow from the replies alone (`Plan.Carried.made_eq`). -/

namespace Cryptoki

variable {allocator : Allocator} {α β γ ε σ : Type}

/-! ### Calls -/

namespace Calls

variable {call : α → StateM σ Reply} {s s' : σ} {made : List (Exchange α)}

theorem eq_of_nil (h : Calls call s [] s') : s = s' := by
  cases h
  rfl

theorem of_cons {x : Exchange α} (h : Calls call s (x :: made) s') :
    ∃ next, call x.request s = (x.reply, next) ∧ Calls call next made s' := by
  cases h with
  | cons hcall hmade => exact ⟨_, hcall, hmade⟩

theorem of_singleton {x : Exchange α} (h : Calls call s [x] s') :
    call x.request s = (x.reply, s') := by
  obtain ⟨next, hcall, hnil⟩ := h.of_cons
  rwa [← hnil.eq_of_nil]

theorem of_append {made' : List (Exchange α)} (h : Calls call s (made ++ made') s') :
    ∃ next, Calls call s made next ∧ Calls call next made' s' := by
  induction made generalizing s with
  | nil => exact ⟨s, .nil s, h⟩
  | cons x made ih =>
    obtain ⟨next, hcall, hrest⟩ := h.of_cons
    obtain ⟨last, hmade, hmade'⟩ := ih hrest
    exact ⟨last, .cons hcall hmade, hmade'⟩

theorem noted (h : Calls call s made s') (log : List (Exchange α)) :
    Calls (recorded call) (s, log) made (s', log ++ made) := by
  induction h generalizing log with
  | nil =>
    rw [List.append_nil]
    exact .nil _
  | @cons s next s' request reply made hcall _ ih =>
    have hrest := ih (log ++ [⟨request, reply⟩])
    rw [List.append_assoc] at hrest
    refine .cons ?_ hrest
    rw [recorded, hcall]

/-- Calls with requests of another form are calls with the requests they stand for. -/
theorem of_map {call : γ → StateM σ Reply} {f : α → γ}
    (h : Calls call s (made.map (Exchange.map f)) s') :
    Calls (fun request => call (f request)) s made s' := by
  induction made generalizing s with
  | nil =>
    obtain rfl := h.eq_of_nil
    exact .nil s
  | cons x made ih =>
    obtain ⟨next, hcall, hrest⟩ := h.of_cons
    exact .cons hcall (ih hrest)

end Calls

/-! ### Programs -/

section Programs

variable {x : ExceptT ε (StateM σ) α} {f : α → ExceptT ε (StateM σ) β} {s s' : σ}

theorem run_bind_of_ok {a : α} (h : x.run s = (.ok a, s')) : (x >>= f).run s = (f a).run s' := by
  show (x.run >>= ExceptT.bindCont f) s = _
  rw [bind_of_eq h]
  rfl

theorem run_bind_of_error {e : ε} (h : x.run s = (.error e, s')) :
    (x >>= f).run s = (.error e, s') := by
  show (x.run >>= ExceptT.bindCont f) s = _
  rw [bind_of_eq h]
  rfl

theorem run_lift {y : Except ε α} {outcome : Except ε α} (h : y = outcome) (s : σ) :
    (liftM y : ExceptT ε (StateM σ) α).run s = (outcome, s) := by
  rw [h]
  rfl

theorem run_liftFault {y outcome : Except Error α} (h : y = outcome) (s : σ) :
    (liftM y : ExceptT Fault (StateM σ) α).run s = (liftM outcome, s) := by
  rw [h]
  cases outcome <;> rfl

theorem run_call {y : StateM σ α} {a : α} (h : y s = (a, s')) :
    (liftM y : ExceptT ε (StateM σ) α).run s = (.ok a, s') := by
  show (y >>= fun a => pure (Except.ok a : Except ε α)) s = _
  rw [bind_of_eq h]
  rfl

end Programs

/-! ### Negotiations -/

namespace Negotiation

instance (x : OutputExchange) : Decidable (Grew x) := inferInstanceAs (Decidable (_ ∧ _))

section Filling

variable {kind : OutputKind α} {function : String} {call : OutputRequest → StateM σ Reply}
  {capacity : Word} {buffer : List α} {reply : Reply} {s next : σ}

/-- What a fetch does once the call with a buffer has been answered. -/
theorem fill_run (hroom : kind.allocate capacity.toNat = .ok buffer)
    (hcall : call ⟨true, capacity⟩ s = (reply, next)) :
    (fill kind function (fun present capacity => call ⟨present, capacity⟩) capacity).run s =
      (if reply.status = Status.ok then
        pure (outcome kind buffer capacity reply)
      else if _h : Grew ⟨⟨true, capacity⟩, reply⟩ then
        fill kind function (fun present capacity => call ⟨present, capacity⟩)
          (reportedLength capacity reply)
      else
        throw (.status function reply.status) : ExceptT Error (StateM σ) (List α)).run next := by
  rw [fill]
  exact (run_bind_of_ok (run_lift hroom s)).trans (run_bind_of_ok (run_call hcall))

end Filling

variable {kind : OutputKind α} {function : String} {call : OutputRequest → StateM σ Reply}
  {made : List OutputExchange} {s s' : σ}

theorem Filled.run_eq {capacity : Word} {result : Except Error (List α)}
    (h : Filled kind function capacity made result) (hmade : Calls call s made s') :
    (fill kind function (fun present capacity => call ⟨present, capacity⟩) capacity).run s =
      (result, s') := by
  -- one case for each way in which a fetch ends; only a longer output goes on with the rest
  induction h generalizing s with
  | cramped hroom =>
    obtain rfl := hmade.eq_of_nil
    rw [fill]
    exact run_bind_of_error (run_lift hroom s)
  | done hroom hrequest hok =>
    have hcall := hmade.of_singleton
    rw [hrequest] at hcall
    rw [fill_run hroom hcall, if_pos hok]
    rfl
  | @grown capacity buffer x rest result hroom hrequest hgrew _ ih =>
    obtain ⟨next, hcall, hrest⟩ := hmade.of_cons
    obtain ⟨request, reply⟩ := x
    obtain rfl : request = ⟨true, capacity⟩ := hrequest
    rw [fill_run hroom hcall, if_neg fun hok => not_grew_of_ok hok hgrew, dif_pos hgrew]
    exact ih hrest
  | @failed capacity buffer x hroom hrequest hok hgrew =>
    have hcall := hmade.of_singleton
    obtain ⟨request, reply⟩ := x
    obtain rfl : request = ⟨true, capacity⟩ := hrequest
    rw [fill_run hroom hcall, if_neg hok, dif_neg hgrew]
    rfl

theorem Negotiated.run_eq {result : Except Error (List α)}
    (h : Negotiated kind function made result) (hmade : Calls call s made s') :
    (read kind function fun present capacity => call ⟨present, capacity⟩).run s = (result, s') := by
  unfold read
  cases h with
  | refused hrequest hok =>
    have hcall := hmade.of_singleton
    rw [hrequest] at hcall
    exact (run_bind_of_ok (run_call hcall)).trans
      (run_bind_of_error (run_lift (check_of_ne_ok hok) s'))
  | @told x rest _ hrequest hok hfilled =>
    obtain ⟨next, hcall, hrest⟩ := hmade.of_cons
    obtain ⟨request, reply⟩ := x
    obtain rfl : request = ⟨false, 0⟩ := hrequest
    exact (run_bind_of_ok (run_call hcall)).trans
      ((run_bind_of_ok (run_lift (check_of_ok hok) next)).trans (hfilled.run_eq hrest))

section Guessing

variable {guess : Nat} {buffer : List UInt8} {x : OutputExchange} {next : σ}

/-- What a fetch does once the call with a guessed length has been answered. -/
theorem readWithGuess_run (htried : Tried guess buffer x)
    (hcall : call x.request s = (x.reply, next)) :
    (readWithGuess function guess fun present capacity => call ⟨present, capacity⟩).run s =
      (if x.reply.status = Status.ok then
        pure (outcome bytes buffer x.request.capacity x.reply)
      else if x.reply.status = Status.bufferTooSmall then
        if x.request.capacity < reported x then do
          let buffer ← Memory.allocateBytes (reported x).toNat
          let reply ← call ⟨true, reported x⟩
          check function reply.status
          return outcome bytes buffer (reported x) reply
        else
          read bytes function fun present capacity => call ⟨present, capacity⟩
      else
        throw (.status function x.reply.status) : ExceptT Error (StateM σ) (List UInt8)).run
          next := by
  obtain ⟨⟨present, capacity⟩, reply⟩ := x
  obtain ⟨hroom, hpresent, hcapacity⟩ := htried
  obtain rfl : present = true := hpresent
  unfold readWithGuess
  exact (run_bind_of_ok (run_lift hroom s)).trans
    ((run_bind_of_ok (run_lift hcapacity s)).trans (run_bind_of_ok (run_call hcall)))

end Guessing

theorem Guessed.run_eq {guess : Nat} {length : Word} {result : Except Error (List UInt8)}
    (hlength : Word.ofLength guess = .ok length) (h : Guessed function guess made result)
    (hmade : Calls call s made s') :
    (readWithGuess function guess fun present capacity => call ⟨present, capacity⟩).run s =
      (result, s') := by
  have hsmall {x : OutputExchange} (hgrew : Grew x) : x.reply.status ≠ Status.ok :=
    fun hok => not_grew_of_ok hok hgrew
  cases h with
  | cramped hroom =>
    obtain rfl := hmade.eq_of_nil
    exact run_bind_of_error (run_lift hroom s)
  | overlong hover =>
    rw [hlength] at hover
    cases hover
  | done htried hok =>
    rw [readWithGuess_run htried hmade.of_singleton, if_pos hok]
    rfl
  | outgrown htried hgrew hroom =>
    rw [readWithGuess_run htried hmade.of_singleton, if_neg (hsmall hgrew), if_pos hgrew.1,
      if_pos hgrew.2]
    exact run_bind_of_error (run_lift hroom s')
  | retried htried hgrew hroom hrequest hok =>
    obtain ⟨next, hcall, hrest⟩ := hmade.of_cons
    rw [readWithGuess_run htried hcall, if_neg (hsmall hgrew), if_pos hgrew.1, if_pos hgrew.2]
    have hagain := hrest.of_singleton
    rw [hrequest] at hagain
    exact (run_bind_of_ok (run_lift hroom next)).trans
      ((run_bind_of_ok (run_call hagain)).trans
        (run_bind_of_ok (run_lift (check_of_ok hok) s')))
  | refused htried hgrew hroom hrequest hok =>
    obtain ⟨next, hcall, hrest⟩ := hmade.of_cons
    rw [readWithGuess_run htried hcall, if_neg (hsmall hgrew), if_pos hgrew.1, if_pos hgrew.2]
    have hagain := hrest.of_singleton
    rw [hrequest] at hagain
    exact (run_bind_of_ok (run_lift hroom next)).trans
      ((run_bind_of_ok (run_call hagain)).trans
        (run_bind_of_error (run_lift (check_of_ne_ok hok) s')))
  | @unsized _ x _ _ htried hstatus hgrew hnegotiated =>
    obtain ⟨next, hcall, hrest⟩ := hmade.of_cons
    have hok : x.reply.status ≠ Status.ok := by
      rw [hstatus]
      decide
    rw [readWithGuess_run htried hcall, if_neg hok, if_pos hstatus,
      if_neg fun hlt => hgrew ⟨hstatus, hlt⟩]
    exact hnegotiated.run_eq hrest
  | failed htried hok hstatus =>
    rw [readWithGuess_run htried hmade.of_singleton, if_neg hok, if_neg hstatus]
    rfl

end Negotiation

/-! ### Attribute values -/

namespace Reader

variable {call : Callee σ} {s s' : σ}

theorem ask_run {x : QueryExchange} (h : call x.request s = (x.reply, s')) :
    (ask call x.request).run s = (asked x, s') := by
  unfold ask asked
  refine (run_bind_of_ok (run_call h)).trans ?_
  by_cases ht : tolerated x.reply.status
  · rw [if_pos ht, if_pos ht]
    rfl
  · rw [if_neg ht, if_neg ht]
    rfl

theorem asked_of_tolerated {x : QueryExchange} (h : tolerated x.reply.status = true) :
    asked x = .ok (x.reply.status, after x) := if_pos h

theorem asked_of_not_tolerated {x : QueryExchange} (h : tolerated x.reply.status = false) :
    asked x = .error (.error (.status function x.reply.status)) := by
  rw [asked, h]
  rfl

/-- The step of a fetch that gives nested attributes their buffers, and what comes `next`. -/
theorem provide_run {entries : List QueryEntry} {slots : List Slot} {second : List QueryExchange}
    {outcome : Except Fault (List Slot)} (h : Provided entries slots second outcome)
    (hmade : Calls call s second s') (next : List Slot → ExceptT Fault (StateM σ) α) :
    (if (arrays entries slots).isEmpty then
      pure slots >>= next
    else do
      let (_, probed) ← ask call (lentQuery (arrays entries slots))
      let slots ← (liftM (allocateNested slots probed) : Except Fault _)
      next slots : ExceptT Fault (StateM σ) α).run s = (liftM outcome >>= next).run s' := by
  have asking {x : QueryExchange} (hrequest : x.request = lentQuery (arrays entries slots))
      (hmade : Calls call s [x] s') :
      (ask call (lentQuery (arrays entries slots))).run s = (asked x, s') := by
    rw [← hrequest]
    exact ask_run hmade.of_singleton
  cases h with
  | plain hnone =>
    obtain rfl := hmade.eq_of_nil
    rw [hnone]
    rfl
  | refused hne hrequest ht =>
    have hask := asking hrequest hmade
    rw [asked_of_not_tolerated ht] at hask
    rw [if_neg (by simpa using hne)]
    exact run_bind_of_error hask
  | answered hne hrequest ht =>
    have hask := asking hrequest hmade
    rw [asked_of_tolerated ht] at hask
    rw [if_neg (by simpa using hne)]
    exact run_bind_of_ok hask

/-- The last step of a fetch, for attributes that have their storage. -/
theorem complete_run {entries : List QueryEntry} {ready : List Slot} {fill : QueryExchange}
    (hrequest : fill.request = lentQuery (entries.zip ready))
    (hcall : call fill.request s = (fill.reply, s')) :
    (do
      let (status, filled) ← ask call (lentQuery (entries.zip ready))
      return (status, ready.zip filled) : ExceptT Fault (StateM σ) _).run s =
      ((asked fill).map fun b => (b.1, ready.zip b.2), s') := by
  have hask := ask_run hcall
  rw [hrequest] at hask
  cases hasked : asked fill with
  | error e =>
    rw [hasked] at hask
    exact run_bind_of_error hask
  | ok filled =>
    rw [hasked] at hask
    exact run_bind_of_ok hask

section Fetching

variable {template : Template} {probe : QueryExchange} {next : σ}

theorem probe_run (hrequest : probe.request = probeQuery template)
    (hcall : call probe.request s = (probe.reply, next)) :
    (ask call (probeQuery template)).run s = (asked probe, next) := by
  rw [← hrequest]
  exact ask_run hcall

theorem Probed.run (h : Probed template probe)
    (hcall : call probe.request s = (probe.reply, next)) :
    (ask call (probeQuery template)).run s = (.ok (probe.reply.status, after probe), next) := by
  rw [probe_run h.request hcall, asked_of_tolerated h.tolerated]

/-- When every attribute has its storage, a fetch goes on with its last step. -/
theorem Readied.run {second : List QueryExchange} {ready : List Slot}
    (h : Readied template probe second ready) (hmade : Calls call s (probe :: second) next) :
    (fetch template call).run s = (do
      let (status, filled) ← ask call (lentQuery ((after probe).zip ready))
      return (status, ready.zip filled) : ExceptT Fault (StateM σ) _).run next := by
  obtain ⟨hprobed, slots, hslots, hprovided⟩ := h
  obtain ⟨first, hcall, hsecond⟩ := hmade.of_cons
  exact (run_bind_of_ok (run_liftFault hprobed.room s)).trans
    ((run_bind_of_ok (hprobed.run hcall)).trans
      ((run_bind_of_ok (run_lift hslots first)).trans (provide_run hprovided hsecond _)))

end Fetching

theorem Fetched.run_eq {template : Template} {made : List QueryExchange}
    {outcome : Except Fault (Word × List (Slot × QueryEntry))} (h : Fetched template made outcome)
    (hmade : Calls call s made s') : (fetch template call).run s = (outcome, s') := by
  have filling {probe fill : QueryExchange} {second : List QueryExchange} {ready : List Slot}
      (hready : Readied template probe second ready)
      (hrequest : fill.request = lentQuery ((after probe).zip ready))
      (hmade : Calls call s (probe :: (second ++ [fill])) s') :
      (fetch template call).run s =
        ((asked fill).map fun b => (b.1, ready.zip b.2), s') := by
    rw [← List.cons_append] at hmade
    obtain ⟨next, hsecond, hfill⟩ := hmade.of_append
    rw [hready.run hsecond, complete_run hrequest hfill.of_singleton]
  cases h with
  | cramped hroom =>
    obtain rfl := hmade.eq_of_nil
    exact run_bind_of_error (run_liftFault hroom s)
  | unprobed hroom hrequest ht =>
    have hask := probe_run hrequest hmade.of_singleton
    rw [asked_of_not_tolerated ht] at hask
    exact (run_bind_of_ok (run_liftFault hroom s)).trans (run_bind_of_error hask)
  | unallocated hprobed hslots =>
    exact (run_bind_of_ok (run_liftFault hprobed.room s)).trans
      ((run_bind_of_ok (hprobed.run hmade.of_singleton)).trans
        (run_bind_of_error (run_lift hslots s')))
  | unprovided hprobed hslots hprovided =>
    obtain ⟨next, hcall, hsecond⟩ := hmade.of_cons
    exact (run_bind_of_ok (run_liftFault hprobed.room s)).trans
      ((run_bind_of_ok (hprobed.run hcall)).trans
        ((run_bind_of_ok (run_lift hslots next)).trans (provide_run hprovided hsecond _)))
  | unfilled hready hrequest ht =>
    rw [filling hready hrequest hmade, asked_of_not_tolerated ht]
    rfl
  | filled hready hrequest ht =>
    rw [filling hready hrequest hmade, asked_of_tolerated ht]
    rfl

end Reader

/-! ### Replies -/

/-- A module that answers from a script whatever it is asked. -/
def scripted : α → StateM (List Reply) Reply := fun _ script => (script.headD {}, script.tail)

def replies (made : List (Exchange α)) : List Reply := made.map Exchange.reply

theorem calls_scripted (made : List (Exchange α)) (rest : List Reply) :
    Calls scripted (replies made ++ rest) made rest := by
  induction made with
  | nil => exact .nil rest
  | cons x made ih => exact .cons rfl ih

/-- The exchanges that `R` relates to an outcome are determined by their replies. -/
def Determined (R : List (Exchange α) → β → Prop) : Prop :=
  ∀ ⦃made made' : List (Exchange α)⦄ ⦃b b' : β⦄ ⦃rest rest' : List Reply⦄, R made b → R made' b' →
    replies made ++ rest = replies made' ++ rest' → made = made' ∧ b = b'

/-- Replies determine a run: it is the run against the module that answers from a script of them. -/
theorem Determined.of_run {R : List (Exchange α) → β → Prop}
    (program : StateM (List Reply × List (Exchange α)) β)
    (h : ∀ made b s s', R made b → Calls (recorded scripted) s made s' → program s = (b, s')) :
    Determined R := by
  intro made made' b b' rest rest' hR hR' hreplies
  -- the record of the run is the list of its exchanges, so equal runs made equal exchanges
  have hrun := h made b _ _ hR ((calls_scripted made rest).noted [])
  have hrun' := h made' b' _ _ hR' ((calls_scripted made' rest').noted [])
  rw [hreplies, hrun', Prod.mk.injEq, Prod.mk.injEq] at hrun
  obtain ⟨hb, -, hmade⟩ := hrun
  exact ⟨hmade.symm, hb.symm⟩

theorem replies_map (f : α → γ) (made : List (Exchange α)) :
    replies (made.map (Exchange.map f)) = replies made :=
  List.map_map

/-- Requests in another form are determined as well. -/
theorem Determined.map_eq {R : List (Exchange α) → β → Prop} (hR : Determined R) (f : α → γ)
    {made made' : List (Exchange α)} {b b' : β} {rest rest' : List Reply} (h : R made b)
    (h' : R made' b') (hreplies : replies (made.map (Exchange.map f)) ++ rest =
      replies (made'.map (Exchange.map f)) ++ rest') :
    made.map (Exchange.map f) = made'.map (Exchange.map f) := by
  rw [replies_map, replies_map] at hreplies
  rw [(hR h h' hreplies).1]

theorem Negotiation.negotiated_determined (kind : OutputKind α) (function : String) :
    Determined (Negotiated kind function) :=
  .of_run _ fun _ _ _ _ h hmade => h.run_eq hmade

theorem Negotiation.guessed_determined {guess : Nat} {length : Word}
    (hlength : Word.ofLength guess = .ok length) (function : String) :
    Determined (Guessed function guess) :=
  .of_run _ fun _ _ _ _ h hmade => h.run_eq hlength hmade

theorem Negotiation.Guessed.eq_nil {function : String} {guess : Nat} {e : Error}
    {made : List OutputExchange} {result : Except Error (List UInt8)}
    (hlength : Word.ofLength guess = .error e) (h : Guessed function guess made result) :
    made = [] := by
  have untried {buffer : List UInt8} {x : OutputExchange} : ¬Tried guess buffer x := by
    intro htried
    cases hlength.symm.trans htried.capacity
  cases h with
  | cramped | overlong => rfl
  | done htried | outgrown htried | retried htried | refused htried | unsized htried
  | failed htried => exact absurd htried untried

theorem Reader.fetched_determined (template : Template) : Determined (Fetched template) :=
  .of_run _ fun _ _ _ _ h hmade => h.run_eq hmade

/-- The calls that carry out a plan are determined by the replies to them. -/
theorem Plan.Carried.made_eq {entry : EntryPoint} {template : Template}
    {mechanism : Option Mechanism} {plan : Plan} {made made' : List (Exchange Call)}
    {answer answer' : Answer} {rest rest' : List Reply}
    (h : plan.Carried entry template mechanism made answer)
    (h' : plan.Carried entry template mechanism made' answer')
    (hreplies : replies made ++ rest = replies made' ++ rest') : made = made' := by
  cases h with
  | once reply =>
    cases h' with
    | once reply' =>
      obtain ⟨rfl, -⟩ := List.cons.inj hreplies
      rfl
  | bytes hnegotiated =>
    cases h' with
    | bytes hnegotiated' =>
      exact (Negotiation.negotiated_determined _ _).map_eq _ hnegotiated hnegotiated' hreplies
  | words hnegotiated =>
    cases h' with
    | words hnegotiated' =>
      exact (Negotiation.negotiated_determined _ _).map_eq _ hnegotiated hnegotiated' hreplies
  | @guessed guess _ _ _ hguessed =>
    cases h' with
    | guessed hguessed' =>
      cases hlength : Word.ofLength guess with
      | error e => rw [hguessed.eq_nil hlength, hguessed'.eq_nil hlength]
      | ok length =>
        exact (Negotiation.guessed_determined hlength _).map_eq _ hguessed hguessed' hreplies
  | nothing =>
    cases h' with
    | nothing => rfl
    | attributes hne _ => exact absurd rfl hne
  | attributes hne hfetched =>
    cases h' with
    | nothing => exact absurd rfl hne
    | attributes _ hfetched' =>
      exact (Reader.fetched_determined _).map_eq _ hfetched hfetched' hreplies

end Cryptoki
