import Cryptoki.Proofs.Attribute.Stopping
import Cryptoki.Proofs.Host.Performed

/-! What becomes of the statuses that a module returns. A request goes on after a status only where
the status is part of a negotiation; any other status ends it, and is what it fails with
(`Host.perform_accounts`). -/

namespace Cryptoki

variable {allocator : Allocator} {α β γ κ η ρ μ : Type}

/-! ### Exchanges and outcomes -/

/-- How the statuses of exchanges account for an outcome: success stands on the last status, the
status of a failure is the last one, and the statuses before that are tolerated. -/
inductive Heeds (function : String) (T : Exchange α → Prop) :
    List (Exchange α) → Except Fault β → Prop
  | succeeded {before : List (Exchange α)} {x : Exchange α} (b : β) : (∀ y ∈ before, T y) →
      x.reply.status = Status.ok → Heeds function T (before ++ [x]) (.ok b)
  | refused {before : List (Exchange α)} {x : Exchange α} : (∀ y ∈ before, T y) →
      x.reply.status ≠ Status.ok →
      Heeds function T (before ++ [x]) (.error (.error (.status function x.reply.status)))
  | failed {made : List (Exchange α)} {fault : Fault} : (∀ y ∈ made, T y) → fault.OfOutputs →
      Heeds function T made (.error fault)

namespace Heeds

variable {function : String} {T : Exchange α → Prop} {outcome : Except Fault β}
  {made : List (Exchange α)} {x : Exchange α}

theorem last_ok (b : β) (h : x.reply.status = Status.ok) :
    Heeds function T [x] (.ok b) :=
  .succeeded b (List.forall_mem_nil _) h

theorem last_refused (h : x.reply.status ≠ Status.ok) :
    Heeds function T [x] (.error (.error (.status function x.reply.status)) : Except Fault β) :=
  .refused (List.forall_mem_nil _) h

theorem append {before : List (Exchange α)} (hbefore : ∀ y ∈ before, T y)
    (h : Heeds function T made outcome) : Heeds function T (before ++ made) outcome := by
  have joined {rest : List (Exchange α)} (hrest : ∀ y ∈ rest, T y) : ∀ y ∈ before ++ rest, T y :=
    List.forall_mem_append.mpr ⟨hbefore, hrest⟩
  cases h with
  | succeeded b hrest hok =>
    rw [← List.append_assoc]
    exact .succeeded b (joined hrest) hok
  | refused hrest hok =>
    rw [← List.append_assoc]
    exact .refused (joined hrest) hok
  | failed hrest hfault => exact .failed (joined hrest) hfault

theorem cons (hx : T x) (h : Heeds function T made outcome) :
    Heeds function T (x :: made) outcome :=
  h.append (List.forall_mem_singleton.mpr hx)

theorem map {T' : Exchange γ → Prop} (f : α → γ) (hT : ∀ y, T y → T' (y.map f))
    (h : Heeds function T made outcome) :
    Heeds function T' (made.map (Exchange.map f)) outcome := by
  have mapped {rest : List (Exchange α)} (hrest : ∀ y ∈ rest, T y) :
      ∀ y ∈ rest.map (Exchange.map f), T' y :=
    List.forall_mem_map.mpr fun y hy => hT y (hrest y hy)
  cases h with
  | @succeeded _ x b hbefore hok =>
    rw [List.map_append]
    exact .succeeded b (mapped hbefore) (x := x.map f) hok
  | @refused _ x hbefore hok =>
    rw [List.map_append]
    exact .refused (mapped hbefore) (x := x.map f) hok
  | failed hmade hfault => exact .failed (mapped hmade) hfault

end Heeds

/-! ### Outputs of a length to be asked for -/

namespace Negotiation

open Memory

/-- A call may succeed, or say that the buffer it was lent is too small. -/
def Tolerated (x : OutputExchange) : Prop :=
  x.reply.status = Status.ok ∨
    x.reply.status = Status.bufferTooSmall ∧ x.request.present = true

variable {function : String} {made : List OutputExchange}

theorem tolerated_of_grew {x : OutputExchange} {capacity : Word} (h : Grew x)
    (hx : x.request = ⟨true, capacity⟩) : Tolerated x :=
  .inr ⟨h.1, by rw [hx]⟩

theorem Filled.heeds {kind : OutputKind α} {demand : Nat → Demand} (hkind : kind.Sized demand)
    {capacity : Word} {result : Except Error (List α)}
    (h : Filled kind function capacity made result) (response : List α → Response) :
    Heeds function Tolerated made (Plan.respond response result) := by
  induction h with
  | cramped he =>
    exact .failed (List.forall_mem_nil _) (.inl ((hkind.shortage _).of_error he).ofMemory)
  | done _ _ hok => exact .last_ok _ hok
  | grown _ hx hgrew _ ih => exact ih.cons (tolerated_of_grew hgrew hx)
  | failed _ _ hok _ => exact .last_refused hok

theorem Negotiated.heeds {kind : OutputKind α} {demand : Nat → Demand} (hkind : kind.Sized demand)
    {result : Except Error (List α)} (h : Negotiated kind function made result)
    (response : List α → Response) :
    Heeds function Tolerated made (Plan.respond response result) := by
  cases h with
  | refused _ hok => exact .last_refused hok
  | told _ hok hfilled => exact (hfilled.heeds hkind response).cons (.inl hok)

theorem Guessed.heeds {guess : Nat} {result : Except Error (List UInt8)}
    (h : Guessed function guess made result) (response : List UInt8 → Response) :
    Heeds function Tolerated made (Plan.respond response result) := by
  have shortage {count : Nat} {e : Error} (he : allocateBytes count = .error e) :
      Fault.OfOutputs (.error e) :=
    .inl ((bytes_sized.shortage _).of_error he).ofMemory
  have tried {buffer : List UInt8} {x : OutputExchange} (hx : Tried guess buffer x)
      (hs : x.reply.status = Status.bufferTooSmall) : Tolerated x :=
    .inr ⟨hs, hx.present⟩
  cases h with
  | cramped he => exact .failed (List.forall_mem_nil _) (shortage he)
  | overlong he =>
    exact .failed (List.forall_mem_nil _) (.inl ((Word.ofLength_failsWith _).of_error he))
  | done _ hok => exact .last_ok _ hok
  | outgrown hx hgrew he =>
    exact .failed (List.forall_mem_singleton.mpr (tried hx hgrew.1)) (shortage he)
  | retried hx hgrew _ _ hok => exact .cons (tried hx hgrew.1) (.last_ok _ hok)
  | refused hx hgrew _ _ hok => exact .cons (tried hx hgrew.1) (.last_refused hok)
  | unsized hx hs _ hnegotiated =>
    exact (hnegotiated.heeds bytes_sized response).cons (tried hx hs)
  | failed _ hok _ => exact .last_refused hok

end Negotiation

/-! ### Attribute values -/

namespace Reader

theorem Fetched.heeds {encoding : Encoding} {template : Template} {made : List QueryExchange}
    {outcome : Except Fault (Word × List (Slot × QueryEntry))} (h : Fetched template made outcome)
    (response : Unit → Response) :
    Heeds function Tolerated made ((conclude encoding template outcome).1.map response) := by
  cases h.ends with
  | refused hbefore hx => exact .refused hbefore (ne_ok_of_not_tolerated hx)
  | cramped hall _ he => exact .failed hall (he.mono fun _ => Error.IsAllocation.ofMemory).ofOutputs
  | @filled _ probe fill second ready hcompletes =>
    obtain rfl := hcompletes.made_eq
    have ht : Tolerated fill := hcompletes.tolerated fill (by simp)
    have hbefore : ∀ y ∈ probe :: second, Tolerated y := fun y hy =>
      hcompletes.tolerated y (List.mem_append_left [fill] hy)
    refine .append hbefore ?_
    -- the values are decoded before the status of the fill is looked at
    have hdecoded := decodeAll_meets encoding 0 template (ready.zip (after fill))
    unfold conclude
    dsimp only
    split
    next fault he =>
      exact .failed (List.forall_mem_singleton.mpr ht) (hdecoded.of_error he).ofOutputs
    next e he => exact .failed (List.forall_mem_singleton.mpr ht) (.inr (hdecoded.of_ok he e rfl))
    next he =>
      unfold Negotiation.check
      split
      next hok => exact .last_ok _ hok
      next hok => exact .last_refused hok

end Reader

/-! ### Plans -/

/-- A status after which a request may go on. -/
inductive Exchange.Tolerated (x : Exchange Call) : Prop
  | ok : x.reply.status = Status.ok → Tolerated x
  /-- The call was lent a buffer for an output, and the buffer is too small. -/
  | bufferTooSmall (capacity : Word) : x.reply.status = Status.bufferTooSmall →
      x.request.arguments.getLast? = some (.output true capacity) → Tolerated x
  /-- Single attributes cannot be read. -/
  | attribute : x.request.entry = .getAttributeValue →
      x.reply.status = Status.attributeSensitive ∨ x.reply.status = Status.attributeTypeInvalid →
      Tolerated x

theorem Plan.tolerated_output (entry : EntryPoint) (arguments : List Argument)
    {x : Negotiation.OutputExchange} (h : Negotiation.Tolerated x) :
    (x.map (outputCall entry arguments)).Tolerated := by
  rcases h with hok | ⟨hs, hpresent⟩
  · exact .ok hok
  · refine .bufferTooSmall x.request.capacity hs ?_
    simp [Exchange.map, outputCall, hpresent]

theorem Plan.tolerated_query (session object : Word) {x : Reader.QueryExchange}
    (h : Reader.Tolerated x) :
    (x.map (queryCall .getAttributeValue session object)).Tolerated := by
  have hstatus : (x.reply.status = Status.ok ∨ x.reply.status = Status.attributeSensitive) ∨
      x.reply.status = Status.attributeTypeInvalid := by
    simpa [Reader.Tolerated, Reader.tolerated] using h
  rcases hstatus with (hok | hs) | hs
  · exact .ok hok
  · exact .attribute rfl (.inl hs)
  · exact .attribute rfl (.inr hs)

/-- Unless there is nothing to read, the statuses of the calls account for the answer. -/
theorem Plan.Carried.heeds {o : Operation} {plan : Plan} {template : Template}
    {mechanism : Option Mechanism} {made : List (Exchange Call)} {answer : Answer}
    (h : plan.Carried o.entry template mechanism made answer) (hplan : o.Plans plan) :
    Heeds o.entry.name Exchange.Tolerated made answer.result ∨
      made = [] ∧ answer.result = .ok .done ∧
        ∃ session object encoding, o = .readAttributes session object [] encoding := by
  cases h with
  | @once arguments conclude reply =>
    refine .inl ?_
    by_cases hok : reply.status = Status.ok
    · rw [conclusion_of_ok hok]
      have hconclude := hplan.2 reply
      cases hc : conclude reply with
      | ok c => exact .last_ok c.response hok
      | error fault =>
        exact .failed (List.forall_mem_singleton.mpr (.ok hok)) (hconclude.of_error hc)
    · rw [conclusion_of_ne_ok hok]
      exact .last_refused hok
  | bytes hn =>
    exact .inl ((hn.heeds Negotiation.bytes_sized _).map _ fun _ => tolerated_output _ _)
  | words hn =>
    exact .inl ((hn.heeds Negotiation.words_sized _).map _ fun _ => tolerated_output _ _)
  | guessed hg => exact .inl ((hg.heeds _).map _ fun _ => tolerated_output _ _)
  | nothing => exact .inr ⟨rfl, rfl, _, _, _, hplan⟩
  | attributes _ hf =>
    obtain rfl : o = _ := hplan
    exact .inl ((hf.heeds _).map _ fun _ => tolerated_query _ _)

theorem Plan.Carried.entry_eq {entry : EntryPoint} {plan : Plan} {template : Template}
    {mechanism : Option Mechanism} {made : List (Exchange Call)} {answer : Answer}
    (h : plan.Carried entry template mechanism made answer) :
    ∀ x ∈ made, x.request.entry = entry := by
  cases h with
  | once => exact List.forall_mem_singleton.mpr rfl
  | nothing => exact List.forall_mem_nil _
  | bytes | words | guessed | attributes => exact List.forall_mem_map.mpr fun _ _ => rfl

/-! ### Requests -/

theorem Error.code_ne_ok {e : Error} (h : ∀ function, e ≠ .status function Status.ok) :
    e.code ≠ Status.ok := by
  cases e with
  | status function code =>
    rintro rfl
    exact h function rfl
  | _ =>
    simp only [code]
    decide

theorem Error.OfMemory.ne_status {e : Error} (h : e.OfMemory) (function : String) (code : Word) :
    e ≠ .status function code := by
  rintro rfl
  exact h

theorem Fault.OfArguments.ne_status {fault : Fault} (h : fault.OfArguments) (function : String)
    (code : Word) : fault ≠ .error (.status function code) := by
  rintro rfl
  rcases h with h | ⟨_, h⟩
  · exact h.ne_status function code rfl
  · cases h

theorem Fault.OfOutputs.ne_status {fault : Fault} (h : fault.OfOutputs) (function : String)
    (code : Word) : fault ≠ .error (.status function code) := by
  rintro rfl
  rcases h with h | ⟨_, _, h⟩
  · exact h.ne_status function code rfl
  · cases h

namespace Host

/-- The statuses that a module returns account for the result of a request. -/
structure Accounts (request : Request κ η) (made : List (Exchange Call))
    (result : Except Fault Response) : Prop where
  entry : ∀ x ∈ made, x.request.entry = request.entry
  /-- Success stands on the success of the last call; only no attributes are read without one. -/
  success : ∀ response, result = .ok response →
    (∃ before x, made = before ++ [x] ∧ x.reply.status = Status.ok) ∨
      made = [] ∧ ∃ session object encoding,
        request = .operate (.readAttributes session object [] encoding)
  /-- A status that is reported is the one of the last call, and no success. -/
  status : ∀ function code, result = .error (.error (.status function code)) →
    code ≠ Status.ok ∧ ∃ before x, made = before ++ [x] ∧ x.request.entry.name = function ∧
      x.reply.status = code
  /-- A status that is not tolerated is the last one, and is reported. -/
  stopped : ∀ before x rest, made = before ++ x :: rest → ¬x.Tolerated →
    rest = [] ∧ result = .error (.error (.status x.request.entry.name x.reply.status))
  code : ∀ e, result = .error (.error e) → e.code ≠ Status.ok

theorem accounts_of_heeds {request : Request κ η} {made : List (Exchange Call)}
    {result : Except Fault Response} (hentry : ∀ x ∈ made, x.request.entry = request.entry)
    (h : Heeds request.entry.name Exchange.Tolerated made result) :
    Accounts request made result := by
  have hstatus : ∀ function code, result = .error (.error (.status function code)) →
      code ≠ Status.ok ∧ ∃ before x, made = before ++ [x] ∧ x.request.entry.name = function ∧
        x.reply.status = code := by
    intro function code hresult
    cases h with
    | succeeded => cases hresult
    | refused _ hok =>
      cases hresult
      exact ⟨hok, _, _, rfl, congrArg EntryPoint.name (hentry _ (by simp)), rfl⟩
    | failed _ hfault => exact absurd (Except.error.inj hresult) (hfault.ne_status function code)
  refine { entry := hentry, success := ?_, status := hstatus, stopped := ?_, code := ?_ }
  · rintro response rfl
    cases h with
    | succeeded _ _ hok => exact .inl ⟨_, _, rfl, hok⟩
  · intro before' x' rest hmade hx'
    cases h with
    | succeeded _ hbefore hok =>
      obtain ⟨-, rfl⟩ := eq_of_not_tolerated hbefore hmade hx'
      exact absurd (.ok hok) hx'
    | refused hbefore _ =>
      obtain ⟨rfl, rfl⟩ := eq_of_not_tolerated hbefore hmade hx'
      exact ⟨rfl, by rw [hentry x' (by simp)]⟩
    | failed hall _ =>
      rw [hmade] at hall
      exact absurd (hall x' (by simp)) hx'
  · rintro e rfl
    refine Error.code_ne_ok fun function he => ?_
    subst he
    exact (hstatus function Status.ok rfl).1 rfl

/-- A request that fails before its first call, with an error that is no status. -/
theorem accounts_of_fault {request : Request κ η} {fault : Fault}
    (h : ∀ function code, fault ≠ .error (.status function code)) :
    Accounts request [] (.error fault) where
  entry := List.forall_mem_nil _
  success := nofun
  status function code hfault := absurd (Except.error.inj hfault) (h function code)
  stopped before x rest hmade := by simp at hmade
  code e he := by
    obtain rfl := Except.error.inj he
    exact Error.code_ne_ok fun function hs => h function Status.ok (congrArg Fault.error hs)

theorem accounts_of_nothing {session object : Word} {encoding : Encoding} :
    Accounts (.operate (.readAttributes session object [] encoding) : Request κ η) []
      (.ok .done) where
  entry := List.forall_mem_nil _
  success _ _ := .inr ⟨rfl, session, object, encoding, rfl⟩
  status := nofun
  stopped before x rest hmade := by simp at hmade
  code := nofun

theorem Performed.accounts {replies : Replies η ρ μ} {handle : Nat} {request : Request κ η}
    {host after : Host κ η ρ μ} {made : List (Exchange Call)} {answer : Answer}
    (h : Performed replies handle host request made answer after) :
    Accounts request made answer.result := by
  cases h with
  | unreached hlibrary =>
    rw [Request.refused_result, library_eq_error hlibrary]
    exact accounts_of_fault nofun
  | unprovided =>
    rw [Request.refused_result]
    exact accounts_of_fault nofun
  | @called _ _ reply =>
    refine accounts_of_heeds (List.forall_mem_singleton.mpr rfl) ?_
    unfold Negotiation.check
    split
    next hok => exact .last_ok _ hok
    next hok => exact .last_refused hok
  | @unprepared o library fault _ hprepare =>
    refine accounts_of_fault fun function code hstatus => ?_
    subst hstatus
    rcases (o.prepare_failsWith library).of_error hprepare with h | h
    · cases h
    · exact h.ne_status function code rfl
  | @carried o library plan _ _ _ _ hprepare _ hcarried =>
    have hplan := o.plan_meets.of_ok (Operation.plan_of_prepare hprepare).2
    rcases hcarried.heeds hplan with h | ⟨rfl, hresult, session, object, encoding, rfl⟩
    · exact accounts_of_heeds hcarried.entry_eq h
    · rw [hresult]
      exact accounts_of_nothing

/-- No status is swallowed and none is invented, whatever a request asks for and however the module
replies. -/
theorem perform_accounts (replies : Replies η ρ μ) (handle : Nat) (request : Request κ η)
    (host : Host κ η ρ μ) :
    Accounts request (calls replies handle request host)
      ((perform replies handle request).run host).1.result :=
  (perform_performed replies handle host request).accounts

end Host

end Cryptoki
