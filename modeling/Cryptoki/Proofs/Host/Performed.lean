import Cryptoki.Host.Request
import Cryptoki.Proofs.Failures
import Cryptoki.Proofs.Plan

/-! What a request to a module does: the calls that it makes, its answer, and the application
afterwards. `Host.Performed` relates them, with a constructor for each way in which a request can
go, and `Host.perform_performed` says that every request goes in one of these ways. -/

namespace Cryptoki

variable {allocator : Allocator} {κ η ρ μ : Type}

namespace Request

/-- A request that begins or ends sessions or the use of the module, no operation. -/
def ConcernsSessions : Request κ η → Prop
  | .operate _ => False
  | _ => True

/-- The arguments of a request that is no operation. -/
def arguments (handle : Nat) : Request κ η → List Argument
  | initialise args => [.initRecord (args.map InitArgs.toRecord)]
  | finalise => [.pointer false]
  | openSession slot flags registration =>
    [.word slot, .word flags, .listener (registration.map fun _ => handle)]
  | closeSession session => [.word session]
  | closeAllSessions slot => [.word slot]
  | operate _ => []

/-- What a successful reply to a request that is no operation comes to. -/
def response (reply : Reply) : Request κ η → Response
  | openSession _ _ _ => .word reply.handleValue
  | _ => .done

end Request

namespace Request

theorem refused_result (request : Request κ η) (e : Error) :
    (request.refused e).result = .error (.error e) := by
  cases request <;> rfl

/-- The registrations of a connection after a request that has been called. -/
def revise (reply : Reply) (r : Registrations κ) : Request κ η → Registrations κ
  | openSession _ _ registration =>
    if reply.status = Status.ok then r.put reply.handleValue registration else r
  | closeSession session => (r.remove session).2
  | closeAllSessions _ => .empty
  | _ => r

end Request

namespace Host

theorem library_eq_error {host : Host κ η ρ μ} {handle : Nat} {e : Error}
    (h : host.library handle = .error e) : e = .disconnected := by
  unfold library at h
  split at h <;> cases h
  rfl

/-- The application during the call of a request: a handler among the arguments is active. -/
def enter (host : Host κ η ρ μ) : Request κ η → Host κ η ρ μ
  | .initialise (some { handler := some handler, .. }) =>
    { host with activeHandler := some (handler, host.runtime) }
  | _ => host

/-- What a request makes of the application once the module has replied. The handler `previous` was
active before the request. -/
def settle (host : Host κ η ρ μ) (handle : Nat) (previous : Option η) (reply : Reply) :
    Request κ η → Host κ η ρ μ
  | .initialise (some { handler := some _, .. }) =>
    if reply.status = Status.ok then host
    else { host with activeHandler := previous.map fun h => (h, host.runtime) }
  | .finalise => if reply.status = Status.ok then { host with activeHandler := none } else host
  | .openSession _ _ registration =>
    if reply.status = Status.ok then
      host.setRegistrations handle ((host.registrations handle).put reply.handleValue registration)
    else host
  | .closeSession session =>
    host.setRegistrations handle ((host.registrations handle).remove session).2
  | .closeAllSessions _ => host.setRegistrations handle .empty
  | _ => host

/-- What a request does: the calls that it makes, its answer, and the application afterwards. -/
inductive Performed [Allocator] (replies : Replies η ρ μ) (handle : Nat) (host : Host κ η ρ μ) :
    Request κ η → List (Exchange Call) → Answer → Host κ η ρ μ → Prop
  | unreached {request : Request κ η} {e : Error} : host.library handle = .error e →
      Performed replies handle host request [] (request.refused e) host
  | unprovided {request : Request κ η} {library : Library} : request.ConcernsSessions →
      host.library handle = .ok library → ¬library.Provides request.entry →
      Performed replies handle host request []
        (request.refused (.functionNotSupported request.entry.name)) host
  | called {request : Request κ η} {library : Library} {reply : Reply} {after : Host κ η ρ μ} :
      request.ConcernsSessions → host.library handle = .ok library →
      library.Provides request.entry →
      call replies library ⟨request.entry, request.arguments handle⟩ (host.enter request) =
        (reply, after) →
      Performed replies handle host request [⟨⟨request.entry, request.arguments handle⟩, reply⟩]
        (answer ((Negotiation.check request.entry.name reply.status).map fun _ =>
          request.response reply))
        (after.settle handle (host.activeHandler.map Prod.fst) reply request)
  | unprepared {o : Operation} {library : Library} {fault : Fault} :
      host.library handle = .ok library → o.prepare library = .error fault →
      Performed replies handle host (.operate o) [] (o.refused fault) host
  | carried {o : Operation} {library : Library} {plan : Plan} {made : List (Exchange Call)}
      {answer : Answer} {after : Host κ η ρ μ} :
      host.library handle = .ok library → o.prepare library = .ok plan →
      Calls (call replies library) host made after →
      plan.Carried o.entry o.outputTemplate o.outputMechanism made answer →
      Performed replies handle host (.operate o) made answer after

/-! ### Requests that are no operations -/

section Managing

variable {replies : Replies η ρ μ} {handle : Nat} {request : Request κ η} {library : Library}
  {host : Host κ η ρ μ}

theorem invoke_of_ok {entry : EntryPoint} {arguments : List Argument} {reply : Reply}
    {after : Host κ η ρ μ} (h : library.Provides entry)
    (hcall : call replies library ⟨entry, arguments⟩ host = (reply, after))
    (hs : reply.status = Status.ok) :
    invoke replies library entry arguments host = (.ok reply, after) := by
  unfold invoke
  rw [Library.require_of_provides h]
  simp only [bind, StateT.bind, hcall, Negotiation.check, if_pos hs]
  rfl

theorem invoke_of_ne_ok {entry : EntryPoint} {arguments : List Argument} {reply : Reply}
    {after : Host κ η ρ μ} (h : library.Provides entry)
    (hcall : call replies library ⟨entry, arguments⟩ host = (reply, after))
    (hs : reply.status ≠ Status.ok) :
    invoke replies library entry arguments host =
      (.error (.status entry.name reply.status), after) := by
  unfold invoke
  rw [Library.require_of_provides h]
  simp only [bind, StateT.bind, hcall, Negotiation.check, if_neg hs]
  rfl

theorem perform_of_error {e : Error} (h : host.library handle = .error e) :
    (perform replies handle request).run host = (request.refused e, host) := by
  unfold perform
  simp only [StateT.run_bind, StateT.run_get, pure_bind, h]
  rfl

theorem perform_unprovided (hrequest : request.ConcernsSessions)
    (hlibrary : host.library handle = .ok library) (h : ¬library.Provides request.entry) :
    (perform replies handle request).run host =
      (request.refused (.functionNotSupported request.entry.name), host) := by
  have hrequire := Library.require_of_missing h
  unfold perform
  simp only [StateT.run_bind, StateT.run_get, pure_bind, hlibrary]
  cases request with
  | operate o => exact hrequest.elim
  | initialise | finalise | openSession | closeSession | closeAllSessions =>
    simp only [Request.entry] at hrequire
    simp only [initialise, finalise, openSession, closeSession, closeAllSessions, invokeReleasing,
      invoke, hrequire]
    rfl

section Replies

variable {reply : Reply} {after : Host κ η ρ μ}

theorem finalise_run (h : library.Provides .finalise)
    (hcall : call replies library ⟨.finalise, [.pointer false]⟩ host = (reply, after)) :
    finalise replies library host =
      ((Negotiation.check EntryPoint.finalise.name reply.status).map fun _ => .done,
        if reply.status = Status.ok then { after with activeHandler := none } else after) := by
  simp only [finalise, bind, StateT.bind, Negotiation.check]
  by_cases hs : reply.status = Status.ok
  · rw [invoke_of_ok h hcall hs, if_pos hs, if_pos hs]
    rfl
  · rw [invoke_of_ne_ok h hcall hs, if_neg hs, if_neg hs]
    rfl

theorem openSession_run (h : library.Provides .openSession) {slot flags : Word}
    {registration : Option κ} (hcall : call replies library ⟨.openSession,
      [.word slot, .word flags, .listener (registration.map fun _ => handle)]⟩ host =
        (reply, after)) :
    openSession replies library handle slot flags registration host =
      ((Negotiation.check EntryPoint.openSession.name reply.status).map fun _ =>
        .word reply.handleValue,
        if reply.status = Status.ok then after.setRegistrations handle
          ((after.registrations handle).put reply.handleValue registration)
        else after) := by
  simp only [openSession, bind, StateT.bind, Negotiation.check]
  by_cases hs : reply.status = Status.ok
  · rw [invoke_of_ok h hcall hs, if_pos hs, if_pos hs]
    rfl
  · rw [invoke_of_ne_ok h hcall hs, if_neg hs, if_neg hs]
    rfl

theorem invokeReleasing_run {entry : EntryPoint} {arguments : List Argument}
    (h : library.Provides entry)
    (hcall : call replies library ⟨entry, arguments⟩ host = (reply, after))
    (release : Registrations κ → Registrations κ) :
    invokeReleasing replies library entry arguments handle release host =
      ((Negotiation.check entry.name reply.status).map fun _ => .done,
        after.setRegistrations handle (release (after.registrations handle))) := by
  simp only [invokeReleasing, Library.require_of_provides h, bind, StateT.bind, Negotiation.check]
  by_cases hs : reply.status = Status.ok
  · rw [invoke_of_ok h hcall hs, if_pos hs]
    rfl
  · rw [invoke_of_ne_ok h hcall hs, if_neg hs]
    rfl

theorem initialise_run (h : library.Provides .initialise) {args : Option (InitArgs η)}
    (hcall : call replies library ⟨.initialise, [.initRecord (args.map InitArgs.toRecord)]⟩
      (host.enter (.initialise args)) = (reply, after)) :
    initialise replies library args host =
      ((Negotiation.check EntryPoint.initialise.name reply.status).map fun _ => .done,
        after.settle handle (host.activeHandler.map Prod.fst) reply (.initialise args)) := by
  simp only [initialise, Library.require_of_provides h]
  refine (bind_of_eq (x := get) rfl).trans ?_
  -- a handler among the arguments is installed before the call
  by_cases hs : reply.status = Status.ok
  · have hinvoke := invoke_of_ok h hcall hs
    rw [Negotiation.check_of_ok hs]
    obtain _ | ⟨flags, _ | handler⟩ := args
    · exact bind_of_eq hinvoke
    · exact bind_of_eq hinvoke
    · rw [settle, if_pos hs]
      exact (bind_of_eq (x := install (some handler)) rfl).trans (bind_of_eq hinvoke)
  · have hinvoke := invoke_of_ne_ok h hcall hs
    rw [Negotiation.check_of_ne_ok hs]
    obtain _ | ⟨flags, _ | handler⟩ := args
    · exact bind_of_eq hinvoke
    · exact bind_of_eq hinvoke
    · rw [settle, if_neg hs]
      exact (bind_of_eq (x := install (some handler)) rfl).trans (bind_of_eq hinvoke)

end Replies

theorem perform_called (hrequest : request.ConcernsSessions)
    (hlibrary : host.library handle = .ok library) (h : library.Provides request.entry)
    {reply : Reply} {after : Host κ η ρ μ}
    (hcall : call replies library ⟨request.entry, request.arguments handle⟩ (host.enter request) =
      (reply, after)) :
    (perform replies handle request).run host =
      (answer ((Negotiation.check request.entry.name reply.status).map fun _ =>
        request.response reply), after.settle handle (host.activeHandler.map Prod.fst) reply
          request) := by
  have answered {x : StateM (Host κ η ρ μ) (Except Error Response)} {result : Except Error Response}
      {final : Host κ η ρ μ} (hx : x host = (result, final)) :
      (do return answer (← x) : StateM (Host κ η ρ μ) Answer).run host =
        (answer result, final) := by
    simp only [StateT.run, bind, StateT.bind, hx]
    rfl
  unfold perform
  simp only [StateT.run_bind, StateT.run_get, pure_bind, hlibrary]
  cases request with
  | operate o => exact hrequest.elim
  | initialise args => exact answered (initialise_run h hcall)
  | finalise => exact answered (finalise_run h hcall)
  | openSession slot flags registration => exact answered (openSession_run h hcall)
  | closeSession session => exact answered (invokeReleasing_run h hcall _)
  | closeAllSessions slot => exact answered (invokeReleasing_run h hcall _)

end Managing

theorem run_perform_operate (replies : Replies η ρ μ) (handle : Nat) (operation : Operation)
    (host : Host κ η ρ μ) :
    (perform replies handle (.operate operation)).run host =
      match host.library handle with
      | .error e => (operation.refused (.error e), host)
      | .ok library => (operation.run library (call replies library)).run host := by
  show (match host.library handle with
    | .error e => (pure (operation.refused (.error e)) : StateM (Host κ η ρ μ) Answer)
    | .ok library => operation.run library (call replies library)) host = _
  cases host.library handle <;> rfl

/-! ### The calls of a request -/

/-- An application whose modules keep a list of the calls made, besides their own state. -/
def noting (host : Host κ η ρ μ) (log : List (Exchange Call)) :
    Host κ η ρ (μ × List (Exchange Call)) where
  handles := host.handles
  connections := host.connections
  runtime := host.runtime
  activeHandler := host.activeHandler
  modules := (host.modules, log)

/-- Modules that reply as others and note each call with the reply to it. -/
def notingReplies (replies : Replies η ρ μ) : Replies η ρ (μ × List (Exchange Call)) :=
  fun activeHandler library => recorded (replies activeHandler library)

/-- The calls that a request makes, in order. -/
def calls [Allocator] (replies : Replies η ρ μ) (handle : Nat) (request : Request κ η)
    (host : Host κ η ρ μ) : List (Exchange Call) :=
  ((perform (notingReplies replies) handle request).run (host.noting [])).2.modules.2

section Noting

variable {replies : Replies η ρ μ} {handle : Nat} {host : Host κ η ρ μ}
  {log : List (Exchange Call)}

theorem noting_library : (host.noting log).library handle = host.library handle := rfl

theorem noting_call (library : Library) (c : Call) {reply : Reply} {after : Host κ η ρ μ}
    (h : call replies library c host = (reply, after)) :
    call (notingReplies replies) library c (host.noting log) =
      (reply, after.noting (log ++ [⟨c, reply⟩])) := by
  cases h
  rfl

theorem call_notes (replies : Replies η ρ μ) (library : Library) (start : Host κ η ρ μ)
    (log : List (Exchange Call)) :
    Notes (fun made (t : Host κ η ρ (μ × List (Exchange Call))) (s : Host κ η ρ μ) =>
      t = s.noting (log ++ made) ∧ Calls (call replies library) start made s)
      (call (notingReplies replies) library) (call replies library) := by
  rintro c made t s ⟨rfl, hmade⟩
  refine ⟨_, _, _, noting_call library c rfl, rfl, ?_, hmade.append (.single rfl)⟩
  rw [List.append_assoc]

theorem noting_enter (request : Request κ η) :
    (host.noting log).enter request = (host.enter request).noting log := by
  cases request with
  | initialise args => obtain _ | ⟨flags, _ | handler⟩ := args <;> rfl
  | _ => rfl

theorem noting_settle (previous : Option η) (reply : Reply) (request : Request κ η) :
    (host.noting log).settle handle previous reply request =
      (host.settle handle previous reply request).noting log := by
  by_cases hs : reply.status = Status.ok <;> cases request with
  | initialise args =>
    obtain _ | ⟨flags, _ | handler⟩ := args <;> simp only [settle, hs, if_true, if_false] <;> rfl
  | _ => simp only [settle, hs, if_true, if_false] <;> rfl

end Noting

section Runs

variable [Allocator] (replies : Replies η ρ μ) (handle : Nat) (host : Host κ η ρ μ)

/-- A request goes in one of the ways of `Performed`, whether the modules note its calls or not. -/
theorem perform_noting (request : Request κ η) (log : List (Exchange Call)) :
    ∃ made answer after,
      (perform (notingReplies replies) handle request).run (host.noting log) =
        (answer, after.noting (log ++ made)) ∧
      (perform replies handle request).run host = (answer, after) ∧
      Performed replies handle host request made answer after := by
  have unchanged : host.noting log = host.noting (log ++ []) := by rw [List.append_nil]
  cases hlibrary : host.library handle with
  | error e =>
    refine ⟨[], request.refused e, host, ?_, perform_of_error hlibrary, .unreached hlibrary⟩
    rw [← unchanged]
    exact perform_of_error (noting_library.trans hlibrary)
  | ok library =>
    have hnoting : (host.noting log).library handle = .ok library := noting_library.trans hlibrary
    by_cases hrequest : request.ConcernsSessions
    case pos =>
      by_cases hprovides : library.Provides request.entry
      case neg =>
        refine ⟨[], _, host, ?_, perform_unprovided hrequest hlibrary hprovides,
          .unprovided hrequest hlibrary hprovides⟩
        rw [← unchanged]
        exact perform_unprovided hrequest hnoting hprovides
      case pos =>
        let c : Call := ⟨request.entry, request.arguments handle⟩
        obtain ⟨reply, after, hcall⟩ :
            ∃ reply after, call replies library c (host.enter request) = (reply, after) :=
          ⟨_, _, rfl⟩
        have hnoted :
            call (notingReplies replies) library c ((host.enter request).noting log) = _ :=
          noting_call library c hcall
        refine ⟨[⟨c, reply⟩], _, _, ?_, perform_called hrequest hlibrary hprovides hcall,
          .called hrequest hlibrary hprovides hcall⟩
        rw [← noting_enter] at hnoted
        rw [perform_called hrequest hnoting hprovides hnoted, noting_settle]
        rfl
    case neg =>
      cases request with
      | operate o =>
        rw [run_perform_operate, run_perform_operate, hnoting, hlibrary]
        dsimp only
        unfold Operation.run
        cases hprepare : o.prepare library with
        | error fault =>
          refine ⟨[], o.refused fault, host, ?_, rfl, .unprepared hlibrary hprepare⟩
          rw [← unchanged]
          rfl
        | ok plan =>
          have htracks := Plan.run_tracks (call_notes replies library host log) o.entry
            o.outputTemplate o.outputMechanism plan
          obtain ⟨made, answer, t, after, hn, hp, ⟨rfl, hcalls⟩, hcarried⟩ :=
            htracks [] (host.noting log) host ⟨unchanged, .nil host⟩
          exact ⟨made, answer, after, hn, hp, .carried hlibrary hprepare hcalls hcarried⟩
      | _ => exact absurd trivial hrequest

theorem perform_performed (request : Request κ η) :
    Performed replies handle host request (calls replies handle request host)
      ((perform replies handle request).run host).1
      ((perform replies handle request).run host).2 := by
  obtain ⟨made, answer, after, hnoted, hrun, hperformed⟩ :=
    perform_noting replies handle host request []
  have hmade : calls replies handle request host = made := by
    rw [calls, hnoted]
    rfl
  rwa [hmade, hrun]

end Runs

/-- An operation for which there is a plan is carried out by it. -/
theorem Performed.of_prepare {replies : Replies η ρ μ} {handle : Nat} {host after : Host κ η ρ μ}
    {o : Operation} {library : Library} {plan : Plan} {made : List (Exchange Call)}
    {answer : Answer} (h : Performed replies handle host (.operate o) made answer after)
    (hlibrary : host.library handle = .ok library) (hprepare : o.prepare library = .ok plan) :
    Calls (call replies library) host made after ∧
      plan.Carried o.entry o.outputTemplate o.outputMechanism made answer := by
  cases h with
  | unreached he => cases he.symm.trans hlibrary
  | unprovided hrequest | called hrequest => exact hrequest.elim
  | unprepared hlibrary' he =>
    cases hlibrary.symm.trans hlibrary'
    cases he.symm.trans hprepare
  | carried hlibrary' hprepare' hcalls hcarried =>
    cases hlibrary.symm.trans hlibrary'
    cases hprepare.symm.trans hprepare'
    exact ⟨hcalls, hcarried⟩

/-! ### What stays as it is -/

/-- Two applications with the same connections, under as many handles, on the same runtime. -/
structure SameConnections (host after : Host κ η ρ μ) : Prop where
  connections : after.connections = host.connections
  handles : after.handles.length = host.handles.length
  runtime : after.runtime = host.runtime

namespace SameConnections

variable {host host' host'' : Host κ η ρ μ}

theorem refl (host : Host κ η ρ μ) : SameConnections host host := ⟨rfl, rfl, rfl⟩

theorem trans (h : SameConnections host host') (h' : SameConnections host' host'') :
    SameConnections host host'' :=
  ⟨h'.connections.trans h.connections, h'.handles.trans h.handles, h'.runtime.trans h.runtime⟩

end SameConnections

section Frames

variable {replies : Replies η ρ μ} {handle : Nat} {request : Request κ η} {library : Library}
  {host after : Host κ η ρ μ}

theorem call_eq {c : Call} {reply : Reply} (h : call replies library c host = (reply, after)) :
    after = { host with modules := after.modules } := by
  cases h
  rfl

theorem calls_eq {made : List (Exchange Call)} (h : Calls (call replies library) host made after) :
    after = { host with modules := after.modules } := by
  induction h with
  | nil => rfl
  | cons hc _ ih =>
    rw [call_eq hc] at ih
    exact ih

theorem enter_eq (host : Host κ η ρ μ) (request : Request κ η) :
    host.enter request = { host with activeHandler := (host.enter request).activeHandler } := by
  cases request with
  | initialise args => obtain _ | ⟨flags, _ | handler⟩ := args <;> rfl
  | _ => rfl

theorem setRegistrations_self (host : Host κ η ρ μ) (handle : Nat) :
    host.setRegistrations handle (host.registrations handle) = host := by
  have hhandles : (host.setRegistrations handle (host.registrations handle)).handles =
      host.handles := by
    refine List.ext_getElem? fun i => ?_
    simp only [setRegistrations, List.getElem?_modify, registrations]
    split
    case isTrue hi =>
      subst hi
      cases host.handles[handle]? <;> rfl
    case isFalse => exact Option.map_id'
  show { host with handles := (host.setRegistrations handle _).handles } = host
  rw [hhandles]

/-- All that a reply changes are the registrations of the handle and the active handler. -/
theorem settle_eq (host : Host κ η ρ μ) (handle : Nat) (previous : Option η) (reply : Reply)
    (request : Request κ η) :
    host.settle handle previous reply request =
      { host.setRegistrations handle (request.revise reply (host.registrations handle)) with
        activeHandler := (host.settle handle previous reply request).activeHandler } := by
  have unrevised {request : Request κ η}
      (hrevise : request.revise reply (host.registrations handle) = host.registrations handle)
      (hsettle : host.settle handle previous reply request =
        { host with
          activeHandler := (host.settle handle previous reply request).activeHandler }) :
      host.settle handle previous reply request =
        { host.setRegistrations handle (request.revise reply (host.registrations handle)) with
          activeHandler := (host.settle handle previous reply request).activeHandler } := by
    rw [hrevise, setRegistrations_self]
    exact hsettle
  cases request with
  | initialise args =>
    refine unrevised rfl ?_
    obtain _ | ⟨flags, _ | handler⟩ := args
    · rfl
    · rfl
    · rw [settle]
      split <;> rfl
  | finalise =>
    refine unrevised rfl ?_
    rw [settle]
    split <;> rfl
  | openSession =>
    by_cases hok : reply.status = Status.ok
    · rw [Request.revise, settle, if_pos hok, if_pos hok]
    · refine unrevised (if_neg hok) ?_
      rw [settle, if_neg hok]
  | closeSession | closeAllSessions => rfl
  | operate => exact unrevised rfl rfl

theorem settle_modules (host : Host κ η ρ μ) (handle : Nat) (previous : Option η) (reply : Reply)
    (request : Request κ η) :
    (host.settle handle previous reply request).modules = host.modules := by
  rw [settle_eq]
  rfl

theorem sameConnections_settle (host : Host κ η ρ μ) (handle : Nat) (previous : Option η)
    (reply : Reply) (request : Request κ η) :
    SameConnections host (host.settle handle previous reply request) := by
  rw [settle_eq]
  exact ⟨rfl, List.length_modify .., rfl⟩

/-- No request connects or disconnects a library. -/
theorem Performed.sameConnections {made : List (Exchange Call)} {answer : Answer}
    (h : Performed replies handle host request made answer after) : SameConnections host after := by
  cases h with
  | unreached | unprovided | unprepared => exact .refl host
  | @called _ _ reply _ _ _ _ hcall =>
    have hcalled := call_eq hcall
    rw [enter_eq] at hcalled
    refine .trans ?_ (sameConnections_settle _ _ _ _ _)
    rw [hcalled]
    exact ⟨rfl, rfl, rfl⟩
  | carried _ _ hcalls _ =>
    rw [calls_eq hcalls]
    exact ⟨rfl, rfl, rfl⟩

end Frames

end Host

end Cryptoki
