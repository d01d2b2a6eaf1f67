import Cryptoki.Proofs.Host.Connecting
import Cryptoki.Proofs.Notifications
import Cryptoki.Proofs.Replay
import Cryptoki.Simulation.Memory

/-! Where the locking callbacks of modules go. They carry no context, so all modules share one slot
for the active handler: whichever module is put to use with a handler fills the slot, and whichever
is given up empties it (`Host.handler_run`). The handler of a module is reached for as long as no
other takes its place (`Host.reached_of_initialise`). A module that cannot be put to use leaves the
earlier handler in the slot, but not always with the earlier runtime
(`Host.initialise_restores_iff`). -/

namespace Cryptoki

variable {κ η ρ μ σ : Type}

/-! ### Deliveries -/

namespace Locking

/-- A use of the locking callbacks, with a mutex or a place for one. -/
inductive Callback where
  | create
  | destroy (m : Mutex)
  | lock (m : Mutex)
  | unlock (m : Mutex)

def Callback.run (active : Active σ) : Callback → StateM σ Unit
  | create => do let _ ← Locking.create active true
  | destroy m => do let _ ← Locking.destroy active (some m)
  | lock m => do let _ ← Locking.lock active (some m)
  | unlock m => do let _ ← Locking.unlock active (some m)

/-- A handler that notes each use of its methods under the name `h`. -/
def recorder (h : η) : MutexHandler (List η) where
  create := do
    modify (· ++ [h])
    return .done {}
  destroy := fun _ => do
    modify (· ++ [h])
    return .done ()
  lock := fun m => do
    modify (· ++ [h])
    return m.lock
  unlock := fun m => do
    modify (· ++ [h])
    return m.unlock

/-- The handlers that a callback reaches. -/
def reached (active : Option (η × ρ)) (callback : Callback) : List η :=
  ((callback.run (active.map fun entry => (recorder entry.1, Host.attachedRuntime))).run []).2

theorem reached_eq (active : Option (η × ρ)) (callback : Callback) :
    reached active callback = (active.map Prod.fst).toList := by
  obtain _ | ⟨h, r⟩ := active
  · cases callback <;> rfl
  · cases callback with
    | create => rfl
    | destroy m => rfl
    | lock m =>
      obtain ⟨_ | _⟩ := m <;> rfl
    | unlock m =>
      obtain ⟨_ | _⟩ := m <;> rfl

end Locking

/-! ### Transcripts -/

/-- An act of a run, with the answer if it is a request. -/
structure Answered (κ η : Type) where
  act : Act κ η
  answer : Option Answer

namespace Answered

/-- A module is put to use with the handler `h`. -/
inductive Installs (h : η) : Answered κ η → Prop
  | intro {handle : Nat} {flags : Word} {answer : Answer} {response : Response} :
      answer.result = .ok response →
      Installs h ⟨.request handle (.initialise (some ⟨flags, some h⟩)), some answer⟩

/-- A module is given up. -/
inductive Clears : Answered κ η → Prop
  | intro {handle : Nat} {answer : Answer} {response : Response} :
      answer.result = .ok response → Clears ⟨.request handle .finalise, some answer⟩

/-- A module is given up, or put to use with a handler other than `h`. -/
def Supplants (h : η) (a : Answered κ η) : Prop := a.Clears ∨ ∃ h', a.Installs h' ∧ h' ≠ h

/-- The latest handler that a module was put to use with, no module having been given up since. -/
def Latest (h : η) (transcript : List (Answered κ η)) : Prop :=
  ∃ before a rest, transcript = before ++ a :: rest ∧ a.Installs h ∧
    ∀ b ∈ rest, ¬b.Clears ∧ ∀ h', ¬b.Installs h'

/-- What an act does to the handler in the slot. -/
structure Moves (a : Answered κ η) (slot slot' : Option η) : Prop where
  installed : ∀ h, a.Installs h → slot' = some h
  cleared : a.Clears → slot' = none
  kept : (∀ h, ¬a.Installs h) → ¬a.Clears → slot' = slot

variable {a : Answered κ η} {h h' : η}

theorem Installs.not_clears (hinstalls : a.Installs h) : ¬a.Clears := by
  cases hinstalls
  nofun

theorem Installs.unique (hinstalls : a.Installs h) (hinstalls' : a.Installs h') : h = h' := by
  cases hinstalls
  cases hinstalls'
  rfl

section Failures

variable {act : Act κ η} {answer : Answer} {fault : Fault}

theorem not_installs_of_error (hresult : answer.result = .error fault) :
    ¬Installs h (⟨act, some answer⟩ : Answered κ η) := by
  rintro ⟨hok⟩
  cases hresult.symm.trans hok

theorem not_clears_of_error (hresult : answer.result = .error fault) :
    ¬Clears (⟨act, some answer⟩ : Answered κ η) := by
  rintro ⟨hok⟩
  cases hresult.symm.trans hok

end Failures

namespace Moves

variable {slot slot' : Option η}

theorem of_installs (hinstalls : a.Installs h) (hslot : slot' = some h) : a.Moves slot slot' where
  installed h' hinstalls' := by rw [hslot, hinstalls.unique hinstalls']
  cleared hclears := absurd hclears hinstalls.not_clears
  kept hnone := absurd hinstalls (hnone h)

theorem of_clears (hclears : a.Clears) (hslot : slot' = none) : a.Moves slot slot' where
  installed _ hinstalls := absurd hclears hinstalls.not_clears
  cleared _ := hslot
  kept _ hnone := absurd hclears hnone

theorem of_kept (hinstalls : ∀ h, ¬a.Installs h) (hclears : ¬a.Clears) (hslot : slot' = slot) :
    a.Moves slot slot' where
  installed h hinstalls' := absurd hinstalls' (hinstalls h)
  cleared hclears' := absurd hclears' hclears
  kept _ _ := hslot

theorem of_refused {act : Act κ η} {answer : Answer} {fault : Fault}
    (hresult : answer.result = .error fault) (hslot : slot' = slot) :
    Moves ⟨act, some answer⟩ slot slot' :=
  of_kept (fun _ => not_installs_of_error hresult) (not_clears_of_error hresult) hslot

end Moves

theorem not_latest_nil : ¬Latest h ([] : List (Answered κ η)) := by
  rintro ⟨before, a, rest, hsplit, -⟩
  cases before <;> cases hsplit

theorem latest_concat_iff {transcript : List (Answered κ η)} :
    Latest h (transcript ++ [a]) ↔
      a.Installs h ∨ Latest h transcript ∧ ¬a.Clears ∧ ∀ h', ¬a.Installs h' := by
  constructor
  · rintro ⟨before, b, rest, hsplit, hinstalls, hrest⟩
    obtain ⟨rfl, rfl, rfl⟩ | ⟨rest, rfl, rfl⟩ := eq_or_exists_of_concat_eq hsplit
    · exact .inl hinstalls
    · have hlast := hrest a (by simp)
      have hearlier := fun c hc => hrest c (List.mem_append_left [a] hc)
      exact .inr ⟨⟨before, b, rest, rfl, hinstalls, hearlier⟩, hlast⟩
  · rintro (hinstalls | ⟨⟨before, b, rest, rfl, hinstalls, hrest⟩, hlast⟩)
    · exact ⟨transcript, a, [], rfl, hinstalls, List.forall_mem_nil _⟩
    · refine ⟨before, b, rest ++ [a], by simp, hinstalls, ?_⟩
      intro c hc
      rcases List.mem_append.mp hc with hc | hc
      · exact hrest c hc
      · rw [List.mem_singleton.mp hc]
        exact hlast

end Answered

/-- The requests that can fill the slot for the active handler, or empty it. -/
def Request.ConcernsSlot : Request κ η → Prop
  | initialise (some ⟨_, some _⟩) => True
  | finalise => True
  | _ => False

namespace Host

def handler (host : Host κ η ρ μ) : Option η := host.activeHandler.map Prod.fst

def answered [Allocator] (replies : Replies η ρ μ) (host : Host κ η ρ μ) (act : Act κ η) :
    Answered κ η :=
  { act := act
    answer := match act with
      | .request handle request => some ((perform replies handle request).run host).1
      | _ => none }

/-- Acts one after the other, with their answers. -/
def transcript [Allocator] (replies : Replies η ρ μ) :
    (host : Host κ η ρ μ) → (acts : List (Act κ η)) → List (Answered κ η)
  | _, [] => []
  | host, act :: acts =>
    answered replies host act :: transcript replies (after replies host act) acts

variable {replies : Replies η ρ μ} {host : Host κ η ρ μ}

section Slot

variable {allocator : Allocator}

theorem transcript_concat (acts : List (Act κ η)) (act : Act κ η) :
    transcript replies host (acts ++ [act]) =
      transcript replies host acts ++ [answered replies (run replies host acts) act] := by
  induction acts generalizing host with
  | nil => rfl
  | cons first acts ih => exact congrArg (answered replies host first :: ·) ih

/-! ### The slot -/

section Settling

variable {handle : Nat} {after : Host κ η ρ μ} {reply : Reply} {request : Request κ η}

/-- The slot after a request that has been called. When putting a module to use fails, the handler
that was active before is there again. -/
theorem settle_moves (hafter : after.activeHandler = (host.enter request).activeHandler) :
    Answered.Moves
      ⟨.request handle request, some (answer ((Negotiation.check request.entry.name
        reply.status).map fun _ => request.response reply))⟩
      host.handler (after.settle handle host.handler reply request).handler := by
  have unmoved {request : Request κ η} {answer : Answer} {final : Host κ η ρ μ}
      (hother : ¬request.ConcernsSlot) (hslot : final.activeHandler = host.activeHandler) :
      Answered.Moves ⟨.request handle request, some answer⟩ host.handler final.handler := by
    refine .of_kept ?_ ?_ (congrArg (Option.map Prod.fst) hslot)
    · rintro h ⟨_⟩
      exact hother trivial
    · rintro ⟨_⟩
      exact hother trivial
  cases request with
  | initialise args =>
    obtain _ | ⟨flags, _ | h⟩ := args
    · exact unmoved id hafter
    · exact unmoved id hafter
    · by_cases hok : reply.status = Status.ok
      · rw [settle, if_pos hok, Negotiation.check_of_ok hok]
        exact .of_installs (.intro rfl) (congrArg (Option.map Prod.fst) hafter)
      · rw [settle, if_neg hok, Negotiation.check_of_ne_ok hok]
        refine .of_refused rfl ?_
        -- the earlier handler is installed anew, in the runtime of now
        show (host.handler.map fun h => (h, after.runtime)).map Prod.fst = host.handler
        rw [Option.map_map]
        exact Option.map_id'
  | finalise =>
    by_cases hok : reply.status = Status.ok
    · rw [settle, if_pos hok, Negotiation.check_of_ok hok]
      exact .of_clears (.intro rfl) rfl
    · rw [settle, if_neg hok, Negotiation.check_of_ne_ok hok]
      exact .of_refused rfl (congrArg (Option.map Prod.fst) hafter)
  | openSession =>
    refine unmoved id ?_
    rw [settle]
    split <;> exact hafter
  | closeSession | closeAllSessions | operate => exact unmoved id hafter

end Settling

theorem after_moves [Allocator] (replies : Replies η ρ μ) (host : Host κ η ρ μ) (act : Act κ η) :
    (answered replies host act).Moves host.handler (after replies host act).handler := by
  cases act with
  | connect library => exact .of_kept nofun nofun rfl
  | disconnect handle =>
    refine .of_kept nofun nofun ?_
    rw [after, disconnect_run]
    rfl
  | disconnectAll => exact .of_kept nofun nofun rfl
  | request handle request =>
    have hperformed := perform_performed replies handle host request
    show Answered.Moves ⟨_, some ((perform replies handle request).run host).1⟩ host.handler
      ((perform replies handle request).run host).2.handler
    generalize (perform replies handle request).run host = answered at hperformed ⊢
    obtain ⟨answer, final⟩ := answered
    generalize calls replies handle request host = made at hperformed
    cases hperformed with
    | unreached | unprovided => exact .of_refused (request.refused_result _) rfl
    | unprepared => exact .of_refused rfl rfl
    | called hrequest hlibrary hprovides hcall =>
      refine settle_moves ?_
      rw [call_eq hcall]
    | carried hlibrary hprepare hcalls hcarried =>
      refine .of_kept nofun nofun ?_
      rw [calls_eq hcalls]
      rfl

theorem handler_run_iff [Allocator] (replies : Replies η ρ μ) {host : Host κ η ρ μ}
    (hempty : host.handler = none) (acts : List (Act κ η)) (h : η) :
    (run replies host acts).handler = some h ↔
      Answered.Latest h (transcript replies host acts) := by
  -- by induction from the last act, which decides alone unless it leaves the slot as it is
  induction acts using List.reverseRecOn generalizing h with
  | nil =>
    show host.handler = some h ↔ Answered.Latest h []
    rw [hempty]
    exact ⟨nofun, fun hlatest => absurd hlatest Answered.not_latest_nil⟩
  | append_singleton acts act ih =>
    have hmoves := after_moves replies (run replies host acts) act
    rw [run_concat, transcript_concat, Answered.latest_concat_iff, ← ih h]
    generalize answered replies (run replies host acts) act = a at hmoves
    by_cases hinstalls : ∃ h', a.Installs h'
    · obtain ⟨h', hinstalls⟩ := hinstalls
      rw [hmoves.installed h' hinstalls]
      constructor
      · rintro ⟨⟩
        exact .inl hinstalls
      · rintro (hother | ⟨-, -, hnone⟩)
        · rw [hother.unique hinstalls]
        · exact absurd hinstalls (hnone h')
    · rw [not_exists] at hinstalls
      by_cases hclears : a.Clears
      · rw [hmoves.cleared hclears]
        constructor
        · nofun
        · rintro (hother | ⟨-, hkept, -⟩)
          · exact absurd hother (hinstalls h)
          · exact absurd hclears hkept
      · rw [hmoves.kept hinstalls hclears]
        constructor
        · intro hslot
          exact .inr ⟨hslot, hclears, hinstalls⟩
        · rintro (hother | ⟨hslot, -, -⟩)
          · exact absurd hother (hinstalls h)
          · exact hslot

theorem handler_run_of_not_supplants (replies : Replies η ρ μ) {host : Host κ η ρ μ} {h : η}
    (hactive : host.handler = some h) {acts : List (Act κ η)}
    (hacts : ∀ a ∈ transcript replies host acts, ¬a.Supplants h) :
    (run replies host acts).handler = some h := by
  induction acts generalizing host with
  | nil => exact hactive
  | cons act acts ih =>
    rw [transcript, List.forall_mem_cons] at hacts
    refine ih ?_ hacts.2
    have hmoves := after_moves replies host act
    generalize answered replies host act = a at hmoves hacts
    by_cases hinstalls : ∃ h', a.Installs h'
    · obtain ⟨h', hinstalls⟩ := hinstalls
      have hsame : h' = h := by
        by_contra hne
        exact hacts.1 (.inr ⟨h', hinstalls, hne⟩)
      rw [hmoves.installed h' hinstalls, hsame]
    · rw [not_exists] at hinstalls
      rw [hmoves.kept hinstalls fun hclears => hacts.1 (.inl hclears), hactive]

/-! ### During calls -/

/-- An application whose modules keep a list of active handlers, besides their own state. -/
def watching (host : Host κ η ρ μ) (seen : List (Option (η × ρ))) :
    Host κ η ρ (μ × List (Option (η × ρ))) where
  handles := host.handles
  connections := host.connections
  runtime := host.runtime
  activeHandler := host.activeHandler
  modules := (host.modules, seen)

/-- Modules that reply as others and note the active handler in each call. -/
def watchingReplies (replies : Replies η ρ μ) : Replies η ρ (μ × List (Option (η × ρ))) :=
  fun active library c state =>
    let (reply, modules) := replies active library c state.1
    (reply, (modules, state.2 ++ [active]))

/-- The active handler in each call that a request makes. -/
def activeDuring [Allocator] (replies : Replies η ρ μ) (handle : Nat) (request : Request κ η)
    (host : Host κ η ρ μ) : List (Option (η × ρ)) :=
  ((perform (watchingReplies replies) handle request).run (host.watching [])).2.modules.2

section Watching

variable {handle : Nat} {request : Request κ η} {library : Library}

theorem watching_enter (seen : List (Option (η × ρ))) (request : Request κ η) :
    (host.watching seen).enter request = (host.enter request).watching seen := by
  cases request with
  | initialise args => obtain _ | ⟨flags, _ | h⟩ := args <;> rfl
  | _ => rfl

theorem calls_watching {start final : Host κ η ρ (μ × List (Option (η × ρ)))}
    {made : List (Exchange Call)}
    (h : Calls (call (watchingReplies replies) library) start made final)
    {active : Option (η × ρ)} (hactive : start.activeHandler = active)
    (hseen : ∀ x ∈ start.modules.2, x = active) : ∀ x ∈ final.modules.2, x = active := by
  induction h with
  | nil => exact hseen
  | cons hcall _ ih =>
    cases hcall
    refine ih hactive ?_
    intro x hx
    rcases List.mem_append.mp hx with hx | hx
    · exact hseen x hx
    · rw [List.mem_singleton.mp hx]
      exact hactive

/-- In the calls of a request the active handler is the one that the request brings, if it brings
one. -/
theorem eq_of_mem_activeDuring {active : Option (η × ρ)}
    (h : active ∈ activeDuring replies handle request host) :
    active = (host.enter request).activeHandler := by
  have hperformed := perform_performed (watchingReplies replies) handle (host.watching []) request
  unfold activeDuring at h
  generalize (perform (watchingReplies replies) handle request).run (host.watching []) = answered
    at hperformed h
  obtain ⟨answer, final⟩ := answered
  generalize calls (watchingReplies replies) handle request (host.watching []) = made at hperformed
  cases hperformed with
  | unreached | unprovided | unprepared => cases h
  | @called _ _ reply called _ _ _ hcall =>
    replace h : active ∈ (called.settle handle _ reply request).modules.2 := h
    rw [settle_modules] at h
    rw [watching_enter] at hcall
    exact calls_watching (.single hcall) rfl (List.forall_mem_nil _) active h
  | @carried o _ _ _ _ _ _ _ hcalls _ =>
    exact calls_watching hcalls rfl (List.forall_mem_nil _) active h

theorem activeDuring_initialise (replies : Replies η ρ μ) {flags : Word} {h : η}
    (hlibrary : host.library handle = .ok library) (hprovides : library.Provides .initialise) :
    activeDuring replies handle (.initialise (some ⟨flags, some h⟩)) host =
      [some (h, host.runtime)] := by
  let request : Request κ η := .initialise (some ⟨flags, some h⟩)
  obtain ⟨reply, after, hcall⟩ : ∃ reply after, call (watchingReplies replies) library
      ⟨request.entry, request.arguments handle⟩ ((host.watching []).enter request) =
        (reply, after) := ⟨_, _, rfl⟩
  have hwatching : (host.watching []).library handle = .ok library := hlibrary
  have hrequest : request.ConcernsSessions := trivial
  rw [activeDuring, perform_called hrequest hwatching hprovides hcall]
  show (after.settle handle _ reply request).modules.2 = _
  rw [settle_modules]
  cases hcall
  rfl

end Watching

/-! ### Handlers of modules -/

theorem reached_of_handler {h : η} (hactive : host.handler = some h) (callback : Locking.Callback) :
    Locking.reached host.activeHandler callback = [h] := by
  rw [Locking.reached_eq]
  show host.handler.toList = [h]
  rw [hactive]
  rfl

theorem handler_enter {h : η} {request : Request κ η} (hactive : host.handler = some h)
    (hrequest : ∀ flags h', request = .initialise (some ⟨flags, some h'⟩) → h' = h) :
    (host.enter request).handler = some h := by
  cases request with
  | initialise args =>
    obtain _ | ⟨flags, _ | h'⟩ := args
    · exact hactive
    · exact hactive
    · exact congrArg some (hrequest flags h' rfl)
  | _ => exact hactive

/-- Starting from an empty slot, the active handler after any acts is the latest one that a module
was put to use with, none when a module has been given up since. In the call that puts a module to
use, the locking callbacks reach the handler that comes with it, whatever the module replies. -/
theorem handler_run (replies : Replies η ρ μ) {host : Host κ η ρ μ}
    (hempty : host.activeHandler = none) (acts : List (Act κ η)) :
    let point := run replies host acts
    (∀ h, point.handler = some h ↔ Answered.Latest h (transcript replies host acts)) ∧
    (point.handler = none ↔ ∀ h, ¬Answered.Latest h (transcript replies host acts)) ∧
    ∀ handle library flags h callback, point.library handle = .ok library →
      library.Provides .initialise →
      (activeDuring replies handle (.initialise (some ⟨flags, some h⟩)) point).map
        (Locking.reached · callback) = [[h]] := by
  intro point
  have hslot : host.handler = none := congrArg (Option.map Prod.fst) hempty
  have hlatest := handler_run_iff replies hslot acts
  refine ⟨hlatest, ?_, ?_⟩
  · rw [Option.eq_none_iff_forall_not_mem]
    exact forall_congr' fun h => not_congr (hlatest h)
  · intro handle library flags h callback hlibrary hprovides
    rw [activeDuring_initialise replies hlibrary hprovides, List.map_singleton, Locking.reached_eq]
    rfl

end Slot

def lifecycleLibrary : Library := ⟨"lifecycle", some [.initialise, .finalise], false⟩

open Simulation in
/-- A module is put to use with one handler, and cannot be put to use again with another. -/
theorem handler_after_refusal :
    let replies : Replies String Unit (List Reply) := fun _ _ => scripted
    let host : Host Unit String Unit (List Reply) :=
      fresh () none [{}, { status := Status.generalError }]
    let acts : List (Act Unit String) :=
      [.connect lifecycleLibrary, .request 0 (.initialise (some ⟨0, some "first"⟩))]
    let again : Request Unit String := .initialise (some ⟨0, some "second"⟩)
    (run replies host (acts ++ [.request 0 again])).handler = some "first" ∧
      (activeDuring replies 0 again (run replies host acts)).map (Locking.reached · .create) =
        [["second"]] := by
  intro replies host acts again
  let point := run replies host [.connect lifecycleLibrary]
  let first : Act Unit String := .request 0 (.initialise (some ⟨0, some "first"⟩))
  have hfirst : (answered replies point first).Installs "first" :=
    @Answered.Installs.intro _ _ _ _ _ _ .done rfl
  have hrefused : ((perform replies 0 again).run (run replies host acts)).1.result =
      .error (.error (.status "C_Initialize" Status.generalError)) := rfl
  constructor
  · refine ((handler_run replies rfl _).1 "first").mpr
      ⟨[answered replies host (.connect lifecycleLibrary)], _,
        [answered replies (run replies host acts) (.request 0 again)], rfl, hfirst, ?_⟩
    rw [List.forall_mem_singleton]
    exact ⟨Answered.not_clears_of_error hrefused, fun _ => Answered.not_installs_of_error hrefused⟩
  · exact (handler_run replies rfl acts).2.2 0 lifecycleLibrary 0 "second" .create rfl
      ⟨_, rfl, by decide⟩

/-- From a successful call that puts a module to use with a handler, the locking callbacks reach
that handler until a module is given up, or one is put to use with another handler. Other acts
change nothing in that. The exception is the call that puts a module to use with another handler
but fails. -/
theorem reached_of_initialise [Allocator] (replies : Replies η ρ μ) (host : Host κ η ρ μ)
    {handle : Nat} {flags : Word} {h : η} {response : Response} {acts : List (Act κ η)} :
    let begin : Act κ η := .request handle (.initialise (some ⟨flags, some h⟩))
    let begun := after replies host begin
    ((perform replies handle (.initialise (some ⟨flags, some h⟩))).run host).1.result =
      .ok response →
    (∀ a ∈ transcript replies begun acts, ¬a.Supplants h) →
    let point := run replies begun acts
    (∀ callback, Locking.reached point.activeHandler callback = [h]) ∧
    ∀ handle' request, (∀ flags' h', request = .initialise (some ⟨flags', some h'⟩) → h' = h) →
      ∀ active ∈ activeDuring replies handle' request point, ∀ callback,
        Locking.reached active callback = [h] := by
  intro begin begun hok hacts point
  have hbegun : begun.handler = some h := (after_moves replies host begin).installed h (.intro hok)
  have hactive : point.handler = some h := handler_run_of_not_supplants replies hbegun hacts
  refine ⟨reached_of_handler hactive, ?_⟩
  intro handle' request hrequest active hmem
  rw [eq_of_mem_activeDuring hmem]
  exact reached_of_handler (handler_enter hactive hrequest)

section Beside

open Simulation

/-- A module that answers every call with success. -/
def obliging : Replies String Unit Unit := fun _ _ _ => pure {}

/-- Two connected modules, the second of which is in use without a handler. -/
def besideUsed : Host Unit String Unit Unit :=
  run obliging (fresh () none ())
    [.connect lifecycleLibrary, .connect lifecycleLibrary, .request 1 (.initialise none)]

theorem reached_beside_initialise :
    let begin : Act Unit String := .request 0 (.initialise (some ⟨0, some "first"⟩))
    let point := run obliging (after obliging besideUsed begin) [.request 1 (.initialise none)]
    (∀ callback, Locking.reached point.activeHandler callback = ["first"]) ∧
      ∀ active ∈ activeDuring obliging 1 .finalise point, ∀ callback,
        Locking.reached active callback = ["first"] := by
  intro begin point
  have hok : ((perform obliging 0 (.initialise (some ⟨0, some "first"⟩))).run besideUsed).1.result =
      .ok .done := rfl
  have hacts : ∀ a ∈ transcript obliging (after obliging besideUsed begin)
      [.request 1 (.initialise none)], ¬a.Supplants "first" := by
    rw [transcript, transcript, List.forall_mem_singleton]
    rintro (⟨⟨⟩⟩ | ⟨h', ⟨⟩, -⟩)
  obtain ⟨hpoint, hduring⟩ := reached_of_initialise obliging besideUsed hok hacts
  exact ⟨hpoint, hduring 1 .finalise nofun⟩

/-- The first module is put to use with a handler. Once the second module has been given up, the
locking callbacks of the first reach no handler, and once the second is put to use with a handler,
they reach that one. -/
theorem handler_lost_beside :
    let begin : Act Unit String := .request 0 (.initialise (some ⟨0, some "first"⟩))
    let begun := after obliging besideUsed begin
    (answered obliging besideUsed begin).Installs "first" ∧
      Locking.reached (run obliging begun [.request 1 .finalise]).activeHandler .create = [] ∧
      Locking.reached (run obliging begun
        [.request 1 (.initialise (some ⟨0, some "second"⟩))]).activeHandler .create = ["second"] ∧
      ¬∀ acts, (∀ act ∈ acts, act ≠ .request 0 .finalise) → ∀ callback,
        Locking.reached (run obliging begun acts).activeHandler callback = ["first"] := by
  intro begin begun
  have hlost : Locking.reached (run obliging begun [.request 1 .finalise]).activeHandler .create =
      [] := rfl
  refine ⟨@Answered.Installs.intro _ _ _ _ _ _ .done rfl, hlost, rfl, ?_⟩
  intro hkept
  have hreached := hkept [.request 1 .finalise] (by simp) .create
  cases hlost.symm.trans hreached

end Beside

/-! ### Failures -/

section Failing

variable {allocator : Allocator} {handle : Nat} {args : Option (InitArgs η)} {fault : Fault}

theorem map_runtime_eq_iff (slot : Option (η × ρ)) (runtime : ρ) :
    ((slot.map Prod.fst).map fun h => (h, runtime)) = slot ↔
      ∀ owner ∈ slot, owner.2 = runtime := by
  obtain _ | ⟨h, owner⟩ := slot
  · exact iff_of_true rfl nofun
  · simp [eq_comm]

/-- When putting a module to use fails, the slot is as it was before, or it holds the handler of
before in the runtime of now. -/
theorem Performed.slot_of_failure {made : List (Exchange Call)} {answer : Answer}
    {after : Host κ η ρ μ} (h : Performed replies handle host (.initialise args) made answer after)
    (hresult : answer.result = .error fault) :
    (args.bind InitArgs.handler = none ∨ made = []) ∧
        after.activeHandler = host.activeHandler ∨
      args.bind InitArgs.handler ≠ none ∧ made ≠ [] ∧
        after.activeHandler = host.handler.map fun h => (h, host.runtime) := by
  cases h with
  | unreached | unprovided => exact .inl ⟨.inr rfl, rfl⟩
  | @called _ _ reply called _ _ _ hcall =>
    have hne : reply.status ≠ Status.ok := by
      intro hok
      rw [Negotiation.check_of_ok hok] at hresult
      cases hresult
    have hactive : called.activeHandler = (host.enter (.initialise args)).activeHandler := by
      rw [call_eq hcall]
    obtain _ | ⟨flags, _ | h⟩ := args
    · exact .inl ⟨.inl rfl, hactive⟩
    · exact .inl ⟨.inl rfl, hactive⟩
    · refine .inr ⟨nofun, nofun, ?_⟩
      have hruntime : called.runtime = host.runtime := by
        rw [call_eq hcall]
        rfl
      rw [settle, if_neg hne, hruntime]
      rfl

/-- When putting a module to use fails, the handler that was active before is active again. It is
with its runtime again, unless the arguments have brought a handler to a call and the earlier one
was installed with another runtime than that of this application. -/
theorem initialise_restores_iff (replies : Replies η ρ μ) (handle : Nat) (host : Host κ η ρ μ)
    (args : Option (InitArgs η)) {fault : Fault}
    (h : ((perform replies handle (.initialise args)).run host).1.result = .error fault) :
    let after := ((perform replies handle (.initialise args)).run host).2
    after.handler = host.handler ∧
      (after.activeHandler = host.activeHandler ↔
        args.bind InitArgs.handler = none ∨ calls replies handle (.initialise args) host = [] ∨
          ∀ owner ∈ host.activeHandler, owner.2 = host.runtime) := by
  intro after
  have hperformed := perform_performed replies handle host (.initialise args)
  obtain ⟨hunset, hslot⟩ | ⟨hset, hcalled, hslot⟩ := hperformed.slot_of_failure h
  · exact ⟨congrArg (Option.map Prod.fst) hslot, iff_of_true hslot (by tauto)⟩
  · replace hslot : after.activeHandler = host.handler.map fun h => (h, host.runtime) := hslot
    constructor
    · rw [handler, hslot, Option.map_map]
      exact Option.map_id'
    · rw [hslot, handler, map_runtime_eq_iff]
      tauto

end Failing

section

open Simulation

/-- A module that fails to be put to use. -/
def failing : Replies String Nat Unit := fun _ _ _ => pure { status := Status.generalError }

/-- An application in runtime 1 that has put a module to use with a handler. -/
def lockingFirst : Host Unit String Nat Unit :=
  run (fun _ _ _ => pure {}) (fresh 1 none ())
    [.connect lifecycleLibrary, .request 0 (.initialise (some ⟨0, some "first"⟩))]

theorem initialise_failing :
    let request : Request Unit String := .initialise (some ⟨0, some "second"⟩)
    lockingFirst.activeHandler = some ("first", 1) ∧
      ((perform failing 0 request).run lockingFirst).2.activeHandler = some ("first", 1) := by
  intro request
  have hslot : lockingFirst.activeHandler = some ("first", 1) := rfl
  have hfailed : ((perform failing 0 request).run lockingFirst).1.result =
      .error (.error (.status "C_Initialize" Status.generalError)) := rfl
  have hruntime : ∀ owner ∈ lockingFirst.activeHandler, owner.2 = lockingFirst.runtime := by
    rw [hslot]
    rintro owner ⟨⟩
    rfl
  exact ⟨hslot, ((initialise_restores_iff failing 0 lockingFirst _ hfailed).2.mpr
    (.inr (.inr hruntime))).trans hslot⟩

/-- An application in runtime 2 fails to put a module to use. The handler of the application in
runtime 1 is active again, but with runtime 2. -/
theorem initialise_failing_beside :
    let host : Host Unit String Nat Unit :=
      run failing (fresh 2 lockingFirst.activeHandler ()) [.connect lifecycleLibrary]
    let failed := (perform failing 0 (.initialise (some ⟨0, some "second"⟩))).run host
    failed.1.result = .error (.error (.status "C_Initialize" Status.generalError)) ∧
      host.activeHandler = some ("first", 1) ∧ failed.2.activeHandler = some ("first", 2) ∧
      ¬∀ (host : Host Unit String Nat Unit) (args : Option (InitArgs String)) (fault : Fault),
        ((perform failing 0 (.initialise args)).run host).1.result = .error fault →
        ((perform failing 0 (.initialise args)).run host).2.activeHandler =
          host.activeHandler := by
  intro host failed
  have hfailed : failed.1.result =
      .error (.error (.status "C_Initialize" Status.generalError)) := rfl
  refine ⟨hfailed, rfl, rfl, fun hrestored => ?_⟩
  cases hrestored host (some ⟨0, some "second"⟩) _ hfailed

end

end Host

end Cryptoki
