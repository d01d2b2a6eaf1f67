import Cryptoki.Proofs.Host.Connecting
import Cryptoki.Proofs.Notifications
import Cryptoki.Proofs.Replay
import Cryptoki.Simulation.Memory

/-! Connections do not interfere with each other. What is registered on a connection and what its
notifications reach follows from what is done with that connection and from what its module answers
(`Host.isolated`): every run goes, as far as one connection is concerned, as a run of `View.Runs`
does, which knows of no other connection. -/

namespace Cryptoki

variable {κ η ρ μ : Type}

/-! ### One connection by itself -/

/-- What is done with one connection, or happens to it. -/
inductive Own (κ η : Type) where
  | request (request : Request κ η)
  | disconnect
  | notify (session event : Word)

/-- A registration that a notification has reached. -/
structure Firing (κ : Type) where
  registration : κ
  session : Word
  event : Word
deriving DecidableEq, Repr

/-- What one connection holds. -/
structure View (κ : Type) where
  library : Except Error Library
  registrations : Registrations κ

namespace View

/-- A request comes to call the module. -/
inductive Reaches [Allocator] (v : View κ) : Request κ η → Prop
  | managed {request : Request κ η} {library : Library} : request.ConcernsSessions →
      v.library = .ok library → library.Provides request.entry → Reaches v request
  | operated {o : Operation} {library : Library} {plan : Plan} : v.library = .ok library →
      o.prepare library = .ok plan → Reaches v (.operate o)

/-- How a request goes: the replies of the module, and what the connection holds afterwards. -/
inductive Performs [Allocator] (v : View κ) : Request κ η → List Reply → View κ → Prop
  | idle {request : Request κ η} : ¬v.Reaches request → Performs v request [] v
  | called {request : Request κ η} {library : Library} (reply : Reply) :
      request.ConcernsSessions → v.library = .ok library → library.Provides request.entry →
      Performs v request [reply] { v with registrations := request.revise reply v.registrations }
  | carried {o : Operation} {library : Library} {plan : Plan} {made : List (Exchange Call)}
      {answer : Answer} : v.library = .ok library → o.prepare library = .ok plan →
      plan.Carried o.entry o.outputTemplate o.outputMechanism made answer →
      Performs v (.operate o) (replies made) v

def fired (v : View κ) (session event : Word) : List (Firing κ) :=
  (v.registrations.get? session).toList.map fun registration => ⟨registration, session, event⟩

/-- How one thing goes: the replies of the module, what a notification reaches, and what the
connection holds afterwards. -/
inductive Steps [Allocator] (v : View κ) : Own κ η → List Reply → List (Firing κ) → View κ → Prop
  | request {v' : View κ} {request : Request κ η} {given : List Reply} :
      v.Performs request given v' → Steps v (.request request) given [] v'
  | disconnect : Steps v .disconnect [] [] { v with library := .error .disconnected }
  | notify (session event : Word) : Steps v (.notify session event) [] (v.fired session event) v

inductive Runs [Allocator] : View κ → List (Own κ η) → List Reply → List (Firing κ) → View κ → Prop
  | nil (v : View κ) : Runs v [] [] [] v
  | cons {v v' v'' : View κ} {own : Own κ η} {rest : List (Own κ η)} {given given' : List Reply}
      {firings firings' : List (Firing κ)} : v.Steps own given firings v' →
      Runs v' rest given' firings' v'' →
      Runs v (own :: rest) (given ++ given') (firings ++ firings') v''

section Unique

variable {allocator : Allocator} {v v' v'' : View κ} {given given' rest rest' : List Reply}
  {firings firings' : List (Firing κ)}

theorem Performs.unique {request : Request κ η} (h : v.Performs request given v')
    (h' : v.Performs request given' v'') (hreplies : given ++ rest = given' ++ rest') :
    given = given' ∧ v' = v'' := by
  cases h with
  | idle hidle =>
    cases h' with
    | idle => exact ⟨rfl, rfl⟩
    | called _ hrequest hlibrary hprovides =>
      exact absurd (.managed hrequest hlibrary hprovides) hidle
    | carried hlibrary hprepare => exact absurd (.operated hlibrary hprepare) hidle
  | called reply hrequest hlibrary hprovides =>
    cases h' with
    | idle hidle => exact absurd (.managed hrequest hlibrary hprovides) hidle
    | called reply' =>
      obtain ⟨rfl, -⟩ := List.cons.inj hreplies
      exact ⟨rfl, rfl⟩
    | carried => exact hrequest.elim
  | carried hlibrary hprepare hcarried =>
    cases h' with
    | idle hidle => exact absurd (.operated hlibrary hprepare) hidle
    | called _ hrequest => exact hrequest.elim
    | carried hlibrary' hprepare' hcarried' =>
      obtain rfl := Except.ok.inj (hlibrary.symm.trans hlibrary')
      obtain rfl := Except.ok.inj (hprepare.symm.trans hprepare')
      obtain rfl := hcarried.made_eq hcarried' hreplies
      exact ⟨rfl, rfl⟩

theorem Steps.unique {own : Own κ η} (h : v.Steps own given firings v')
    (h' : v.Steps own given' firings' v'') (hreplies : given ++ rest = given' ++ rest') :
    given = given' ∧ firings = firings' ∧ v' = v'' := by
  cases h with
  | request hperforms =>
    cases h' with
    | request hperforms' =>
      obtain ⟨hgiven, hview⟩ := hperforms.unique hperforms' hreplies
      exact ⟨hgiven, rfl, hview⟩
  | disconnect =>
    cases h'
    exact ⟨rfl, rfl, rfl⟩
  | notify =>
    cases h'
    exact ⟨rfl, rfl, rfl⟩

/-- A run is determined by what is done with the connection and by the replies of its module. -/
theorem Runs.unique {own : List (Own κ η)} (h : v.Runs own given firings v')
    (h' : v.Runs own given' firings' v'') (hreplies : given ++ rest = given' ++ rest') :
    given = given' ∧ firings = firings' ∧ v' = v'' := by
  induction h generalizing given' firings' v'' with
  | nil v =>
    cases h'
    exact ⟨rfl, rfl, rfl⟩
  | cons hstep _ ih =>
    cases h' with
    | cons hstep' hruns' =>
      -- the replies to the later steps are what follows those to the first
      rw [List.append_assoc, List.append_assoc] at hreplies
      obtain ⟨rfl, rfl, rfl⟩ := hstep.unique hstep' hreplies
      obtain ⟨rfl, rfl, hview⟩ := ih hruns' (List.append_cancel_left hreplies)
      exact ⟨rfl, rfl, hview⟩

end Unique

end View

/-! ### Runs of an application -/

/-- What happens to an application: an act of its own, or a notification that a module sends to a
connection. -/
inductive Happening (κ η : Type) where
  | act (act : Act κ η)
  | notify (handle : Nat) (session event : Word)

/-- What happens to one connection; dropping all of them drops this one. -/
def Happening.own (handle : Nat) : Happening κ η → Option (Own κ η)
  | act (.connect _) => none
  | act (.disconnect k) => if k = handle then some .disconnect else none
  | act .disconnectAll => some .disconnect
  | act (.request k request) => if k = handle then some (.request request) else none
  | notify k session event => if k = handle then some (.notify session event) else none

def Own.happening (handle : Nat) : Own κ η → Happening κ η
  | request r => .act (.request handle r)
  | disconnect => .act (.disconnect handle)
  | notify session event => .notify handle session event

theorem filterMap_own_happening (handle : Nat) (owns : List (Own κ η)) :
    (owns.map (Own.happening handle)).filterMap (Happening.own handle) = owns := by
  rw [List.filterMap_map]
  have hown : Happening.own handle ∘ Own.happening handle = (some : Own κ η → _) := by
    funext own
    cases own <;> exact if_pos rfl
  rw [hown, List.filterMap_some]

namespace Host

/-- What a notification to a connection reaches. -/
def fired (host : Host κ η ρ μ) (handle : Nat) (session event : Word) : List (Firing κ) :=
  ((Notification.dispatch attachedRuntime (fun _ => host.registrations handle)
    (fun registration => do
      modify (· ++ [⟨registration, session, event⟩])
      return .done ()) session).run []).2

/-- The application after a happening; a notification leaves it as it is. -/
def happen [Allocator] (replies : Replies η ρ μ) (host : Host κ η ρ μ) :
    Happening κ η → Host κ η ρ μ
  | .act act => after replies host act
  | .notify _ _ _ => host

def unfolded [Allocator] (replies : Replies η ρ μ) (host : Host κ η ρ μ)
    (happenings : List (Happening κ η)) : Host κ η ρ μ :=
  happenings.foldl (happen replies) host

/-- What a happening makes the registrations of a connection hear. -/
def heard (handle : Nat) (host : Host κ η ρ μ) : Happening κ η → List (Firing κ)
  | .notify k session event => if k = handle then host.fired k session event else []
  | .act _ => []

/-- The replies to the calls that a happening makes for a connection. -/
def given [Allocator] (replies : Replies η ρ μ) (handle : Nat) (host : Host κ η ρ μ) :
    Happening κ η → List Reply
  | .act (.request k request) =>
    if k = handle then Cryptoki.replies (calls replies k request host) else []
  | _ => []

def firings [Allocator] (replies : Replies η ρ μ) (handle : Nat) :
    (host : Host κ η ρ μ) → (happenings : List (Happening κ η)) → List (Firing κ)
  | _, [] => []
  | host, happening :: happenings =>
    heard handle host happening ++ firings replies handle (happen replies host happening) happenings

def answers [Allocator] (replies : Replies η ρ μ) (handle : Nat) :
    (host : Host κ η ρ μ) → (happenings : List (Happening κ η)) → List Reply
  | _, [] => []
  | host, happening :: happenings =>
    given replies handle host happening ++
      answers replies handle (happen replies host happening) happenings

/-- `v` is what a connection holds in an application. -/
structure Shows (host : Host κ η ρ μ) (handle : Nat) (v : View κ) : Prop where
  reached : ∃ acts : List (Act κ η), Reached acts host
  valid : handle < host.handles.length
  library : host.library handle = v.library
  registrations : host.registrations handle = v.registrations

variable {allocator : Allocator} {host : Host κ η ρ μ} {handle k : Nat}

theorem fired_eq (host : Host κ η ρ μ) (handle : Nat) (session event : Word) :
    host.fired handle session event = ((host.registrations handle).get? session).toList.map
      fun registration => ⟨registration, session, event⟩ :=
  dispatch_noting _ _ session

theorem library_congr {host' : Host κ η ρ μ}
    (h : host'.connections.get? handle = host.connections.get? handle) :
    host'.library handle = host.library handle := by
  unfold library
  rw [h]

theorem registrations_setRegistrations_of_ne (hne : k ≠ handle) (r : Registrations κ) :
    (host.setRegistrations k r).registrations handle = host.registrations handle := by
  simp [registrations, setRegistrations, hne]

section Frames

variable {replies : Replies η ρ μ} {request : Request κ η} {made : List (Exchange Call)}
  {answer : Answer} {after : Host κ η ρ μ}

theorem Performed.registrations_of_ne (h : Performed replies k host request made answer after)
    (hne : k ≠ handle) : after.registrations handle = host.registrations handle := by
  cases h with
  | unreached | unprovided | unprepared => rfl
  | @called _ _ reply called _ _ _ hcall =>
    have hhandles : called.handles = host.handles := by
      rw [call_eq hcall, enter_eq]
    rw [settle_eq]
    refine (registrations_setRegistrations_of_ne hne _).trans ?_
    exact registrations_eq_of_handles hhandles handle
  | carried _ _ hcalls _ =>
    rw [calls_eq hcalls]
    rfl

end Frames

namespace Shows

variable {replies : Replies η ρ μ} {v : View κ} {request : Request κ η}

theorem connect (h : host.Shows handle v) (library : Library) :
    ((Host.connect library).run host).2.Shows handle v := by
  obtain ⟨⟨acts, hreached⟩, hvalid, hlibrary, hregistrations⟩ := h
  refine ⟨⟨_, hreached.connect library⟩, ?_, ?_, ?_⟩
  · show handle < (host.handles ++ [_]).length
    rw [List.length_append]
    exact Nat.lt_add_right _ hvalid
  · rw [← hlibrary]
    refine library_congr ?_
    exact Connections.get?_put_of_ne (Nat.ne_of_lt hvalid) library
  · rw [← hregistrations]
    simp only [Host.connect, StateT.run, Host.registrations, List.getElem?_append_left hvalid]

theorem disconnect_of_ne (h : host.Shows handle v) (hne : k ≠ handle) :
    ((Host.disconnect k).run host).2.Shows handle v := by
  obtain ⟨⟨acts, hreached⟩, hvalid, hlibrary, hregistrations⟩ := h
  have hafter := hreached.disconnect k
  rw [disconnect_run] at hafter ⊢
  refine ⟨⟨_, hafter⟩, hvalid, ?_, hregistrations⟩
  rw [← hlibrary]
  exact library_congr (Connections.get?_remove_of_ne hreached.nodup hne.symm)

theorem disconnect (h : host.Shows handle v) :
    ((Host.disconnect handle).run host).2.Shows handle
      { v with library := .error .disconnected } := by
  obtain ⟨⟨acts, hreached⟩, hvalid, hlibrary, hregistrations⟩ := h
  have hafter := hreached.disconnect handle
  rw [disconnect_run] at hafter ⊢
  refine ⟨⟨_, hafter⟩, hvalid, ?_, hregistrations⟩
  unfold Host.library
  rw [Connections.get?_remove_self hreached.nodup]

theorem disconnectAll (h : host.Shows handle v) :
    (Host.disconnectAll.run host).2.Shows handle { v with library := .error .disconnected } := by
  obtain ⟨⟨acts, hreached⟩, hvalid, hlibrary, hregistrations⟩ := h
  exact ⟨⟨_, hreached.disconnectAll⟩, hvalid, rfl, hregistrations⟩

theorem of_request [Allocator] (h : host.Shows handle v) (replies : Replies η ρ μ) (k : Nat)
    (request : Request κ η) {r : Registrations κ}
    (hr : ((perform replies k request).run host).2.registrations handle = r) :
    ((perform replies k request).run host).2.Shows handle { v with registrations := r } := by
  obtain ⟨⟨acts, hreached⟩, hvalid, hlibrary, -⟩ := h
  have hsame := (perform_performed replies k host request).sameConnections
  refine ⟨⟨_, hreached.request replies k request⟩, ?_, ?_, hr⟩
  · rw [hsame.handles]
    exact hvalid
  · rw [← hlibrary]
    refine library_congr ?_
    rw [hsame.connections]

theorem request_of_ne (h : host.Shows handle v) (hne : k ≠ handle) :
    ((perform replies k request).run host).2.Shows handle v := by
  refine h.of_request replies k request ?_
  rw [(perform_performed replies k host request).registrations_of_ne hne, h.registrations]

/-- A request goes as it does for its connection by itself. -/
theorem performs (h : host.Shows handle v) (replies : Replies η ρ μ) (request : Request κ η) :
    ∃ v', v.Performs request (Cryptoki.replies (calls replies handle request host)) v' ∧
      ((perform replies handle request).run host).2.Shows handle v' := by
  have hshows := fun r => h.of_request replies handle request (r := r)
  have hperformed := perform_performed replies handle host request
  generalize (perform replies handle request).run host = answered at hshows hperformed ⊢
  obtain ⟨answer, after⟩ := answered
  generalize calls replies handle request host = made at hperformed ⊢
  cases hperformed with
  -- no call is made where the handle, the library or the arguments stand against it
  | unreached hlibrary =>
    refine ⟨v, .idle ?_, hshows _ h.registrations⟩
    rw [h.library] at hlibrary
    rintro (⟨_, hok, _⟩ | ⟨hok, _⟩) <;> cases hlibrary.symm.trans hok
  | unprovided hrequest hlibrary hprovides =>
    refine ⟨v, .idle ?_, hshows _ h.registrations⟩
    rw [h.library] at hlibrary
    rintro (⟨_, hok, hprovides'⟩ | _)
    · obtain rfl := Except.ok.inj (hlibrary.symm.trans hok)
      exact hprovides hprovides'
    · exact hrequest
  | unprepared hlibrary hprepare =>
    refine ⟨v, .idle ?_, hshows _ h.registrations⟩
    rw [h.library] at hlibrary
    rintro (⟨hrequest, _, _⟩ | ⟨hok, hprepared⟩)
    · exact hrequest
    · obtain rfl := Except.ok.inj (hlibrary.symm.trans hok)
      cases hprepare.symm.trans hprepared
  | @called _ _ reply called hrequest hlibrary hprovides hcall =>
    rw [h.library] at hlibrary
    refine ⟨_, .called reply hrequest hlibrary hprovides, hshows _ ?_⟩
    exact (registrations_called h.valid hcall _).trans (by rw [h.registrations])
  | carried hlibrary hprepare hcalls hcarried =>
    rw [h.library] at hlibrary
    refine ⟨v, .carried hlibrary hprepare hcarried, hshows _ ?_⟩
    have hafter : after = { host with modules := after.modules } := calls_eq hcalls
    rw [hafter]
    exact h.registrations

theorem of_other (h : host.Shows handle v) (replies : Replies η ρ μ) {happening : Happening κ η}
    (hown : happening.own handle = none) :
    given replies handle host happening = [] ∧ heard handle host happening = [] ∧
      (happen replies host happening).Shows handle v := by
  cases happening with
  | notify k session event =>
    have hne : k ≠ handle := by simpa [Happening.own] using hown
    exact ⟨rfl, if_neg hne, h⟩
  | act act =>
    cases act with
    | connect library => exact ⟨rfl, rfl, h.connect library⟩
    | disconnect k =>
      have hne : k ≠ handle := by simpa [Happening.own] using hown
      exact ⟨rfl, rfl, h.disconnect_of_ne hne⟩
    | disconnectAll => cases hown
    | request k request =>
      have hne : k ≠ handle := by simpa [Happening.own] using hown
      exact ⟨if_neg hne, rfl, h.request_of_ne hne⟩

theorem of_own (h : host.Shows handle v) (replies : Replies η ρ μ) {happening : Happening κ η}
    {own : Own κ η} (hown : happening.own handle = some own) :
    ∃ v', v.Steps own (given replies handle host happening) (heard handle host happening) v' ∧
      (happen replies host happening).Shows handle v' := by
  cases happening with
  | notify k session event =>
    obtain ⟨rfl, rfl⟩ : k = handle ∧ .notify session event = own := by
      simpa [Happening.own] using hown
    have hheard : heard k host (.notify k session event) = v.fired session event := by
      rw [heard, if_pos rfl, fired_eq, h.registrations, View.fired]
    rw [hheard]
    exact ⟨v, .notify session event, h⟩
  | act act =>
    cases act with
    | connect library => cases hown
    | disconnect k =>
      obtain ⟨rfl, rfl⟩ : k = handle ∧ .disconnect = own := by
        simpa [Happening.own] using hown
      exact ⟨_, .disconnect, h.disconnect⟩
    | disconnectAll =>
      obtain rfl := Option.some.inj hown
      exact ⟨_, .disconnect, h.disconnectAll⟩
    | request k request =>
      obtain ⟨rfl, rfl⟩ : k = handle ∧ .request request = own := by
        simpa [Happening.own] using hown
      obtain ⟨v', hperforms, hshows⟩ := h.performs replies request
      have hgiven : given replies k host (.act (.request k request)) =
          Cryptoki.replies (calls replies k request host) := if_pos rfl
      rw [hgiven]
      exact ⟨v', .request hperforms, hshows⟩

/-- A run goes, for each connection, as one of that connection by itself. -/
theorem runs (h : host.Shows handle v) (replies : Replies η ρ μ)
    (happenings : List (Happening κ η)) :
    ∃ v', v.Runs (happenings.filterMap (Happening.own handle))
        (answers replies handle host happenings) (firings replies handle host happenings) v' ∧
      (unfolded replies host happenings).Shows handle v' := by
  induction happenings generalizing host v with
  | nil => exact ⟨v, .nil v, h⟩
  | cons happening happenings ih =>
    rw [answers, firings]
    cases hown : happening.own handle with
    | none =>
      obtain ⟨hgiven, hheard, hshows⟩ := h.of_other replies hown
      rw [List.filterMap_cons_none hown, hgiven, hheard]
      exact ih hshows
    | some own =>
      obtain ⟨v', hsteps, hshows⟩ := h.of_own replies hown
      obtain ⟨v'', hruns, hfinal⟩ := ih hshows
      rw [List.filterMap_cons_some hown]
      exact ⟨v'', .cons hsteps hruns, hfinal⟩

end Shows

theorem shows_connect {acts : List (Act κ η)} (h : Reached acts host) (library : Library) :
    ((connect library).run host).2.Shows ((connect library).run host).1 ⟨.ok library, {}⟩ := by
  obtain ⟨hregistrations, hvalid⟩ := registrations_connect library host
  refine ⟨⟨_, h.connect library⟩, hvalid, ?_, hregistrations⟩
  have hget : (host.connections.put host.handles.length library).get? host.handles.length =
      some library := Connections.get?_put_self ..
  simp only [connect, StateT.run, Host.library, hget]

section Isolation

variable {ρ' τ : Type}

/-- Connections do not interfere with each other. Two applications have connected the same library
under some handle; nothing else needs to be common to them. If the same is done with this connection
and its module gives the same answers, then the same registrations hear the same notifications, and
the same registrations are left. -/
theorem isolated (library : Library) (replies : Replies η ρ μ) (runtime : ρ)
    (activeHandler : Option (η × ρ)) (modules : μ) (prior : List (Act κ η))
    (happenings : List (Happening κ η)) (replies' : Replies η ρ' τ) (runtime' : ρ')
    (activeHandler' : Option (η × ρ')) (modules' : τ) (prior' : List (Act κ η))
    (happenings' : List (Happening κ η)) :
    let opened := (connect library).run (run replies (fresh runtime activeHandler modules) prior)
    let opened' :=
      (connect library).run (run replies' (fresh runtime' activeHandler' modules') prior')
    happenings.filterMap (Happening.own opened.1) =
      happenings'.filterMap (Happening.own opened'.1) →
    answers replies opened.1 opened.2 happenings =
      answers replies' opened'.1 opened'.2 happenings' →
    firings replies opened.1 opened.2 happenings =
        firings replies' opened'.1 opened'.2 happenings' ∧
      (unfolded replies opened.2 happenings).registrations opened.1 =
        (unfolded replies' opened'.2 happenings').registrations opened'.1 := by
  intro opened opened' hown hanswers
  have hshows : opened.2.Shows opened.1 ⟨.ok library, {}⟩ :=
    shows_connect (run_reached replies runtime activeHandler modules prior) library
  have hshows' : opened'.2.Shows opened'.1 ⟨.ok library, {}⟩ :=
    shows_connect (run_reached replies' runtime' activeHandler' modules' prior') library
  obtain ⟨v, hruns, hfinal⟩ := hshows.runs replies happenings
  obtain ⟨v', hruns', hfinal'⟩ := hshows'.runs replies' happenings'
  rw [hown] at hruns
  obtain ⟨-, hfirings, rfl⟩ := hruns.unique hruns' (congrArg (· ++ []) hanswers)
  exact ⟨hfirings, hfinal.registrations.trans hfinal'.registrations.symm⟩

end Isolation

end Host

namespace Host

open Simulation in
/-- The other connection, to the same library, opens a session under the same number, closes all of
its sessions, gives up the module and is dropped. -/
theorem isolated_equal_numbers :
    let opened := (connect sessionLibrary).run
      (run openFive (fresh () none () : Host String Unit Unit Unit) [.connect sessionLibrary])
    let own : Happening String Unit := .act (.request 1 (.openSession 0 4 (some "listener")))
    let others : List (Happening String Unit) :=
      [.act (.request 0 (.openSession 0 4 (some "other"))), .act (.request 0 (.closeAllSessions 0)),
        .act (.request 0 .finalise), .notify 0 5 7, .act (.disconnect 0)]
    firings openFive 1 opened.2 (own :: (others ++ [.notify 1 5 7])) = [⟨"listener", 5, 7⟩] := by
  intro opened own others
  let happenings := own :: (others ++ [.notify 1 5 7])
  let alone : List (Happening String Unit) :=
    [.act (.request 0 (.openSession 0 4 (some "listener"))), .notify 0 5 7]
  let first := (connect sessionLibrary).run (fresh () none () : Host String Unit Unit Unit)
  have hown : happenings.filterMap (Happening.own opened.1) =
      alone.filterMap (Happening.own first.1) := rfl
  have hanswers : answers openFive opened.1 opened.2 happenings =
      answers openFive first.1 first.2 alone := rfl
  have hfirings : firings openFive first.1 first.2 alone = [⟨"listener", 5, 7⟩] := rfl
  exact (isolated sessionLibrary openFive () none () [.connect sessionLibrary] happenings
    openFive () none () [] alone hown hanswers).1.trans hfirings

/-! ### Runs of one connection alone -/

variable {allocator : Allocator}

/-- Modules that answer from a script. -/
def answering : Replies η ρ (List Reply) := fun _ _ => scripted

/-- The replies `given` have been taken from a script, empty ones once it has ended. -/
def Took (script given script' : List Reply) : Prop :=
  ∃ missing, script ++ List.replicate missing ({} : Reply) = given ++ script'

theorem Took.refl (script : List Reply) : Took script [] script :=
  ⟨0, List.append_nil script⟩

theorem Took.trans {script script' script'' given given' : List Reply}
    (h : Took script given script') (h' : Took script' given' script'') :
    Took script (given ++ given') script'' := by
  obtain ⟨missing, hgiven⟩ := h
  obtain ⟨missing', hgiven'⟩ := h'
  refine ⟨missing + missing', ?_⟩
  rw [List.replicate_add, ← List.append_assoc, hgiven, List.append_assoc, hgiven',
    List.append_assoc]

section Scripts

variable {host after : Host κ η ρ (List Reply)} {library : Library} {handle : Nat}
  {request : Request κ η} {made : List (Exchange Call)} {answer : Answer}

theorem took_calls (h : Calls (call answering library) host made after) :
    Took host.modules (Cryptoki.replies made) after.modules := by
  induction h with
  | nil => exact .refl _
  | @cons start _ _ _ _ _ hcall _ ih =>
    cases hcall
    have hfirst : Took start.modules [start.modules.headD {}] start.modules.tail := by
      cases start.modules with
      | nil => exact ⟨1, rfl⟩
      | cons reply script => exact ⟨0, List.append_nil _⟩
    exact hfirst.trans ih

theorem Performed.took (h : Performed answering handle host request made answer after) :
    Took host.modules (Cryptoki.replies made) after.modules := by
  cases h with
  | unreached | unprovided | unprepared => exact .refl _
  | called _ _ _ hcall =>
    rw [settle_modules]
    have htook := took_calls (.single hcall)
    rwa [enter_eq] at htook
  | carried _ _ hcalls _ => exact took_calls hcalls

end Scripts

theorem answers_took (handle : Nat) (host : Host κ η ρ (List Reply)) (owns : List (Own κ η)) :
    Took host.modules (answers answering handle host (owns.map (Own.happening handle)))
      (unfolded answering host (owns.map (Own.happening handle))).modules := by
  induction owns generalizing host with
  | nil => exact .refl _
  | cons own owns ih =>
    have hfirst : Took host.modules (given answering handle host (own.happening handle))
        (happen answering host (own.happening handle)).modules := by
      cases own with
      | request request =>
        have hgiven : given answering handle host (.act (.request handle request)) =
            Cryptoki.replies (calls answering handle request host) := if_pos rfl
        rw [Own.happening, hgiven]
        exact (perform_performed answering handle host request).took
      | disconnect =>
        show Took host.modules [] ((disconnect handle).run host).2.modules
        rw [disconnect_run]
        exact .refl _
      | notify => exact .refl _
    exact hfirst.trans (ih _)

/-- Whatever else has happened, a connection fares as it does alone, in an application where its
module gives the same answers from a script. -/
theorem isolated_alone (library : Library) (replies : Replies η ρ μ) (runtime : ρ)
    (activeHandler : Option (η × ρ)) (modules : μ) (prior : List (Act κ η))
    (happenings : List (Happening κ η)) :
    let opened := (connect library).run (run replies (fresh runtime activeHandler modules) prior)
    let script := answers replies opened.1 opened.2 happenings
    let alone := (connect library).run (fresh () none script : Host κ η Unit (List Reply))
    let own := (happenings.filterMap (Happening.own opened.1)).map (Own.happening alone.1)
    answers answering alone.1 alone.2 own = script ∧
      firings answering alone.1 alone.2 own = firings replies opened.1 opened.2 happenings ∧
      (unfolded answering alone.2 own).registrations alone.1 =
        (unfolded replies opened.2 happenings).registrations opened.1 := by
  intro opened script alone own
  have hshows : opened.2.Shows opened.1 ⟨.ok library, {}⟩ :=
    shows_connect (run_reached replies runtime activeHandler modules prior) library
  have halone : alone.2.Shows alone.1 ⟨.ok library, {}⟩ :=
    shows_connect (.fresh () none script) library
  obtain ⟨v, hruns, hfinal⟩ := hshows.runs replies happenings
  obtain ⟨v', hruns', hfinal'⟩ := halone.runs answering own
  rw [filterMap_own_happening] at hruns'
  -- the script is as long as the run needs it, since both runs are determined by the same replies
  obtain ⟨missing, htook⟩ := answers_took alone.1 alone.2 (happenings.filterMap _)
  obtain ⟨hanswers, hfirings, rfl⟩ := hruns.unique hruns' htook
  exact ⟨hanswers.symm, hfirings.symm, hfinal'.registrations.trans hfinal.registrations.symm⟩

end Host

end Cryptoki
