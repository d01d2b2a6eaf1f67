import Cryptoki.Callback.Notification
import Cryptoki.Proofs.Host.Performed
import Cryptoki.Simulation.Memory
import Mathlib.Data.List.Nodup
import Mathlib.Logic.Function.Basic

/-! Runs of the requests that begin and end sessions, and where notifications go at each point. The
registrations of a connection track its open sessions as long as the module is not given up while
there are any. Giving it up ends the sessions but keeps the registrations, so each of them is stale
from then on (`Host.noneStale_iff`). -/

namespace Cryptoki

variable {κ η ρ μ : Type}

/-! ### Registrations -/

namespace Registrations

variable {r : Registrations κ} {session : Word}

def sessions (r : Registrations κ) : List Word := r.entries.map Prod.fst

theorem mem_of_get? {k : κ} (h : r.get? session = some k) : (session, k) ∈ r.entries := by
  obtain ⟨before, rest, hsplit, -⟩ := List.lookup_eq_some_iff.mp h
  rw [hsplit]
  exact List.mem_append_right before List.mem_cons_self

theorem exists_get?_of_mem {e : Word × κ} (h : e ∈ r.entries) : ∃ k, r.get? e.1 = some k := by
  refine Option.isSome_iff_exists.mp ?_
  rw [Option.isSome_iff_ne_none]
  intro hnone
  simpa using List.lookup_eq_none_iff.mp hnone e h

theorem remove_sublist (r : Registrations κ) (session : Word) :
    (r.remove session).2.entries.Sublist r.entries :=
  List.eraseP_sublist

/-- When every session has one registration at most, a removal leaves those of the others. -/
theorem entries_remove (hnodup : r.sessions.Nodup) (session : Word) :
    (r.remove session).2.entries = r.entries.filter fun e => e.1 != session := by
  obtain ⟨entries⟩ := r
  replace hnodup : (entries.map Prod.fst).Nodup := hnodup
  show (entries.eraseP fun e => session == e.1) = entries.filter fun e => e.1 != session
  induction entries with
  | nil => rfl
  | cons first entries ih =>
    obtain ⟨hfirst, hrest⟩ := List.nodup_cons.mp hnodup
    by_cases hsession : first.1 = session
    · subst hsession
      rw [List.eraseP_cons_of_pos (by simp), List.filter_cons_of_neg (by simp)]
      refine (List.filter_eq_self.mpr fun e he => ?_).symm
      exact bne_iff_ne.mpr fun h => hfirst (h ▸ List.mem_map_of_mem he)
    · rw [List.eraseP_cons_of_neg (by simpa using Ne.symm hsession),
        List.filter_cons_of_pos (by simpa using hsession), ih hrest]

theorem ne_of_mem_remove (hnodup : r.sessions.Nodup) {e : Word × κ}
    (he : e ∈ (r.remove session).2.entries) : e.1 ≠ session := by
  rw [entries_remove hnodup, List.mem_filter] at he
  exact bne_iff_ne.mp he.2

end Registrations

/-! ### Open sessions -/

/-- A session that is open, with what its notifications are to be delivered to. -/
structure Session (κ : Type) where
  slot : Word
  registration : Option κ
deriving DecidableEq, Repr

/-- The open sessions of a connection by their numbers. -/
abbrev Sessions (κ : Type) := Word → Option (Session κ)

/-- The open sessions after a request, as far as its answer tells. -/
def Sessions.after (sessions : Sessions κ) (request : Request κ η) (answer : Answer) :
    Sessions κ :=
  match request, answer.result with
  | .openSession slot _ registration, .ok (.word session) =>
    Function.update sessions session (some ⟨slot, registration⟩)
  | .closeSession session, .ok _ => Function.update sessions session none
  | .closeAllSessions slot, .ok _ => fun session => (sessions session).filter (·.slot != slot)
  | .finalise, .ok _ => fun _ => none
  | _, _ => sessions

namespace Sessions

variable {sessions : Sessions κ} {answer : Answer}

theorem after_of_error {request : Request κ η} {fault : Fault} (h : answer.result = .error fault) :
    sessions.after request answer = sessions := by
  cases request <;> simp only [after, h]

theorem after_openSession {slot flags session : Word} {registration : Option κ}
    (h : answer.result = .ok (.word session)) :
    sessions.after (.openSession slot flags registration : Request κ η) answer =
      Function.update sessions session (some ⟨slot, registration⟩) := by
  simp only [after, h]

theorem after_closeSession {session : Word} {response : Response}
    (h : answer.result = .ok response) :
    sessions.after (.closeSession session : Request κ η) answer =
      Function.update sessions session none := by
  simp only [after, h]

theorem after_finalise {response : Response} (h : answer.result = .ok response) :
    sessions.after (.finalise : Request κ η) answer = fun _ => none := by
  simp only [after, h]

end Sessions

/-- What a request that was answered does to the registrations of its connection. -/
inductive Request.Effect : Request κ η → Answer → Registrations κ → Registrations κ → Prop
  | failed {request : Request κ η} {answer : Answer} {fault : Fault} {r : Registrations κ} :
      answer.result = .error fault → Effect request answer r r
  | initialised {args : Option (InitArgs η)} {answer : Answer} {r : Registrations κ} :
      Effect (.initialise args) answer r r
  | finalised {answer : Answer} {r : Registrations κ} : Effect .finalise answer r r
  | opened {slot flags session : Word} {registration : Option κ} {answer : Answer}
      {r : Registrations κ} : answer.result = .ok (.word session) →
      Effect (.openSession slot flags registration) answer r (r.put session registration)
  | closed {session : Word} {answer : Answer} {r : Registrations κ} :
      Effect (.closeSession session) answer r (r.remove session).2
  | closedAll {slot : Word} {answer : Answer} {r : Registrations κ} :
      Effect (.closeAllSessions slot) answer r .empty

/-- Every session has one registration at most, and that is of an open session. -/
structure Registrations.Track (r : Registrations κ) (sessions : Sessions κ) : Prop where
  nodup : r.sessions.Nodup
  current : ∀ e ∈ r.entries, ∃ slot, sessions e.1 = some ⟨slot, some e.2⟩

namespace Registrations.Track

variable {r r' : Registrations κ} {sessions : Sessions κ}

theorem empty (sessions : Sessions κ) : (Registrations.empty : Registrations κ).Track sessions :=
  ⟨List.nodup_nil, nofun⟩

theorem sublist (h : r.Track sessions) (hsub : r'.entries.Sublist r.entries) :
    r'.Track sessions :=
  ⟨h.nodup.sublist (hsub.map Prod.fst), fun e he => h.current e (hsub.subset he)⟩

theorem put (h : r.Track sessions) {session slot : Word} (registration : Option κ)
    (hclosed : sessions session = none) :
    (r.put session registration).Track
      (Function.update sessions session (some ⟨slot, registration⟩)) := by
  -- the session was not open, so nothing is registered for it yet
  have hne {e : Word × κ} (he : e ∈ r.entries) : e.1 ≠ session := by
    obtain ⟨slot, hopen⟩ := h.current e he
    rintro rfl
    cases hopen.symm.trans hclosed
  have hcurrent {e : Word × κ} (he : e ∈ r.entries) :
      ∃ slot', Function.update sessions session (some ⟨slot, registration⟩) e.1 =
        some ⟨slot', some e.2⟩ := by
    rw [Function.update_of_ne (hne he)]
    exact h.current e he
  cases registration with
  | none => exact ⟨h.nodup, fun e he => hcurrent he⟩
  | some k =>
    refine ⟨?_, fun e he => ?_⟩
    · show ((r.entries ++ [(session, k)]).map Prod.fst).Nodup
      rw [List.map_append, List.nodup_append]
      refine ⟨h.nodup, List.nodup_singleton session, ?_⟩
      intro a ha b hb
      obtain ⟨e, he, rfl⟩ := List.mem_map.mp ha
      rw [List.mem_singleton.mp hb]
      exact hne he
    · rcases List.mem_append.mp he with he | he
      · exact hcurrent he
      · rw [List.mem_singleton.mp he]
        exact ⟨slot, Function.update_self ..⟩

theorem remove (h : r.Track sessions) (session : Word) :
    (r.remove session).2.Track (Function.update sessions session none) := by
  obtain ⟨hnodup, hcurrent⟩ := h.sublist (r.remove_sublist session)
  refine ⟨hnodup, fun e he => ?_⟩
  rw [Function.update_of_ne (ne_of_mem_remove h.nodup he)]
  exact hcurrent e he

/-- A request keeps track of the sessions if a session that it opens was not open, and if nothing is
registered when it gives up the module. -/
theorem after (h : r.Track sessions) {request : Request κ η} {answer : Answer}
    (heffect : request.Effect answer r r')
    (hfresh : ∀ slot flags registration session,
      request = .openSession slot flags registration → answer.result = .ok (.word session) →
      sessions session = none)
    (hfinalise : ∀ response, request = .finalise → answer.result = .ok response →
      r.entries = []) :
    r'.Track (sessions.after request answer) := by
  cases heffect with
  | failed hfault => rwa [Sessions.after_of_error hfault]
  | initialised => exact h
  | finalised =>
    cases hresult : answer.result with
    | error fault => rwa [Sessions.after_of_error hresult]
    | ok response =>
      have hnone := hfinalise response rfl hresult
      exact ⟨by simp [Registrations.sessions, hnone], by simp [hnone]⟩
  | opened hopened =>
    rw [Sessions.after_openSession hopened]
    exact h.put _ (hfresh _ _ _ _ rfl hopened)
  | @closed session _ _ =>
    cases hresult : answer.result with
    | error fault =>
      rw [Sessions.after_of_error hresult]
      exact h.sublist (r.remove_sublist session)
    | ok response =>
      rw [Sessions.after_closeSession hresult]
      exact h.remove session
  | closedAll => exact .empty _

end Registrations.Track

/-! ### Requests -/

namespace Host

theorem registrations_setRegistrations {host : Host κ η ρ μ} {handle : Nat}
    (h : handle < host.handles.length) (r : Registrations κ) :
    (host.setRegistrations handle r).registrations handle = r := by
  simp [registrations, setRegistrations, h]

theorem registrations_eq_of_handles {host host' : Host κ η ρ μ} (h : host'.handles = host.handles)
    (handle : Nat) : host'.registrations handle = host.registrations handle := by
  unfold registrations
  rw [h]

variable {allocator : Allocator} {replies : Replies η ρ μ} {handle : Nat} {host : Host κ η ρ μ}

theorem registrations_settle (hvalid : handle < host.handles.length) (previous : Option η)
    (reply : Reply) (request : Request κ η) :
    (host.settle handle previous reply request).registrations handle =
      request.revise reply (host.registrations handle) := by
  rw [settle_eq]
  exact registrations_setRegistrations hvalid _

/-- The registrations of a connection once a request has been called and answered. -/
theorem registrations_called (hvalid : handle < host.handles.length) {request : Request κ η}
    {library : Library} {c : Call} {reply : Reply} {called : Host κ η ρ μ}
    (hcall : call replies library c (host.enter request) = (reply, called))
    (previous : Option η) :
    (called.settle handle previous reply request).registrations handle =
      request.revise reply (host.registrations handle) := by
  have hhandles : called.handles = host.handles := by
    rw [call_eq hcall, enter_eq]
  rw [← registrations_eq_of_handles hhandles handle]
  exact registrations_settle (hhandles ▸ hvalid) previous reply request

theorem settle_effect (hvalid : handle < host.handles.length) (previous : Option η) (reply : Reply)
    {request : Request κ η} (hrequest : request.ConcernsSessions) :
    request.Effect
      (answer ((Negotiation.check request.entry.name reply.status).map fun _ =>
        request.response reply))
      (host.registrations handle)
      ((host.settle handle previous reply request).registrations handle) := by
  rw [registrations_settle hvalid]
  cases request with
  | operate o => exact hrequest.elim
  | initialise args => exact .initialised
  | finalise => exact .finalised
  | openSession slot flags registration =>
    simp only [Request.revise, Negotiation.check]
    split
    · exact .opened rfl
    · exact .failed rfl
  | closeSession session => exact .closed
  | closeAllSessions slot => exact .closedAll

theorem perform_effect [Allocator] (replies : Replies η ρ μ) {request : Request κ η}
    (hrequest : request.ConcernsSessions) (hvalid : handle < host.handles.length) :
    let answered := (perform replies handle request).run host
    request.Effect answered.1 (host.registrations handle) (answered.2.registrations handle) ∧
      answered.2.handles.length = host.handles.length := by
  have hperformed := perform_performed replies handle host request
  refine ⟨?_, hperformed.sameConnections.handles⟩
  generalize (perform replies handle request).run host = answered at hperformed ⊢
  obtain ⟨answer, after⟩ := answered
  generalize calls replies handle request host = made at hperformed
  cases hperformed with
  | unreached | unprovided => cases request <;> first | exact hrequest.elim | exact .failed rfl
  | @called _ _ reply called _ _ _ hcall =>
    have hhandles : called.handles = host.handles := by
      rw [call_eq hcall, enter_eq]
    rw [← registrations_eq_of_handles hhandles handle]
    exact settle_effect (hhandles ▸ hvalid) _ reply hrequest
  | unprepared | carried => exact hrequest.elim

/-! ### Deliveries -/

/-- A runtime that every thread is attached to. -/
def attachedRuntime {σ : Type} : Runtime σ where
  isAttached := fun _ => true
  attach := return .ok ()
  detach := return ()

/-- The registrations that a notification of a session is delivered to. -/
def delivered (host : Host κ η ρ μ) (handle : Nat) (session : Word) : List κ :=
  ((Notification.dispatch attachedRuntime (fun _ => host.registrations handle)
    (fun registration => do
      modify (· ++ [registration])
      return .done ()) session).run []).2

/-- What a notification notes, if registrations note `f` of themselves. -/
theorem dispatch_noting {ε : Type} (f : κ → ε) (r : Registrations κ) (session : Word) :
    ((Notification.dispatch attachedRuntime (fun _ => r)
      (fun registration => do
        modify (· ++ [f registration])
        return .done ()) session).run []).2 = (r.get? session).toList.map f := by
  unfold Notification.dispatch
  cases h : r.get? session <;>
    simp [Runtime.attached, Runtime.guard, Runtime.release, attachedRuntime, h] <;> rfl

theorem delivered_eq (host : Host κ η ρ μ) (handle : Nat) (session : Word) :
    host.delivered handle session = ((host.registrations handle).get? session).toList :=
  (dispatch_noting id _ session).trans (List.map_id _)

/-! ### Runs -/

/-- The application and the sessions that are open at a point of a run. -/
structure Point (κ η ρ μ : Type) where
  host : Host κ η ρ μ
  sessions : Sessions κ

/-- Notifications are delivered to nothing but the registrations of open sessions, each to the one
that its session was opened with. -/
def Point.NoneStale (p : Point κ η ρ μ) (handle : Nat) : Prop :=
  ∀ session, ∀ registration ∈ p.host.delivered handle session,
    ∃ slot, p.sessions session = some ⟨slot, some registration⟩

/-- A request of a run, with its answer and the points before and after. -/
structure Turn (κ η ρ μ : Type) where
  before : Point κ η ρ μ
  request : Request κ η
  answer : Answer
  after : Point κ η ρ μ

def turn [Allocator] (replies : Replies η ρ μ) (handle : Nat) (p : Point κ η ρ μ)
    (request : Request κ η) : Turn κ η ρ μ :=
  let answered := (perform replies handle request).run p.host
  { before := p
    request := request
    answer := answered.1
    after := { host := answered.2, sessions := p.sessions.after request answered.1 } }

/-- Requests one after the other. -/
def turns [Allocator] (replies : Replies η ρ μ) (handle : Nat) :
    (p : Point κ η ρ μ) → (requests : List (Request κ η)) → List (Turn κ η ρ μ)
  | _, [] => []
  | p, request :: requests =>
    let t := turn replies handle p request
    t :: turns replies handle t.after requests

namespace Turn

/-- If the turn opens a session, that session was not open before. -/
def Fresh (t : Turn κ η ρ μ) : Prop :=
  ∀ slot flags registration session, t.request = .openSession slot flags registration →
    t.answer.result = .ok (.word session) → t.before.sessions session = none

/-- The module is given up. -/
def Finalises (t : Turn κ η ρ μ) : Prop :=
  t.request = .finalise ∧ ∃ response, t.answer.result = .ok response

end Turn

theorem Point.noneStale_of_track {p : Point κ η ρ μ}
    (h : (p.host.registrations handle).Track p.sessions) : p.NoneStale handle := by
  intro session registration hdelivered
  rw [delivered_eq, Option.mem_toList] at hdelivered
  exact h.current _ (Registrations.mem_of_get? hdelivered)

/-- A turn keeps track of the sessions if a session that it opens was not open, and if nothing is
registered when it gives up the module. -/
theorem turn_track {p : Point κ η ρ μ} {request : Request κ η}
    (hrequest : request.ConcernsSessions) (hvalid : handle < p.host.handles.length)
    (h : (p.host.registrations handle).Track p.sessions) {t : Turn κ η ρ μ}
    (ht : turn replies handle p request = t) (hfresh : t.Fresh)
    (hfinalise : t.Finalises → (t.before.host.registrations handle).entries = []) :
    (t.after.host.registrations handle).Track t.after.sessions ∧
      handle < t.after.host.handles.length := by
  obtain ⟨heffect, hlength⟩ := perform_effect replies hrequest hvalid
  simp only [turn] at ht
  generalize (perform replies handle request).run p.host = answered at ht heffect hlength
  subst ht
  have htrack := h.after heffect hfresh fun response hr hresult =>
    hfinalise ⟨hr, response, hresult⟩
  exact ⟨htrack, Nat.lt_of_lt_of_eq hvalid hlength.symm⟩

theorem turns_track {p : Point κ η ρ μ} {requests : List (Request κ η)}
    (hrequests : ∀ request ∈ requests, request.ConcernsSessions)
    (hvalid : handle < p.host.handles.length)
    (h : (p.host.registrations handle).Track p.sessions)
    (hfresh : ∀ t ∈ turns replies handle p requests, t.Fresh)
    (hfinalise : ∀ t ∈ turns replies handle p requests, t.Finalises →
      (t.before.host.registrations handle).entries = []) :
    ∀ t ∈ turns replies handle p requests,
      (t.after.host.registrations handle).Track t.after.sessions := by
  induction requests generalizing p with
  | nil => exact List.forall_mem_nil _
  | cons request requests ih =>
    simp only [turns, List.forall_mem_cons] at hrequests hfresh hfinalise ⊢
    generalize ht : turn replies handle p request = t at hfresh hfinalise ⊢
    obtain ⟨htrack, hvalid'⟩ := turn_track hrequests.1 hvalid h ht hfresh.1 hfinalise.1
    exact ⟨htrack, ih hrequests.2 hvalid' htrack hfresh.2 hfinalise.2⟩

/-- When a module has been given up no session is open, so a registration that remains is stale. -/
theorem entries_eq_nil_of_noneStale {p : Point κ η ρ μ} {request : Request κ η} {t : Turn κ η ρ μ}
    (hvalid : handle < p.host.handles.length) (ht : turn replies handle p request = t)
    (hfinalises : t.Finalises) (h : t.after.NoneStale handle) :
    (t.before.host.registrations handle).entries = [] := by
  obtain ⟨hrequest, response, hresult⟩ := hfinalises
  obtain rfl : request = .finalise := by rw [← hrequest, ← ht]; rfl
  have hconcerns : (.finalise : Request κ η).ConcernsSessions := trivial
  have heffect := (perform_effect replies hconcerns hvalid).1
  simp only [turn] at ht
  generalize (perform replies handle .finalise).run p.host = answered at ht heffect
  subst ht
  have hsessions : p.sessions.after (.finalise : Request κ η) answered.1 = fun _ => none :=
    Sessions.after_finalise hresult
  have hsame : p.host.registrations handle = answered.2.registrations handle := by
    generalize answered.2.registrations handle = r at heffect
    cases heffect <;> rfl
  -- a registration that remains gets the notifications of its session, which is not open
  refine List.eq_nil_iff_forall_not_mem.mpr fun e he => ?_
  obtain ⟨k, hk⟩ := Registrations.exists_get?_of_mem he
  have hdelivered : k ∈ answered.2.delivered handle e.1 := by
    rw [delivered_eq, ← hsame, hk]
    exact List.mem_singleton_self k
  obtain ⟨slot, hopen⟩ := h e.1 k hdelivered
  rw [hsessions] at hopen
  cases hopen

theorem turns_entries_eq_nil {p : Point κ η ρ μ} {requests : List (Request κ η)}
    (hrequests : ∀ request ∈ requests, request.ConcernsSessions)
    (hvalid : handle < p.host.handles.length) :
    ∀ t ∈ turns replies handle p requests, t.Finalises → t.after.NoneStale handle →
      (t.before.host.registrations handle).entries = [] := by
  induction requests generalizing p with
  | nil => exact List.forall_mem_nil _
  | cons request requests ih =>
    simp only [turns, List.forall_mem_cons] at hrequests ⊢
    have hlength := (perform_effect replies hrequests.1 hvalid).2
    exact ⟨entries_eq_nil_of_noneStale hvalid rfl,
      ih hrequests.2 (Nat.lt_of_lt_of_eq hvalid hlength.symm)⟩

theorem registrations_connect (library : Library) (host : Host κ η ρ μ) :
    let connected := (connect library).run host
    connected.2.registrations connected.1 = {} ∧ connected.1 < connected.2.handles.length := by
  simp [connect, registrations, StateT.run]

/-- A run that starts when a library has just been connected, against a module that opens no session
under the number of an open one. Every notification is delivered as it should be at every point
exactly when nothing is registered whenever the module is given up. -/
theorem noneStale_iff (replies : Replies η ρ μ) (library : Library) (host : Host κ η ρ μ)
    {requests : List (Request κ η)}
    (hrequests : ∀ request ∈ requests, request.ConcernsSessions) :
    let connected := (connect library).run host
    let run := turns replies connected.1 ⟨connected.2, fun _ => none⟩ requests
    (∀ t ∈ run, t.Fresh) →
      ((∀ t ∈ run, t.after.NoneStale connected.1) ↔
        ∀ t ∈ run, t.Finalises → (t.before.host.registrations connected.1).entries = []) := by
  intro connected run hfresh
  obtain ⟨hempty, hvalid⟩ := registrations_connect library host
  constructor
  · intro h t ht hfinalises
    exact turns_entries_eq_nil hrequests hvalid t ht hfinalises (h t ht)
  · intro h t ht
    refine Point.noneStale_of_track (turns_track hrequests hvalid ?_ hfresh h t ht)
    rw [hempty]
    exact .empty _

end Host

namespace Host

open Simulation

/-- A library with every function that begins or ends sessions. -/
def sessionLibrary : Library :=
  ⟨"sessions", some [.initialise, .finalise, .openSession, .closeSession, .closeAllSessions], false⟩

/-- A module that answers every call with success and opens every session under the number 5. -/
def openFive : Replies Unit Unit Unit := fun _ _ _ => pure { handle := some 5 }

/-- An application that has connected nothing. -/
def bare : Host String Unit Unit Unit := { runtime := (), modules := () }

/-- All sessions are closed before the module is given up. -/
theorem noneStale_closeAllSessions :
    let connected := (connect sessionLibrary).run bare
    ∀ t ∈ turns openFive connected.1 ⟨connected.2, fun _ => none⟩
      [.initialise none, .openSession 0 4 (some "listener"), .closeAllSessions 0, .finalise],
      t.after.NoneStale connected.1 := by
  intro connected
  refine (noneStale_iff openFive sessionLibrary bare ?_ ?_).mpr ?_
  · simp [Request.ConcernsSessions]
  · simp only [turns, List.forall_mem_cons]
    refine ⟨nofun, ?_, nofun, nofun, List.forall_mem_nil _⟩
    intro slot flags registration session _ _
    rfl
  · simp only [turns, List.forall_mem_cons]
    exact ⟨nofun, nofun, nofun, fun _ => rfl, List.forall_mem_nil _⟩

/-- The module is given up while a session with a registration is open. No session is open then, but
a notification of it is still delivered. When the number is given out again, the notifications of
the new session are delivered to the registration of the old one. -/
theorem stale_after_finalise :
    let connected := (connect sessionLibrary).run bare
    let run := turns openFive connected.1 ⟨connected.2, fun _ => none⟩
      [.initialise none, .openSession 0 4 (some "old"), .finalise,
        .initialise none, .openSession 0 4 (some "new")]
    (∀ t ∈ run, t.Fresh) ∧
      (∃ t ∈ run, t.after.sessions 5 = none ∧ t.after.host.delivered connected.1 5 = ["old"]) ∧
      (∃ t ∈ run, t.after.sessions 5 = some ⟨0, some "new"⟩ ∧
        t.after.host.delivered connected.1 5 = ["old"]) ∧
      ¬∀ t ∈ run, t.after.NoneStale connected.1 := by
  intro connected run
  have hfinalised : ∃ t ∈ run, t.after.sessions 5 = none ∧
      t.after.host.delivered connected.1 5 = ["old"] :=
    ⟨run[2], List.getElem_mem _, rfl, rfl⟩
  have hreopened : ∃ t ∈ run, t.after.sessions 5 = some ⟨0, some "new"⟩ ∧
      t.after.host.delivered connected.1 5 = ["old"] :=
    ⟨run[4], List.getElem_mem _, rfl, rfl⟩
  refine ⟨?_, hfinalised, hreopened, ?_⟩
  · simp only [run, turns, List.forall_mem_cons]
    refine ⟨nofun, ?_, nofun, nofun, ?_, List.forall_mem_nil _⟩
    · intro slot flags registration session _ hsession
      rfl
    · intro slot flags registration session _ hsession
      rfl
  · intro h
    obtain ⟨t, ht, hclosed, hdelivered⟩ := hfinalised
    obtain ⟨slot, hopen⟩ := h t ht 5 "old" (hdelivered ▸ List.mem_cons_self)
    cases hclosed.symm.trans hopen

end Host

end Cryptoki
