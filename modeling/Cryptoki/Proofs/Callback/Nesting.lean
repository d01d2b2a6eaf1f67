import Cryptoki.Callback.Locking
import Cryptoki.Callback.Notification
import Cryptoki.Host.Basic
import Cryptoki.Proofs.Exchanges
import Mathlib.Data.List.Count
import Mathlib.Logic.Function.Basic

/-! Callbacks within callbacks. A module may call back while it is itself called from a callback, to
any depth. Every invocation leaves the calling thread attached to what it was attached to before,
and no callback runs on a detached thread (`Nesting.Invocation.run_balanced`). -/

namespace Cryptoki.Nesting

/-! ### Threads -/

/-- What happens on the calling thread: it is attached or detached through a runtime, or takes a
step of a callback, attached to the runtime of the callback or not. -/
inductive Event (ρ : Type) where
  | attached (runtime : ρ)
  | detached (runtime : ρ)
  | running (runtime : ρ) (attached : Bool)
deriving DecidableEq, Repr

/-- The application as seen by a thread that calls back. `ε` are the environments that a thread can
be attached to. -/
structure Calling (κ η ρ μ ε : Type) where
  attached : ε → Bool
  events : List (Event ρ) := []
  host : Host κ η ρ μ

variable {κ η ρ μ ε α : Type} (environment : ρ → ε)

namespace Calling

def attach [DecidableEq ε] (s : Calling κ η ρ μ ε) (r : ρ) : Calling κ η ρ μ ε :=
  { s with
    attached := Function.update s.attached (environment r) true
    events := s.events ++ [.attached r] }

def detach [DecidableEq ε] (s : Calling κ η ρ μ ε) (r : ρ) : Calling κ η ρ μ ε :=
  { s with
    attached := Function.update s.attached (environment r) false
    events := s.events ++ [.detached r] }

section Attachments

variable [DecidableEq ε] (s : Calling κ η ρ μ ε) (r : ρ)

@[simp] theorem attach_attached :
    (s.attach environment r).attached = Function.update s.attached (environment r) true := rfl

@[simp] theorem attach_events :
    (s.attach environment r).events = s.events ++ [.attached r] := rfl

@[simp] theorem detach_attached :
    (s.detach environment r).attached = Function.update s.attached (environment r) false := rfl

@[simp] theorem detach_events :
    (s.detach environment r).events = s.events ++ [.detached r] := rfl

end Attachments

/-- The thread takes a step of a callback. -/
def step (s : Calling κ η ρ μ ε) (r : ρ) : Calling κ η ρ μ ε :=
  { s with events := s.events ++ [.running r (s.attached (environment r))] }

end Calling

/-- A runtime; runtimes of the same environment attach to the same. It is given whether attaching
would succeed. -/
def runtime [DecidableEq ε] (r : ρ) (attach : Except Error Unit) :
    Runtime (Calling κ η ρ μ ε) where
  isAttached s := s.attached (environment r)
  attach := fun s => match attach with
    | .ok () => (.ok (), s.attach environment r)
    | .error e => (.error e, s)
  detach := modify fun s => s.detach environment r

theorem runtime_isAttached [DecidableEq ε] (r : ρ) (attach : Except Error Unit)
    (s : Calling κ η ρ μ ε) :
    (runtime environment r attach).isAttached s = s.attached (environment r) := rfl

/-! ### Invocations -/

/-- How a callback comes to its end. -/
inductive Conclusion where
  | succeeds
  | fails (e : Error)
  | panics
deriving DecidableEq, Repr

namespace Conclusion

def ending (a : α) : Conclusion → Ending α
  | succeeds => .done a
  | fails e => .failed e
  | panics => .aborted

def status : Conclusion → Word
  | succeeds => Status.ok
  | fails e => e.code
  | panics => Status.generalError

theorem status_ending (a : α) (c : Conclusion) : (c.ending a).status = some c.status := by
  cases c <;> rfl

theorem ending_ne_pending (a : α) (c : Conclusion) : c.ending a ≠ .pending := by
  cases c <;> nofun

end Conclusion

/-- A use of a locking callback. A thread that locks a mutex goes on once the mutex is free. -/
inductive MutexCall where
  | create (place : Bool)
  | destroy (address : Option Mutex)
  | lock (null : Bool)
  | unlock (address : Option Mutex)
deriving DecidableEq, Repr

def MutexCall.run {σ : Type} (active : Locking.Active σ) : MutexCall → StateM σ (Option Word)
  | create place => do return (← Locking.create active place).1
  | destroy address => Locking.destroy active address
  | lock null => do return (← Locking.lock active (if null then none else some {})).1
  | unlock address => do return (← Locking.unlock active address).1

/-- A handler whose methods all go the same way, and leave a mutex like this. -/
def handler {σ : Type} (method : StateM σ Conclusion) (left : Mutex) : MutexHandler σ where
  create := do return (← method).ending left
  destroy := fun _ => do return (← method).ending ()
  lock := fun _ => do return (← method).ending left
  unlock := fun _ => do return (← method).ending left

mutual

/-- What a module does when it calls back: it notifies a session of a connection, which may be null,
or uses a locking callback. `attach` tells whether attaching would succeed. -/
inductive Invocation (κ η ρ μ : Type) where
  | notify (attach : Except Error Unit) (connection : Option Nat) (session event : Word)
      (callback : κ → (session event : Word) → Conduct κ η ρ μ)
  | locking (attach : Except Error Unit) (call : MutexCall) (left : Mutex)
      (method : η → Conduct κ η ρ μ)

/-- What a callback does: it changes the application, makes a module call back, and ends. -/
inductive Conduct (κ η ρ μ : Type) where
  | ends (conclusion : Conclusion)
  | alter (change : Host κ η ρ μ → Host κ η ρ μ) (rest : Conduct κ η ρ μ)
  | invoke (invocation : Invocation κ η ρ μ) (rest : (status : Option Word) → Conduct κ η ρ μ)

end

section Runs

variable [DecidableEq ε]

mutual

/-- The status that the module is told. -/
def Invocation.run : Invocation κ η ρ μ → StateM (Calling κ η ρ μ ε) (Option Word)
  | .notify attach connection session event callback => do
    let r := (← get).host.runtime
    let registrations (s : Calling κ η ρ μ ε) := connection.elim {} s.host.registrations
    Notification.notify connection.isSome
      (Notification.dispatch (runtime environment r attach) registrations
        (fun k => do return (← (callback k session event).run r).ending ()) session)
  | .locking attach call left method => do
    let active := (← get).host.activeHandler.map fun entry =>
      (handler ((method entry.1).run entry.2) left, runtime environment entry.2 attach)
    call.run active

/-- Runs a callback that is attached through a runtime. -/
def Conduct.run : Conduct κ η ρ μ → ρ → StateM (Calling κ η ρ μ ε) Conclusion
  | .ends conclusion, r => do
    modify (·.step environment r)
    return conclusion
  | .alter change rest, r => do
    modify (·.step environment r)
    modify fun s => { s with host := change s.host }
    rest.run r
  | .invoke invocation rest, r => do
    modify (·.step environment r)
    let status ← invocation.run
    (rest status).run r

end

end Runs

/-! ### What an invocation leaves of the thread -/

section Threads

variable [DecidableEq ρ]

/-- Events of callbacks that run attached, with one detachment for each attachment. -/
structure Orderly (events : List (Event ρ)) : Prop where
  running : ∀ r attached, .running r attached ∈ events → attached = true
  paired : ∀ r, events.count (.detached r) = events.count (.attached r)

namespace Orderly

variable {events events' : List (Event ρ)}

theorem nil : Orderly ([] : List (Event ρ)) := ⟨nofun, fun _ => rfl⟩

theorem append (h : Orderly events) (h' : Orderly events') : Orderly (events ++ events') where
  running r attached hmem := (List.mem_append.mp hmem).elim (h.running r attached)
    (h'.running r attached)
  paired r := by rw [List.count_append, List.count_append, h.paired r, h'.paired r]

theorem step (r : ρ) : Orderly [.running r true] where
  running r' attached hmem := by
    cases List.mem_singleton.mp hmem
    rfl
  paired _ := rfl

theorem bracket (h : Orderly events) (r : ρ) :
    Orderly (.attached r :: (events ++ [.detached r])) where
  running r' attached hmem := by
    have hinside : Event.running r' attached ∈ events := by simpa using hmem
    exact h.running r' attached hinside
  paired r' := by
    by_cases hr : r = r' <;> simp [h.paired r', hr]

end Orderly

/-- The thread is attached to what it was attached to before, and in between it was orderly. -/
structure Balanced (s s' : Calling κ η ρ μ ε) : Prop where
  attached : s'.attached = s.attached
  events : ∃ events, s'.events = s.events ++ events ∧ Orderly events

namespace Balanced

variable {s s' s'' : Calling κ η ρ μ ε}

theorem refl (s : Calling κ η ρ μ ε) : Balanced s s :=
  ⟨rfl, [], (List.append_nil _).symm, .nil⟩

theorem trans (h : Balanced s s') (h' : Balanced s' s'') : Balanced s s'' := by
  obtain ⟨events, hevents, horderly⟩ := h.events
  obtain ⟨events', hevents', horderly'⟩ := h'.events
  refine ⟨h'.attached.trans h.attached, events ++ events', ?_, horderly.append horderly'⟩
  rw [hevents', hevents, List.append_assoc]

theorem step {r : ρ} (h : s.attached (environment r) = true) :
    Balanced s (s.step environment r) := by
  refine ⟨rfl, [.running r true], ?_, .step r⟩
  rw [← h]
  rfl

theorem alter (s : Calling κ η ρ μ ε) (host : Host κ η ρ μ) : Balanced s { s with host := host } :=
  ⟨rfl, (refl s).events⟩

end Balanced

end Threads

section Guards

variable [DecidableEq ε] {s entered left : Calling κ η ρ μ ε} {r : ρ} {attach : Except Error Unit}

/-- The thread once it is attached through a runtime, if it comes to that. -/
def Calling.enter (s : Calling κ η ρ μ ε) (r : ρ) (attach : Except Error Unit) :
    Except Error (Calling κ η ρ μ ε) :=
  if s.attached (environment r) then .ok s else attach.map fun () => s.attach environment r

/-- The thread once it is detached again, if it was not attached at first. -/
def Calling.leave (s left : Calling κ η ρ μ ε) (r : ρ) : Calling κ η ρ μ ε :=
  if s.attached (environment r) then left else left.detach environment r

variable {environment}

theorem enter_cases (h : s.enter environment r attach = .ok entered) :
    s.attached (environment r) = true ∧ entered = s ∨
      s.attached (environment r) = false ∧ attach = .ok () ∧
        entered = s.attach environment r := by
  unfold Calling.enter at h
  split at h
  · next hattached =>
    cases h
    exact .inl ⟨hattached, rfl⟩
  · next hattached =>
    cases attach with
    | error => cases h
    | ok =>
      cases h
      exact .inr ⟨Bool.eq_false_iff.mpr hattached, rfl, rfl⟩

theorem attached_of_enter (h : s.enter environment r attach = .ok entered) :
    entered.attached (environment r) = true := by
  obtain ⟨hattached, rfl⟩ | ⟨-, -, rfl⟩ := enter_cases h
  · exact hattached
  · rw [Calling.attach_attached, Function.update_self]

theorem attached_of_enter_error {e : Error} (h : s.enter environment r attach = .error e) :
    s.attached (environment r) = false ∧ attach = .error e := by
  unfold Calling.enter at h
  split at h
  · cases h
  · next hattached =>
    cases attach with
    | error =>
      cases h
      exact ⟨Bool.eq_false_iff.mpr hattached, rfl⟩
    | ok => cases h

/-- What is done on the entered thread stays balanced once it is left. -/
theorem Balanced.leave [DecidableEq ρ] (hentered : s.enter environment r attach = .ok entered)
    (h : Balanced entered left) : Balanced s (s.leave environment left r) := by
  obtain ⟨hattached, rfl⟩ | ⟨hattached, -, rfl⟩ := enter_cases hentered
  · rwa [Calling.leave, if_pos hattached]
  · rw [Calling.leave, if_neg (Bool.eq_false_iff.mp hattached)]
    obtain ⟨events, hevents, horderly⟩ := h.events
    refine ⟨?_, .attached r :: (events ++ [.detached r]), ?_, horderly.bracket r⟩
    · rw [Calling.detach_attached, h.attached, Calling.attach_attached, Function.update_idem,
        ← hattached, Function.update_eq_self]
    · simp [hevents]

theorem guard_of_enter (h : s.enter environment r attach = .ok entered) :
    (runtime environment r attach).guard s = (.ok (!s.attached (environment r)), entered) := by
  rw [Runtime.guard, get_bind, runtime_isAttached]
  obtain ⟨hattached, rfl⟩ | ⟨hattached, rfl, rfl⟩ := enter_cases h
  · rw [if_pos hattached, hattached]
    rfl
  · rw [if_neg (Bool.eq_false_iff.mp hattached), hattached]
    rfl

theorem guard_of_enter_error {e : Error} (h : s.enter environment r attach = .error e) :
    (runtime environment r attach).guard s = (.error e, s) := by
  obtain ⟨hattached, rfl⟩ := attached_of_enter_error h
  rw [Runtime.guard, get_bind, runtime_isAttached, if_neg (Bool.eq_false_iff.mp hattached)]
  rfl

theorem release_eq (s left : Calling κ η ρ μ ε) (r : ρ) (attach : Except Error Unit) :
    (runtime environment r attach).release (!s.attached (environment r)) left =
      ((), s.leave environment left r) := by
  unfold Runtime.release Calling.leave
  cases s.attached (environment r) <;> rfl

variable {callback : StateM (Calling κ η ρ μ ε) (Ending α)} {ending : Ending α}

theorem attached_of_refused {e : Error} (h : s.enter environment r attach = .error e) :
    ((runtime environment r attach).attached callback) s = (.failed e, s) := by
  rw [Runtime.attached, bind_of_eq (guard_of_enter_error h)]
  rfl

theorem attached_of_entered (h : s.enter environment r attach = .ok entered)
    (hrun : callback entered = (ending, left)) (hreturned : ending ≠ .pending) :
    ((runtime environment r attach).attached callback) s =
      (ending, s.leave environment left r) := by
  rw [Runtime.attached, bind_of_eq (guard_of_enter h)]
  dsimp only
  rw [bind_of_eq hrun]
  cases ending with
  | pending => exact absurd rfl hreturned
  | done | failed | aborted =>
    dsimp only
    rw [bind_of_eq (release_eq s left r attach)]
    rfl

section Dispatches

variable {registrations : Calling κ η ρ μ ε → Registrations κ} {session : Word}
  {run : κ → StateM (Calling κ η ρ μ ε) (Ending Unit)}

theorem dispatch_of_unregistered (h : s.enter environment r attach = .ok entered)
    (hfound : (registrations entered).get? session = none) :
    Notification.dispatch (runtime environment r attach) registrations run session s =
      (.done (), s.leave environment entered r) := by
  refine attached_of_entered h ?_ nofun
  rw [get_bind, hfound]
  rfl

theorem dispatch_of_registered {ending : Ending Unit} {k : κ}
    (h : s.enter environment r attach = .ok entered)
    (hfound : (registrations entered).get? session = some k)
    (hrun : run k entered = (ending, left)) (hreturned : ending ≠ .pending) :
    Notification.dispatch (runtime environment r attach) registrations run session s =
      (ending, s.leave environment left r) := by
  refine attached_of_entered h ?_ hreturned
  rw [get_bind, hfound]
  exact hrun

end Dispatches

end Guards

section Settling

variable [DecidableEq ρ] {environment} {s : Calling κ η ρ μ ε} {r : ρ}

/-- Code of the application returns, and leaves the thread as it was. -/
def Settles (action : StateM (Calling κ η ρ μ ε) (Ending α)) (s : Calling κ η ρ μ ε) : Prop :=
  ∃ ending s', action s = (ending, s') ∧ ending ≠ .pending ∧ Balanced s s'

/-- The module is told a status, and the thread is left as it was. -/
def Answers (action : StateM (Calling κ η ρ μ ε) (Option Word)) (s : Calling κ η ρ μ ε) : Prop :=
  ∃ status s', action s = (some status, s') ∧ Balanced s s'

/-- A callback concludes, and leaves the thread as it was. -/
def Concludes (action : StateM (Calling κ η ρ μ ε) Conclusion) (s : Calling κ η ρ μ ε) : Prop :=
  ∃ conclusion s', action s = (conclusion, s') ∧ Balanced s s'

theorem Concludes.settles {action : StateM (Calling κ η ρ μ ε) Conclusion} (h : Concludes action s)
    (a : α) : Settles (do return (← action).ending a) s := by
  obtain ⟨conclusion, s', hrun, hbalanced⟩ := h
  exact ⟨conclusion.ending a, s', bind_of_eq hrun, conclusion.ending_ne_pending a, hbalanced⟩

theorem Settles.status {action : StateM (Calling κ η ρ μ ε) (Ending α)} (h : Settles action s) :
    Answers (do return (← action).status) s := by
  obtain ⟨ending, s', hrun, hreturned, hbalanced⟩ := h
  obtain ⟨status, hstatus⟩ : ∃ status, ending.status = some status := by
    cases ending with
    | pending => exact absurd rfl hreturned
    | done | failed | aborted => exact ⟨_, rfl⟩
  refine ⟨status, s', ?_, hbalanced⟩
  rw [bind_of_eq hrun, hstatus]
  rfl

variable [DecidableEq ε]

theorem Settles.attached {callback : StateM (Calling κ η ρ μ ε) (Ending α)}
    (h : ∀ entered : Calling κ η ρ μ ε, entered.attached (environment r) = true →
      Settles callback entered) (attach : Except Error Unit) (s : Calling κ η ρ μ ε) :
    Settles ((runtime environment r attach).attached callback) s := by
  cases hentered : s.enter environment r attach with
  | error e => exact ⟨.failed e, s, attached_of_refused hentered, nofun, .refl s⟩
  | ok entered =>
    obtain ⟨ending, left, hrun, hreturned, hbalanced⟩ := h entered (attached_of_enter hentered)
    exact ⟨ending, _, attached_of_entered hentered hrun hreturned, hreturned,
      hbalanced.leave hentered⟩

theorem locking_settles {installed : Option (η × ρ)}
    {method : η × ρ → StateM (Calling κ η ρ μ ε) Conclusion} {left : Mutex}
    (act : MutexHandler (Calling κ η ρ μ ε) → StateM (Calling κ η ρ μ ε) (Ending α))
    {otherwise : Ending α}
    (hmethod : ∀ entry (entered : Calling κ η ρ μ ε),
      entered.attached (environment entry.2) = true → Concludes (method entry) entered)
    (hact : ∀ run, ∃ a, act (handler run left) = do return (← run).ending a)
    (hotherwise : otherwise ≠ .pending) (attach : Except Error Unit) (s : Calling κ η ρ μ ε) :
    Settles (Locking.run (installed.map fun entry =>
      (handler (method entry) left, runtime environment entry.2 attach)) act otherwise) s := by
  cases installed with
  | none => exact ⟨otherwise, s, rfl, hotherwise, .refl s⟩
  | some entry =>
    obtain ⟨a, ha⟩ := hact (method entry)
    refine .attached (fun entered hattached => ?_) attach s
    rw [ha]
    exact (hmethod entry entered hattached).settles a

theorem MutexCall.run_answers {installed : Option (η × ρ)}
    {method : η × ρ → StateM (Calling κ η ρ μ ε) Conclusion}
    (hmethod : ∀ entry (entered : Calling κ η ρ μ ε),
      entered.attached (environment entry.2) = true → Concludes (method entry) entered)
    (attach : Except Error Unit) (call : MutexCall) (left : Mutex) (s : Calling κ η ρ μ ε) :
    Answers (call.run (installed.map fun entry =>
      (handler (method entry) left, runtime environment entry.2 attach))) s := by
  cases call with
  | create place =>
    cases place with
    | false => exact ⟨_, s, rfl, .refl s⟩
    | true =>
      refine (locking_settles MutexHandler.create hmethod (fun _ => ⟨left, rfl⟩) ?_ attach s).status
      nofun
  | destroy address =>
    cases address with
    | none => exact ⟨_, s, rfl, .refl s⟩
    | some m =>
      refine (locking_settles (·.destroy m) hmethod (fun _ => ⟨(), rfl⟩) ?_ attach s).status
      nofun
  | lock null =>
    cases null with
    | true => exact ⟨_, s, rfl, .refl s⟩
    | false =>
      refine (locking_settles (·.lock {}) hmethod (fun _ => ⟨left, rfl⟩) ?_ attach s).status
      nofun
  | unlock address =>
    cases address with
    | none => exact ⟨_, s, rfl, .refl s⟩
    | some m =>
      have hunlock : m.unlock ≠ .pending := by
        unfold Mutex.unlock
        split <;> nofun
      exact (locking_settles (·.unlock m) hmethod (fun _ => ⟨left, rfl⟩) hunlock attach s).status

end Settling

/-! ### Notifications -/

section Notifications

variable [DecidableEq ε] (attach : Except Error Unit) (connection : Option Nat)
  (session event : Word) (callback : κ → (session event : Word) → Conduct κ η ρ μ)

/-- How a notification goes: the status that the module is told, and the thread afterwards. The
registration is looked up once the thread is attached, and its callback is run once. -/
inductive Notified (s : Calling κ η ρ μ ε) : (status : Word) → Calling κ η ρ μ ε → Prop
  | unaddressed : connection = none → Notified s Status.ok s
  | refused {handle : Nat} {e : Error} : connection = some handle →
      s.enter environment s.host.runtime attach = .error e → Notified s e.code s
  | unregistered {handle : Nat} {entered : Calling κ η ρ μ ε} : connection = some handle →
      s.enter environment s.host.runtime attach = .ok entered →
      (entered.host.registrations handle).get? session = none →
      Notified s Status.ok (s.leave environment entered s.host.runtime)
  | ran {handle : Nat} {entered left : Calling κ η ρ μ ε} {k : κ} {conclusion : Conclusion} :
      connection = some handle → s.enter environment s.host.runtime attach = .ok entered →
      (entered.host.registrations handle).get? session = some k →
      (callback k session event).run environment s.host.runtime entered = (conclusion, left) →
      Notified s conclusion.status (s.leave environment left s.host.runtime)

theorem notify_notified (s : Calling κ η ρ μ ε) : ∃ status s',
    (Invocation.notify attach connection session event callback).run environment s =
      (some status, s') ∧
    Notified environment attach connection session event callback s status s' := by
  unfold Invocation.run
  rw [get_bind]
  cases connection with
  | none => exact ⟨Status.ok, s, rfl, .unaddressed rfl⟩
  | some handle =>
    cases hentered : s.enter environment s.host.runtime attach with
    | error e =>
      exact ⟨e.code, s, bind_of_eq (attached_of_refused hentered), .refused rfl hentered⟩
    | ok entered =>
      cases hfound : (entered.host.registrations handle).get? session with
      | none =>
        refine ⟨Status.ok, _, bind_of_eq (dispatch_of_unregistered hentered ?_),
          .unregistered rfl hentered hfound⟩
        exact hfound
      | some k =>
        rcases hrun : (callback k session event).run environment s.host.runtime entered with
          ⟨conclusion, left⟩
        refine ⟨conclusion.status, _, (bind_of_eq (dispatch_of_registered hentered ?_
          (bind_of_eq hrun) (conclusion.ending_ne_pending ()))).trans ?_,
          .ran rfl hentered hfound hrun⟩
        · exact hfound
        · rw [Conclusion.status_ending]
          rfl

variable {environment attach connection session event callback}

theorem Notified.balanced [DecidableEq ρ] {s s' : Calling κ η ρ μ ε} {status : Word}
    (h : Notified environment attach connection session event callback s status s')
    (hcallback : ∀ k r (entered : Calling κ η ρ μ ε), entered.attached (environment r) = true →
      Concludes ((callback k session event).run environment r) entered) : Balanced s s' := by
  cases h with
  | unaddressed | refused => exact .refl s
  | unregistered _ hentered => exact .leave hentered (.refl _)
  | ran _ hentered _ hrun =>
    obtain ⟨_, _, hconcludes, hbalanced⟩ := hcallback _ _ _ (attached_of_enter hentered)
    cases hrun.symm.trans hconcludes
    exact hbalanced.leave hentered

end Notifications

/-! ### Trees of invocations -/

section Trees

variable [DecidableEq ε] [DecidableEq ρ]

mutual

theorem Invocation.run_answers (i : Invocation κ η ρ μ) (s : Calling κ η ρ μ ε) :
    Answers (i.run environment) s := by
  cases i with
  | notify attach connection session event callback =>
    obtain ⟨status, s', hrun, hnotified⟩ :=
      notify_notified environment attach connection session event callback s
    exact ⟨status, s', hrun, hnotified.balanced fun k r entered hattached =>
      Conduct.run_concludes (callback k session event) r entered hattached⟩
  | locking attach call left method =>
    unfold Invocation.run Answers
    rw [get_bind]
    exact MutexCall.run_answers (fun entry entered hattached =>
      Conduct.run_concludes (method entry.1) entry.2 entered hattached) attach call left s

theorem Conduct.run_concludes (c : Conduct κ η ρ μ) (r : ρ) (s : Calling κ η ρ μ ε)
    (h : s.attached (environment r) = true) : Concludes (c.run environment r) s := by
  have hstep := Balanced.step environment h
  cases c with
  | ends conclusion =>
    refine ⟨conclusion, _, ?_, hstep⟩
    rw [Conduct.run, modify_bind]
    rfl
  | alter change rest =>
    obtain ⟨conclusion, s', hrun, hrest⟩ := Conduct.run_concludes rest r
      { s.step environment r with host := change s.host } h
    refine ⟨conclusion, s', ?_, hstep.trans ((Balanced.alter _ _).trans hrest)⟩
    rw [Conduct.run, modify_bind, modify_bind]
    exact hrun
  | invoke invocation rest =>
    obtain ⟨status, told, hinvoked, htold⟩ :=
      Invocation.run_answers invocation (s.step environment r)
    have hattached : told.attached (environment r) = true := by
      rw [htold.attached]
      exact h
    obtain ⟨conclusion, s', hrun, hrest⟩ :=
      Conduct.run_concludes (rest (some status)) r told hattached
    refine ⟨conclusion, s', ?_, hstep.trans (htold.trans hrest)⟩
    rw [Conduct.run, modify_bind, bind_of_eq hinvoked]
    exact hrun

end

/-- Every invocation ends with a status, and leaves the thread attached to what it was attached to.
Whatever is invoked within it, callbacks run attached only, and each attachment is given up once. A
notification runs one callback at most, and tells the module how that ended or why there is none.
The same holds of each invocation within, from the state that it starts in. -/
theorem Invocation.run_balanced (i : Invocation κ η ρ μ) (s : Calling κ η ρ μ ε) :
    ∃ status s', i.run environment s = (some status, s') ∧ Balanced s s' ∧
      ∀ attach connection session event callback,
        i = .notify attach connection session event callback →
        Notified environment attach connection session event callback s status s' := by
  obtain ⟨status, s', hrun, hbalanced⟩ := Invocation.run_answers environment i s
  refine ⟨status, s', hrun, hbalanced, ?_⟩
  rintro attach connection session event callback rfl
  obtain ⟨_, _, hnotify, hnotified⟩ :=
    notify_notified environment attach connection session event callback s
  cases hrun.symm.trans hnotify
  exact hnotified

/-- The handler has a runtime of its own for the environment that the thread is attached to already,
so the inner invocation neither attaches nor detaches; the outer one does, though its callback
panics. -/
example :
    let host : Host Unit Unit Bool Unit :=
      { handles := [⟨"tokens", ⟨[(5, ())]⟩⟩], runtime := false, activeHandler := some ((), true),
        modules := () }
    let locking : Invocation Unit Unit Bool Unit :=
      .locking (.ok ()) (.lock false) {} fun _ => .ends .succeeds
    let notify := Invocation.notify (.ok ()) (some 0) 5 0 fun _ _ _ =>
      .invoke locking fun _ => .ends .panics
    let result := notify.run (fun _ => ()) { attached := fun _ => false, host := host }
    result.1 = some Status.generalError ∧ result.2.events = [.attached false, .running false true,
      .running true true, .running false true, .detached false] := by
  decide

end Trees

end Cryptoki.Nesting
