import Cryptoki.Callback.Notification
import Cryptoki.Simulation.Thread

/-! Simulated listeners to notifications, each with a fixed conduct, and the registrations that they
belong to and may change. -/

namespace Cryptoki.Simulation

inductive Conduct where
  | succeed
  | fail (e : Error)
  | abort
  | remove (session : Word)
  /-- Dispatches a further notification and ends like that. -/
  | dispatch (session event : Word)
deriving DecidableEq, Repr

/-- A listener and the application data that it is registered with. -/
structure Listener where
  name : String
  conduct : Conduct
  application : Option String := none
deriving DecidableEq, Repr

namespace Listener

def describe (l : Listener) : String :=
  s!"Registration \x7b application: {l.application.isSome}, .. \x7d"

end Listener

/-- A thread together with the registrations of a connection. -/
structure Board where
  registrations : Registrations Listener := {}
  thread : Thread := {}
deriving DecidableEq, Repr

namespace Board

def onThread {α : Type} (action : StateM Thread α) : StateM Board α := fun b =>
  let (a, thread) := action b.thread
  (a, { b with thread := thread })

def onRegistrations {α : Type}
    (action : Registrations Listener → α × Registrations Listener) : StateM Board α := fun b =>
  let (a, registrations) := action b.registrations
  (a, { b with registrations := registrations })

def elsewhere {α : Type} (action : StateM Board α) : StateM Board α := fun b =>
  let (a, b') := action { b with thread := { b.thread with attached := false } }
  (a, { b' with thread := { b'.thread with attached := b.thread.attached } })

def runtime (failure : Option Error) : Runtime Board where
  isAttached := fun b => b.thread.attached
  attach := onThread (Thread.runtime failure).attach
  detach := onThread (Thread.runtime failure).detach

/-- Runs a listener; `redispatch` delivers the further notification of one that dispatches. -/
def run (redispatch : (session event : Word) → StateM Board (Ending Unit)) (session event : Word)
    (l : Listener) : StateM Board (Ending Unit) := do
  onThread (Thread.record (.notified l.name session event l.application))
  match l.conduct with
  | .succeed => return .done ()
  | .fail e => return .failed e
  | .abort => return .aborted
  | .remove session =>
    let removed ← onRegistrations (·.remove session)
    onThread (Thread.record (.removed removed.isSome))
    return .done ()
  | .dispatch session event => redispatch session event

/-- Delivers a notification through at most `depth` listeners, one within the other. -/
def deliver (failure : Option Error) :
    (depth : Nat) → (session event : Word) → StateM Board (Ending Unit)
  | 0, _, _ => return .pending
  | depth + 1, session, event =>
    Notification.dispatch (runtime failure) registrations
      (run (deliver failure depth) session event) session

/-- Delivers a notification. Listeners that dispatch to one another in a circle never return; those
that do return are no deeper than the registrations are many. -/
def dispatch (failure : Option Error) (session event : Word) : StateM Board (Ending Unit) := do
  deliver failure ((← get).registrations.size + 1) session event

def notify (failure : Option Error) (addressed : Bool) (session event : Word) :
    StateM Board (Option Word) :=
  Notification.notify addressed (dispatch failure session event)

/-- What two guards tell that are taken one within the other. -/
def nestedGuards (failure : Option Error) : StateM Board (Except Error (Bool × Bool)) := do
  match ← (runtime failure).guard with
  | .error e => return .error e
  | .ok outer =>
    match ← (runtime failure).guard with
    | .error e =>
      (runtime failure).release outer
      return .error e
    | .ok inner =>
      (runtime failure).release inner
      (runtime failure).release outer
      return .ok (outer, inner)

end Board

end Cryptoki.Simulation
