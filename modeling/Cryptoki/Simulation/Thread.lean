import Cryptoki.Callback.Attachment

/-! A simulated thread of the application: whether it is attached, and a log of what its runtime and
its callbacks do. -/

namespace Cryptoki.Simulation

inductive Event where
  | attach
  | detach
  /-- A notification has reached a listener. -/
  | notified (listener : String) (session event : Word) (application : Option String)
  /-- A listener has removed a registration, or found none. -/
  | removed (found : Bool)
  /-- A method of a locker has been called. -/
  | locking (method locker : String)
deriving DecidableEq, Repr

structure Thread where
  attached : Bool := false
  log : List Event := []
deriving DecidableEq, Repr

namespace Thread

def record (event : Event) : StateM Thread Unit :=
  modify fun t => { t with log := t.log ++ [event] }

/-- Runs an action on a thread of its own, which starts detached; the log is shared. -/
def elsewhere {α : Type} (action : StateM Thread α) : StateM Thread α := fun t =>
  let (a, t') := action { t with attached := false }
  (a, { t' with attached := t.attached })

/-- A runtime that logs what it does. With a failure to report, it attaches no thread. -/
def runtime (failure : Option Error) : Runtime Thread where
  isAttached := Thread.attached
  attach := do
    record .attach
    match failure with
    | some e => return .error e
    | none =>
      modify fun t => { t with attached := true }
      return .ok ()
  detach := do
    record .detach
    modify fun t => { t with attached := false }

end Thread

end Cryptoki.Simulation
