import Cryptoki.Callback.MutexTable
import Cryptoki.Simulation.Thread

/-! Simulated mutex handlers. Each method logs its call, and then fails, aborts or does what the
plain handler does. -/

namespace Cryptoki.Simulation

inductive MethodConduct where
  | delegate
  | fail (e : Error)
  | abort
deriving DecidableEq, Repr

/-- A mutex handler; one without a name logs nothing. -/
structure Locker where
  name : Option String := none
  create : MethodConduct := .delegate
  destroy : MethodConduct := .delegate
  lock : MethodConduct := .delegate
  unlock : MethodConduct := .delegate
deriving DecidableEq, Repr

namespace Locker

/-- A method of a locker; `plain` is what the plain handler does. -/
def method {α : Type} (l : Locker) (name : String) (conduct : MethodConduct) (plain : Ending α) :
    StateM Thread (Ending α) := do
  if let some locker := l.name then
    Thread.record (.locking name locker)
  match conduct with
  | .delegate => return plain
  | .fail e => return .failed e
  | .abort => return .aborted

def handler (l : Locker) : MutexHandler Thread where
  create := l.method "create" l.create (.done {})
  destroy := fun _ => l.method "destroy" l.destroy (.done ())
  lock := fun m => l.method "lock" l.lock m.lock
  unlock := fun m => l.method "unlock" l.unlock m.unlock

/-- A locker and the failure of its runtime as the handler that locking callbacks reach. -/
def active (entry : Option (Locker × Option Error)) : Locking.Active Thread :=
  entry.map fun e => (e.1.handler, Thread.runtime e.2)

end Locker

end Cryptoki.Simulation
