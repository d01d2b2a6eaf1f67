import Cryptoki.Callback.Attachment

/-! Locking on behalf of a module. The callbacks that create, lock, unlock and destroy a mutex carry
no context, so they go to the one active handler of the process. A mutex remains usable when no
handler is active; only creation needs one. -/

namespace Cryptoki

/-- A lock that is not reentrant and that any thread may release. -/
structure Mutex where
  locked : Bool := false
deriving DecidableEq, Repr

namespace Mutex

/-- Takes a free mutex; a locked one is waited for. -/
def lock (m : Mutex) : Ending Mutex := if m.locked then .pending else .done ⟨true⟩

/-- Releases a locked mutex; a free one cannot be released. -/
def unlock (m : Mutex) : Ending Mutex :=
  if m.locked then .done ⟨false⟩ else .failed (.status "UnlockMutex" Status.mutexNotLocked)

end Mutex

/-- The locking of an application. A method that fails leaves its mutex as it was. -/
structure MutexHandler (σ : Type) where
  create : StateM σ (Ending Mutex) := return .done {}
  destroy : Mutex → StateM σ (Ending Unit) := fun _ => return .done ()
  lock : Mutex → StateM σ (Ending Mutex) := fun m => return m.lock
  unlock : Mutex → StateM σ (Ending Mutex) := fun m => return m.unlock

namespace Locking

variable {σ α : Type}

abbrev Active (σ : Type) := Option (MutexHandler σ × Runtime σ)

/-- Runs a method of the active handler on an attached thread, or what takes its place when none is
active. -/
def run (active : Active σ) (method : MutexHandler σ → StateM σ (Ending α)) (otherwise : Ending α) :
    StateM σ (Ending α) :=
  match active with
  | some (handler, runtime) => runtime.attached (method handler)
  | none => return otherwise

/-- Creates a mutex; `place` tells whether the module provides a place for its address. The status,
and the mutex if there is one. -/
def create (active : Active σ) (place : Bool) : StateM σ (Option Word × Option Mutex) := do
  if place then
    let unhandled := .failed (.other "no mutex handler installed")
    let ending ← run active MutexHandler.create unhandled
    return (ending.status, ending.value?)
  else
    return (some Status.argumentsBad, none)

/-- Destroys the mutex at an address; nothing remains there whatever the status. -/
def destroy (active : Active σ) (address : Option Mutex) : StateM σ (Option Word) := do
  match address with
  | none => return some Status.mutexBad
  | some m => return (← run active (·.destroy m) (.done ())).status

def lock (active : Active σ) (address : Option Mutex) : StateM σ (Option Word × Option Mutex) := do
  match address with
  | none => return (some Status.mutexBad, none)
  | some m =>
    let ending ← run active (·.lock m) m.lock
    return (ending.status, some (ending.value?.getD m))

def unlock (active : Active σ) (address : Option Mutex) :
    StateM σ (Option Word × Option Mutex) := do
  match address with
  | none => return (some Status.mutexBad, none)
  | some m =>
    let ending ← run active (·.unlock m) m.unlock
    return (ending.status, some (ending.value?.getD m))

end Locking

end Cryptoki
