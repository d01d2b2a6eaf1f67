import Cryptoki.Error

/-! Code of the application that a module calls back: how it ends, and the attachment of the calling
thread to the runtime of the application. A thread is attached for the time of a callback and left
as it was found, so callbacks can be nested. -/

namespace Cryptoki

inductive Ending (α : Type) where
  | done (a : α)
  | failed (e : Error)
  /-- It is aborted; the module is shielded from that. -/
  | aborted
  /-- It has not returned. -/
  | pending
deriving DecidableEq, Repr

namespace Ending

variable {α : Type}

/-- The status that the module is told, none as long as the callback has not returned. -/
def status : Ending α → Option Word
  | done _ => some Status.ok
  | failed e => some e.code
  | aborted => some Status.generalError
  | pending => none

def value? : Ending α → Option α
  | done a => some a
  | _ => none

end Ending

/-- How threads are attached to the application and detached from it; `σ` holds the state of the
calling thread. -/
structure Runtime (σ : Type) where
  isAttached : σ → Bool
  attach : StateM σ (Except Error Unit)
  detach : StateM σ Unit

namespace Runtime

variable {σ α : Type}

/-- Attaches the thread unless it is attached already; the result tells whether this has attached
it. -/
def guard (runtime : Runtime σ) : StateM σ (Except Error Bool) := do
  if runtime.isAttached (← get) then
    return .ok false
  else
    match ← runtime.attach with
    | .ok () => return .ok true
    | .error e => return .error e

/-- Gives up a guard: detaches the thread if the guard has attached it. -/
def release (runtime : Runtime σ) (attachedHere : Bool) : StateM σ Unit :=
  if attachedHere then runtime.detach else pure ()

/-- Runs a callback on an attached thread. The guard is given up however the callback ends, once it
has ended. -/
def attached (runtime : Runtime σ) (callback : StateM σ (Ending α)) : StateM σ (Ending α) := do
  match ← runtime.guard with
  | .error e => return .failed e
  | .ok attachedHere =>
    match ← callback with
    | .pending => return .pending
    | ending =>
      runtime.release attachedHere
      return ending

end Runtime

end Cryptoki
