import Cryptoki.Callback.Attachment
import Cryptoki.Registry.Registrations

/-! Notifications of sessions: a module names a session and an event, and the oldest registration of
the session is run on an attached thread. -/

namespace Cryptoki.Notification

variable {σ ρ : Type}

/-- Runs the registration of a session. It is looked up once the thread is attached; without one
there is nothing to run. -/
def dispatch (runtime : Runtime σ) (registrations : σ → Registrations ρ)
    (run : ρ → StateM σ (Ending Unit)) (session : Word) : StateM σ (Ending Unit) :=
  runtime.attached do
    match (registrations (← get)).get? session with
    | some registration => run registration
    | none => return .done ()

/-- The status that a module is told of a notification. Without the address of a connection nothing
is done. -/
def notify (addressed : Bool) (dispatch : StateM σ (Ending Unit)) : StateM σ (Option Word) := do
  if addressed then
    return (← dispatch).status
  else
    return some Status.ok

end Cryptoki.Notification
