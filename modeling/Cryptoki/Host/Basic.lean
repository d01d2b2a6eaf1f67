import Cryptoki.Module.Plan
import Cryptoki.Registry.Connections
import Cryptoki.Registry.Registrations

/-! The application's side of the interface: the libraries it has connected, the handles it has
given out for them, and the handler that does the locking for all modules of the process. -/

namespace Cryptoki

/-- What belongs to a handle. A session is known by its number within its own connection only, so
every connection has registrations of its own. -/
structure Connection (κ : Type) where
  name : String
  registrations : Registrations κ := {}
deriving DecidableEq, Repr

/-- The state of the application. `κ` is what is registered for a session, `η` the handlers that do
locking, `ρ` the runtimes that threads are attached to, and `μ` the state of all modules. -/
structure Host (κ η ρ μ : Type) where
  /-- The handles in the order of connecting, whether they are still connected or not. -/
  handles : List (Connection κ) := []
  /-- The libraries of the connected handles. -/
  connections : Connections Nat Library := {}
  runtime : ρ
  /-- The handler that locking callbacks go to, with the runtime that it was installed with. -/
  activeHandler : Option (η × ρ) := none
  modules : μ
deriving Repr

/-- How modules reply. The active handler is the one that locking callbacks reach in the call. -/
abbrev Replies (η ρ μ : Type) :=
  (activeHandler : Option (η × ρ)) → (library : Library) → (call : Call) → StateM μ Reply

namespace Host

variable {κ η ρ μ : Type}

/-- Connects a library under a handle of its own. -/
def connect (library : Library) : StateM (Host κ η ρ μ) Nat := fun host =>
  let handle := host.handles.length
  (handle, { host with
    handles := host.handles ++ [{ name := library.name }]
    connections := host.connections.put handle library })

def disconnect (handle : Nat) : StateM (Host κ η ρ μ) (Except Error Unit) := fun host =>
  match host.connections.remove handle with
  | (some _, connections) => (.ok (), { host with connections := connections })
  | (none, _) => (.error .disconnected, host)

def disconnectAll : StateM (Host κ η ρ μ) Unit := fun host =>
  ((), { host with connections := host.connections.removeAll.2 })

def library (host : Host κ η ρ μ) (handle : Nat) : Except Error Library :=
  match host.connections.get? handle with
  | some library => .ok library
  | none => .error .disconnected

def isConnected (host : Host κ η ρ μ) (handle : Nat) : Bool :=
  (host.connections.get? handle).isSome

def registrations (host : Host κ η ρ μ) (handle : Nat) : Registrations κ :=
  match host.handles[handle]? with
  | some connection => connection.registrations
  | none => {}

def name (host : Host κ η ρ μ) (handle : Nat) : String :=
  match host.handles[handle]? with
  | some connection => connection.name
  | none => ""

def setRegistrations (host : Host κ η ρ μ) (handle : Nat) (registrations : Registrations κ) :
    Host κ η ρ μ :=
  { host with
    handles := host.handles.modify handle fun c => { c with registrations := registrations } }

def describe (host : Host κ η ρ μ) : String :=
  s!"Pkcs11 \x7b connections: {host.connections.size}, .. \x7d"

def call (replies : Replies η ρ μ) (library : Library) (c : Call) :
    StateM (Host κ η ρ μ) Reply := fun host =>
  let (reply, modules) := (replies host.activeHandler library c).run host.modules
  (reply, { host with modules := modules })

end Host

end Cryptoki
