import Cryptoki.Host.Basic
import Cryptoki.Host.InitArgs

/-! Requests to a connected module. Putting a module to use and giving it up change the active
handler, and opening and closing sessions change the registrations of the connection; every other
operation leaves the application as it is. -/

namespace Cryptoki

inductive Request (κ η : Type) where
  | initialise (args : Option (InitArgs η))
  | finalise
  /-- Opens a session; with a registration, its notifications are delivered to that. -/
  | openSession (slot flags : Word) (registration : Option κ)
  | closeSession (session : Word)
  | closeAllSessions (slot : Word)
  | operate (operation : Operation)
deriving Repr

namespace Request

variable {κ η : Type}

def entry : Request κ η → EntryPoint
  | initialise _ => .initialise
  | finalise => .finalise
  | openSession _ _ _ => .openSession
  | closeSession _ => .closeSession
  | closeAllSessions _ => .closeAllSessions
  | operate operation => operation.entry

/-- The answer to a request that fails before any call. -/
def refused (request : Request κ η) (e : Error) : Answer :=
  match request with
  | operate operation => operation.refused (.error e)
  | _ => { result := .error (.error e) }

end Request

namespace Host

variable {κ η ρ μ : Type}

/-- Calls a function that the library provides, and checks the status. -/
def invoke (replies : Replies η ρ μ) (library : Library) (entry : EntryPoint)
    (arguments : List Argument) : StateM (Host κ η ρ μ) (Except Error Reply) := do
  match library.require entry with
  | .error e => return .error e
  | .ok () =>
    let reply ← call replies library ⟨entry, arguments⟩
    match Negotiation.check entry.name reply.status with
    | .error e => return .error e
    | .ok () => return .ok reply

/-- Makes a handler the active one, with the runtime of this application. -/
def install (handler : Option η) : StateM (Host κ η ρ μ) Unit :=
  modify fun host => { host with activeHandler := handler.map fun h => (h, host.runtime) }

/-- Puts a module to use. A handler among the arguments is active from before the call, and when the
call fails the handler that was active before is installed again. -/
def initialise (replies : Replies η ρ μ) (library : Library) (args : Option (InitArgs η)) :
    StateM (Host κ η ρ μ) (Except Error Response) := do
  match library.require .initialise with
  | .error e => return .error e
  | .ok () =>
    let previous := (← get).activeHandler.map Prod.fst
    let handler := args.bind InitArgs.handler
    if handler.isSome then
      install handler
    match ← invoke replies library .initialise [.initRecord (args.map InitArgs.toRecord)] with
    | .ok _ => return .ok .done
    | .error e =>
      if handler.isSome then
        install previous
      return .error e

/-- Gives up a module; no handler is active afterwards. -/
def finalise (replies : Replies η ρ μ) (library : Library) :
    StateM (Host κ η ρ μ) (Except Error Response) := do
  match ← invoke replies library .finalise [.pointer false] with
  | .error e => return .error e
  | .ok _ =>
    install none
    return .ok .done

/-- Opens a session. The module is given the connection and a callback only when there is something
to notify. -/
def openSession (replies : Replies η ρ μ) (library : Library) (handle : Nat) (slot flags : Word)
    (registration : Option κ) : StateM (Host κ η ρ μ) (Except Error Response) := do
  let listener := registration.map fun _ => handle
  match ← invoke replies library .openSession [.word slot, .word flags, .listener listener] with
  | .error e => return .error e
  | .ok reply =>
    let session := reply.handleValue
    modify fun host =>
      host.setRegistrations handle ((host.registrations handle).put session registration)
    return .ok (.word session)

/-- Calls a function that the library provides, and releases registrations whatever the module
answers. When the function is missing, nothing is released. -/
def invokeReleasing (replies : Replies η ρ μ) (library : Library) (entry : EntryPoint)
    (arguments : List Argument) (handle : Nat) (release : Registrations κ → Registrations κ) :
    StateM (Host κ η ρ μ) (Except Error Response) := do
  match library.require entry with
  | .error e => return .error e
  | .ok () =>
    let result ← invoke replies library entry arguments
    modify fun host => host.setRegistrations handle (release (host.registrations handle))
    return result.map fun _ => .done

/-- Closes a session and releases its oldest registration. -/
def closeSession (replies : Replies η ρ μ) (library : Library) (handle : Nat) (session : Word) :
    StateM (Host κ η ρ μ) (Except Error Response) :=
  invokeReleasing replies library .closeSession [.word session] handle fun registrations =>
    (registrations.remove session).2

/-- Closes the sessions of a slot and releases every registration of the connection. -/
def closeAllSessions (replies : Replies η ρ μ) (library : Library) (handle : Nat) (slot : Word) :
    StateM (Host κ η ρ μ) (Except Error Response) :=
  invokeReleasing replies library .closeAllSessions [.word slot] handle fun _ => .empty

/-- The answer to a request that lends nothing for outputs. -/
def answer (result : Except Error Response) : Answer :=
  { result := match result with
      | .ok response => .ok response
      | .error e => .error (.error e) }

def perform [Allocator] (replies : Replies η ρ μ) (handle : Nat) (request : Request κ η) :
    StateM (Host κ η ρ μ) Answer := do
  match (← get).library handle with
  | .error e => return request.refused e
  | .ok library =>
    match request with
    | .initialise args => return answer (← initialise replies library args)
    | .finalise => return answer (← finalise replies library)
    | .openSession slot flags registration =>
      return answer (← openSession replies library handle slot flags registration)
    | .closeSession session => return answer (← closeSession replies library handle session)
    | .closeAllSessions slot => return answer (← closeAllSessions replies library handle slot)
    | .operate operation => operation.run library (call replies library)

end Host

end Cryptoki
