import Cryptoki.Host.Request
import Cryptoki.Simulation.Listener
import Cryptoki.Simulation.Locker
import Cryptoki.Simulation.Memory

/-! Simulated modules that reply from a script, record the calls they get, keep the connection that
a session was opened for as the target of notifications, and use the locking callbacks that they
were given. Libraries that are loaded from files list slots instead. -/

namespace Cryptoki.Simulation

inductive Record where
  | call (c : Call)
  /-- What the locking callbacks returned that were used during a call. -/
  | locking (results : List MutexResult)
deriving Repr

/-- The state of all modules and of the thread that calls them. -/
structure World where
  thread : Thread := {}
  script : List Reply := []
  records : List Record := []
  /-- The connections to notify, by the calls that opened a session. -/
  targets : List (Option Nat) := []
  /-- Whether the last module put to use was given locking callbacks. -/
  lockable : Bool := false
  mutexes : MutexTable := {}
  files : List (String × LoadedFile) := []
  /-- The slots of the libraries in the files, and whether each holds a token. -/
  slots : List (Word × Bool) := []
deriving Repr

/-- The application with simulated modules; a runtime is given by its failure to attach. -/
abbrev Application := Host Listener Locker (Option Error) World

namespace World

def record (r : Record) : StateM World Unit :=
  modify fun w => { w with records := w.records ++ [r] }

/-- Takes the next reply of the script; an empty one when the script has ended. -/
def nextReply : StateM World Reply := fun w =>
  match w.script with
  | reply :: script => (reply, { w with script := script })
  | [] => ({}, w)

def useMutexes (active : Option (Locker × Option Error)) (actions : List MutexAction) :
    StateM World (List MutexResult) := fun w =>
  if w.lockable then
    let ((results, mutexes), thread) :=
      (w.mutexes.actAll (Locker.active active) Thread.elsewhere actions).run w.thread
    (results, { w with mutexes := mutexes, thread := thread })
  else
    (actions.map fun _ => .unavailable, w)

/-- The slots that a library file lists, all of them or those that hold a token. -/
def listedSlots (w : World) (tokenPresent : UInt8) : List Word :=
  (w.slots.filter fun slot => slot.2 || !boolOfByte tokenPresent).map Prod.fst

/-- The reply of a library that is loaded from a file. -/
def listSlots (w : World) (c : Call) : Reply :=
  match c.arguments with
  | .byte tokenPresent :: _ =>
    let slots := w.listedSlots tokenPresent
    { words := slots, length := some (UInt64.ofNat slots.length) }
  | _ => {}

/-- What a call does to a module apart from the reply. -/
def observe (active : Option (Locker × Option Error)) (c : Call) (reply : Reply) :
    StateM World Unit := do
  match c.entry, c.arguments with
  | .openSession, [_, _, .listener connection] =>
    modify fun w => { w with targets := w.targets ++ [connection] }
  | .initialise, [.initRecord args] =>
    let lockable := match args with
      | some args => args.createMutex
      | none => false
    modify fun w => { w with lockable := lockable }
    let results ← useMutexes active reply.mutexActions
    unless results.isEmpty do
      record (.locking results)
  | _, _ => return ()

def reply (active : Option (Locker × Option Error)) (library : Library) (c : Call) :
    StateM World Reply := do
  if library.isDynamic then
    return (← get).listSlots c
  else
    record (.call c)
    let reply ← nextReply
    observe active c reply
    return reply

def load (w : World) (path : String) : Except Error Library :=
  ((w.files.lookup path).getD (.unusable "no such file")).library path

end World

namespace Application

/-- An application with a detached thread, no connections and nothing in the script. -/
def start (failure : Option Error) (files : List (String × LoadedFile))
    (slots : List (Word × Bool)) : Application :=
  { runtime := failure, modules := { files := files, slots := slots } }

def perform (handle : Nat) (request : Request Listener Locker) : StateM Application Answer :=
  Host.perform World.reply handle request

/-- Connects a library that provides all functions but those that are missing, or has no table. -/
def connectModule (name : String) (missing : List String) (withoutTable : Bool) :
    StateM Application Nat :=
  let table := EntryPoint.all.filter fun f => !missing.contains f.name
  Host.connect ⟨name, if withoutTable then none else some table, false⟩

def connectFile (path : String) : StateM Application (Except Error (Bool × Nat)) := do
  match (← get).modules.load path with
  | .error e => return .error e
  | .ok library => return .ok (library.isDynamic, ← Host.connect library)

inductive Delivery where
  /-- No session was opened by such a call. -/
  | noTarget
  /-- The session was opened without a callback. -/
  | noCallback
  | status (status : Option Word)
deriving DecidableEq, Repr

def onBoard {α : Type} (handle : Nat) (action : StateM Board α) : StateM Application α :=
  fun host =>
  let (a, board) := action ⟨host.registrations handle, host.modules.thread⟩
  let host := host.setRegistrations handle board.registrations
  (a, { host with modules := { host.modules with thread := board.thread } })

/-- Notifies the connection that the call of number `target` opened a session for, on a thread of
its own if `fresh`. -/
def notify (target : Nat) (session event : Word) (addressed fresh : Bool) :
    StateM Application Delivery := do
  let host ← get
  match host.modules.targets[target]? with
  | none => return .noTarget
  | some none => return .noCallback
  | some (some handle) =>
    let delivery := Board.notify host.runtime addressed session event
    return .status (← onBoard handle (if fresh then Board.elsewhere delivery else delivery))

/-- Uses the locking callbacks outside any call. -/
def useMutexes (actions : List MutexAction) : StateM Application (List MutexResult) := fun host =>
  let (results, world) := World.useMutexes host.activeHandler actions host.modules
  (results, { host with modules := world })

def beginStep (script : List Reply) : StateM Application Unit :=
  modify fun host =>
    { host with modules := { host.modules with script := script, records := [] } }

/-- Ends a step: what the modules recorded and what the thread logged in it. -/
def endStep : StateM Application (List Record × List Event) := fun host =>
  let thread := host.modules.thread
  ((host.modules.records, thread.log),
    { host with modules := { host.modules with thread := { thread with log := [] } } })

end Application

end Cryptoki.Simulation
