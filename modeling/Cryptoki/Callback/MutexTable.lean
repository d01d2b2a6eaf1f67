import Cryptoki.Callback.Locking

/-! The mutexes that a module has created, numbered in the order of their creation, and the use that
it makes of the locking callbacks. -/

namespace Cryptoki

inductive MutexAction where
  /-- Creates a mutex; `null` for a null pointer to the place of its address. -/
  | create (null : Bool)
  | destroy (slot : Nat)
  | lock (slot : Nat)
  | unlock (slot : Nat)
  /-- Another thread waits for the locked mutex that this thread then unlocks. -/
  | contend (slot : Nat)
deriving DecidableEq, Repr

def MutexAction.contends : MutexAction → Bool
  | contend _ => true
  | _ => false

inductive MutexResult where
  /-- The status of a creation, and whether there is a mutex now. -/
  | created (status : Option Word) (present : Bool)
  | status (status : Option Word)
  /-- The status of the thread that unlocks, and of the one that waits. -/
  | contended (unlocked locked : Option Word)
  /-- The module has no callbacks. -/
  | unavailable
deriving DecidableEq, Repr

/-- The addresses of the mutexes, null for one that was not created or is destroyed. -/
structure MutexTable where
  slots : List (Option Mutex) := []
deriving DecidableEq, Repr

namespace MutexTable

variable {σ : Type}

/-- The mutex at the address in a slot; a slot beyond the table holds a null address. -/
def get? (t : MutexTable) (slot : Nat) : Option Mutex := t.slots.getD slot none

def set (t : MutexTable) (slot : Nat) (m : Option Mutex) : MutexTable := ⟨t.slots.set slot m⟩

def push (t : MutexTable) (m : Option Mutex) : MutexTable := ⟨t.slots ++ [m]⟩

abbrev Elsewhere (σ : Type) := {α : Type} → StateM σ α → StateM σ α

/-- Uses a callback. The thread that waits in a contention finds the mutex free once the other has
unlocked it. -/
def act (active : Locking.Active σ) (elsewhere : Elsewhere σ) (t : MutexTable) :
    (action : MutexAction) → StateM σ (MutexResult × MutexTable)
  | .create null => do
    let (status, created) ← Locking.create active (!null)
    if null then
      return (.status status, t)
    else
      return (.created status created.isSome, t.push created)
  | .destroy slot => do
    let status ← Locking.destroy active (t.get? slot)
    return (.status status, t.set slot none)
  | .lock slot => do
    let (status, m) ← Locking.lock active (t.get? slot)
    return (.status status, t.set slot m)
  | .unlock slot => do
    let (status, m) ← Locking.unlock active (t.get? slot)
    return (.status status, t.set slot m)
  | .contend slot => do
    let (unlocked, m) ← Locking.unlock active (t.get? slot)
    let (locked, m) ← elsewhere (Locking.lock active m)
    return (.contended unlocked locked, t.set slot m)

def actAll (active : Locking.Active σ) (elsewhere : Elsewhere σ) (t : MutexTable) :
    (actions : List MutexAction) → StateM σ (List MutexResult × MutexTable)
  | [] => return ([], t)
  | action :: rest => do
    let (result, t) ← act active elsewhere t action
    let (results, t) ← actAll active elsewhere t rest
    return (result :: results, t)

end MutexTable

end Cryptoki
