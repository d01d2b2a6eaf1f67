/-! The connected libraries by the handle that each was connected under. A handle stands for itself
alone: two handles of the same library are two keys. -/

namespace Cryptoki

/-- Entries by key, at most one for each key. -/
structure Connections (κ α : Type) where
  entries : List (κ × α) := []
deriving Repr

namespace Connections

variable {κ α : Type} [DecidableEq κ]

/-- A list with the element at `i` removed, the last element in its place. -/
def swapErase {β : Type} (entries : List β) (i : Nat) : List β :=
  match entries.getLast? with
  | some last => (entries.set i last).dropLast
  | none => []

def empty : Connections κ α := {}

def get? (c : Connections κ α) (key : κ) : Option α := c.entries.lookup key

def index? (c : Connections κ α) (key : κ) : Option Nat := c.entries.findIdx? fun e => e.1 = key

/-- The entries with that of a key replaced, or added at the end when there is none. -/
def put (c : Connections κ α) (key : κ) (value : α) : Connections κ α :=
  match c.index? key with
  | some i => ⟨c.entries.set i (key, value)⟩
  | none => ⟨c.entries ++ [(key, value)]⟩

/-- The entries without that of a key; the last entry takes its place. -/
def remove (c : Connections κ α) (key : κ) : Option α × Connections κ α :=
  match c.index? key with
  | some i => (c.get? key, ⟨swapErase c.entries i⟩)
  | none => (none, c)

def removeAll (c : Connections κ α) : List α × Connections κ α := (c.entries.map Prod.snd, empty)

def size (c : Connections κ α) : Nat := c.entries.length

def isEmpty (c : Connections κ α) : Bool := c.entries.isEmpty

def describe (_ : Connections κ α) : String := "ConnectionRegistry \x7b .. \x7d"

end Connections

end Cryptoki
