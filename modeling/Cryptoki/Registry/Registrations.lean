import Cryptoki.Word

/-! The notification callbacks of the sessions of a connection, in the order in which they were
registered. A session can have several; the oldest one counts. -/

namespace Cryptoki

/-- Registrations by session, oldest first. -/
structure Registrations (ρ : Type) where
  entries : List (Word × ρ) := []
deriving DecidableEq, Repr

namespace Registrations

variable {ρ : Type}

def empty : Registrations ρ := {}

/-- The oldest registration of a session. -/
def get? (r : Registrations ρ) (session : Word) : Option ρ := r.entries.lookup session

def put (r : Registrations ρ) (session : Word) (registration : Option ρ) : Registrations ρ :=
  match registration with
  | some registration => ⟨r.entries ++ [(session, registration)]⟩
  | none => r

def remove (r : Registrations ρ) (session : Word) : Option ρ × Registrations ρ :=
  (r.get? session, ⟨r.entries.eraseP fun e => session == e.1⟩)

def removeFirst (r : Registrations ρ) : Option (Word × ρ) × Registrations ρ :=
  (r.entries.head?, ⟨r.entries.tail⟩)

def size (r : Registrations ρ) : Nat := r.entries.length

def isEmpty (r : Registrations ρ) : Bool := r.entries.isEmpty

def describe (_ : Registrations ρ) : String := "NotificationRegistry \x7b .. \x7d"

end Registrations

end Cryptoki
