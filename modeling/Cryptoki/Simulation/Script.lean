import Cryptoki.Module.Call

/-! A simulated function that replies from a script. -/

namespace Cryptoki.Simulation

structure Script where
  replies : List Reply := []
  calls : List (List Argument) := []
deriving Repr

namespace Script

/-- A call takes the next reply, an empty one when the script has ended. -/
def call (arguments : List Argument) : StateM Script Reply := fun s =>
  (s.replies.headD {}, ⟨s.replies.tail, s.calls ++ [arguments]⟩)

end Script

end Cryptoki.Simulation
