import Cryptoki.Module.Call

/-! The arguments for putting a module to use: flags, and the handler that is to do its locking. -/

namespace Cryptoki

structure InitArgs (η : Type) where
  flags : Word := 0
  handler : Option η := none
deriving DecidableEq, Repr

namespace InitArgs

variable {η : Type}

/-- The native arguments; the callbacks are there only with a handler. -/
def toRecord (args : InitArgs η) : InitRecord :=
  let handled := args.handler.isSome
  { flags := args.flags
    createMutex := handled
    destroyMutex := handled
    lockMutex := handled
    unlockMutex := handled
    reserved := false }

def describe (args : InitArgs η) : String :=
  let flags := Digits.hexadecimal 1 args.flags
  s!"InitializeArgs \x7b flags: {flags}, mutex_handler: {args.handler.isSome} \x7d"

end InitArgs

end Cryptoki
