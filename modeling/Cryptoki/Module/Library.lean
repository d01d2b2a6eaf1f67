import Cryptoki.Error
import Cryptoki.Module.EntryPoint
import Cryptoki.Text.Quoted

/-! Libraries: the functions that a module provides, and loading a library from a file. -/

namespace Cryptoki

structure Library where
  name : String
  /-- The functions of its table; none without a table. -/
  table : Option (List EntryPoint)
  /-- Whether it was loaded from a file. -/
  isDynamic : Bool
deriving DecidableEq, Repr

namespace Library

/-- The functions of the table; without one, no function is supported. -/
def functions (l : Library) (wanted : EntryPoint) : Except Error (List EntryPoint) :=
  match l.table with
  | some table => .ok table
  | none => .error (.functionNotSupported wanted.name)

def require (l : Library) (f : EntryPoint) : Except Error Unit := do
  let table ← l.functions f
  if table.contains f then return () else throw (.functionNotSupported f.name)

/-- The text of a library; a missing table shows as a null address. -/
def describe (l : Library) : String :=
  let table := if l.table.isSome then "present" else "0x0"
  s!"ModuleData \x7b name: {Quoted.encode l.name}, functions: {table}, dynamic: {l.isDynamic} \x7d"

end Library

inductive LoadedFile where
  /-- The file is missing, or is no library, or has no function that gives the table. -/
  | unusable (reason : String)
  /-- The function that gives the table returned a status and left a table, or none. -/
  | asked (status : Word) (table : Option (List EntryPoint))
deriving DecidableEq, Repr

def LoadedFile.library (path : String) : LoadedFile → Except Error Library
  | unusable reason => .error (.io s!"{path}: {reason}")
  | asked status table =>
    if status = Status.ok then .ok ⟨path, table, true⟩
    else .error (.status EntryPoint.getFunctionList.name status)

end Cryptoki
