/-
# The program

The program on a real machine: its files are those of the machine, its input, output and messages
the standard streams.
-/
import TreeText.Command.Run

namespace TreeText

/-- The fault behind an error of the machine. The machine gives the numbers of its errors as they
are or negated. -/
def FileFault.ofError : IO.Error → FileFault
  | .noFileOrDirectory .. => .notFound
  | .permissionDenied .. => .denied
  | .inappropriateType _ code details =>
    if code = 20 || code = 0 - 20 then .notDirectory
    else if code = 21 || code = 0 - 21 then .isDirectory
    else .other details
  | .invalidArgument _ code details =>
    if code = 36 || code = 0 - 36 then .nameTooLong else .other details
  | .resourceExhausted _ code details =>
    if code = 28 || code = 0 - 28 then .noSpace else .other details
  | .resourceVanished code details =>
    if code = 32 || code = 0 - 32 then .brokenPipe else .other details
  | error => .other error.toString

/-- What an activity gives, or the fault in which it ends. -/
def FileFault.catching {α : Type} (activity : IO α) : IO (Except FileFault α) := do
  match ← activity.toBaseIO with
  | .ok value => return .ok value
  | .error error => return .error (FileFault.ofError error)

/-- The machine on which the program runs. -/
def Host.machine : Host IO where
  directory := do
    match ← IO.currentDir.toBaseIO with
    | .ok directory => return some (directory.toString.splitOn "/" |>.filter (· ≠ ""))
    | .error _ => return none
  isThere := fun path => do
    match ← (IO.FS.realPath path).toBaseIO with
    | .ok _ => return true
    | .error _ => return false
  read := fun path => FileFault.catching (return (← IO.FS.readBinFile path).toList)
  input := FileFault.catching do
    return (← (← IO.getStdin).readBinToEnd).toList
  write := fun path text => FileFault.catching (IO.FS.writeFile path text)
  print := fun text => FileFault.catching do
    let output ← IO.getStdout
    output.putStr text
    output.flush
  report := fun text => do
    let _ ← FileFault.catching (do (← IO.getStderr).putStr text)

end TreeText

/-- Runs the program with its arguments. -/
def main (arguments : List String) : IO UInt32 := do
  let exit ← TreeText.Command.runAll TreeText.Host.machine arguments
  return exit.code.toUInt32
