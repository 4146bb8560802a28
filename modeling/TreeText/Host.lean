/-
# Hosts

What a program asks of its surroundings: to look for a file, to read and to write one, to read its
input and to print. A host answers in a monad of its own, so that a program can run on a real
machine and on a described one.
-/

namespace TreeText

/-! ## Faults -/

/-- Why a file cannot be read or written, or the output not be printed to. -/
inductive FileFault where
  | notFound
  | denied
  | notDirectory
  | isDirectory
  | noSpace
  | brokenPipe
  | nameTooLong
  | notText
  | other (text : String)
  deriving DecidableEq, Repr

/-- The wording of a fault. -/
def FileFault.message : FileFault → String
  | notFound => "No such file or directory (os error 2)"
  | denied => "Permission denied (os error 13)"
  | notDirectory => "Not a directory (os error 20)"
  | isDirectory => "Is a directory (os error 21)"
  | noSpace => "No space left on device (os error 28)"
  | brokenPipe => "Broken pipe (os error 32)"
  | nameTooLong => "File name too long (os error 36)"
  | notText => "stream did not contain valid UTF-8"
  | other text => text

/-! ## Hosts -/

/-- What a program asks of its surroundings. -/
structure Host (m : Type → Type) where
  /-- The names that lead from the root to the current directory. -/
  directory : m (Option (List String))
  /-- Whether there is something at a path. -/
  isThere : String → m Bool
  /-- The content of a file. -/
  read : String → m (Except FileFault (List UInt8))
  /-- The input of the program, to its end. -/
  input : m (Except FileFault (List UInt8))
  /-- Makes a text the content of a file. -/
  write : String → String → m (Except FileFault Unit)
  /-- Adds to the output of the program. -/
  print : String → m (Except FileFault Unit)
  /-- Adds to the messages of the program. Nobody is told if this cannot be done. -/
  report : String → m Unit

end TreeText
