/-
# Described machines

A machine with its files, as a value: what is at each path, where the program stands, what it is
given, and what it has printed. A path is walked name by name, so that it leads somewhere only if
all that it passes are directories.

* `World.host` is the host that answers from such a machine.
-/
import TreeText.Host

namespace TreeText

/-! ## Machines -/

/-- What can be at a path. -/
inductive Entry where
  | file (content : List UInt8)
  | directory
  deriving DecidableEq, Repr

/-- A machine. Places are the names that lead to them from the root. At a locked place nothing may
be read or written. The output may end: then it takes so many more characters, and behind them there
is a fault. -/
structure World where
  entry? : List String → Option Entry
  isLocked : List String → Bool
  directory : List String
  input : List UInt8
  output : String
  messages : String
  outputEnd : Option (Nat × FileFault) := none

namespace World

/-! ## Walking -/

/-- The longest name that anything can have, in bytes. -/
def longestName : Nat := 255

/-- The longest path that can be asked for, in bytes. -/
def longestPath : Nat := 4095

/-- The place to which names lead from a place. The last name may lead to a place where nothing is,
but not be longer than any name. -/
def walk (world : World) : List String → List String → Except FileFault (List String)
  | place, [] => .ok place
  | place, name :: names =>
    match world.entry? place with
    | none => .error .notFound
    | some (.file _) => .error .notDirectory
    | some .directory =>
      if name = "" ∨ name = "." then world.walk place names
      else if name = ".." then world.walk place.dropLast names
      else if name.utf8ByteSize > longestName then .error .nameTooLong
      else world.walk (place ++ [name]) names

/-- The names in a path. -/
def namesOf (path : String) : List String :=
  (path.toList.splitOn '/').map String.ofList

/-- The place from which a path is walked. -/
def startOf (world : World) (path : String) : List String :=
  if path.toList.head? = some '/' then [] else world.directory

/-- The place of a path. -/
def placeOf (world : World) (path : String) : Except FileFault (List String) :=
  if path.isEmpty then .error .notFound
  else if path.utf8ByteSize > longestPath then .error .nameTooLong
  else world.walk (world.startOf path) (namesOf path)

/-! ## Files -/

/-- Whether there is something at a path. -/
def isThere (world : World) (path : String) : Bool :=
  match world.placeOf path with
  | .ok place => (world.entry? place).isSome
  | .error _ => false

/-- The content of the file at a path. -/
def read (world : World) (path : String) : Except FileFault (List UInt8) :=
  match world.placeOf path with
  | .error fault => .error fault
  | .ok place =>
    match world.entry? place with
    | none => .error .notFound
    | some .directory => .error .isDirectory
    | some (.file content) => if world.isLocked place then .error .denied else .ok content

/-- The machine with another content at a place. -/
def put (world : World) (place : List String) (content : List UInt8) : World :=
  { world with
    entry? := fun other => if other = place then some (.file content) else world.entry? other }

/-- The path without slashes at its end. -/
def trimSlashes (path : String) : String :=
  String.ofList ((path.toList.reverse.dropWhile (· == '/')).reverse)

/-- The machine once a text is the content of the file at a path. A path that ends with a slash is
that of a directory, whatever its last name is. -/
def write (world : World) (path : String) (text : String) : Except FileFault World :=
  let slashless := trimSlashes path
  if path ≠ slashless then
    if path.utf8ByteSize > longestPath then .error .nameTooLong
    else
      match world.walk (world.startOf path) ((namesOf slashless).dropLast ++ ["."]) with
      | .error fault => .error fault
      | .ok _ => .error .isDirectory
  else
    match world.placeOf path with
    | .error fault => .error fault
    | .ok place =>
      if world.entry? place = some .directory then .error .isDirectory
      else if world.isLocked place then .error .denied
      else .ok (world.put place text.toUTF8.toList)

/-! ## Output -/

/-- What becomes of a text that is printed, and the machine afterwards. Of a text that the output has
no room for, it takes what it has room for. -/
def print (world : World) (text : String) : Except FileFault Unit × World :=
  match world.outputEnd with
  | none => (.ok (), { world with output := world.output ++ text })
  | some (room, fault) =>
    let taken := String.ofList (text.toList.take room)
    let printed :=
      { world with
        output := world.output ++ taken
        outputEnd := some (room - text.length, fault) }
    (if text.length ≤ room then .ok () else .error fault, printed)

/-! ## The host -/

/-- The host that a machine is. -/
def host : Host (StateM World) where
  directory := fun world => (some world.directory, world)
  isThere := fun path world => (world.isThere path, world)
  read := fun path world => (world.read path, world)
  input := fun world => (.ok world.input, { world with input := [] })
  write := fun path text world =>
    match world.write path text with
    | .ok changed => (.ok (), changed)
    | .error fault => (.error fault, world)
  print := fun text world => world.print text
  report := fun text world => ((), { world with messages := world.messages ++ text })

end World

end TreeText
