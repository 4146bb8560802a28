/-
# Commands at work

How the program does what it is asked to do. Both commands begin with the configuration and the
converter that it describes. A page is then read, converted and delivered, in this order, and
nothing is written before all else has succeeded. How selectors and configurations are written, and
what the program says of its own use, is left open; it is settled at the end.

* `ConvertCommand.run` and `RulesCommand.run` end with success or with the cause of a failure.
* `Command.Manual` is what the program says of its own use.
* `Command.runAll` is the whole program: it reads its arguments and says how it ends.
-/
import TreeText.Command
import TreeText.Command.Summary
import TreeText.Config.Shape
import TreeText.Css.Selector

namespace TreeText

/-! ## Failures -/

/-- Why a command fails. -/
inductive Failure where
  | config (error : ConfigError)
  | file (fault : FileFault)
  | conversion (error : ConversionError)
  | tooDeep
  deriving DecidableEq, Repr

/-- The wording of a failure. -/
def Failure.message : Failure → String
  | config error => error.message
  | file fault => fault.message
  | conversion error => error.message
  | tooDeep => "the text is nested too deeply"

variable {m : Type → Type} [Monad m] [Css.Language] [Toml.Reader]

/-! ## Stages -/

/-- The configuration that is asked for or found, and the converter that it describes. -/
def Config.prepare (host : Host m) (path? : Option String) (overrides : Overrides) :
    m (Except ConfigError (Config × Converter)) := do
  match ← Config.load host path? overrides with
  | .error error => return .error error
  | .ok config =>
    match config.build with
    | .error error => return .error (.refused error)
    | .ok converter => return .ok (config, converter)

/-- The text of a page given as bytes. -/
def Config.textOf (config : Config) (converter : Converter) (page : List UInt8) :
    Except Failure String :=
  match (converter.convertBytes page config.options).1.result? with
  | some (.ok text) => .ok text
  | some (.error error) => .error (.conversion error)
  | none => .error .tooDeep

namespace ConvertCommand

/-- Reads the page that is to be converted. -/
def readPage (host : Host m) (command : ConvertCommand) : m (Except FileFault (List UInt8)) :=
  match command.input with
  | some path => host.read path
  | none => host.input

/-- Writes the text to the file that is asked for, or prints it. -/
def deliver (host : Host m) (command : ConvertCommand) (text : String) :
    m (Except Failure Unit) := do
  match command.output with
  | none => return (← host.print text).mapError .file
  | some path =>
    match ← host.write path text with
    | .error fault => return .error (.file fault)
    | .ok () =>
      host.report ("Wrote " ++ path ++ "\n")
      return .ok ()

/-- Says how large a page and its text are, if this is asked for. -/
def reportSizes (host : Host m) (command : ConvertCommand) (page : List UInt8) (text : String) :
    m Unit := do
  if command.verbose then
    host.report ("Converted " ++ toString page.length ++ " bytes to " ++
      toString text.utf8ByteSize ++ " bytes\n")

/-- Converts a page. -/
def run (host : Host m) (command : ConvertCommand) : m (Except Failure Unit) := do
  match ← Config.prepare host command.config command.overrides with
  | .error error => return .error (.config error)
  | .ok (config, converter) =>
    match ← command.readPage host with
    | .error fault => return .error (.file fault)
    | .ok page =>
      match config.textOf converter page with
      | .error failure => return .error failure
      | .ok text =>
        command.reportSizes host page text
        command.deliver host text

end ConvertCommand

/-- Shows a configuration, and where it was found. -/
def RulesCommand.run (host : Host m) (command : RulesCommand) : m (Except Failure Unit) := do
  match ← Config.prepare host command.config .none with
  | .error error => return .error (.config error)
  | .ok (config, converter) =>
    host.report config.originLine
    return (← host.print (config.summary converter)).mapError .file

/-! ## The program -/

/-- How the program ends. -/
inductive Exit where
  | success
  | failure
  | misuse
  deriving DecidableEq, Repr

/-- The number that stands for an end of the program. -/
def Exit.code : Exit → Nat
  | success => 0
  | failure => 1
  | misuse => 2

namespace Command

/-- What the program says of its own use: what is wrong with its arguments, how it is used, and which
version it is. -/
class Manual where
  misuse : UsageError → String
  usage : String
  version : String

variable [Manual]

/-- Does what a command asks for. An explanation that cannot be printed is no failure. -/
def run (host : Host m) : Command → m (Except Failure Unit)
  | convert command => command.run host
  | rules command => command.run host
  | help => do
    let _ ← host.print Manual.usage
    return .ok ()
  | version => do
    let _ ← host.print Manual.version
    return .ok ()

/-- Does what a command asks for, and reports a failure. -/
def runToEnd (host : Host m) (command : Command) : m Exit := do
  match ← command.run host with
  | .ok () => return .success
  | .error failure =>
    host.report ("Error: " ++ failure.message ++ "\n")
    return .failure

/-- Does what the arguments of the program ask for, and reports how they are misused. -/
def runAll (host : Host m) (arguments : List String) : m Exit :=
  match read arguments with
  | .ok command => command.runToEnd host
  | .error error => do
    host.report ("error: " ++ Manual.misuse error ++ "\n\n" ++ Manual.usage)
    return .misuse

/-! ## The manual -/

/-- How the program is used. -/
def usage : String :=
  "Usage: mation <COMMAND>\n\n" ++
  "Commands:\n" ++
  "  convert [INPUT]  Convert a page of markup (default: read stdin) to text\n" ++
  "  rules            Show the configured rules\n" ++
  "  help             Show this text\n\n" ++
  "Options of convert and rules:\n" ++
  "  -c, --config <CONFIG>  Read this configuration instead of the nearest mation.toml\n" ++
  "  -v, --verbose          Say more\n\n" ++
  "Options of convert:\n" ++
  "  -o, --output <OUTPUT>          Write the text to a file instead of stdout\n" ++
  "      --whole-document           Convert the whole document, not only its body\n" ++
  "      --no-normalize-whitespace  Keep runs of blanks as they are\n" ++
  "      --trim                     Trim blanks around the text\n"

/-- The name and the version of the program. -/
def versionLine : String := "mation 0.1.0\n"

instance : Manual where
  misuse := UsageError.message
  usage := usage
  version := versionLine

end Command

end TreeText
