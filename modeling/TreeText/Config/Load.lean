/-
# Finding and reading configurations

A configuration is read from the file that is asked for, or else from the nearest file of the usual
name in the current directory or one above it; where there is none, the standard configuration
holds. How TOML is written is left to a reader.

* `Toml.Reader` is what has to be known of a reader.
* `Config.discover` looks upward from a directory.
* `Config.load` finds, reads and checks a configuration.
-/
import TreeText.Config
import TreeText.Host
import TreeText.Text.Utf8

namespace TreeText

/-! ## Readers -/

/-- A reader of TOML: what a document holds, or why it is no TOML; and the configuration that this
describes, or why it describes none. -/
class Toml.Reader where
  Content : Type
  read : String → Except String Content
  describe : Content → Except String Config

/-! ## Errors -/

/-- Why there is no configuration, or none that can be used. -/
inductive ConfigError where
  | notFound (path : String)
  | unreadable (fault : FileFault)
  | malformed (reason : String)
  | misshapen (reason : String)
  | incomplete (gap : Config.Gap)
  | refused (error : Refusal)
  deriving DecidableEq, Repr

/-- The wording of an error. -/
def ConfigError.message : ConfigError → String
  | notFound path => "Configuration file not found: " ++ path
  | unreadable fault => "I/O error: " ++ fault.message
  | malformed reason => "TOML parse error: " ++ reason
  | misshapen reason => "TOML parse error: " ++ reason
  | incomplete gap => "Configuration error: " ++ gap.message
  | refused error => "Rule registration error: " ++ error.message

namespace Config

variable [Toml.Reader]

/-! ## Reading -/

/-- The configuration that a TOML document describes. It may have gaps. -/
def ofToml (document : String) : Except ConfigError Config :=
  match Toml.Reader.read document with
  | .error reason => .error (.malformed reason)
  | .ok content =>
    match Toml.Reader.describe content with
    | .error reason => .error (.misshapen reason)
    | .ok config => .ok config

/-- The configuration that the content of a file describes. It must not have gaps. -/
def ofFile (path : String) (content : List UInt8) : Except ConfigError Config :=
  match Text.Utf8.decode content with
  | .error _ => .error (.unreadable .notText)
  | .ok document =>
    match ofToml document with
    | .error error => .error error
    | .ok config =>
      match config.gap? with
      | some gap => .error (.incomplete gap)
      | none => .ok { config with path := some path }

/-! ## Finding -/

variable {m : Type → Type} [Monad m]

/-- The path of the file of the usual name in a directory. -/
def pathIn (directory : List String) : String :=
  "/" ++ "/".intercalate (directory ++ [fileName])

/-- A directory and those above it, nearest first. -/
def upward (directory : List String) : List (List String) :=
  (List.range (directory.length + 1)).reverse.map directory.take

/-- The first of several paths where there is something. -/
def firstThere (isThere : String → m Bool) : List String → m (Option String)
  | [] => return none
  | path :: paths => do
    if ← isThere path then return some path else firstThere isThere paths

/-- The path of the nearest file of the usual name, looking upward from a directory. -/
def discover (isThere : String → m Bool) (directory : List String) : m (Option String) :=
  firstThere isThere ((upward directory).map pathIn)

/-- The path of the file to read. One that is asked for must be there. -/
def find (host : Host m) : Option String → m (Except ConfigError (Option String))
  | some path => do
    if ← host.isThere path then return .ok (some path) else return .error (.notFound path)
  | none => do
    match ← host.directory with
    | some directory => return .ok (← discover host.isThere directory)
    | none => return .ok none

/-- The configuration in the file that is asked for or else found, with options in the place of its
own. -/
def load (host : Host m) (path? : Option String) (overrides : Overrides) :
    m (Except ConfigError Config) := do
  match ← find host path? with
  | .error error => return .error error
  | .ok none => return .ok (standard.override overrides)
  | .ok (some path) =>
    match ← host.read path with
    | .error fault => return .error (.unreadable fault)
    | .ok content => return (ofFile path content).map (·.override overrides)

end Config

end TreeText
