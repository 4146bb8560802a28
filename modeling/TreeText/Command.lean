/-
# Commands

What the program can be asked to do: to convert a page, to show the rules that it would use, or to
explain itself.

* `Command.read` reads a command from the arguments of the program.
-/
import TreeText.Command.Arguments
import TreeText.Config

namespace TreeText

/-! ## Commands -/

/-- A page to convert and how to convert it. The page is the input of the program where no file is
named, and the text its output. -/
structure ConvertCommand where
  input : Option String
  config : Option String
  output : Option String
  wholeDocument : Bool
  keepBlanks : Bool
  trim : Bool
  verbose : Bool
  deriving DecidableEq, Repr

/-- A configuration to show. -/
structure RulesCommand where
  config : Option String
  verbose : Bool
  deriving DecidableEq, Repr

/-- What the program is asked to do. -/
inductive Command where
  | convert (command : ConvertCommand)
  | rules (command : RulesCommand)
  | help
  | version
  deriving DecidableEq, Repr

/-- The options that a command puts in the place of configured ones. Each can only be switched away
from its standard value. -/
def ConvertCommand.overrides (command : ConvertCommand) : Overrides where
  wholeDocument := if command.wholeDocument then some true else none
  normalizeWhitespace := if command.keepBlanks then some false else none
  trim := if command.trim then some true else none

namespace Command

/-- Whether a command asks for further messages. -/
def isVerbose : Command → Bool
  | convert command => command.verbose
  | rules command => command.verbose
  | help => false
  | version => false

/-! ## Reading commands -/

/-- The options that all commands know. -/
def sharedOptions : List CommandOption :=
  [⟨"config", some 'c', true⟩, ⟨"verbose", some 'v', false⟩]

/-- The options of the command that converts a page. -/
def convertOptions : List CommandOption :=
  sharedOptions ++
    [⟨"output", some 'o', true⟩, ⟨"whole-document", none, false⟩,
      ⟨"no-normalize-whitespace", none, false⟩, ⟨"trim", none, false⟩]

/-- Reads the command that converts a page. -/
def readConvert (arguments : List String) : Except Stop Command :=
  (Arguments.read convertOptions 1 arguments).map fun read =>
    .convert
      ⟨read.inputs.head?, read.value? "config", read.value? "output", read.has "whole-document",
        read.has "no-normalize-whitespace", read.has "trim", read.has "verbose"⟩

/-- Reads the command that shows a configuration. -/
def readRules (arguments : List String) : Except Stop Command :=
  (Arguments.read sharedOptions 0 arguments).map fun read =>
    .rules ⟨read.value? "config", read.has "verbose"⟩

/-- Reads the command that explains the program or one of its commands. -/
def readHelp : List String → Except Stop Command
  | [] => .ok .help
  | [argument] =>
    if ["convert", "rules", "help"].contains argument then .ok .help
    else .error (.misuse (.unknownCommand argument))
  | _ :: argument :: _ => .error (.misuse (.surplusInput argument))

/-- Reads an argument that stands where a command is expected. -/
def readOther (argument : String) : Except Stop Command :=
  match ArgumentForm.of argument with
  | .long "help" none => .ok .help
  | .long "version" none => .ok .version
  | .letters ('h' :: _) => .ok .help
  | .letters ('V' :: _) => .ok .version
  | .input => .error (.misuse (.unknownCommand argument))
  | .separator => .error (.misuse .noCommand)
  | _ => .error (.misuse (.unknownOption argument))

/-- Reads what the arguments of the program ask for. A request for an explanation is a command,
wherever it stands. -/
def read (arguments : List String) : Except UsageError Command :=
  let reading : Except Stop Command :=
    match arguments with
    | [] => .error (.misuse .noCommand)
    | "convert" :: rest => readConvert rest
    | "rules" :: rest => readRules rest
    | "help" :: rest => readHelp rest
    | argument :: _ => readOther argument
  match reading with
  | .ok command => .ok command
  | .error .help => .ok .help
  | .error (.misuse error) => .error error

end Command

end TreeText
