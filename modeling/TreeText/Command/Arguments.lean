/-
# Arguments

How the arguments of a command are read: options with a long name or a letter, some with a value,
and inputs among them. A value stands behind its option or, joined to it, in the same argument;
letters may share one argument. Behind `--` there are only inputs.

* `Arguments.read` reads the arguments of a command that knows certain options.
-/

namespace TreeText

/-! ## Options -/

/-- An option that a command knows. -/
structure CommandOption where
  name : String
  letter : Option Char
  hasValue : Bool
  deriving DecidableEq, Repr

/-- Why arguments cannot be read. -/
inductive UsageError where
  | noCommand
  | unknownCommand (argument : String)
  | unknownOption (argument : String)
  | missingValue (name : String)
  | surplusValue (name : String)
  | repeatedOption (name : String)
  | surplusInput (argument : String)
  | emptyPath
  deriving DecidableEq, Repr

/-- The wording of an error. -/
def UsageError.message : UsageError → String
  | noCommand => "a command is required"
  | unknownCommand argument => "there is no command '" ++ argument ++ "'"
  | unknownOption argument => "there is no option '" ++ argument ++ "'"
  | missingValue name => "the option '--" ++ name ++ "' needs a value"
  | surplusValue name => "the option '--" ++ name ++ "' takes no value"
  | repeatedOption name => "the option '--" ++ name ++ "' is given twice"
  | surplusInput argument => "the argument '" ++ argument ++ "' is one too many"
  | emptyPath => "a path must not be empty"

/-- Why the reading of arguments ends early: they are wrong, or they ask for an explanation. -/
inductive Stop where
  | misuse (error : UsageError)
  | help
  deriving DecidableEq, Repr

/-- The option that asks for an explanation. -/
def CommandOption.help : CommandOption := ⟨"help", some 'h', false⟩

/-! ## Arguments by form -/

/-- The form of an argument. -/
inductive ArgumentForm where
  | input
  | separator
  | long (name : String) (value : Option String)
  | letters (letters : List Char)
  deriving DecidableEq, Repr

/-- The form of an argument. A dash alone is an input. -/
def ArgumentForm.of (argument : String) : ArgumentForm :=
  match argument.toList with
  | ['-', '-'] => .separator
  | '-' :: '-' :: rest =>
    let name := String.ofList (rest.takeWhile (· ≠ '='))
    match rest.dropWhile (· ≠ '=') with
    | _ :: value => .long name (some (String.ofList value))
    | [] => .long name none
  | '-' :: c :: rest => .letters (c :: rest)
  | _ => .input

/-! ## What has been read -/

/-- The options that have been given, those with a value with it, and the inputs. -/
structure Arguments where
  given : List (String × Option String)
  inputs : List String
  deriving DecidableEq, Repr

namespace Arguments

/-- Nothing has been read. -/
def empty : Arguments := ⟨[], []⟩

/-- Whether an option has been given. -/
def has (arguments : Arguments) (name : String) : Bool :=
  (arguments.given.lookup name).isSome

/-- The value of an option that has been given. -/
def value? (arguments : Arguments) (name : String) : Option String :=
  (arguments.given.lookup name).join

/-- Adds an option. No option may be given twice, and all values are paths. -/
def addOption (arguments : Arguments) (option : CommandOption) (value : Option String) :
    Except Stop Arguments :=
  if option = .help then .error .help
  else if arguments.has option.name then .error (.misuse (.repeatedOption option.name))
  else if value = some "" then .error (.misuse .emptyPath)
  else .ok { arguments with given := arguments.given ++ [(option.name, value)] }

/-- Adds an input. There is room for so many, and all inputs are paths. -/
def addInput (room : Nat) (arguments : Arguments) (argument : String) : Except Stop Arguments :=
  if room ≤ arguments.inputs.length then .error (.misuse (.surplusInput argument))
  else if argument.isEmpty then .error (.misuse .emptyPath)
  else .ok { arguments with inputs := arguments.inputs ++ [argument] }

/-- Adds the options that letters name. Of the last one the value may be yet to come; what follows
the letter of an option with a value is its value. -/
def addLetters (options : List CommandOption) :
    List Char → Arguments → Except Stop (Arguments × Option CommandOption)
  | [], arguments => .ok (arguments, none)
  | c :: rest, arguments =>
    match options.find? fun option => option.letter == some c with
    | none => .error (.misuse (.unknownOption (String.ofList ['-', c])))
    | some option =>
      if option.hasValue then
        match rest with
        | [] => .ok (arguments, some option)
        | '=' :: value =>
          (arguments.addOption option (some (String.ofList value))).map (·, none)
        | value => (arguments.addOption option (some (String.ofList value))).map (·, none)
      else
        match arguments.addOption option none with
        | .error stop => .error stop
        | .ok arguments => addLetters options rest arguments

/-- Adds the option with a long name. Its value may be yet to come. -/
def addLong (options : List CommandOption) (name : String) (value : Option String)
    (arguments : Arguments) : Except Stop (Arguments × Option CommandOption) :=
  match options.find? fun option => option.name == name with
  | none => .error (.misuse (.unknownOption ("--" ++ name)))
  | some option =>
    match option.hasValue, value with
    | true, none => .ok (arguments, some option)
    | false, some _ => .error (.misuse (.surplusValue name))
    | _, _ => (arguments.addOption option value).map (·, none)

/-- Adds the argument that an option was waiting for. It must not look like an option. -/
def addValue (option : CommandOption) (argument : String) (arguments : Arguments) :
    Except Stop Arguments :=
  match ArgumentForm.of argument with
  | .input => arguments.addOption option (some argument)
  | _ => .error (.misuse (.missingValue option.name))

/-- Adds inputs only. -/
def addInputs (room : Nat) : List String → Arguments → Except Stop Arguments
  | [], arguments => .ok arguments
  | argument :: rest, arguments =>
    match arguments.addInput room argument with
    | .error stop => .error stop
    | .ok arguments => addInputs room rest arguments

/-- Adds arguments of any form, the first being the value of an option if one is waiting for it. -/
def add (options : List CommandOption) (room : Nat) :
    List String → Option CommandOption → Arguments → Except Stop Arguments
  | [], none, arguments => .ok arguments
  | [], some option, _ => .error (.misuse (.missingValue option.name))
  | argument :: rest, some option, arguments =>
    match arguments.addValue option argument with
    | .error stop => .error stop
    | .ok arguments => add options room rest none arguments
  | argument :: rest, none, arguments =>
    match ArgumentForm.of argument with
    | .separator => addInputs room rest arguments
    | .input =>
      match arguments.addInput room argument with
      | .error stop => .error stop
      | .ok arguments => add options room rest none arguments
    | .long name value =>
      match addLong options name value arguments with
      | .error stop => .error stop
      | .ok (arguments, waiting) => add options room rest waiting arguments
    | .letters letters =>
      match addLetters options letters arguments with
      | .error stop => .error stop
      | .ok (arguments, waiting) => add options room rest waiting arguments

/-- Reads the arguments of a command that knows certain options and has room for so many inputs. -/
def read (options : List CommandOption) (room : Nat) (arguments : List String) :
    Except Stop Arguments :=
  add (.help :: options) room arguments none .empty

end Arguments

end TreeText
