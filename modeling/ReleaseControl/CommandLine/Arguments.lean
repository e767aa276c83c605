/-!
# Arguments

The arguments of the command line name a command and then its options. An option has a value, in
the same argument or in the next one, and is given at most once.

* `Command`: what can be asked for.
* `Argument`: an argument as it is written.
* `CommandOption.readAll`: the values of options.
* `Command.ofArguments`: the command that arguments ask for, or why there is none.
-/

namespace ReleaseControl

/-! ## Commands -/

/-- What can be asked for. -/
inductive Command where
  /-- Compute the readiness of the object in a file anew. -/
  | summarize (file : String)
  /-- Show the status of an object of the cluster. -/
  | status (ns name : String)
  /-- Print the definition of the resource. -/
  | definition
deriving DecidableEq

/-- Why arguments give no command. -/
inductive Refusal where
  /-- They ask for help. -/
  | help
  /-- They are not understood. -/
  | usage
deriving DecidableEq

/-! ## Single arguments -/

/-- An argument as it is written. -/
inductive Argument where
  /-- Two hyphens: no option follows. -/
  | lastOption
  /-- An option by its name, with the text after an equals sign. -/
  | long (name : String) (value : Option String)
  /-- An option by its letter, with the text behind it. -/
  | short (letter : Char) (rest : List Char)
  | plain (text : String)
deriving DecidableEq

namespace Argument

def afterEquals : List Char → Option String
  | '=' :: value => some (String.ofList value)
  | _ => none

/-- The argument of a text. A lone hyphen is a plain one. -/
def ofText (s : String) : Argument :=
  match s.toList with
  | ['-', '-'] => .lastOption
  | '-' :: '-' :: cs =>
    .long (String.ofList (cs.takeWhile (· ≠ '='))) (afterEquals (cs.dropWhile (· ≠ '=')))
  | '-' :: letter :: rest => .short letter rest
  | _ => .plain s

def asksHelp : Argument → Bool
  | .long name value => name == "help" && value.isNone
  | .short letter _ => letter == 'h'
  | _ => false

end Argument

/-! ## Options -/

/-- An option of a command. -/
structure CommandOption where
  name : String
  letter : Option Char := none
  /-- Whether the value may be empty. -/
  mayBeEmpty : Bool := true
deriving DecidableEq

/-- The values given so far, by the names of the options. -/
abbrev OptionValues := List (String × String)

namespace CommandOption

/-- An option with its value, unless it has been given before or the value may not be empty. -/
def give (o : CommandOption) (value : String) (given : OptionValues) :
    Except Refusal OptionValues :=
  if (given.lookup o.name).isSome || (value == "" && !o.mayBeEmpty) then .error .usage
  else .ok ((o.name, value) :: given)

/-- The value behind the letter of an option, if there is any text. -/
def attached? : List Char → Option String
  | [] => none
  | '=' :: value => some (String.ofList value)
  | value => some (String.ofList value)

/-- The option of an argument, with its value if that is in the same argument. -/
def ofArgument (options : List CommandOption) (a : Argument) :
    Except Refusal (CommandOption × Option String) :=
  if a.asksHelp then .error .help
  else
    let found := match a with
      | .long name value => (options.find? (·.name == name)).map (·, value)
      | .short letter rest => (options.find? (·.letter == some letter)).map (·, attached? rest)
      | _ => none
    match found with
    | some result => .ok result
    | none => .error .usage

/-- The values of options from arguments; `waiting` is the option whose value comes next. -/
def readAll (options : List CommandOption) :
    Option CommandOption → OptionValues → List String → Except Refusal OptionValues
  | none, given, [] => .ok given
  | some _, _, [] => .error .usage
  | some o, given, arg :: rest =>
    match Argument.ofText arg with
    | .plain value => do readAll options none (← o.give value given) rest
    | _ => .error .usage
  | none, given, arg :: rest =>
    match Argument.ofText arg with
    | .lastOption => if rest.isEmpty then .ok given else .error .usage
    | a =>
      match ofArgument options a with
      | .error e => .error e
      | .ok (o, some value) => do readAll options none (← o.give value given) rest
      | .ok (o, none) => readAll options (some o) given rest

/-- The value of an option that has to be given. -/
def value (o : CommandOption) (given : OptionValues) : Except Refusal String :=
  match given.lookup o.name with
  | some value => .ok value
  | none => .error .usage

/-- The value of an option, or a default. -/
def valueOr (o : CommandOption) (default : String) (given : OptionValues) : String :=
  (given.lookup o.name).getD default

end CommandOption

namespace Command

def fileOption : CommandOption := { name := "file", letter := some 'f', mayBeEmpty := false }

def nameOption : CommandOption := { name := "name" }

def namespaceOption : CommandOption := { name := "namespace", letter := some 'n' }

/-- What follows a request for help: nothing, or the command that help is wanted for. -/
def helpOf : List String → Refusal
  | [] => .help
  | [topic] => if ["summarize", "status", "crd", "help"].contains topic then .help else .usage
  | _ => .usage

def ofArguments : List String → Except Refusal Command
  | [] => .error .usage
  | "summarize" :: rest => do
    let given ← CommandOption.readAll [fileOption] none [] rest
    return .summarize (← fileOption.value given)
  | "status" :: rest => do
    let given ← CommandOption.readAll [nameOption, namespaceOption] none [] rest
    return .status (namespaceOption.valueOr "default" given) (← nameOption.value given)
  | "crd" :: rest => do
    let _ ← CommandOption.readAll [] none [] rest
    return .definition
  | "help" :: rest => .error (helpOf rest)
  | first :: _ => .error (if (Argument.ofText first).asksHelp then .help else .usage)

end Command

end ReleaseControl
