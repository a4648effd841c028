/-
# Reading a command line

A command line is words.  `Grammar` says which options a command has; `scan` reads the words of one
command from left to right:

* `--name` and `-n` set a flag; several short flags may share a dash;
* `--name value` and `--name=value` give an option its value, which may not start with a dash in the
  first form;
* `--` ends the options, and the words after it are arguments;
* any other word is a subcommand, for a command that has some, else an argument.

The value of an option is looked at when the next option starts, or at the end.  So a word that no
option knows is reported before a bad value in front of it.
-/

namespace GroovyNew

/-- What is wrong with a command line, or what it asks for in place of a command. -/
inductive UsageError where
  /-- Help was asked for. -/
  | displayHelp
  /-- Nothing was said, so help is due. -/
  | displayHelpOnMissingArgumentOrSubcommand
  /-- The version was asked for. -/
  | displayVersion
  /-- There is no such subcommand. -/
  | invalidSubcommand
  /-- The subcommand is missing. -/
  | missingSubcommand
  /-- An option or argument that must be given is missing. -/
  | missingRequiredArgument
  /-- There is no such option, or no place for the argument. -/
  | unknownArgument
  /-- An option stands without its value, or a path is empty. -/
  | invalidValue
  /-- A value is no number in the range of the option. -/
  | valueValidation
  /-- An option is given twice. -/
  | argumentConflict
  /-- A flag has a value. -/
  | tooManyValues
  deriving DecidableEq, Inhabited, Repr

/-- The name of a usage error. -/
def UsageError.name : UsageError → String
  | .displayHelp => "DisplayHelp"
  | .displayHelpOnMissingArgumentOrSubcommand => "DisplayHelpOnMissingArgumentOrSubcommand"
  | .displayVersion => "DisplayVersion"
  | .invalidSubcommand => "InvalidSubcommand"
  | .missingSubcommand => "MissingSubcommand"
  | .missingRequiredArgument => "MissingRequiredArgument"
  | .unknownArgument => "UnknownArgument"
  | .invalidValue => "InvalidValue"
  | .valueValidation => "ValueValidation"
  | .argumentConflict => "ArgumentConflict"
  | .tooManyValues => "TooManyValues"

namespace CommandLine

/-- What an option does. -/
inductive Role where
  | flag
  /-- The value is a path. -/
  | path
  /-- The value is a call-site id. -/
  | number
  /-- Asks for help. -/
  | help
  /-- Asks for the version. -/
  | version
  deriving DecidableEq, Inhabited, Repr

/-- The option has a value. -/
def Role.takesValue : Role → Bool
  | .path | .number => true
  | _ => false

/-- An option of a command. -/
structure OptionSpec where
  long : String
  short : Option Char := none
  role : Role := .flag
  deriving DecidableEq, Inhabited, Repr

/-- What may follow the name of a command. -/
structure Grammar where
  options : List OptionSpec
  /-- The command takes one argument, a path. -/
  takesArgument : Bool
  subcommands : List String
  deriving Inhabited, Repr

/-- What has been given. -/
structure Given where
  flags : List String := []
  paths : List (String × String) := []
  numbers : List (String × Nat) := []
  deriving Inhabited, Repr

/-- The name under which the argument is given. -/
def argumentName : String := "WORKSPACE"

/-- The option or argument has been given. -/
def Given.has (g : Given) (name : String) : Bool :=
  g.flags.contains name || (g.paths.lookup name).isSome || (g.numbers.lookup name).isSome

/-- Nothing has been given. -/
def Given.isEmpty (g : Given) : Bool := g.flags.isEmpty && g.paths.isEmpty && g.numbers.isEmpty

/-- Digits as a number. -/
def digits? (cs : List Char) : Option Nat :=
  if cs.isEmpty then none
  else cs.foldlM (fun n c => if c.isDigit then some (n * 10 + (c.toNat - 48)) else none) 0

/-- A number with an optional sign. -/
def integer? (s : String) : Option Int :=
  match s.toList with
  | '-' :: cs => (digits? cs).map fun n => -(n : Int)
  | '+' :: cs => (digits? cs).map fun n => (n : Int)
  | cs => (digits? cs).map fun n => (n : Int)

/-- A call-site id: a number of 32 bits. -/
def id? (s : String) : Option Nat :=
  (integer? s).bind fun n => if 0 ≤ n && n < Nat.pow 2 32 then some n.toNat else none

/-- An option or the argument, still waiting for its value or with a value not yet looked at. -/
structure Pending where
  name : String
  role : Role
  value : Option String
  deriving Inhabited, Repr

/-- Takes a value into what has been given. -/
def Given.accept (g : Given) (p : Pending) : Except UsageError Given :=
  match p.value with
  | none => .error .invalidValue
  | some v =>
    if g.has p.name then .error .argumentConflict
    else match p.role with
      | .number => match id? v with
        | some n => .ok { g with numbers := (p.name, n) :: g.numbers }
        | none => .error .valueValidation
      | _ =>
        if v.isEmpty then .error .invalidValue
        else .ok { g with paths := (p.name, v) :: g.paths }

/-- The state of a scan. -/
structure Scan where
  given : Given := {}
  pending : Option Pending := none
  /-- The place of the argument is taken. -/
  hasArgument : Bool := false
  deriving Inhabited, Repr

/-- The state after the pending value has been looked at. -/
def Scan.settle (s : Scan) : Except UsageError Scan :=
  match s.pending with
  | none => .ok s
  | some p => do return { s with given := ← s.given.accept p, pending := none }

/-- The pending option waits for its value. -/
def Scan.waits (s : Scan) : Bool :=
  match s.pending with
  | some ⟨_, _, none⟩ => true
  | _ => false

/-- Sets a flag, or answers a request for help or the version. -/
def Scan.raise (s : Scan) (o : OptionSpec) : Except UsageError Scan := do
  let s ← s.settle
  match o.role with
  | .help => .error .displayHelp
  | .version => .error .displayVersion
  | _ =>
    if s.given.has o.long then .error .argumentConflict
    else return { s with given := { s.given with flags := o.long :: s.given.flags } }

/-- Reads `--name` or `--name=value`. -/
def Scan.long (g : Grammar) (s : Scan) (word : List Char) : Except UsageError Scan :=
  let name := String.ofList (word.takeWhile (· != '='))
  let value := if word.contains '=' then some (String.ofList ((word.dropWhile (· != '=')).drop 1))
    else none
  match g.options.find? (·.long == name), value with
  | none, _ => .error .unknownArgument
  | some o, value =>
    if o.role.takesValue then do
      let s ← s.settle
      match value with
      | none => return { s with pending := some ⟨o.long, o.role, none⟩ }
      | some v => return { s with given := ← s.given.accept ⟨o.long, o.role, some v⟩ }
    else match value with
      | some _ => .error .tooManyValues
      | none => s.raise o

/-- Reads the short flags after a dash. -/
def Scan.short (g : Grammar) : Scan → List Char → Except UsageError Scan
  | s, [] => .ok s
  | s, c :: cs =>
    match g.options.find? (·.short == some c) with
    | none => .error .unknownArgument
    | some o => do Scan.short g (← s.raise o) cs

/-- Reads an argument. -/
def Scan.argument (g : Grammar) (s : Scan) (word : String) : Except UsageError Scan :=
  if g.takesArgument && !s.hasArgument then do
    let s ← s.settle
    return { s with pending := some ⟨argumentName, .path, some word⟩, hasArgument := true }
  else if g.subcommands.isEmpty then .error .unknownArgument
  else .error .invalidSubcommand

/-- Reads the words after `--`. -/
def Scan.rest (g : Grammar) : Scan → List String → Except UsageError Scan
  | s, [] => .ok s
  | s, w :: ws =>
    if g.subcommands.contains w then .error .unknownArgument
    else do Scan.rest g (← s.argument g w) ws

/-- Reads the words of a command, up to a subcommand if there is one: the state, and the subcommand
with the words after it. -/
def scan (g : Grammar) : Scan → List String →
    Except UsageError (Scan × Option (String × List String))
  | s, [] => .ok (s, none)
  | s, w :: ws =>
    if !s.waits && g.subcommands.contains w then .ok (s, some (w, ws))
    else match w.toList with
      | ['-', '-'] => do return (← Scan.rest g s ws, none)
      | '-' :: '-' :: word => do scan g (← s.long g word) ws
      | '-' :: c :: cs => do scan g (← s.short g (c :: cs)) ws
      | _ =>
        match s.pending with
        | some ⟨name, role, none⟩ =>
          scan g { s with pending := some ⟨name, role, some w⟩ } ws
        | _ => do scan g (← s.argument g w) ws

end CommandLine
end GroovyNew
