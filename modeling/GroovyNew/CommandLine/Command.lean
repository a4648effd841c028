/-
# The commands

| command | output |
| --- | --- |
| `resolve WORKSPACE` | the constructors that each call may invoke; `--call ID` for one call, `--incomplete` for unchecked results, `--json` for JSON |
| `variants WORKSPACE --call ID` | the constructors of every class that the call's reference may denote |
| `check WORKSPACE` | a diagnosis for each call site; `--problems` for those with problems |

`--config FILE`, `-v` and `-h` may stand before or after the name of a command.
-/

import GroovyNew.CommandLine.Usage
import GroovyNew.Diagnosis
import GroovyNew.Json.Printer
import GroovyNew.Table

namespace GroovyNew

/-- A command. -/
inductive Command where
  | resolve (workspace : String) (call : Option CallSiteId) (incomplete json : Bool)
  | variants (workspace : String) (call : CallSiteId)
  | check (workspace : String) (problemsOnly : Bool)
  deriving DecidableEq, Inhabited, Repr

/-- A command line. -/
structure CommandLine where
  config : Option String := none
  verbose : Bool := false
  command : Command
  deriving DecidableEq, Inhabited, Repr

namespace CommandLine

/-! ### Parsing -/

/-- The options of every command. -/
def globalOptions : List OptionSpec :=
  [{ long := "config", role := .path }, { long := "verbose", short := some 'v' },
    { long := "help", short := some 'h', role := .help }]

/-- The names of the commands that do something. -/
def commandNames : List String := ["resolve", "variants", "check"]

/-- What may precede the name of a command. -/
def topGrammar : Grammar where
  options := { long := "version", short := some 'V', role := .version } :: globalOptions
  takesArgument := false
  subcommands := commandNames ++ ["help"]

/-- The options of one command. -/
def optionsOf : String → List OptionSpec
  | "resolve" =>
    [{ long := "call", role := .number }, { long := "incomplete" }, { long := "json" }]
  | "variants" => [{ long := "call", role := .number }]
  | _ => [{ long := "problems" }]

/-- What may follow the name of a command. -/
def grammarOf (name : String) : Grammar where
  options := optionsOf name ++ globalOptions
  takesArgument := true
  subcommands := []

/-- The error for a request for help on the named commands: help itself, if each of them exists. -/
def helpOn : List String → UsageError
  | [] => .displayHelp
  | [name] => if topGrammar.subcommands.contains name then .displayHelp else .invalidSubcommand
  | _ => .invalidSubcommand

/-- The command with what has been given after its name. -/
def commandOf (name : String) (g : Given) : Except UsageError Command :=
  match g.paths.lookup argumentName with
  | none => .error .missingRequiredArgument
  | some workspace =>
    match name with
    | "resolve" =>
      .ok (.resolve workspace (g.numbers.lookup "call") (g.flags.contains "incomplete")
        (g.flags.contains "json"))
    | "variants" => match g.numbers.lookup "call" with
      | some id => .ok (.variants workspace id)
      | none => .error .missingRequiredArgument
    | _ => .ok (.check workspace (g.flags.contains "problems"))

/-- The command line that the words after the program's name form. -/
def parse (words : List String) : Except UsageError CommandLine := do
  match ← scan topGrammar {} words with
  | (s, none) =>
    let s ← s.settle
    if s.given.isEmpty then .error .displayHelpOnMissingArgumentOrSubcommand
    else .error .missingSubcommand
  | (top, some (name, words)) =>
    if name == "help" then .error (helpOn words)
    else
      let (s, _) ← scan (grammarOf name) {} words
      let s ← s.settle
      let command ← commandOf name s.given
      let top ← top.settle
      return {
        config := (s.given.paths.lookup "config").or (top.given.paths.lookup "config")
        verbose := s.given.flags.contains "verbose" || top.given.flags.contains "verbose"
        command }

/-! ### Output -/

/-- The row for one result of a call. -/
def resultRow (id : CallSiteId) (r : ResolveResult) : List String :=
  [toString id, r.classFqn,
    match r.constructor with
    | some k => k.signature
    | none => "<default>",
    match r.applicability with
    | .applicable => "yes"
    | .unknown => "?"]

/-- The table of results of calls. -/
def resultTable (rows : List (List String)) : Table where
  header := ["Call", "Class", "Constructor", "Applicable"]
  rows

/-- The results of a call as JSON. -/
def resultsToJson (id : CallSiteId) (results : List ResolveResult) : Json :=
  .record [("call", .nat id), ("results", .arr (results.map ResolveResult.toJson))]

/-- The results of the calls with the given ids, one after the other. -/
def resolveEach (incomplete : Bool) (s : Session) : List CallSiteId →
    Except Failure (List (CallSiteId × List ResolveResult))
  | [] => .ok []
  | id :: ids => do
    let (results, s) := s.multiResolve (← s.call id) incomplete
    return (id, results) :: (← resolveEach incomplete s ids)

/-- The output of `resolve`. -/
def resolveOutput (s : Session) (call : Option CallSiteId) (incomplete json : Bool) :
    Except Failure String := do
  let ids := match call with
    | some id => [id]
    | none => s.callSites.map fun site => site.2.id
  let resolved ← resolveEach incomplete s ids
  if json then
    return Json.pretty (.arr (resolved.map fun (id, rs) => resultsToJson id rs)) ++ "\n"
  else
    let rows := resolved.flatMap fun (id, rs) => rs.map (resultRow id)
    if rows.isEmpty then return "No constructors resolved.\n"
    else return (resultTable rows).toText ++ "\n"

/-- The output of `variants`. -/
def variantsOutput (s : Session) (id : CallSiteId) : Except Failure String := do
  let (variants, _) := s.variants (← s.call id)
  if variants.isEmpty then return s!"No variants for call {id}.\n"
  else return (resultTable (variants.map (resultRow id))).toText ++ "\n"

/-- The status and the detail of a diagnosis, as `check` shows them. -/
def describe : Diagnosis → String × String
  | .resolved signature => ("ok", signature)
  | .defaultConstructor fqn => ("ok", fqn ++ "()")
  | .ambiguous count => ("ambiguous", s!"{count} candidates")
  | .noApplicableConstructor => ("no-match", "no applicable constructor")
  | .unresolvedReference => ("unresolved", "cannot resolve class")
  | .arrayCreation => ("array", "-")

/-- The type that a `new` expression names, as `check` shows it. -/
def typeCell (e : NewExpr) : String :=
  match e.reference? with
  | some r => r.name
  | none => e.builtinType?.getD "-"

/-- The row for one call site. -/
def checkRow (file : SourceFile) (site : CallSite) (d : Diagnosis) : List String :=
  [file.path.getD "-", toString site.id, typeCell site.expr, (describe d).1, (describe d).2]

/-- The number of diagnoses that ask for attention. -/
def problemCount (diagnoses : List (SourceFile × CallSite × Diagnosis)) : Nat :=
  diagnoses.countP fun d => d.2.2.isProblem

/-- The output of `check`. -/
def checkOutput (s : Session) (problemsOnly : Bool) : String :=
  let (diagnoses, _) := s.diagnoseAll
  let rows := (diagnoses.filter fun d => !problemsOnly || d.2.2.isProblem).map fun (file, site, d) =>
    checkRow file site d
  let table : Table := { header := ["File", "Call", "Type", "Status", "Detail"], rows }
  (if rows.isEmpty then "" else table.toText ++ "\n") ++
    s!"{diagnoses.length} call sites, {problemCount diagnoses} problems\n"

/-- The session for the workspace in a file. -/
def openWorkspace (read : String → Option String) (config : Config) (path : String) :
    Except Failure Session :=
  match read path with
  | none => .error (.unreadable path)
  | some text => do (← Workspace.ofText text).load config.resolve

/-- The output of a command. -/
def execute (read : String → Option String) (config : Config) : Command → Except Failure String
  | .resolve workspace call incomplete json => do
    resolveOutput (← openWorkspace read config workspace) call incomplete json
  | .variants workspace call => do
    variantsOutput (← openWorkspace read config workspace) call
  | .check workspace problemsOnly => do
    return checkOutput (← openWorkspace read config workspace) problemsOnly

/-- The output of a command line.  `read` gives the text of an existing file, and `home` is the text
of the configuration in the user's home. -/
def run (read : String → Option String) (home : Option String) (c : CommandLine) :
    Except Failure String := do
  execute read (← Config.load read c.config home) c.command

end CommandLine
end GroovyNew
