/-
# Configuration

What a user can choose: which class an ambiguous reference denotes, whether results are remembered,
and how much is logged.  Every choice has a default, and a configuration file may leave out any of
them.
-/

import GroovyNew.Failure
import GroovyNew.Json.Reader
import GroovyNew.Resolve.ClassPick

namespace GroovyNew

/-- The choices for resolution. -/
structure ResolveConfig where
  classPick : ClassPick := .first
  /-- Results are remembered until the next edit. -/
  cache : Bool := true
  deriving DecidableEq, Inhabited, Repr

/-- The choices for the log. -/
structure LogConfig where
  level : String := "info"
  toStderr : Bool := false
  deriving DecidableEq, Inhabited, Repr

/-- All choices of a user. -/
structure Config where
  resolve : ResolveConfig := {}
  log : LogConfig := {}
  deriving DecidableEq, Inhabited, Repr

namespace ResolveConfig

/-- Writes the choices for resolution. -/
def toJson (c : ResolveConfig) : Json :=
  .record [("class_pick", .text c.classPick.name), ("cache", .bool c.cache)]

/-- Reads the choices for resolution. -/
def ofJson? (v : Json) : Option ResolveConfig := do
  let ms ← Json.Record.members? 0 ["class_pick", "cache"] v
  return {
    classPick := ← Json.Record.defaulted ms "class_pick" .first ClassPick.ofJson?
    cache := ← Json.Record.defaulted ms "cache" true Json.bool? }

end ResolveConfig

namespace LogConfig

/-- Writes the choices for the log. -/
def toJson (c : LogConfig) : Json :=
  .record [("level", .text c.level), ("to_stderr", .bool c.toStderr)]

/-- Reads the choices for the log. -/
def ofJson? (v : Json) : Option LogConfig := do
  let ms ← Json.Record.members? 0 ["level", "to_stderr"] v
  return {
    level := ← Json.Record.defaulted ms "level" "info" Json.string?
    toStderr := ← Json.Record.defaulted ms "to_stderr" false Json.bool? }

end LogConfig

namespace Config

/-- Writes a configuration. -/
def toJson (c : Config) : Json :=
  .record [("resolve", c.resolve.toJson), ("log", c.log.toJson)]

/-- Reads a configuration. -/
def ofJson? (v : Json) : Option Config := do
  let ms ← Json.Record.members? 0 ["resolve", "log"] v
  return {
    resolve := ← Json.Record.defaulted ms "resolve" {} ResolveConfig.ofJson?
    log := ← Json.Record.defaulted ms "log" {} LogConfig.ofJson? }

/-- The configuration that a text writes. -/
def ofText (text : String) : Except Failure Config :=
  match (Json.parse? text).bind ofJson? with
  | some c => .ok c
  | none => .error .malformed

/-- The configuration of a named file, which must exist, or else of the file in the user's home if
there is one.  `read` gives the text of an existing file. -/
def load (read : String → Option String) (explicit : Option String) (home : Option String) :
    Except Failure Config :=
  match explicit, home with
  | some path, _ => match read path with
    | some text => ofText text
    | none => .error (.missingConfig path)
  | none, some text => ofText text
  | none, none => .ok {}

end Config
end GroovyNew
