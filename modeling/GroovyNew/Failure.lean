/-
# Failures

What can go wrong between a command and its output, each cause with the words that a user sees.  A
text that is no JSON, or not of the expected shape, and a file that cannot be read have no wording
here.
-/

import GroovyNew.ArgumentError
import GroovyNew.Syntax.Basic

namespace GroovyNew

/-- Why an operation fails. -/
inductive Failure where
  /-- A file cannot be read. -/
  | unreadable (path : String)
  /-- A text is no JSON of the expected shape. -/
  | malformed
  /-- The named configuration file does not exist. -/
  | missingConfig (path : String)
  /-- An argument is refused. -/
  | argument (e : ArgumentError)
  /-- No call site has the id. -/
  | unknownCallSite (id : CallSiteId)
  /-- A second call site has the id, in the file of the given path. -/
  | duplicateCallSite (id : CallSiteId) (path : String)
  /-- A reference that has no text of its own can be neither renamed nor bound. -/
  | unsupported (operation : String) (element : String)
  deriving DecidableEq, Repr

/-- The words for a failure. -/
def Failure.message? : Failure → Option String
  | .unreadable _ => none
  | .malformed => none
  | .missingConfig path => some s!"Configuration error: config file not found: {path}"
  | .argument e => some e.message
  | .unknownCallSite id => some s!"Unknown call site: {id.toText}"
  | .duplicateCallSite id path => some s!"Duplicate call site {id.toText} in {path}"
  | .unsupported operation element => some s!"Unsupported operation: {operation} on {element}"

end GroovyNew
