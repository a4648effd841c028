/-
# Dotted names

A class is named by its fully qualified name: segments joined by dots, `java.util.Map.Entry`.  Names
are kept as strings exactly as written, so a name may have empty segments; every function below is
total on them.
-/

namespace GroovyNew
namespace Name

/-- The member `name` of the package or class `outer`. -/
def qualify (outer name : String) : String := outer ++ "." ++ name

/-- The part after the last dot, the whole name if it has none. -/
def lastSegment (name : String) : String :=
  String.ofList (name.toList.reverse.takeWhile (· != '.')).reverse

/-- The part before the last dot. -/
def package? (name : String) : Option String :=
  if name.toList.contains '.' then
    some (String.ofList ((name.toList.reverse.dropWhile (· != '.')).drop 1).reverse)
  else
    none

/-- The parts before and after the first dot. -/
def splitFirst? (name : String) : Option (String × String) :=
  if name.toList.contains '.' then
    some (String.ofList (name.toList.takeWhile (· != '.')),
      String.ofList ((name.toList.dropWhile (· != '.')).drop 1))
  else
    none

/-- `fqn` is the member `name` of some package or class: it ends in a dot and `name`. -/
def isMemberNamed (fqn name : String) : Bool :=
  (("." ++ name).toList).isSuffixOf fqn.toList

/-- `fqn` lies in the package or class `outer`, at any depth. -/
def isInside (fqn outer : String) : Bool :=
  ((outer ++ ".").toList).isPrefixOf fqn.toList

/-- The package or class that the on-demand import `p.*` opens. -/
def onDemand? (imported : String) : Option String :=
  if isMemberNamed imported "*" then
    some (String.ofList (imported.toList.take (imported.toList.length - 2)))
  else
    none

theorem isMemberNamed_iff {fqn name : String} :
    isMemberNamed fqn name = true ↔ ("." ++ name).toList <:+ fqn.toList := by
  simp [isMemberNamed]

theorem isMemberNamed_qualify (outer name : String) :
    isMemberNamed (qualify outer name) name = true := by
  rw [isMemberNamed_iff]
  exact ⟨outer.toList, by simp [qualify]⟩

theorem onDemand?_qualify (outer : String) : onDemand? (qualify outer "*") = some outer := by
  rw [onDemand?, if_pos (isMemberNamed_qualify outer "*")]
  simp [qualify]

end Name
end GroovyNew
