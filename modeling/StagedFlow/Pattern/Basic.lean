import StagedFlow.Pattern.Machine
import StagedFlow.Pattern.Reader

/-!
# Patterns

Regular expressions over characters. A pattern matches a text if it matches somewhere in it. A
pattern that is not hard is decided by a program, in a time bounded by the sizes of the two; a hard
one by a machine, which may give up.
-/

namespace StagedFlow

inductive Pattern where
  | easy (program : Pattern.Program)
  | hard (machine : Pattern.Machine)

namespace Pattern

/-- Reads a pattern; none if the text is not one, or if its program would be too large. -/
def read? (text : String) : Option Pattern := do
  let read ← Tree.read? text
  if (read.tree.extent read.referenced).hard then
    (Machine.make? read.referenced read.groups read.tree).map hard
  else (Program.make? read.tree).map easy

/-- Whether a pattern matches somewhere in a text. -/
def search (pattern : Pattern) (text : String) : Except Machine.Fault Bool :=
  match pattern with
  | easy program => .ok (program.matchesIn text.toList.toArray)
  | hard machine => machine.matchesIn text.toList.toArray

/-- Whether a pattern is found to match; a search that is given up finds nothing. -/
def isMatch (pattern : Pattern) (text : String) : Bool :=
  match pattern.search text with
  | .ok found => found
  | .error _ => false

end Pattern

end StagedFlow
