import SnippetForge.Duration
import SnippetForge.Fault
import SnippetForge.Glob

/-!
# Failures

Everything that can stop the discovery of modules or the compilation of a snippet. A failure names
its cause and, where one file is to blame, its path. Some causes come with a hint at what to do;
`withHint` shows message and hint together, on two lines.
-/

namespace SnippetForge

/-- Why discovery or compilation stopped. -/
inductive Failure
  /-- A module file of a package could not be read. -/
  | discovery (path : Path) (fault : Fault)
  /-- A pattern for module files is no glob. -/
  | pattern (glob : String) (fault : GlobFault)
  /-- The staging directory or the entry file could not be written. -/
  | staging (path : Path) (fault : Fault)
  /-- The toolchain itself failed. -/
  | compilation (detail : String)
  /-- The bundle is missing or unreadable. -/
  | outputRead (path : Path) (fault : Fault)
  /-- The staging directory could not be removed. -/
  | cleanup (path : Path) (fault : Fault)
  /-- The toolchain did not finish in time. -/
  | timeout (limit : Duration)
  /-- The caller gave up. -/
  | cancelled
  deriving DecidableEq, Repr

namespace Failure

/-- The text of the underlying fault, if there is one. -/
def cause? : Failure → Option String
  | .discovery _ fault => some fault.message
  | .pattern glob fault => some (Glob.faultMessage glob fault)
  | .staging _ fault => some fault.message
  | .outputRead _ fault => some fault.message
  | .cleanup _ fault => some fault.message
  | .compilation _ => none
  | .timeout _ => none
  | .cancelled => none

/-- The text of a failure. -/
def message : Failure → String
  | .discovery path fault =>
    "failed to read module file " ++ path.text ++ ": " ++ fault.message
  | .pattern glob fault => "invalid module pattern: " ++ Glob.faultMessage glob fault
  | .staging path fault =>
    "failed to stage code block in " ++ path.text ++ ": " ++ fault.message
  | .compilation detail => "compilation failed: " ++ detail
  | .outputRead path fault => "failed to read bundle " ++ path.text ++ ": " ++ fault.message
  | .cleanup path fault =>
    "failed to remove staging directory " ++ path.text ++ ": " ++ fault.message
  | .timeout limit => "compilation timed out after " ++ limit.text
  | .cancelled => "compilation cancelled"

/-- What the user may do about a failure. -/
def hint? : Failure → Option String
  | .discovery _ _ => some "check the permissions of the installed package tree"
  | .pattern _ _ => none
  | .staging _ _ => some "make sure the project root is writable"
  | .compilation _ =>
    some "make sure node, webpack and ts-loader are installed in the project root"
  | .outputRead _ _ => some "the toolchain reported success but emitted no bundle"
  | .cleanup _ _ => some "remove the leftover codeblock-* directory by hand"
  | .timeout _ => some "raise the timeout or simplify the code block"
  | .cancelled => none

/-- The message and, on a second line, the hint. -/
def withHint (f : Failure) : String :=
  match f.hint? with
  | some hint => f.message ++ "\n  hint: " ++ hint
  | none => f.message

end Failure

end SnippetForge
