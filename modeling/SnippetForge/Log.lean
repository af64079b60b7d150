/-!
# Log lines

What the library reports while it works: a level and a message. Functions that report hand their
lines back in order, so a caller decides what to show.
-/

namespace SnippetForge

/-- How important a log line is. -/
inductive LogLevel
  | debug
  | info
  | warn
  deriving DecidableEq, Repr

/-- The name of a level. -/
def LogLevel.label : LogLevel → String
  | .debug => "DEBUG"
  | .info => "INFO"
  | .warn => "WARN"

/-- A line of the log. -/
structure LogLine where
  level : LogLevel
  message : String
  deriving DecidableEq, Repr

namespace LogLine

/-- A line for those who look closely. -/
def debug (message : String) : LogLine :=
  ⟨.debug, message⟩

/-- A line about progress. -/
def info (message : String) : LogLine :=
  ⟨.info, message⟩

/-- A line that should be seen. -/
def warn (message : String) : LogLine :=
  ⟨.warn, message⟩

/-- The text of a line. -/
def text (line : LogLine) : String :=
  line.level.label ++ " " ++ line.message

end LogLine

end SnippetForge
