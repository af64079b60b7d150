import SnippetForge.Json.Record
import SnippetForge.Text.Blank

/-!
# Toolchain reports

A toolchain that has run reports diagnostics: errors first, then warnings, each with its message.
The report arrives as text. Text that spells a report record, a list of errors and a list of
warnings, is read as one. Blank text means that there is nothing to report. Any other text is kept
as a single warning, so that nothing a toolchain says is lost.
-/

namespace SnippetForge

/-- How serious a diagnostic is. -/
inductive Severity
  | error
  | warning
  deriving DecidableEq, Repr

/-- A message from a toolchain. -/
structure Diagnostic where
  severity : Severity
  message : String
  deriving DecidableEq, Repr

/-- What a toolchain has reported. -/
structure Report where
  diagnostics : List Diagnostic
  deriving DecidableEq, Repr

namespace Severity

/-- The name of a severity in JSON. -/
def key : Severity → String
  | .error => "error"
  | .warning => "warning"

/-- The name of a severity on the terminal. -/
def label : Severity → String
  | .error => "Error"
  | .warning => "Warning"

/-- The severity of a name. -/
def ofKey? (s : String) : Option Severity :=
  if s = "error" then some .error
  else if s = "warning" then some .warning
  else none

/-- The severity that a JSON value names, alone or as the only key of an object that gives it no
value. -/
def ofJson? : Json → Option Severity
  | .string (.text s) => ofKey? s
  | .object [(.text s, .null)] => ofKey? s
  | _ => none

end Severity

namespace Diagnostic

/-- The JSON of a diagnostic. -/
def toJson (d : Diagnostic) : Json :=
  Json.record [("level", Json.ofText d.severity.key), ("message", Json.ofText d.message)]

/-- The diagnostic that a JSON value describes. -/
def ofJson? (v : Json) : Option Diagnostic :=
  match v.fields? ["level", "message"] with
  | some [level, message] =>
    match Json.required? Severity.ofJson? level, Json.required? Json.text? message with
    | some severity, some message => some ⟨severity, message⟩
    | _, _ => none
  | _ => none

/-- The diagnostics that a JSON text lists. -/
def listOfText? (text : String) : Option (List Diagnostic) :=
  (Json.parse? text).bind (Json.list? ofJson?)

end Diagnostic

namespace Report

/-- The report that says nothing. -/
def empty : Report := ⟨[]⟩

/-- The report of some errors and warnings. -/
def ofMessages (errors warnings : List String) : Report :=
  ⟨errors.map (Diagnostic.mk .error) ++ warnings.map (Diagnostic.mk .warning)⟩

/-- The report that a JSON value describes. -/
def ofJson? (v : Json) : Option Report :=
  match v.fields? ["errors", "warnings"] with
  | some [errors, warnings] =>
    match Json.optional? Json.texts? [] errors, Json.optional? Json.texts? [] warnings with
    | some errors, some warnings => some (ofMessages errors warnings)
    | _, _ => none
  | _ => none

/-- The report in what a toolchain has said. -/
def ofText (output : String) : Report :=
  let text := Text.trim output
  if text = "" then empty
  else
    match (Json.parse? text).bind ofJson? with
    | some report => report
    | none => ⟨[⟨.warning, text⟩]⟩

/-- Whether a report holds an error. -/
def hasErrors (r : Report) : Bool :=
  r.diagnostics.any fun d => d.severity == .error

end Report

end SnippetForge
