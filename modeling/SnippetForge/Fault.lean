import SnippetForge.Path
import SnippetForge.Text.Quoted

/-!
# Faults of the file system

What can go wrong when a file is opened, read, made or removed. Most faults are numbered errors of
the operating system; the others arise before the system is asked or after it has answered. A
fault may carry the path it happened at, which is then part of its text.
-/

namespace SnippetForge

/-- The numbered errors of the operating system. -/
inductive SystemError
  | notPermitted
  | noEntry
  | inputOutput
  | listTooLong
  | notExecutable
  | badDescriptor
  | noMemory
  | accessDenied
  | busy
  | exists
  | crossDevice
  | notDirectory
  | isDirectory
  | invalidArgument
  | tooManyOpen
  | textBusy
  | noSpace
  | readOnly
  | brokenPipe
  | nameTooLong
  | notEmpty
  | tooManyLinks
  deriving DecidableEq, Repr

namespace SystemError

/-- The number of an error. -/
def code : SystemError → Nat
  | .notPermitted => 1
  | .noEntry => 2
  | .inputOutput => 5
  | .listTooLong => 7
  | .notExecutable => 8
  | .badDescriptor => 9
  | .noMemory => 12
  | .accessDenied => 13
  | .busy => 16
  | .exists => 17
  | .crossDevice => 18
  | .notDirectory => 20
  | .isDirectory => 21
  | .invalidArgument => 22
  | .tooManyOpen => 24
  | .textBusy => 26
  | .noSpace => 28
  | .readOnly => 30
  | .brokenPipe => 32
  | .nameTooLong => 36
  | .notEmpty => 39
  | .tooManyLinks => 40

/-- The words for an error. -/
def words : SystemError → String
  | .notPermitted => "Operation not permitted"
  | .noEntry => "No such file or directory"
  | .inputOutput => "Input/output error"
  | .listTooLong => "Argument list too long"
  | .notExecutable => "Exec format error"
  | .badDescriptor => "Bad file descriptor"
  | .noMemory => "Cannot allocate memory"
  | .accessDenied => "Permission denied"
  | .busy => "Device or resource busy"
  | .exists => "File exists"
  | .crossDevice => "Invalid cross-device link"
  | .notDirectory => "Not a directory"
  | .isDirectory => "Is a directory"
  | .invalidArgument => "Invalid argument"
  | .tooManyOpen => "Too many open files"
  | .textBusy => "Text file busy"
  | .noSpace => "No space left on device"
  | .readOnly => "Read-only file system"
  | .brokenPipe => "Broken pipe"
  | .nameTooLong => "File name too long"
  | .notEmpty => "Directory not empty"
  | .tooManyLinks => "Too many levels of symbolic links"

/-- All errors. -/
def all : List SystemError :=
  [.notPermitted, .noEntry, .inputOutput, .listTooLong, .notExecutable, .badDescriptor, .noMemory,
    .accessDenied, .busy, .exists, .crossDevice, .notDirectory, .isDirectory, .invalidArgument,
    .tooManyOpen, .textBusy, .noSpace, .readOnly, .brokenPipe, .nameTooLong, .notEmpty,
    .tooManyLinks]

/-- The error of a number. -/
def ofCode? (n : Nat) : Option SystemError :=
  all.find? fun e => e.code == n

theorem ofCode?_code (e : SystemError) : ofCode? e.code = some e := by
  cases e <;> rfl

/-- The text of an error: its words and its number. -/
def message (e : SystemError) : String :=
  e.words ++ " (os error " ++ toString e.code ++ ")"

end SystemError

/-- Kinds of fault that have no number. -/
inductive FaultKind
  | notFound
  | permissionDenied
  | alreadyExists
  | invalidData
  | invalidInput
  | timedOut
  | interrupted
  | unexpectedEnd
  | writeZero
  | other
  deriving DecidableEq, Repr

/-- The words for a kind of fault that comes without a message of its own. -/
def FaultKind.words : FaultKind → String
  | .notFound => "entity not found"
  | .permissionDenied => "permission denied"
  | .alreadyExists => "entity already exists"
  | .invalidData => "invalid data"
  | .invalidInput => "invalid input parameter"
  | .timedOut => "timed out"
  | .interrupted => "operation interrupted"
  | .unexpectedEnd => "unexpected end of file"
  | .writeZero => "write zero"
  | .other => "other error"

/-- A fault of the file system. -/
inductive Fault
  /-- A numbered error. -/
  | system (error : SystemError)
  /-- A fault without a number, in its own words if it has some. -/
  | plain (kind : FaultKind) (detail : Option String)
  /-- The bytes read are no text. -/
  | notText
  /-- A path with a NUL character, which no file can have. -/
  | nulInPath
  /-- A program that is to be started with a NUL character in its name, its words, its directory or
  its variables. -/
  | nulInCall
  /-- A fault at a directory that was being made or removed. -/
  | at (path : Path) (fault : Fault)
  /-- A fault at an entry of a tree that was being walked. -/
  | onEntry (path : Path) (fault : Fault)
  deriving DecidableEq, Repr

namespace Fault

/-- The text of a fault. -/
def message : Fault → String
  | .system e => e.message
  | .plain kind none => kind.words
  | .plain _ (some detail) => detail
  | .notText => "stream did not contain valid UTF-8"
  | .nulInPath => "file name contained an unexpected NUL byte"
  | .nulInCall => "nul byte found in provided data"
  | .at path fault => fault.message ++ " at path " ++ Text.quoted path.text
  | .onEntry path fault => "IO error for operation on " ++ path.text ++ ": " ++ fault.message

end Fault

end SnippetForge
