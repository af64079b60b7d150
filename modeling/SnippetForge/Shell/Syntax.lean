/-!
# Shell scripts

The commands of a small shell. A word is a list of fragments, because quoting decides piece by
piece how a word is expanded; a fragment that substitutes the output of a script holds that script
as a command of its own. A fragment that has been expanded becomes the atoms that it makes, so a
word can be expanded from left to right and be left in the middle while a script runs.

A command that may fail with a message carries the line it stands on, which the message names.

All text in a script is a string of octets.
-/

namespace SnippetForge.Shell

/-- What a redirection does with its target. -/
inductive RedirectKind
  /-- Reads from a file. -/
  | read
  /-- Writes a file from its start. -/
  | write
  /-- Writes a file from its start, even one that is to be kept. -/
  | overwrite
  /-- Writes at the end of a file. -/
  | append
  /-- Reads and writes a file. -/
  | update
  /-- Makes the descriptor a copy of another one. -/
  | copy
  /-- Reads the target itself, which is a part of the script. -/
  | here
  deriving DecidableEq, Repr

/-- A part of an expanded word. -/
inductive Atom
  /-- Text that is kept together. If it is quoted it makes a field even if it is empty. -/
  | solid (text : String) (isQuoted : Bool)
  /-- Text that is cut at separators. -/
  | loose (text : String)
  /-- The end of a field. -/
  | cut
  deriving DecidableEq, Repr

mutual

/-- A piece of a word. -/
inductive Fragment
  | literal (text : String) (isQuoted : Bool)
  | parameter (name : String) (edit : Edit) (isQuoted : Bool)
  /-- The value of an expression. -/
  | arithmetic (expression : List Fragment) (isQuoted : Bool)
  /-- The output of a script. -/
  | substitution (script : Command) (isQuoted : Bool)
  /-- The place of the output of a script that runs. -/
  | awaited (isQuoted : Bool)
  /-- A fragment that has been expanded. -/
  | expanded (atoms : List Atom)

/-- How the value of a parameter is changed where it is used. -/
inductive Edit
  | plain
  /-- Its length in bytes. -/
  | length
  /-- The pattern's match at the start or at the end is dropped. -/
  | drop (isAtEnd isLongest : Bool) (pattern : List Fragment)
  /-- A word stands in for a parameter that is not set, or is empty if `orEmpty`. -/
  | default (orEmpty : Bool) (word : List Fragment)
  /-- A word stands in for a parameter that is set, and not empty if `orEmpty`. -/
  | alternative (orEmpty : Bool) (word : List Fragment)
  /-- A word becomes the value of a parameter that is not set, or is empty if `orEmpty`. -/
  | assign (orEmpty : Bool) (word : List Fragment)
  /-- A word is the complaint about a parameter that is not set, or is empty if `orEmpty`. -/
  | demand (orEmpty : Bool) (word : List Fragment)
  /-- A change that the shell does not know. -/
  | unknown

/-- A redirection of a descriptor. -/
inductive Redirect
  | mk (descriptor : Nat) (kind : RedirectKind) (target : List Fragment)

/-- A command. -/
inductive Command
  /-- Does nothing and succeeds. -/
  | nothing
  /-- Assignments, a command with its arguments, and redirections. -/
  | simple (line : Nat) (assignments : List (String × List Fragment))
      (words : List (List Fragment)) (redirects : List Redirect)
  /-- A compound command with redirections. -/
  | redirected (line : Nat) (body : Command) (redirects : List Redirect)
  /-- Commands at once, each reading what the one before writes. -/
  | pipeline (parts : List Command)
  | negation (body : Command)
  | sequence (first second : Command)
  /-- The second command runs if the first succeeds. -/
  | both (first second : Command)
  /-- The second command runs if the first fails. -/
  | either (first second : Command)
  /-- Runs on its own; nobody waits for it. -/
  | background (body : Command)
  | subshell (body : Command)
  /-- Runs the body as long as the condition succeeds, or fails if `isNegated`. -/
  | loop (isNegated : Bool) (condition body : Command)
  | conditional (condition yes no : Command)
  /-- Runs the body once for every value of a variable. -/
  | each (line : Nat) (name : String) (values : List (List Fragment)) (body : Command)
  /-- Runs the command of the first branch that has a pattern for the subject. -/
  | select (line : Nat) (subject : List Fragment)
      (branches : List (List (List Fragment) × Command))
  /-- Names a command. -/
  | define (name : String) (body : Command)

end

/-- A word. -/
abbrev Word := List Fragment

namespace Command

/-- A command and what follows it, if anything does. -/
def andThen : Command → Command → Command
  | first, .nothing => first
  | first, second => .sequence first second

/-- A command under redirections, if there are any. -/
def under (line : Nat) (body : Command) : List Redirect → Command
  | [] => body
  | redirects => .redirected line body redirects

end Command

end SnippetForge.Shell
