import SnippetForge.Number.Binary
import SnippetForge.Shell.Expression

/-!
# Programs for records

Programs that go through the records of a text, each split into fields. A rule has a pattern that
chooses records and statements that are executed for them; some rules come before all records and
some after them. Values are numbers or texts, and tables from texts to values.
-/

namespace SnippetForge.Shell.Awk

/-! ### Expressions -/

/-- An operation on two numbers. -/
inductive Operation
  | add
  | sub
  | mul
  | div
  | mod
  | pow
  deriving DecidableEq, Repr

/-- A comparison of two values. -/
inductive Comparison
  | less
  | lessOrEqual
  | equal
  | unequal
  | greater
  | greaterOrEqual
  deriving DecidableEq, Repr

/-- A function that is there without being defined. -/
inductive Builtin
  | length
  | index
  | substr
  | split
  | matches
  | sub
  | gsub
  | sprintf
  | sin
  | cos
  | atan2
  | exp
  | log
  | sqrt
  | int
  | rand
  | srand
  | toLower
  | toUpper
  | system
  | close
  | flush
  | systemTime
  | timeText
  | timeOf
  deriving DecidableEq, Repr

/-- A stream of records other than the main one. -/
inductive Inlet
  | main
  | file
  | command
  deriving DecidableEq, Repr

/-- Where a statement writes to. -/
inductive Outlet
  | overwrite
  | append
  | command
  deriving DecidableEq, Repr

/-- An expression. -/
inductive Expr
  | number (n : Binary)
  | text (s : String)
  /-- A pattern; on its own it is sought in the record. -/
  | regex (source : String) (e : Expression)
  | name (name : String)
  | item (table : String) (indices : List Expr)
  | field (number : Expr)
  | assign (target : Expr) (operation : Option Operation) (value : Expr)
  | count (target : Expr) (isBefore isUp : Bool)
  | arithmetic (operation : Operation) (a b : Expr)
  | minus (e : Expr)
  | plus (e : Expr)
  | not (e : Expr)
  | compare (comparison : Comparison) (a b : Expr)
  | fits (isNegated : Bool) (text pattern : Expr)
  | join (a b : Expr)
  | both (a b : Expr)
  | either (a b : Expr)
  | choice (condition yes no : Expr)
  | holds (indices : List Expr) (table : String)
  | call (name : String) (arguments : List Expr)
  | builtin (b : Builtin) (arguments : List Expr)
  | getline (inlet : Inlet) (source : Option Expr) (target : Option Expr)
  /-- Several expressions in parentheses, for what follows them. -/
  | several (es : List Expr)
  deriving Repr

/-! ### Statements -/

/-- A statement. -/
inductive Statement
  | nothing
  | value (e : Expr)
  | print (es : List Expr) (outlet : Option (Outlet × Expr))
  | format (es : List Expr) (outlet : Option (Outlet × Expr))
  | block (ss : List Statement)
  | choice (condition : Expr) (yes : Statement) (no : Option Statement)
  | whileTrue (condition : Expr) (body : Statement)
  | untilFalse (body : Statement) (condition : Expr)
  | loop (start : Option Statement) (condition : Option Expr) (next : Option Statement)
    (body : Statement)
  | each (name : String) (table : String) (body : Statement)
  | nextRecord
  | nextFile
  | quit (code : Option Expr)
  | giveBack (value : Option Expr)
  | leaveLoop
  | goRound
  | remove (table : String) (indices : Option (List Expr))
  deriving Repr

/-- Which records a rule is for. -/
inductive Guard
  | always
  | when (e : Expr)
  /-- From a record to another one. -/
  | between (first last : Expr)
  deriving Repr

/-- A function. -/
structure Definition where
  parameters : List String
  body : Statement
  deriving Repr

/-- A program. -/
structure Program where
  starts : List Statement
  rules : List (Guard × Statement)
  finishes : List Statement
  definitions : List (String × Definition)
  deriving Repr

end SnippetForge.Shell.Awk
