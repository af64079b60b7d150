import SnippetForge.Shell.Ordered
import SnippetForge.Shell.Utility.EditScript
import SnippetForge.Shell.Utility.Lines

/-!
# What lines are searched for

Patterns for lines: texts that stand for themselves, expressions of two dialects, and expressions
whose parts are tried in order. Several patterns match where one of them does.
-/

namespace SnippetForge.Shell.Utility

/-- What a pattern is. -/
inductive PatternKind
  | basic
  | extended
  | fixed
  | ordered
  deriving DecidableEq, Repr

/-- A pattern, with the file and the line that it comes from, if it comes from a file. -/
structure LinePattern where
  text : List Char
  origin : Option (String × Nat)

/-- What is looked for. -/
inductive Sought
  | expressions (es : List Expression)
  | ordered (e : Ordered)

/-- What is looked for in lines, and how. -/
structure Finder where
  sought : Sought
  ignoresCase : Bool
  wholeWords : Bool
  wholeLines : Bool

namespace Finder

/-- The better one of two matches: the first one, the longer one of two at the same place. -/
def better (a b : Nat × Nat) : Nat × Nat :=
  if b.1 < a.1 || (b.1 = a.1 && a.2 < b.2) then b else a

/-- The first match in a line from a place on, the longest one there. -/
def find? (f : Finder) (s : Expression.Subject) (start : Nat) : Option (Nat × Nat) :=
  match f.sought with
  | .ordered e => Ordered.find? s.text e start
  | .expressions es =>
    let fits (i j : Nat) : Bool :=
      if f.wholeLines then i == 0 && j == s.text.size
      else
        !f.wholeWords
          || (!(s.before? i).any Expression.isWordChar && !(s.at? j).any Expression.isWordChar)
    let fuel := if f.wholeLines then 1 else s.text.size + 1 - start
    let found := es.filterMap fun e =>
      (Expression.findWhere s e fits fuel start).map fun m => (m.first, m.last)
    match found with
    | [] => none
    | m :: ms => some (ms.foldl better m)

/-- All matches in a line from a place on that are not empty. `fuel` bounds how many. -/
def findAll (f : Finder) (s : Expression.Subject) : (fuel : Nat) → (start : Nat) → List (Nat × Nat)
  | 0, _ => []
  | fuel + 1, start =>
    if s.text.size < start then []
    else
      match f.find? s start with
      | none => []
      | some (i, j) =>
        if i < j then (i, j) :: findAll f s fuel (max j (start + 1))
        else findAll f s fuel (max j start + 1)

/-- A line as it is searched. -/
def subject (f : Finder) (line : List Char) : Expression.Subject :=
  ⟨line.toArray, f.ignoresCase, false⟩

end Finder

/-! ### Reading patterns -/

/-- An expression that matches a text itself. -/
def literalExpression (text : List Char) : Expression :=
  text.foldr (fun c e => .both (.char c) e) .empty

/-- The expression of a pattern. -/
def patternExpression (kind : PatternKind) (text : List Char) :
    Except ExpressionFlaw Expression :=
  match kind with
  | .fixed => .ok (literalExpression text)
  | kind =>
    if Editing.isMisplacedClass text then .error .misplacedClass
    else (Expression.read ⟨kind == .extended, true⟩ text).map (·.1)

/-- The repetitions in an extended pattern that have nothing to repeat. -/
def looseRepeats (k : Expression.Dialect) : (fuel : Nat) → (isFirst : Bool) → List Char → List String
  | 0, _, _ => []
  | fuel + 1, isFirst, cs =>
    match Expression.token? k cs with
    | none => []
    | some (token, rest) =>
      let loose (name : String) : List String :=
        if isFirst then name :: looseRepeats k fuel true rest else looseRepeats k fuel false rest
      match token with
      | .star => loose "*"
      | .plus => loose "+"
      | .option => loose "?"
      | .interval =>
        match Expression.readInterval k rest with
        | .ok (_, rest) =>
          (if isFirst then ["\x7b...\x7d"] else []) ++ looseRepeats k fuel isFirst rest
        | .error _ => looseRepeats k fuel false rest
      | .caret => looseRepeats k fuel true rest
      | .bar => looseRepeats k fuel true rest
      | .opening => looseRepeats k fuel true rest
      | .bracket =>
        match Expression.readBracket rest with
        | .ok (_, rest) => looseRepeats k fuel false rest
        | .error _ => []
      | _ => looseRepeats k fuel false rest

/-- What is said about a pattern though it can be used. -/
def patternWarnings (kind : PatternKind) (text : List Char) : List String :=
  if kind = .extended then
    (looseRepeats ⟨true, true⟩ (text.length + 1) true text).map fun name =>
      "warning: " ++ name ++ " at start of expression"
  else []

/-- A complaint about a pattern, after the place that it comes from. -/
def patternComplaint (p : LinePattern) (flaw : ExpressionFlaw) : String :=
  match p.origin with
  | some (name, line) => name ++ ":" ++ toString line ++ ": " ++ flaw.words
  | none => flaw.words

/-- The finder for some patterns, or complaints. -/
def Finder.ofPatterns (kind : PatternKind) (ignoresCase wholeWords wholeLines : Bool)
    (patterns : List LinePattern) : Except (List String) Finder :=
  match kind, patterns with
  | .ordered, [p] =>
    match Ordered.read ignoresCase p.text with
    | .ok e =>
      let e := if wholeLines then e.asLine else if wholeWords then e.asWord else e
      .ok ⟨.ordered e, ignoresCase, wholeWords, wholeLines⟩
    | .error flaw => .error [flaw.words]
  | .ordered, [] => .ok ⟨.expressions [], ignoresCase, wholeWords, wholeLines⟩
  | .ordered, _ => .error ["the -P option only supports a single pattern"]
  | kind, patterns =>
    let complaints := patterns.filterMap fun p =>
      match patternExpression kind p.text with
      | .ok _ => none
      | .error flaw => some (patternComplaint p flaw)
    let es := patterns.filterMap fun p => (patternExpression kind p.text).toOption
    if complaints.isEmpty then .ok ⟨.expressions es, ignoresCase, wholeWords, wholeLines⟩
    else .error complaints

end SnippetForge.Shell.Utility
