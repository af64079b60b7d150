import SnippetForge.Shell.Expression
import SnippetForge.Shell.Utility.Options

/-!
# Calculating with words

The words of `expr` form an expression over words: choices, comparisons, sums, products, matches and
functions of texts, from the weakest binding to the strongest. All operators bind to the left. What a
choice makes superfluous is read but not calculated.
-/

namespace SnippetForge.Shell.Utility

namespace Calculation

/-! ### Values -/

/-- The number that a word is. -/
def number? (word : String) : Option Int :=
  if word.toList.head? = some '+' then none else Text.integer? word

/-- Whether a word counts as false: it is empty or spells zero. -/
def isNull (word : String) : Bool :=
  match word.toList with
  | [] => true
  | '-' :: cs => !cs.isEmpty && cs.all (· == '0')
  | cs => cs.all (· == '0')

/-- The word for a truth value. -/
def truth (b : Bool) : String :=
  if b then "1" else "0"

/-- Compares two words, as numbers if both are. -/
def comparison (operator a b : String) : Bool :=
  let order : Ordering :=
    match number? a, number? b with
    | some m, some n => compare m n
    | _, _ => compare a b
  match operator with
  | "<" => order.isLT
  | "<=" => order.isLE
  | ">" => order.isGT
  | ">=" => order.isGE
  | "!=" => !order.isEq
  | _ => order.isEq

/-- Calculates with two numbers. -/
def arithmetic (operator a b : String) : Except String String :=
  match number? a, number? b with
  | some m, some n =>
    match operator with
    | "+" => .ok (toString (m + n))
    | "-" => .ok (toString (m - n))
    | "*" => .ok (toString (m * n))
    | _ =>
      if n = 0 then .error "division by zero"
      else .ok (toString (if operator = "/" then Int.tdiv m n else Int.tmod m n))
  | _, _ => .error "non-integer argument"

/-- What the start of a text matches: the first group, or how many characters match. -/
def matched (text expression : String) : Except String String :=
  match Expression.read ⟨false, false⟩ (charactersOf expression) with
  | .error flaw => .error flaw.words
  | .ok (e, groups) =>
    let s : Expression.Subject := ⟨(charactersOf text).toArray, false, false⟩
    match Expression.findWhere s e (fun _ _ => true) 1 0 with
    | some m =>
      if 0 < groups then .ok (Text.octetsOf (String.ofList (m.group s 1))) else .ok (toString m.last)
    | none => .ok (if 0 < groups then "" else "0")

/-- The place of the first character of a text that is one of some others, counted from one. -/
def indexOf (text chars : String) : String :=
  match (charactersOf text).findIdx? fun c => (charactersOf chars).contains c with
  | some i => toString (i + 1)
  | none => "0"

/-- A part of a text by the place of its start, counted from one, and its length. -/
def substring (text first length : String) : String :=
  match number? first, number? length with
  | some i, some n =>
    if i ≤ 0 || n ≤ 0 then ""
    else
      Text.octetsOf (String.ofList (((charactersOf text).drop (i.toNat - 1)).take n.toNat))
  | _, _ => ""

/-! ### Reading -/

/-- The operators by how strongly they bind, the weakest ones first. -/
def levels : List (List String) :=
  [["|"], ["&"], ["<", "<=", "=", "==", "!=", ">=", ">"], ["+", "-"], ["*", "/", "%"], [":"]]

/-- Combines two values by an operator. -/
def combine (operator a b : String) : Except String String :=
  match operator with
  | "|" => .ok (if !isNull a then a else if !isNull b then b else "0")
  | "&" => .ok (if isNull a || isNull b then "0" else a)
  | ":" => matched a b
  | operator =>
    if ["+", "-", "*", "/", "%"].contains operator then arithmetic operator a b
    else .ok (truth (comparison operator a b))

/-- Whether the right side of an operator still matters. -/
def needsRight (operator a : String) : Bool :=
  match operator with
  | "|" => isNull a
  | "&" => !isNull a
  | _ => true

/-- Words that are read: those behind, the last one first, and those ahead. -/
structure Cursor where
  behind : List String
  ahead : List String

namespace Cursor

/-- A flaw in what is read. -/
def flaw {α : Type} (text : String) : Except String α :=
  .error ("syntax error: " ++ text)

/-- The next word. -/
def next (c : Cursor) : Except String (String × Cursor) :=
  match c.ahead with
  | word :: rest => .ok (word, ⟨word :: c.behind, rest⟩)
  | [] => flaw ("missing argument after " ++ marked (c.behind.headD ""))

/-- Passes the closing parenthesis. -/
def close (c : Cursor) : Except String Cursor :=
  match c.ahead with
  | ")" :: rest => .ok ⟨")" :: c.behind, rest⟩
  | word :: _ => flaw ("expecting ')' instead of " ++ marked word)
  | [] => flaw ("expecting ')' after " ++ marked (c.behind.headD ""))

end Cursor

/-- A reader of a value that may only read. -/
abbrev ValueReader := (matters : Bool) → Cursor → Except String (String × Cursor)

/-- Reads what follows a value: operators of one level with their right sides. -/
def readOperators (operators : List String) (operand : ValueReader) :
    (fuel : Nat) → (value : String) → ValueReader
  | 0, value, _, c => .ok (value, c)
  | fuel + 1, value, matters, c =>
    match c.ahead with
    | [] => .ok (value, c)
    | operator :: rest =>
      if operators.contains operator then do
        let right := matters && needsRight operator value
        let (b, c) ← operand right ⟨operator :: c.behind, rest⟩
        let result ←
          if right then combine operator value b
          else if matters then pure (if operator = "&" then "0" else value)
          else pure value
        readOperators operators operand fuel result matters c
      else .ok (value, c)

/-- Reads a value by the operators of some levels. -/
def readLevels (fuel : Nat) (operand : ValueReader) : List (List String) → ValueReader
  | [] => operand
  | operators :: stronger => fun matters c => do
    let inner := readLevels fuel operand stronger
    let (value, c) ← inner matters c
    readOperators operators inner fuel value matters c

/-- Reads a function of texts, an expression in parentheses or a word. -/
def readValue : (fuel : Nat) → ValueReader
  | 0, _, _ => .error "syntax error"
  | fuel + 1, matters, c => do
    let value := readValue fuel
    let (word, c) ← c.next
    match word with
    | "+" => c.next
    | "length" =>
      let (a, c) ← value matters c
      return (toString (charactersOf a).length, c)
    | "index" =>
      let (a, c) ← value matters c
      let (b, c) ← value matters c
      return (indexOf a b, c)
    | "match" =>
      let (a, c) ← value matters c
      let (b, c) ← value matters c
      return (← (if matters then matched a b else pure a), c)
    | "substr" =>
      let (a, c) ← value matters c
      let (first, c) ← value matters c
      let (length, c) ← value matters c
      return (substring a first length, c)
    | "(" =>
      let (a, c) ← readLevels fuel value levels matters c
      return (a, ← c.close)
    | ")" => Cursor.flaw "unexpected ')'"
    | word => return (word, c)

/-- The value of the expression that some words form. -/
def evaluate (words : List String) : Except String String := do
  let fuel := words.length + 1
  let (value, c) ← readLevels fuel (readValue fuel) levels true ⟨[], words⟩
  match c.ahead with
  | [] => return value
  | word :: _ => Cursor.flaw ("unexpected argument " ++ marked word)

end Calculation

/-- Calculates with words. -/
def expr (site : Site) (words : List String) : Outcome :=
  match if words.head? = some "--" then words.drop 1 else words with
  | [] => misuse site "missing operand" 2
  | words =>
    match Calculation.evaluate words with
    | .ok value =>
      { prints site (value ++ "\n") with code := if Calculation.isNull value then 1 else 0 }
    | .error text => fails site text 2

end SnippetForge.Shell.Utility
