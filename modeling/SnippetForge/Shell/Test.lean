import SnippetForge.Disk.Lookup
import SnippetForge.Shell.Arithmetic
import SnippetForge.Text.Digits
import SnippetForge.Text.Octets

/-!
# Tests

The conditions that scripts ask about: properties of files, comparisons of texts and of numbers,
and their combinations. A condition is read from words; words that do not form one have a flaw.

A reader of a condition stands at a word and ends at the last word that it has used. Whether a
word is an operator depends on the words after it, so that operators can be compared too.
-/

namespace SnippetForge.Shell.Test

/-! ### Flaws -/

/-- Why words form no condition. -/
inductive Flaw
  /-- A word that has to be a number is none. -/
  | noNumber (word : String)
  /-- A parenthesis is missing. -/
  | unclosed
  /-- Nothing follows an operator. -/
  | missing (operator : String)
  /-- A word follows where none can. -/
  | unexpected (word : String)
  deriving DecidableEq, Repr

/-- What is said about a word. -/
def about (word message : String) : String :=
  if word = "" then message else word ++ ": " ++ message

/-- The words for a flaw. -/
def Flaw.words : Flaw → String
  | .noNumber word => "Illegal number: " ++ word
  | .unclosed => "closing paren expected"
  | .missing operator => about operator "argument expected"
  | .unexpected word => about word "unexpected operator"

/-! ### Operators -/

/-- The operators between two words. -/
def binaryOperators : List String :=
  ["=", "!=", "-eq", "-ne", "-lt", "-le", "-gt", "-ge", "<", ">", "-nt", "-ot", "-ef"]

/-- The operators before a word. -/
def unaryOperators : List String :=
  ["-n", "-z", "-e", "-f", "-d", "-x", "-r", "-w", "-s", "-L", "-h", "-p", "-t", "-b", "-c", "-u",
    "-g", "-k", "-S", "-O", "-G"]

/-- The number in a word. -/
def number (word : String) : Except Flaw Int :=
  match Text.integer? (String.ofList (Arithmetic.trimmed word.toList)) with
  | some n => if Arithmetic.clamp n = n then .ok n else .error (.noNumber word)
  | none => .error (.noNumber word)

/-- What a path leads to. -/
def entryAt? (d : Disk) (cwd : Place) (word : String) : Option Entry :=
  d.targetEntry? cwd ⟨Text.decoded word⟩

/-- Decides a property of a word, or says what is wrong. -/
def unary (d : Disk) (cwd : Place) (operator word : String) : Except Flaw Bool :=
  let entry := entryAt? d cwd word
  let node := entry.map (·.node)
  let hasBit (bit : Nat) : Except Flaw Bool := .ok (entry.any fun e => e.mode.testBit bit)
  let isLink := (d.linkOrNode? cwd ⟨Text.decoded word⟩).any Node.isLink
  match operator with
  | "-n" => .ok (word != "")
  | "-z" => .ok (word == "")
  | "-f" => .ok (node.any Node.isFile)
  | "-d" => .ok (node == some .directory)
  | "-r" => .ok (entry.any fun e => e.mode.isReadable)
  | "-w" => .ok (entry.any fun e => e.mode.isWritable)
  | "-x" => .ok (entry.any fun e => e.mode.isExecutable)
  | "-u" => hasBit 11
  | "-g" => hasBit 10
  | "-k" => hasBit 9
  | "-s" =>
    .ok (node.any fun n =>
      match n with
      | .file content => content.size != 0
      | .directory => true
      | _ => false)
  | "-p" => .ok (node == some .pipe)
  | "-c" => .ok (node.any fun n => match n with | .device _ => true | _ => false)
  | "-L" => .ok isLink
  | "-h" => .ok isLink
  | "-t" => (number word).map fun _ => false
  | operator => .ok (["-e", "-O", "-G"].contains operator && node.isSome)

/-- Decides a comparison of two words, or says what is wrong. -/
def binary (d : Disk) (cwd : Place) (a operator b : String) : Except Flaw Bool :=
  let compare (holds : Int → Int → Bool) : Except Flaw Bool := do
    let x ← number a
    let y ← number b
    return holds x y
  match operator with
  | "=" => .ok (a == b)
  | "!=" => .ok (a != b)
  | "<" => .ok (a < b)
  | ">" => .ok (b < a)
  | "-eq" => compare fun x y => x == y
  | "-ne" => compare fun x y => x != y
  | "-lt" => compare fun x y => x < y
  | "-le" => compare fun x y => x ≤ y
  | "-gt" => compare fun x y => y < x
  | "-ge" => compare fun x y => y ≤ x
  | operator =>
    match entryAt? d cwd a, entryAt? d cwd b with
    | some x, some y =>
      if operator = "-nt" then .ok (y.time < x.time)
      else if operator = "-ot" then .ok (x.time < y.time)
      else .ok (x.id == y.id)
    | _, _ => .ok false

/-! ### Words -/

/-- What the first of some words is. -/
inductive Lexeme
  /-- There is no word. -/
  | ending
  | negation
  | conjunction
  | disjunction
  | opening
  | closing
  | unary (operator : String)
  | binary (operator : String)
  | operand
  deriving DecidableEq, Repr

/-- Whether an operator before a word is an ordinary word here: nothing follows it, or it is
compared with something. -/
def isCompared : List String → Bool
  | [] => true
  | [_] => false
  | second :: _ => binaryOperators.contains second

/-- What the first of some words is. -/
def lexeme : List String → Lexeme
  | [] => .ending
  | word :: rest =>
    if word = "!" then .negation
    else if word = "-a" then .conjunction
    else if word = "-o" then .disjunction
    else if word = "(" then (if rest.isEmpty then .operand else .opening)
    else if word = ")" then .closing
    else if binaryOperators.contains word then .binary word
    else if unaryOperators.contains word && !isCompared rest then .unary word
    else .operand

/-! ### Conditions -/

mutual

/-- Decides conditions of which one has to hold. -/
def disjunction (d : Disk) (cwd : Place) : Nat → Lexeme → List String →
    Except Flaw (Bool × List String)
  | 0, _, words => .ok (false, words)
  | fuel + 1, kind, words => do
    let (first, words) ← conjunction d cwd fuel kind words
    if lexeme (words.drop 1) = .disjunction then
      let rest := words.drop 2
      let (second, words) ← disjunction d cwd fuel (lexeme rest) rest
      return (first || second, words)
    else return (first, words)

/-- Decides conditions which all have to hold. -/
def conjunction (d : Disk) (cwd : Place) : Nat → Lexeme → List String →
    Except Flaw (Bool × List String)
  | 0, _, words => .ok (false, words)
  | fuel + 1, kind, words => do
    let (first, words) ← negation d cwd fuel kind words
    if lexeme (words.drop 1) = .conjunction then
      let rest := words.drop 2
      let (second, words) ← conjunction d cwd fuel (lexeme rest) rest
      return (first && second, words)
    else return (first, words)

/-- Decides a condition, negated or not. -/
def negation (d : Disk) (cwd : Place) : Nat → Lexeme → List String →
    Except Flaw (Bool × List String)
  | 0, _, words => .ok (false, words)
  | fuel + 1, kind, words =>
    if kind = .negation then
      let next := lexeme (words.drop 1)
      let rest := if next = .ending then words else words.drop 1
      (negation d cwd fuel next rest).map fun p => (!p.1, p.2)
    else condition d cwd fuel kind words

/-- Decides a single condition. -/
def condition (d : Disk) (cwd : Place) : Nat → Lexeme → List String →
    Except Flaw (Bool × List String)
  | 0, _, words => .ok (false, words)
  | fuel + 1, kind, words =>
    let rest := words.drop 1
    match kind, rest with
    | .ending, _ => .ok (false, words)
    | .opening, _ =>
      if lexeme rest = .closing then .ok (false, rest)
      else do
        let (holds, words) ← disjunction d cwd fuel (lexeme rest) rest
        if lexeme (words.drop 1) = .closing then return (holds, words.drop 1)
        else throw Flaw.unclosed
    | .unary operator, [] => .error (.missing operator)
    | .unary operator, word :: _ =>
      (unary d cwd operator word).map fun holds => (holds, rest)
    | _, _ =>
      match lexeme rest, rest.drop 1 with
      | .binary operator, [] => .error (.missing operator)
      | .binary operator, word :: _ =>
        (binary d cwd (words.headD "") operator word).map fun holds => (holds, rest.drop 1)
      | _, _ => .ok (words.headD "" != "", words)

end

/-- Decides the condition that some words form, or says what is wrong about a word after it. -/
def decideFrom (d : Disk) (cwd : Place) (kind : Lexeme) (words : List String) :
    Except Flaw Bool := do
  match ← disjunction d cwd (4 * words.length + 4) kind words with
  | (_, word :: _ :: _) => throw (Flaw.unexpected word)
  | (holds, _) => return holds

/-- Decides the condition that some words form, or says what is wrong. Three or four words in parentheses or
after a negation are decided on their own. -/
def evaluate (d : Disk) (cwd : Place) (words : List String) : Except Flaw Bool :=
  let ofTwo (words : List String) : Except Flaw Bool :=
    if words.isEmpty then .ok false else decideFrom d cwd (lexeme words) words
  let ofThree (words : List String) : Except Flaw Bool :=
    match words with
    | [a, b, c] =>
      if binaryOperators.contains b then decideFrom d cwd .operand words
      else if a = "(" && c = ")" then ofTwo [b]
      else if a = "!" then (ofTwo [b, c]).map (!·)
      else ofTwo words
    | words => ofTwo words
  match words with
  | [a, b, c, e] =>
    if a = "(" && e = ")" then ofTwo [b, c]
    else if a = "!" then (ofThree [b, c, e]).map (!·)
    else ofTwo words
  | words => ofThree words

end SnippetForge.Shell.Test
