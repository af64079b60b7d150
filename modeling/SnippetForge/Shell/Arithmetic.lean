/-!
# Expressions of numbers

What a script may compute with: whole numbers of 64 bits, the usual operators with the usual
precedence, comparisons, choices and assignments to variables by their names. A variable that is
not set counts as zero.

Operators of one level group to the left. Each level is read by the same loop, which takes an
operator only if it binds at least as tightly as asked for. An expression is evaluated while it is
read; a part whose value is not used is read without effects.
-/

namespace SnippetForge.Shell.Arithmetic

/-! ### Numbers -/

/-- The value of a digit. -/
def digitValue (c : Char) : Nat :=
  if c.isDigit then c.toNat - '0'.toNat
  else if 'a' ≤ c && c ≤ 'f' then c.toNat - 'a'.toNat + 10
  else if 'A' ≤ c && c ≤ 'F' then c.toNat - 'A'.toNat + 10
  else 16

/-- The number that the digits at the start of some characters spell in a base, and what follows
them. -/
def readDigits (base : Nat) (cs : List Char) : Nat × List Char :=
  let isDigit (c : Char) : Bool := digitValue c < base
  ((cs.takeWhile isDigit).foldl (fun n c => n * base + digitValue c) 0, cs.dropWhile isDigit)

/-- The number at the start of some characters, decimal, after a zero octal or after `0x`
hexadecimal, and what follows it. -/
def readNatural (cs : List Char) : Nat × List Char :=
  match cs with
  | '0' :: x :: digit :: rest =>
    if (x == 'x' || x == 'X') && digitValue digit < 16 then readDigits 16 (digit :: rest)
    else readDigits 8 cs
  | '0' :: _ => readDigits 8 cs
  | _ => readDigits 10 cs

/-- The largest number. -/
def maxNumber : Nat := 9223372036854775807

/-- The number nearest to one that may be too large or too small. -/
def clamp (n : Int) : Int :=
  if (maxNumber : Int) < n then maxNumber else if n < -maxNumber - 1 then -maxNumber - 1 else n

/-- The number of 64 bits that a number wraps to. -/
def wrap (n : Int) : Int :=
  (BitVec.ofInt 64 n).toInt

/-- Whether a character is white. -/
def isSpace (c : Char) : Bool :=
  c == ' ' || (8 < c.toNat && c.toNat < 14)

/-- Characters without the white ones at the start and the end. -/
def trimmed (cs : List Char) : List Char :=
  ((cs.dropWhile isSpace).reverse.dropWhile isSpace).reverse

/-- The number that a text spells, which may have a sign; a text of white characters spells zero. -/
def numberOf? (text : String) : Option Int :=
  let (isNegative, cs) :=
    match trimmed text.toList with
    | '-' :: cs => (true, cs)
    | '+' :: cs => (false, cs)
    | cs => (false, cs)
  if cs.isEmpty then (if (trimmed text.toList).isEmpty then some 0 else none)
  else if !((cs.head?).any Char.isDigit) then none
  else
    match readNatural cs with
    | (n, []) =>
      let value : Int := if isNegative then -n else n
      if clamp value = value then some value else none
    | _ => none

/-! ### Tokens -/

/-- A piece of an expression. -/
inductive Token
  | number (value : Int)
  | name (text : String)
  | operator (text : String)
  /-- A character that is no piece of an expression. -/
  | bad
  deriving DecidableEq, Repr

/-- The operators, longer ones before those that they start with. -/
def operators : List String :=
  ["<<=", ">>=", "&&", "||", "==", "!=", "<=", ">=", "<<", ">>", "+=", "-=", "*=", "/=", "%=",
    "&=", "|=", "^=", "+", "-", "*", "/", "%", "<", ">", "!", "~", "&", "|", "^", "?", ":", "=",
    "(", ")"]

/-- The pieces of an expression. -/
def tokens : Nat → List Char → List Token
  | 0, _ => []
  | _ + 1, [] => []
  | fuel + 1, c :: rest =>
    if c = ' ' || c = '\t' || c = '\n' then tokens fuel rest
    else if c.isDigit then
      let (n, after) := readNatural (c :: rest)
      .number (clamp n) :: tokens fuel after
    else if c.isAlpha || c = '_' then
      let isPart (c : Char) : Bool := c.isAlphanum || c == '_'
      .name (String.ofList ((c :: rest).takeWhile isPart))
        :: tokens fuel ((c :: rest).dropWhile isPart)
    else
      match operators.find? fun operator => operator.toList.isPrefixOf (c :: rest) with
      | some operator => .operator operator :: tokens fuel ((c :: rest).drop operator.length)
      | none => .bad :: tokens fuel rest

/-! ### Values -/

/-- Why an expression has no value. -/
inductive ValueError
  /-- Something else should stand there. -/
  | expecting (what : String)
  | divisionByZero
  /-- A variable holds no number. -/
  | illegalNumber (text : String)
  /-- A variable cannot be changed. -/
  | isReadonly (name : String)
  deriving DecidableEq, Repr

/-- How an expression reads and changes variables. -/
structure Access (σ : Type) where
  read : σ → String → String
  /-- None if the variable cannot be changed. -/
  write : σ → String → String → Option σ

/-- The value of a part of an expression, the variables after it, and the pieces that are left. -/
structure Valued (σ : Type) where
  value : Int
  state : σ
  rest : List Token

/-- One if a condition holds, zero if not. -/
def ofBool (b : Bool) : Int :=
  if b then 1 else 0

/-- How tightly an operator between two numbers binds. -/
def precedence? : String → Option Nat
  | "|" => some 1
  | "^" => some 2
  | "&" => some 3
  | "==" => some 4
  | "!=" => some 4
  | "<" => some 5
  | "<=" => some 5
  | ">" => some 5
  | ">=" => some 5
  | "<<" => some 6
  | ">>" => some 6
  | "+" => some 7
  | "-" => some 7
  | "*" => some 8
  | "/" => some 8
  | "%" => some 8
  | _ => none

/-- The bits of a number. -/
def bits (n : Int) : BitVec 64 :=
  BitVec.ofInt 64 n

/-- By how many bits a number shifts. -/
def shiftOf (n : Int) : Nat :=
  (bits n).toNat % 64

/-- The value of an operator at two numbers. -/
def combine (operator : String) (a b : Int) : Except ValueError Int :=
  match operator with
  | "|" => .ok (bits a ||| bits b).toInt
  | "^" => .ok (bits a ^^^ bits b).toInt
  | "&" => .ok (bits a &&& bits b).toInt
  | "==" => .ok (ofBool (a == b))
  | "!=" => .ok (ofBool (a != b))
  | "<" => .ok (ofBool (a < b))
  | "<=" => .ok (ofBool (a ≤ b))
  | ">" => .ok (ofBool (b < a))
  | ">=" => .ok (ofBool (b ≤ a))
  | "<<" => .ok (bits a <<< shiftOf b).toInt
  | ">>" => .ok ((bits a).sshiftRight (shiftOf b)).toInt
  | "+" => .ok (wrap (a + b))
  | "-" => .ok (wrap (a - b))
  | "*" => .ok (wrap (a * b))
  | "/" => if b = 0 then .error .divisionByZero else .ok (wrap (a.tdiv b))
  | "%" => if b = 0 then .error .divisionByZero else .ok (a.tmod b)
  | _ => .ok b

/-- The operator that an assignment applies to the old value; an empty one gives the new value. -/
def assigned? (operator : String) : Option String :=
  if ["=", "+=", "-=", "*=", "/=", "%=", "&=", "|=", "^=", "<<=", ">>="].contains operator then
    some (String.ofList operator.toList.dropLast)
  else none

/-- The number in a variable. -/
def numberIn (text : String) : Except ValueError Int :=
  match numberOf? text with
  | some n => .ok n
  | none => .error (.illegalNumber text)

section

variable {σ : Type} (x : Access σ)

mutual

/-- Evaluates an operand. -/
def operand : Nat → (isUsed : Bool) → σ → List Token → Except ValueError (Valued σ)
  | 0, _, _, _ => .error (.expecting "primary")
  | fuel + 1, isUsed, s, tokens =>
    let mapped (f : Int → Int) (rest : List Token) : Except ValueError (Valued σ) :=
      (operand fuel isUsed s rest).map fun v => { v with value := f v.value }
    match tokens with
    | .number n :: rest => .ok ⟨n, s, rest⟩
    | .name name :: rest =>
      if isUsed then (numberIn (x.read s name)).map fun n => ⟨n, s, rest⟩ else .ok ⟨0, s, rest⟩
    | .operator "-" :: rest => mapped (fun n => wrap (-n)) rest
    | .operator "+" :: rest => operand fuel isUsed s rest
    | .operator "!" :: rest => mapped (fun n => ofBool (n == 0)) rest
    | .operator "~" :: rest => mapped (fun n => -n - 1) rest
    | .operator "(" :: rest => do
      let v ← assignment fuel isUsed s rest
      match v.rest with
      | .operator ")" :: rest => return { v with rest := rest }
      | _ => throw (.expecting "')'")
    | _ => .error (.expecting "primary")

/-- Evaluates the operators after an operand that bind at least as tightly as `level`. -/
def operations : Nat → (isUsed : Bool) → (level : Nat) → Valued σ → Except ValueError (Valued σ)
  | 0, _, _, _ => .error (.expecting "primary")
  | fuel + 1, isUsed, level, left =>
    match left.rest with
    | .operator text :: rest =>
      match precedence? text with
      | some tight =>
        if tight < level then .ok left
        else do
          let first ← operand fuel isUsed left.state rest
          let right ← operations fuel isUsed (tight + 1) first
          let value ← if isUsed then combine text left.value right.value else pure right.value
          operations fuel isUsed level { right with value := value }
      | none => .ok left
    | _ => .ok left

/-- Evaluates conditions that all have to hold. -/
def conjunction : Nat → (isUsed : Bool) → σ → List Token → Except ValueError (Valued σ)
  | 0, _, _, _ => .error (.expecting "primary")
  | fuel + 1, isUsed, s, tokens => do
    let first ← operand fuel isUsed s tokens
    let a ← operations fuel isUsed 0 first
    match a.rest with
    | .operator "&&" :: rest =>
      let b ← conjunction fuel (isUsed && a.value != 0) a.state rest
      return { b with value := ofBool (a.value != 0 && b.value != 0) }
    | _ => return a

/-- Evaluates conditions of which one has to hold. -/
def disjunction : Nat → (isUsed : Bool) → σ → List Token → Except ValueError (Valued σ)
  | 0, _, _, _ => .error (.expecting "primary")
  | fuel + 1, isUsed, s, tokens => do
    let a ← conjunction fuel isUsed s tokens
    match a.rest with
    | .operator "||" :: rest =>
      let b ← disjunction fuel (isUsed && a.value == 0) a.state rest
      return { b with value := ofBool (a.value != 0 || b.value != 0) }
    | _ => return a

/-- Evaluates a condition that may choose between two values. -/
def choice : Nat → (isUsed : Bool) → σ → List Token → Except ValueError (Valued σ)
  | 0, _, _, _ => .error (.expecting "primary")
  | fuel + 1, isUsed, s, tokens => do
    let a ← disjunction fuel isUsed s tokens
    match a.rest with
    | .operator "?" :: rest =>
      let yes ← assignment fuel (isUsed && a.value != 0) a.state rest
      match yes.rest with
      | .operator ":" :: rest =>
        let no ← choice fuel (isUsed && a.value == 0) yes.state rest
        return { no with value := if a.value != 0 then yes.value else no.value }
      | _ => throw (.expecting "':'")
    | _ => return a

/-- Evaluates an expression, which may assign its value to a variable. -/
def assignment : Nat → (isUsed : Bool) → σ → List Token → Except ValueError (Valued σ)
  | 0, _, _, _ => .error (.expecting "primary")
  | fuel + 1, isUsed, s, tokens =>
    match tokens with
    | .name name :: .operator text :: rest =>
      match assigned? text with
      | some operator => do
        let v ← assignment fuel isUsed s rest
        if !isUsed then return v
        else
          let old ← if operator = "" then pure 0 else numberIn (x.read v.state name)
          let value ← combine operator old v.value
          match x.write v.state name (toString value) with
          | some s => return ⟨value, s, v.rest⟩
          | none => throw (.isReadonly name)
      | none => choice fuel isUsed s tokens
    | _ => choice fuel isUsed s tokens

end

/-- The value of an expression, and the variables after it. -/
def evaluate (s : σ) (text : String) : Except ValueError (Int × σ) :=
  let tokens := tokens (text.length + 1) text.toList
  match assignment x (6 * tokens.length + 6) true s tokens with
  | .ok ⟨n, s, []⟩ => .ok (n, s)
  | .ok _ => .error (.expecting "EOF")
  | .error e => .error e

end

/-- The message for an expression without a value. -/
def ValueError.message (text : String) : ValueError → String
  | .expecting what => "arithmetic expression: expecting " ++ what ++ ": \"" ++ text ++ "\""
  | .divisionByZero => "arithmetic expression: division by zero: \"" ++ text ++ "\""
  | .illegalNumber number => "Illegal number: " ++ number
  | .isReadonly name => name ++ ": is read only"

end SnippetForge.Shell.Arithmetic
