import SnippetForge.Shell.Awk.Sought
import SnippetForge.Shell.Awk.Token

/-!
# Reading programs for records

Rules, statements and expressions from tokens. Operators bind by levels; texts that follow each other
are joined, between comparisons and sums. A greater sign in a statement that prints names a file.
-/

namespace SnippetForge.Shell.Awk

/-- What is left of the tokens. -/
abbrev Rest := List Lexeme

/-- A reader gives what it has read and the tokens after that. -/
abbrev Reader (α : Type) := Rest → Except Complaint (α × Rest)

/-! ### Tokens -/

/-- A complaint about the next token. -/
def unexpected {α : Type} (rest : Rest) : Except Complaint α :=
  match rest with
  | x :: _ => .error ⟨x.line, "syntax error at or near " ++ x.shown⟩
  | [] => .error ⟨1, "syntax error at or near end of line"⟩

/-- Whether the next token is a mark. -/
def isMark (m : String) (rest : Rest) : Bool :=
  match rest with
  | ⟨.mark n, _, _⟩ :: _ => m == n
  | _ => false

/-- Whether the next token is a word. -/
def isWord (w : String) (rest : Rest) : Bool :=
  match rest with
  | ⟨.word v, _, _⟩ :: _ => w == v
  | _ => false

/-- Reads a mark. -/
def expect (m : String) : Reader Unit := fun rest =>
  if isMark m rest then .ok ((), rest.drop 1)
  else if m = ")" && isMark "\x7d" rest then
    .error ⟨((rest.head?).map (·.line)).getD 1, "missing ) near \x7d"⟩
  else unexpected rest

/-- The tokens without line ends at the start. -/
def skipLines : Rest → Rest
  | ⟨.newline, _, _⟩ :: rest => skipLines rest
  | rest => rest

/-- The tokens without ends of statements at the start. -/
def skipEnds : Rest → Rest
  | ⟨.newline, _, _⟩ :: rest => skipEnds rest
  | ⟨.mark ";", _, _⟩ :: rest => skipEnds rest
  | rest => rest

/-- Reads the end of a statement; a brace that closes a block may stand there. -/
def endStatement (rest : Rest) : Except Complaint Rest :=
  match rest with
  | [] => .ok []
  | ⟨.newline, _, _⟩ :: more => .ok (skipLines more)
  | ⟨.mark ";", _, _⟩ :: more => .ok (skipLines more)
  | rest => if isMark "\x7d" rest then .ok rest else unexpected rest

/-! ### Expressions -/

/-- The operations of marks that assign. -/
def assignments : List (String × Option Operation) :=
  [("=", none), ("+=", some .add), ("-=", some .sub), ("*=", some .mul), ("/=", some .div),
    ("%=", some .mod), ("^=", some .pow)]

/-- The comparisons of marks. -/
def comparisons : List (String × Comparison) :=
  [("<", .less), ("<=", .lessOrEqual), ("==", .equal), ("!=", .unequal), (">", .greater),
    (">=", .greaterOrEqual)]

/-- What the next mark means in a table. -/
def markIn? {α : Type} (table : List (String × α)) (rest : Rest) : Option α :=
  match rest with
  | ⟨.mark m, _, _⟩ :: _ => table.lookup m
  | _ => none

/-- Whether an expression is a place that holds a value. -/
def Expr.isPlace : Expr → Bool
  | .name _ => true
  | .item _ _ => true
  | .field _ => true
  | _ => false

/-- Whether the next token starts an operand that is joined to the one before. -/
def startsOperand (rest : Rest) : Bool :=
  match rest with
  | ⟨.number _, _, _⟩ :: _ => true
  | ⟨.text _, _, _⟩ :: _ => true
  | ⟨.regex _, _, _⟩ :: _ => true
  | ⟨.name _, _, _⟩ :: _ => true
  | ⟨.call _, _, _⟩ :: _ => true
  | ⟨.builtin _, _, _⟩ :: _ => true
  | ⟨.mark m, _, _⟩ :: _ => ["$", "(", "++", "--", "!"].contains m
  | _ => false

/-- How many values a function takes, at least and at most. -/
def arity : Builtin → Nat × Nat
  | .length => (0, 1)
  | .index => (2, 2)
  | .substr => (2, 3)
  | .split => (2, 4)
  | .matches => (2, 3)
  | .sub => (2, 3)
  | .gsub => (2, 3)
  | .sprintf => (1, 1000)
  | .atan2 => (2, 2)
  | .rand => (0, 0)
  | .srand => (0, 1)
  | .flush => (0, 1)
  | .systemTime => (0, 0)
  | .timeText => (0, 3)
  | .timeOf => (1, 2)
  | _ => (1, 1)

/-- The name of a function. -/
def builtinName (b : Builtin) : String :=
  ((builtins.find? fun e => e.2 == b).map (·.1)).getD ""

/-- A pattern as an expression. -/
def regexExpr (line : Nat) (source : List Char) : Except Complaint Expr :=
  match Sought.read source with
  | .ok e => .ok (.regex (String.ofList source) e)
  | .error flaw =>
    .error ⟨line, "regular expression compile failed (" ++ flaw.words ++ ")\n"
      ++ String.ofList source⟩

/-- An expression that stands for a pattern: a constant text is read at once. -/
def asPattern (rest : Rest) (e : Expr) : Except Complaint Expr :=
  match e with
  | .text s => regexExpr (((rest.head?).map (·.line)).getD 1) s.toList
  | e => .ok e

/-- The values of a function in which the pattern has been read. -/
def withPattern (rest : Rest) (b : Builtin) (es : List Expr) : Except Complaint (List Expr) :=
  match b, es with
  | .sub, e :: es => (asPattern rest e).map (· :: es)
  | .gsub, e :: es => (asPattern rest e).map (· :: es)
  | .matches, e :: p :: es => (asPattern rest p).map fun p => e :: p :: es
  | _, es => .ok es

mutual

/-- Reads an expression. `hasGreater` tells whether a greater sign compares. -/
def readExpr (hasGreater : Bool) : (fuel : Nat) → Reader Expr
  | 0, rest => unexpected rest
  | fuel + 1, rest => do
    let (a, rest) ← readOr hasGreater fuel rest
    if isMark "?" rest then
      let (yes, rest) ← readExpr hasGreater fuel (skipLines (rest.drop 1))
      let rest := skipLines rest
      let ((), rest) ← expect ":" rest
      let (no, rest) ← readExpr hasGreater fuel (skipLines rest)
      return (.choice a yes no, rest)
    else return (a, rest)

/-- Reads what is true if one of its parts is. -/
def readOr (hasGreater : Bool) : (fuel : Nat) → Reader Expr
  | 0, rest => unexpected rest
  | fuel + 1, rest => do
    let (a, rest) ← readAnd hasGreater fuel rest
    if isMark "||" rest then
      let (b, rest) ← readOr hasGreater fuel (skipLines (rest.drop 1))
      return (.either a b, rest)
    else return (a, rest)

/-- Reads what is true if all of its parts are. -/
def readAnd (hasGreater : Bool) : (fuel : Nat) → Reader Expr
  | 0, rest => unexpected rest
  | fuel + 1, rest => do
    let (a, rest) ← readIn hasGreater fuel rest
    if isMark "&&" rest then
      let (b, rest) ← readAnd hasGreater fuel (skipLines (rest.drop 1))
      return (.both a b, rest)
    else return (a, rest)

/-- Reads a question for the keys of a table. -/
def readIn (hasGreater : Bool) : (fuel : Nat) → Reader Expr
  | 0, rest => unexpected rest
  | fuel + 1, rest => do
    let (a, rest) ← readFits hasGreater fuel rest
    readInTail fuel a rest

/-- Reads the tables after a key. -/
def readInTail : (fuel : Nat) → Expr → Reader Expr
  | 0, _, rest => unexpected rest
  | fuel + 1, a, rest =>
    match rest with
    | ⟨.word "in", _, _⟩ :: ⟨.name table, _, _⟩ :: rest =>
      let indices := match a with
        | .several es => es
        | a => [a]
      readInTail fuel (.holds indices table) rest
    | rest => .ok (a, rest)

/-- Reads a search for a pattern. -/
def readFits (hasGreater : Bool) : (fuel : Nat) → Reader Expr
  | 0, rest => unexpected rest
  | fuel + 1, rest => do
    let (a, rest) ← readComparison hasGreater fuel rest
    readFitsTail hasGreater fuel a rest

/-- Reads the patterns after a text. -/
def readFitsTail (hasGreater : Bool) : (fuel : Nat) → Expr → Reader Expr
  | 0, _, rest => unexpected rest
  | fuel + 1, a, rest =>
    match markIn? [("~", false), ("!~", true)] rest with
    | some isNegated => do
      let (b, after) ← readComparison hasGreater fuel (rest.drop 1)
      let b ← asPattern rest b
      readFitsTail hasGreater fuel (.fits isNegated a b) after
    | none => .ok (a, rest)

/-- Reads a comparison. -/
def readComparison (hasGreater : Bool) : (fuel : Nat) → Reader Expr
  | 0, rest => unexpected rest
  | fuel + 1, rest => do
    let (a, rest) ← readJoin fuel rest
    readComparisonTail hasGreater fuel a rest

/-- Reads what an operand is compared with. -/
def readComparisonTail (hasGreater : Bool) : (fuel : Nat) → Expr → Reader Expr
  | 0, _, rest => unexpected rest
  | fuel + 1, a, rest =>
    match markIn? comparisons rest with
    | some k =>
      if k = .greater && !hasGreater then .ok (a, rest)
      else do
        let (b, rest) ← readJoin fuel (rest.drop 1)
        readComparisonTail hasGreater fuel (.compare k a b) rest
    | none => .ok (a, rest)

/-- Reads operands that are joined. -/
def readJoin : (fuel : Nat) → Reader Expr
  | 0, rest => unexpected rest
  | fuel + 1, rest => do
    let (a, rest) ← readSum fuel rest
    readJoinTail fuel a rest

/-- Reads the operands that are joined to one. -/
def readJoinTail : (fuel : Nat) → Expr → Reader Expr
  | 0, _, rest => unexpected rest
  | fuel + 1, a, rest =>
    let isSeveral := match a with
      | .several _ => true
      | _ => false
    if startsOperand rest && !isSeveral then do
      let (b, rest) ← readSum fuel rest
      readJoinTail fuel (.join a b) rest
    else .ok (a, rest)

/-- Reads a sum. -/
def readSum : (fuel : Nat) → Reader Expr
  | 0, rest => unexpected rest
  | fuel + 1, rest => do
    let (a, rest) ← readProduct fuel rest
    readSumTail fuel a rest

/-- Reads what is added to an operand. -/
def readSumTail : (fuel : Nat) → Expr → Reader Expr
  | 0, _, rest => unexpected rest
  | fuel + 1, a, rest =>
    match markIn? [("+", Operation.add), ("-", .sub)] rest with
    | some k => do
      let (b, rest) ← readProduct fuel (rest.drop 1)
      readSumTail fuel (.arithmetic k a b) rest
    | none => .ok (a, rest)

/-- Reads a product. -/
def readProduct : (fuel : Nat) → Reader Expr
  | 0, rest => unexpected rest
  | fuel + 1, rest => do
    let (a, rest) ← readUnary fuel rest
    readProductTail fuel a rest

/-- Reads what an operand is multiplied with or divided by. -/
def readProductTail : (fuel : Nat) → Expr → Reader Expr
  | 0, _, rest => unexpected rest
  | fuel + 1, a, rest =>
    match markIn? [("*", Operation.mul), ("/", .div), ("%", .mod)] rest with
    | some k => do
      let (b, rest) ← readUnary fuel (rest.drop 1)
      readProductTail fuel (.arithmetic k a b) rest
    | none => .ok (a, rest)

/-- Reads an operand with signs before it. -/
def readUnary : (fuel : Nat) → Reader Expr
  | 0, rest => unexpected rest
  | fuel + 1, rest =>
    if isMark "!" rest then do
      let (e, rest) ← readUnary fuel (rest.drop 1)
      return (.not e, rest)
    else if isMark "-" rest then do
      let (e, rest) ← readUnary fuel (rest.drop 1)
      return (.minus e, rest)
    else if isMark "+" rest then do
      let (e, rest) ← readUnary fuel (rest.drop 1)
      return (.plus e, rest)
    else do
      let (a, rest) ← readPower fuel rest
      readPiped fuel a rest

/-- Reads the records that come from commands. -/
def readPiped : (fuel : Nat) → Expr → Reader Expr
  | 0, _, rest => unexpected rest
  | fuel + 1, a, rest =>
    match rest with
    | ⟨.mark "|", _, _⟩ :: ⟨.word "getline", _, _⟩ :: rest => do
      let (target, rest) ← readPlace? fuel rest
      readPiped fuel (.getline .command (some a) target) rest
    | rest => .ok (a, rest)

/-- Reads a power. -/
def readPower : (fuel : Nat) → Reader Expr
  | 0, rest => unexpected rest
  | fuel + 1, rest => do
    let (a, rest) ← readCounted fuel rest
    if isMark "^" rest then
      let (b, rest) ← readUnary fuel (rest.drop 1)
      return (.arithmetic .pow a b, rest)
    else return (a, rest)

/-- Reads an operand with what is assigned to it or counted on it. -/
def readCounted : (fuel : Nat) → Reader Expr
  | 0, rest => unexpected rest
  | fuel + 1, rest => do
    let (a, rest) ← readOperand fuel rest
    if !a.isPlace then return (a, rest)
    else if isMark "++" rest then return (.count a false true, rest.drop 1)
    else if isMark "--" rest then return (.count a false false, rest.drop 1)
    else
      match markIn? assignments rest with
      | some k =>
        let (b, rest) ← readExpr true fuel (skipLines (rest.drop 1))
        return (.assign a k b, rest)
      | none => return (a, rest)

/-- Reads a place for a value, if there is one. -/
def readPlace? : (fuel : Nat) → Reader (Option Expr)
  | 0, rest => unexpected rest
  | fuel + 1, rest =>
    let starts : Bool := match rest with
      | ⟨.name _, _, _⟩ :: _ => true
      | ⟨.mark "$", _, _⟩ :: _ => true
      | _ => false
    if starts then do
      let (e, rest) ← readOperand fuel rest
      return (some e, rest)
    else .ok (none, rest)

/-- Reads expressions between commas. -/
def readList (hasGreater : Bool) : (fuel : Nat) → Reader (List Expr)
  | 0, rest => unexpected rest
  | fuel + 1, rest => do
    let (e, rest) ← readExpr hasGreater fuel rest
    if isMark "," rest then
      let (es, rest) ← readList hasGreater fuel (skipLines (rest.drop 1))
      return (e :: es, rest)
    else return ([e], rest)

/-- Reads the values of a function, in parentheses. -/
def readArguments : (fuel : Nat) → Reader (List Expr)
  | 0, rest => unexpected rest
  | fuel + 1, rest => do
    let ((), rest) ← expect "(" rest
    if isMark ")" rest then return ([], rest.drop 1)
    else
      let (es, rest) ← readList true fuel (skipLines rest)
      let ((), rest) ← expect ")" (skipLines rest)
      return (es, rest)

/-- Reads an operand. -/
def readOperand : (fuel : Nat) → Reader Expr
  | 0, rest => unexpected rest
  | fuel + 1, rest =>
    match rest with
    | ⟨.number n, _, _⟩ :: rest => .ok (.number n, rest)
    | ⟨.text s, _, _⟩ :: rest => .ok (.text s, rest)
    | ⟨.regex source, line, _⟩ :: rest => (regexExpr line source).map fun e => (e, rest)
    | ⟨.name n, _, _⟩ :: rest =>
      if isMark "[" rest then do
        let (es, rest) ← readList true fuel (rest.drop 1)
        let ((), rest) ← expect "]" rest
        return (.item n es, rest)
      else if isMark "(" rest then .ok (.name n, rest)
      else .ok (.name n, rest)
    | ⟨.call n, _, _⟩ :: rest => do
      let (es, rest) ← readArguments fuel rest
      return (.call n es, rest)
    | ⟨.builtin b, line, _⟩ :: rest =>
      if isMark "(" rest then do
        let (es, rest) ← readArguments fuel rest
        let (least, most) := arity b
        if es.length < least || most < es.length then
          throw ⟨line, "wrong number of arguments in call to " ++ builtinName b⟩
        else
          let es ← withPattern rest b es
          return (.builtin b es, rest)
      else if b == .length then .ok (.builtin .length [], rest)
      else unexpected rest
    | ⟨.mark "$", _, _⟩ :: rest => do
      let (e, rest) ←
        if isMark "-" rest then do
          let (e, rest) ← readOperand fuel (rest.drop 1)
          pure (Expr.minus e, rest)
        else readOperand fuel rest
      return (.field e, rest)
    | ⟨.mark "++", _, _⟩ :: rest => do
      let (e, after) ← readOperand fuel rest
      if e.isPlace then return (.count e true true, after) else unexpected rest
    | ⟨.mark "--", _, _⟩ :: rest => do
      let (e, after) ← readOperand fuel rest
      if e.isPlace then return (.count e true false, after) else unexpected rest
    | ⟨.mark "(", _, _⟩ :: rest => do
      let (es, rest) ← readList true fuel (skipLines rest)
      let ((), rest) ← expect ")" (skipLines rest)
      match es with
      | [e] => return (e, rest)
      | es =>
        match rest with
        | ⟨.word "in", _, _⟩ :: ⟨.name table, _, _⟩ :: rest => return (.holds es table, rest)
        | rest => return (.several es, rest)
    | ⟨.mark "!", _, _⟩ :: rest => do
      let (e, rest) ← readUnary fuel rest
      return (.not e, rest)
    | ⟨.mark "-", _, _⟩ :: rest => do
      let (e, rest) ← readUnary fuel rest
      return (.minus e, rest)
    | ⟨.mark "+", _, _⟩ :: rest => do
      let (e, rest) ← readUnary fuel rest
      return (.plus e, rest)
    | ⟨.word "getline", _, _⟩ :: rest => do
      let (target, rest) ← readPlace? fuel rest
      if isMark "<" rest then
        let (source, rest) ← readOperand fuel (rest.drop 1)
        return (.getline .file (some source) target, rest)
      else return (.getline .main none target, rest)
    | rest => unexpected rest

end

/-! ### Statements -/

/-- Reads where a statement that prints writes to. -/
def readOutlet (fuel : Nat) : Reader (Option (Outlet × Expr)) := fun rest =>
  match markIn? [(">", Outlet.overwrite), (">>", .append), ("|", .command)] rest with
  | some outlet => do
    let (e, rest) ← readExpr false fuel (rest.drop 1)
    return (some (outlet, e), rest)
  | none => .ok (none, rest)

/-- Whether a statement ends at the next token, or names a file there. -/
def endsPrinting (rest : Rest) : Bool :=
  match rest with
  | [] => true
  | ⟨.newline, _, _⟩ :: _ => true
  | ⟨.mark m, _, _⟩ :: _ => [";", "\x7d", ">", ">>", "|"].contains m
  | _ => false

/-- Reads the values of a statement that prints. -/
def readPrinted (fuel : Nat) : Reader (List Expr) := fun rest =>
  if endsPrinting rest then .ok ([], rest)
  else if isMark "(" rest && isMark ")" (rest.drop 1) then .ok ([], rest.drop 2)
  else do
    let (es, rest) ← readList false fuel rest
    match es with
    | [.several es] => return (es, rest)
    | es => return (es, rest)

/-- Reads a statement that needs no end: an expression, or one that prints or removes. -/
def readSimple (fuel : Nat) : Reader Statement := fun rest =>
  match rest with
  | ⟨.word "print", _, _⟩ :: rest => do
    let (es, rest) ← readPrinted fuel rest
    let (outlet, rest) ← readOutlet fuel rest
    return (.print es outlet, rest)
  | ⟨.word "printf", line, _⟩ :: rest => do
    let (es, rest) ← readPrinted fuel rest
    if es.isEmpty then throw ⟨line, "no arguments in call to printf"⟩
    let (outlet, rest) ← readOutlet fuel rest
    return (.format es outlet, rest)
  | ⟨.word "delete", _, _⟩ :: ⟨.name table, _, _⟩ :: rest =>
    if isMark "[" rest then do
      let (es, rest) ← readList true fuel (rest.drop 1)
      let ((), rest) ← expect "]" rest
      return (.remove table (some es), rest)
    else .ok (.remove table none, rest)
  | ⟨.word "delete", _, _⟩ :: rest => unexpected rest
  | rest => do
    let (e, rest) ← readExpr true fuel rest
    return (.value e, rest)

/-- Reads the value after a word, if there is one. -/
def readValue? (fuel : Nat) : Reader (Option Expr) := fun rest =>
  if endsPrinting rest then .ok (none, rest)
  else do
    let (e, rest) ← readExpr true fuel rest
    return (some e, rest)

/-- What surrounds a statement, by which some statements are refused. -/
structure Surroundings where
  inLoop : Bool
  inFunction : Bool
  /-- Whether the statements belong to no record. -/
  isOutside : Bool

/-- A complaint about a word that is out of its place. -/
def misplaced {α : Type} (x : Lexeme) : Except Complaint α :=
  match x.token with
  | .word "return" => .error ⟨x.line, "return outside function body"⟩
  | .word "break" => .error ⟨x.line, "break statement outside of loop"⟩
  | .word "continue" => .error ⟨x.line, "continue statement outside of loop"⟩
  | _ => .error ⟨x.line, "improper use of " ++ x.shown⟩

mutual

/-- Reads a statement. -/
def readStatement (k : Surroundings) : (fuel : Nat) → Reader Statement
  | 0, rest => unexpected rest
  | fuel + 1, rest =>
    let simple (s : Statement) (rest : Rest) : Except Complaint (Statement × Rest) :=
      (endStatement rest).map fun rest => (s, rest)
    match rest with
    | ⟨.mark "\x7b", _, _⟩ :: rest => do
      let (ss, rest) ← readBlock k fuel (skipEnds rest)
      return (.block ss, rest)
    | ⟨.mark ";", _, _⟩ :: rest => .ok (.nothing, skipLines rest)
    | ⟨.word "if", _, _⟩ :: rest => do
      let ((), rest) ← expect "(" rest
      let (condition, rest) ← readExpr true fuel rest
      let ((), rest) ← expect ")" rest
      let (yes, rest) ← readStatement k fuel (skipLines rest)
      let after := skipEnds rest
      if isWord "else" after then
        let (no, rest) ← readStatement k fuel (skipLines (after.drop 1))
        return (.choice condition yes (some no), rest)
      else return (.choice condition yes none, rest)
    | ⟨.word "while", _, _⟩ :: rest => do
      let ((), rest) ← expect "(" rest
      let (condition, rest) ← readExpr true fuel rest
      let ((), rest) ← expect ")" rest
      if isMark ";" rest then return (.whileTrue condition .nothing, skipLines (rest.drop 1))
      else
        let (body, rest) ← readStatement { k with inLoop := true } fuel (skipLines rest)
        return (.whileTrue condition body, rest)
    | ⟨.word "do", _, _⟩ :: rest => do
      let (body, rest) ← readStatement { k with inLoop := true } fuel (skipLines rest)
      let rest := skipEnds rest
      if isWord "while" rest then
        let ((), rest) ← expect "(" (rest.drop 1)
        let (condition, rest) ← readExpr true fuel rest
        let ((), rest) ← expect ")" rest
        simple (.untilFalse body condition) rest
      else unexpected rest
    | ⟨.word "for", _, _⟩ :: rest => do
      let ((), rest) ← expect "(" rest
      match rest with
      | ⟨.name n, _, _⟩ :: ⟨.word "in", _, _⟩ :: ⟨.name table, _, _⟩ :: ⟨.mark ")", _, _⟩ :: rest =>
        let (body, rest) ← readStatement { k with inLoop := true } fuel (skipLines rest)
        return (.each n table body, rest)
      | rest =>
        let (start, rest) ← readClause fuel ";" rest
        let rest := skipLines rest
        let (condition, rest) ←
          if isMark ";" rest then pure (none, rest.drop 1)
          else do
            let (e, rest) ← readExpr true fuel rest
            let ((), rest) ← expect ";" rest
            pure (some e, rest)
        let (next, rest) ← readClause fuel ")" (skipLines rest)
        if isMark ";" rest then
          return (.loop start condition next .nothing, skipLines (rest.drop 1))
        else
          let (body, rest) ← readStatement { k with inLoop := true } fuel (skipLines rest)
          return (.loop start condition next body, rest)
    | x :: more =>
      match x.token with
      | .word "next" => if k.isOutside then misplaced x else simple .nextRecord more
      | .word "nextfile" => if k.isOutside then misplaced x else simple .nextFile more
      | .word "break" => if k.inLoop then simple .leaveLoop more else misplaced x
      | .word "continue" => if k.inLoop then simple .goRound more else misplaced x
      | .word "exit" => do
        let (e, rest) ← readValue? fuel more
        simple (.quit e) rest
      | .word "return" =>
        if !k.inFunction then misplaced x
        else do
          let (e, rest) ← readValue? fuel more
          simple (.giveBack e) rest
      | _ => do
        let (s, rest) ← readSimple (8 * (more.length + 1)) (x :: more)
        simple s rest
    | [] => unexpected []

/-- Reads a part of the head of a loop up to a mark. -/
def readClause : (fuel : Nat) → (m : String) → Reader (Option Statement)
  | 0, _, rest => unexpected rest
  | _ + 1, m, rest =>
    if isMark m rest then .ok (none, rest.drop 1)
    else do
      let (s, rest) ← readSimple (8 * (rest.length + 1)) rest
      let ((), rest) ← expect m rest
      return (some s, rest)

/-- Reads statements up to a closing brace. -/
def readBlock (k : Surroundings) : (fuel : Nat) → Reader (List Statement)
  | 0, rest => unexpected rest
  | fuel + 1, rest =>
    if isMark "\x7d" rest then .ok ([], rest.drop 1)
    else do
      let (s, rest) ← readStatement k fuel rest
      let (ss, rest) ← readBlock k fuel (skipEnds rest)
      return (s :: ss, rest)

end

/-! ### Programs -/

/-- Reads a block of statements after its brace. -/
def readBody (k : Surroundings) (fuel : Nat) : Reader Statement := fun rest => do
  let ((), rest) ← expect "\x7b" rest
  let (ss, rest) ← readBlock k fuel (skipEnds rest)
  return (.block ss, rest)

/-- Reads the names of a function's parameters. -/
def readParameters : (fuel : Nat) → (seen : List String) → Reader (List String)
  | 0, _, rest => unexpected rest
  | fuel + 1, seen, rest =>
    match skipLines rest with
    | ⟨.mark ")", _, _⟩ :: rest => .ok (seen.reverse, rest)
    | ⟨.name n, line, _⟩ :: rest =>
      if seen.contains n then .error ⟨line, n ++ " is duplicated in argument list"⟩
      else if isMark "," rest then readParameters fuel (n :: seen) (rest.drop 1)
      else do
        let ((), rest) ← expect ")" rest
        return ((n :: seen).reverse, rest)
    | rest => unexpected rest

/-- Adds rules and functions to a program until all tokens are read. -/
def readItems : (fuel : Nat) → Program → Rest → Except Complaint Program
  | 0, p, _ => .ok p
  | fuel + 1, p, rest =>
    let size := 8 * (rest.length + 1)
    let inRule : Surroundings := ⟨false, false, false⟩
    let outside : Surroundings := ⟨false, false, true⟩
    match skipEnds rest with
    | [] => .ok p
    | ⟨.word "BEGIN", _, _⟩ :: rest => do
      let (s, rest) ← readBody outside size rest
      readItems fuel { p with starts := p.starts ++ [s] } rest
    | ⟨.word "END", _, _⟩ :: rest => do
      let (s, rest) ← readBody outside size rest
      readItems fuel { p with finishes := p.finishes ++ [s] } rest
    | ⟨.word "function", _, _⟩ :: x :: rest => do
      let name ← match x.token with
        | .name n => pure n
        | .call n => pure n
        | _ => unexpected (x :: rest)
      if (p.definitions.lookup name).isSome then throw ⟨x.line, "redefinition of " ++ name⟩
      let ((), rest) ← expect "(" rest
      let (parameters, rest) ← readParameters (rest.length + 1) [] rest
      let (body, rest) ← readBody ⟨false, true, true⟩ size (skipLines rest)
      readItems fuel { p with definitions := p.definitions ++ [(name, ⟨parameters, body⟩)] } rest
    | rest => do
      let (guard, rest) ←
        if isMark "\x7b" rest then pure (Guard.always, rest)
        else do
          let (first, rest) ← readExpr true size rest
          if isMark "," rest then
            let (last, rest) ← readExpr true size (skipLines (rest.drop 1))
            pure (Guard.between first last, rest)
          else pure (Guard.when first, rest)
      if isMark "\x7b" rest then
        let (s, rest) ← readBody inRule size rest
        readItems fuel { p with rules := p.rules ++ [(guard, s)] } rest
      else
        let rest ← endStatement rest
        readItems fuel { p with rules := p.rules ++ [(guard, .print [] none)] } rest

/-- What is wrong with a program. -/
structure Refusal where
  strangers : Strangers
  complaints : List Complaint

/-- Reads a program, or tells what is wrong with it. -/
def readProgram (text : List Char) : Except Refusal Program :=
  let k := cut (text.length + 1) ⟨1, 0, 0, none⟩ text
  let refuse (complaints : List Complaint) : Except Refusal Program :=
    .error ⟨k.strangers, k.extras ++ complaints⟩
  match k.flaw with
  | some flaw => refuse [flaw]
  | none =>
    match readItems (k.lexemes.length + 1) ⟨[], [], [], []⟩ k.lexemes with
    | .error flaw =>
      let isAtEnd := 0 < k.openBraces && flaw.text = "syntax error at or near end of line"
      refuse [if isAtEnd then ⟨k.lastLine, "missing \x7d near end of file"⟩ else flaw]
    | .ok p =>
      let missing := k.lexemes.filterMap fun x =>
        match x.token with
        | .call n =>
          if (p.definitions.lookup n).isSome then none
          else some (⟨k.lastLine, "function " ++ n ++ " never defined"⟩ : Complaint)
        | _ => none
      if k.strangers.isEmpty && k.extras.isEmpty && missing.isEmpty then .ok p else refuse missing

end SnippetForge.Shell.Awk
