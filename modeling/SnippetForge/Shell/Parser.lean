import SnippetForge.Shell.Token

/-!
# Reading shell scripts

A recursive reader over the characters that are left. Words end at blanks and at the characters
that separate or redirect commands. A word that stands where a command may start can be a reserved
word; such words open and close the compound commands. It can also be an alias, whose text is read
in its place; inside of that text the alias is an ordinary word.

Every reader takes fuel. As each step takes at least one character or goes down one level of the
grammar, a fixed multiple of the length is enough fuel. A reader fails with a flaw, which says what
is wrong and where.

A script is read line by line, a line being as many lines as its commands need, so that the commands
before a flaw run.
-/

namespace SnippetForge.Shell

/-! ### Words and commands -/

mutual

/-- Reads what follows a dollar sign. -/
def readDollar (k : Reading) : Nat → (isQuoted : Bool) → List Char →
    Except Flaw (Fragment × List Char)
  | 0, _, _ => .error k.exhausted
  | fuel + 1, isQuoted, cs =>
    match skipJoins cs with
    | '(' :: rest =>
      match skipJoins rest with
      | '(' :: rest => (readArithmetic k fuel 0 rest).map fun p => (.arithmetic p.1 isQuoted, p.2)
      | rest => readScriptIn k fuel isQuoted rest
    | '\x7b' :: rest =>
      match skipJoins rest with
      | '#' :: rest =>
        match (parameterStart (joinRun isNameChar rest)).map fun p => (p.1, skipJoins p.2) with
        | some (name, '\x7d' :: rest) => .ok (.parameter name .length isQuoted, rest)
        | _ => readBraced k fuel isQuoted ('#' :: rest)
      | rest => readBraced k fuel isQuoted rest
    | c :: rest =>
      if c.isDigit then .ok (.parameter (String.singleton c) .plain isQuoted, rest)
      else
        match parameterStart (joinRun isNameChar (c :: rest)) with
        | some (name, rest) => .ok (.parameter name .plain isQuoted, rest)
        | none => .ok (.literal "$" isQuoted, c :: rest)
    | [] => .ok (.literal "$" isQuoted, [])

/-- Reads the script of a substitution. -/
def readScriptIn (k : Reading) : Nat → (isQuoted : Bool) → List Char →
    Except Flaw (Fragment × List Char)
  | 0, _, _ => .error k.exhausted
  | fuel + 1, isQuoted, cs => do
    let (script, rest) ← readList k fuel false cs
    let rest ← expectParen k (skipSpace rest)
    return (.substitution script isQuoted, rest)

/-- Reads what follows the opening mark of an old-style substitution, which has lines of its
own. -/
def readOldScript (k : Reading) : Nat → (isQuoted : Bool) → List Char →
    Except Flaw (Fragment × List Char)
  | 0, _, _ => .error k.exhausted
  | fuel + 1, isQuoted, cs =>
    match readBackquoted isQuoted cs with
    | none => .error k.openSubstitution
    | some (text, rest) => do
      let k := Reading.ofText text k.aliases
      let (script, after) ← readList k fuel false text
      if after.isEmpty then return (.substitution script isQuoted, rest)
      else throw (unexpected k after none)

/-- Reads what follows an opening brace. -/
def readBraced (k : Reading) : Nat → (isQuoted : Bool) → List Char →
    Except Flaw (Fragment × List Char)
  | 0, _, _ => .error k.exhausted
  | fuel + 1, isQuoted, cs =>
    match (parameterStart (joinRun isNameChar cs)).map fun p => (p.1, skipJoins p.2) with
    | none => unknownEdit k fuel "" isQuoted cs
    | some (name, '\x7d' :: rest) => .ok (.parameter name .plain isQuoted, rest)
    | some (name, rest) =>
      let rest := joinRun isEditChar rest
      match editOperator rest with
      | none =>
        let (k, rest) := skipUnknownEdit k rest
        unknownEdit k fuel name isQuoted rest
      | some (edit, isPattern, rest) => do
        let (word, rest) ← readInner k fuel (isQuoted && !isPattern) rest
        return (.parameter name (edit word) isQuoted, rest)

/-- Reads up to a closing brace without knowing what for. -/
def unknownEdit (k : Reading) : Nat → (name : String) → (isQuoted : Bool) → List Char →
    Except Flaw (Fragment × List Char)
  | 0, _, _, _ => .error k.exhausted
  | fuel + 1, name, isQuoted, cs => do
    let (_, rest) ← readInner k fuel isQuoted cs
    return (.parameter name .unknown isQuoted, rest)

/-- Reads the word of a braced parameter up to the closing brace. -/
def readInner (k : Reading) : Nat → (isQuoted : Bool) → List Char → Except Flaw (Word × List Char)
  | 0, _, _ => .error k.exhausted
  | fuel + 1, isQuoted, cs =>
    match cs with
    | '\x7d' :: rest => .ok ([], rest)
    | '"' :: rest => do
      let (inner, rest) ← readQuoted k fuel true rest
      let (word, rest) ← readInner k fuel isQuoted rest
      return (quotation inner ++ word, rest)
    | '\\' :: '\n' :: rest => readInner k fuel isQuoted rest
    | '\\' :: c :: rest =>
      let isPlain := c == '$' || c == '\\' || c == backquote || c == '"' || c == '\x7d'
      if isQuoted && !isPlain then
        consChar '\\' true (consChar c true (readInner k fuel isQuoted rest))
      else consChar c true (readInner k fuel isQuoted rest)
    | '$' :: rest => do
      let (f, rest) ← readDollar k fuel isQuoted rest
      consRead f (readInner k fuel isQuoted rest)
    | c :: rest =>
      if c = joinedEnd then readInner k fuel isQuoted rest
      else if c = '\'' && !isQuoted then
        match rest.dropWhile (· != '\'') with
        | _ :: after =>
          consRead (.literal (String.ofList (rest.takeWhile (· != '\''))) true)
            (readInner k fuel isQuoted after)
        | [] => .error k.openQuotation
      else if c = backquote then do
        let (f, rest) ← readOldScript k fuel isQuoted rest
        consRead f (readInner k fuel isQuoted rest)
      else consChar c isQuoted (readInner k fuel isQuoted rest)
    | [] => .error (k.openBrace isQuoted)

/-- Reads an expression up to the two parentheses that close it. -/
def readArithmetic (k : Reading) : Nat → (depth : Nat) → List Char → Except Flaw (Word × List Char)
  | 0, _, _ => .error k.exhausted
  | fuel + 1, depth, cs =>
    match cs with
    | ')' :: rest =>
      match depth, skipJoins rest with
      | 0, ')' :: rest => .ok ([], rest)
      | depth, _ => consChar ')' true (readArithmetic k fuel (depth - 1) rest)
    | '(' :: rest => consChar '(' true (readArithmetic k fuel (depth + 1) rest)
    | '\\' :: '\n' :: rest => readArithmetic k fuel depth rest
    | '$' :: rest => do
      let (f, rest) ← readDollar k fuel true rest
      consRead f (readArithmetic k fuel depth rest)
    | c :: rest =>
      if c = joinedEnd then readArithmetic k fuel depth rest
      else if c = backquote then do
        let (f, rest) ← readOldScript k fuel true rest
        consRead f (readArithmetic k fuel depth rest)
      else consChar c true (readArithmetic k fuel depth rest)
    | [] => .error k.openExpression

/-- Reads the rest of a part between double quotes, or a text that ends where the characters do and
in which double quotes stand for themselves. -/
def readQuoted (k : Reading) : Nat → (hasEnd : Bool) → List Char → Except Flaw (Word × List Char)
  | 0, _, _ => .error k.exhausted
  | fuel + 1, hasEnd, cs =>
    match cs with
    | '\\' :: '\n' :: rest => readQuoted k fuel hasEnd rest
    | '\\' :: c :: rest =>
      if c == '$' || c == '\\' || c == backquote || (hasEnd && c == '"') then
        consChar c true (readQuoted k fuel hasEnd rest)
      else consChar '\\' true (consChar c true (readQuoted k fuel hasEnd rest))
    | '$' :: rest => do
      let (f, rest) ← readDollar k fuel true rest
      consRead f (readQuoted k fuel hasEnd rest)
    | c :: rest =>
      if c = joinedEnd then readQuoted k fuel hasEnd rest
      else if c = '"' && hasEnd then .ok ([], rest)
      else if c = backquote then do
        let (f, rest) ← readOldScript k fuel true rest
        consRead f (readQuoted k fuel hasEnd rest)
      else consChar c true (readQuoted k fuel hasEnd rest)
    | [] => if hasEnd then .error k.openQuotation else .ok ([], [])

/-- Reads the rest of a word. -/
def readWord (k : Reading) : Nat → List Char → Except Flaw (Word × List Char)
  | 0, _ => .error k.exhausted
  | fuel + 1, cs =>
    match cs with
    | [] => .ok ([], [])
    | '\'' :: rest =>
      match rest.dropWhile (· != '\'') with
      | _ :: after =>
        (readWord k fuel after).map fun p =>
          (.literal (String.ofList (rest.takeWhile (· != '\''))) true :: p.1, p.2)
      | [] => .error k.openQuotation
    | '"' :: rest => do
      let (inner, rest) ← readQuoted k fuel true rest
      let (word, rest) ← readWord k fuel rest
      return (quotation inner ++ word, rest)
    | '\\' :: '\n' :: rest => readWord k fuel rest
    | '\\' :: c :: rest =>
      (readWord k fuel rest).map fun p => (.literal (String.singleton c) true :: p.1, p.2)
    | '$' :: rest => do
      let (f, rest) ← readDollar k fuel false rest
      (readWord k fuel rest).map fun p => (f :: p.1, p.2)
    | c :: rest =>
      if c = joinedEnd then readWord k fuel rest
      else if endsWord c then .ok ([], cs)
      else if c = backquote then do
        let (f, rest) ← readOldScript k fuel false rest
        (readWord k fuel rest).map fun p => (f :: p.1, p.2)
      else consChar c false (readWord k fuel rest)

/-- Reads the target of a redirection. -/
def readTarget (k : Reading) : Nat → List Char → Except Flaw (Word × List Char)
  | 0, _ => .error k.exhausted
  | fuel + 1, cs =>
    match skipGaps cs with
    | [] => .error (unexpected k [] none)
    | c :: rest =>
      if endsWord c then .error (unexpected k (c :: rest) none) else readWord k fuel (c :: rest)

/-- Reads a redirection whose target is a part of the script. -/
def readHere (k : Reading) : Nat → (descriptor : Nat) → (dropsTabs : Bool) → List Char →
    Except Flaw (Redirect × List Char)
  | 0, _, _, _ => .error k.exhausted
  | fuel + 1, descriptor, dropsTabs, cs => do
    let (word, rest) ← readTarget k fuel cs
    let (delimiter, isQuoted) := delimiterOf word
    let (body, rest, after) := cutHere delimiter dropsTabs rest
    if isQuoted then return (.mk descriptor .here [.literal (String.ofList body) true], rest)
    else
      let inner := { k with lastLine := k.lineAt after - 1, isHere := true }
      let (target, _) ← readQuoted inner fuel false body
      return (.mk descriptor .here (.literal "" true :: target), rest)

/-- Reads a redirection after its descriptor, if one is there. -/
def readRedirect (k : Reading) : Nat → (descriptor : Option Nat) → List Char →
    Except Flaw (Option (Redirect × List Char))
  | 0, _, _ => .error k.exhausted
  | fuel + 1, descriptor, cs =>
    let finish (usual : Nat) (kind : RedirectKind) (rest : List Char) :
        Except Flaw (Option (Redirect × List Char)) :=
      (readTarget k fuel rest).map fun p => some (.mk (descriptor.getD usual) kind p.1, p.2)
    match cs with
    | '>' :: '>' :: rest => finish 1 .append rest
    | '>' :: '&' :: rest => finish 1 .copy rest
    | '>' :: '|' :: rest => finish 1 .overwrite rest
    | '>' :: rest => finish 1 .write rest
    | '<' :: '<' :: '-' :: rest => (readHere k fuel (descriptor.getD 0) true rest).map some
    | '<' :: '<' :: rest => (readHere k fuel (descriptor.getD 0) false rest).map some
    | '<' :: '&' :: rest => finish 0 .copy rest
    | '<' :: '>' :: rest => finish 0 .update rest
    | '<' :: rest => finish 0 .read rest
    | _ => .ok none

/-- Reads redirections up to the end of a command. -/
def readRedirects (k : Reading) : Nat → List Char → Except Flaw (List Redirect × List Char)
  | 0, _ => .error k.exhausted
  | fuel + 1, cs => do
    let cs := skipGaps cs
    let (descriptor, after) := descriptorStart cs
    match ← readRedirect k fuel descriptor after with
    | none => return ([], cs)
    | some (r, rest) => (readRedirects k fuel rest).map fun p => (r :: p.1, p.2)

/-- Reads the parts of a simple command up to its end. -/
def readSimple (k : Reading) : Nat → (line : Nat) → List (String × Word) → List Word →
    List Redirect →
    List Char → Except Flaw (Command × List Char)
  | 0, _, _, _, _, _ => .error k.exhausted
  | fuel + 1, line, assignments, words, redirects, cs => do
    let cs := skipGaps cs
    let (descriptor, after) := descriptorStart cs
    match ← readRedirect k fuel descriptor after with
    | some (r, rest) => readSimple k fuel line assignments words (r :: redirects) rest
    | none =>
      match words, parameterStart cs with
      | [], some (name, '=' :: rest) =>
        if (name.toList.head?).any startsName then do
          let (value, rest) ← readWord k fuel rest
          readSimple k fuel line ((name, value) :: assignments) words redirects rest
        else do
          let (w, rest) ← readWord k fuel cs
          readSimple k fuel line assignments [w] redirects rest
      | [], _ =>
        if (cs.head?).all endsWord then
          if assignments.isEmpty && redirects.isEmpty then throw (unexpected k cs none)
          else return (.simple line assignments.reverse [] redirects.reverse, cs)
        else
          let word := plainStart cs
          match openAlias? k word (cs.drop word.length) with
          | some opened =>
            readSimple (k.within word) fuel line assignments [] redirects opened
          | none => do
            let (w, rest) ← readWord k fuel cs
            readSimple k fuel line assignments [w] redirects rest
      | _, _ =>
        match cs, assignments, words, redirects with
        | '(' :: rest, [], [w], [] => readFunction k fuel w rest
        | _, _, _, _ =>
          if (cs.head?).all endsWord then
            return (.simple line assignments.reverse words.reverse redirects.reverse, cs)
          else do
            let (w, rest) ← readWord k fuel cs
            readSimple k fuel line assignments (w :: words) redirects rest

/-- Reads the definition of a function after its name and the parenthesis that follows it. -/
def readFunction (k : Reading) : Nat → (name : Word) → List Char →
    Except Flaw (Command × List Char)
  | 0, _, _ => .error k.exhausted
  | fuel + 1, name, cs =>
    match skipGaps cs with
    | ')' :: rest =>
      match name with
      | [.literal name false] =>
        if !isName name || specialBuiltins.contains name then .error (k.badFunction rest)
        else do
          let (body, rest) ← readCommand k fuel (skipSpace rest)
          return (.define name body, rest)
      | _ => .error (k.badFunction rest)
    | rest => .error (unexpectedToken k false rest (some ")"))

/-- Reads commands of which there has to be one. -/
def readPart (k : Reading) : Nat → List Char → Except Flaw (Command × List Char)
  | 0, _ => .error k.exhausted
  | fuel + 1, cs =>
    let cs := skipSpace cs
    if !cs.isEmpty && atClose cs then .error (unexpected k cs none) else readList k fuel false cs

/-- Reads what follows the condition of a conditional: its branches and the word that closes it. -/
def readBranches (k : Reading) : Nat → (condition : Command) → List Char →
    Except Flaw (Command × List Char)
  | 0, _, _ => .error k.exhausted
  | fuel + 1, condition, cs => do
    let rest ← expectWord k "then" cs
    let (yes, rest) ← readPart k fuel rest
    match reserved? "elif" rest with
    | some rest => do
      let (next, rest) ← readPart k fuel rest
      (readBranches k fuel next rest).map fun p => (.conditional condition yes p.1, p.2)
    | none =>
      match reserved? "else" rest with
      | some rest => do
        let (no, rest) ← readPart k fuel rest
        let rest ← expectWord k "fi" rest
        return (.conditional condition yes no, rest)
      | none => do
        let rest ← expectWord k "fi" rest
        return (.conditional condition yes .nothing, rest)

/-- Reads the body of a loop. -/
def readBody (k : Reading) : Nat → List Char → Except Flaw (Command × List Char)
  | 0, _ => .error k.exhausted
  | fuel + 1, cs => do
    let rest ← expectWord k "do" cs
    let (body, rest) ← readPart k fuel rest
    let rest ← expectWord k "done" rest
    return (body, rest)

/-- Reads a loop after the word that opens it. -/
def readLoop (k : Reading) : Nat → (isNegated : Bool) → List Char →
    Except Flaw (Command × List Char)
  | 0, _, _ => .error k.exhausted
  | fuel + 1, isNegated, cs => do
    let (condition, rest) ← readPart k fuel cs
    let (body, rest) ← readBody k fuel rest
    return (.loop isNegated condition body, rest)

/-- Reads the values of an iteration. -/
def readValues (k : Reading) : Nat → List Char → Except Flaw (List Word × List Char)
  | 0, _ => .error k.exhausted
  | fuel + 1, cs =>
    match skipGaps cs with
    | [] => .error (unexpected k [] none)
    | ';' :: rest => .ok ([], rest)
    | '\n' :: rest => .ok ([], rest)
    | c :: rest =>
      if endsWord c then .error (unexpected k (c :: rest) none)
      else do
        let (w, rest) ← readWord k fuel (c :: rest)
        (readValues k fuel rest).map fun p => (w :: p.1, p.2)

/-- Reads an iteration after the word that opens it. Without values of its own it runs over the
arguments. -/
def readEach (k : Reading) : Nat → (line : Nat) → List Char → Except Flaw (Command × List Char)
  | 0, _, _ => .error k.exhausted
  | fuel + 1, line, cs => do
    let cs := skipGaps cs
    let name := cs.takeWhile isNameChar
    let rest := skipJoins (cs.dropWhile isNameChar)
    if !isName (String.ofList name) || !(rest.head?).all endsWord then
      throw ⟨k.lineAt (tokenStart true cs).2, "Bad for loop variable"⟩
    else
      let name := String.ofList name
      match reserved? "in" rest with
      | some rest => do
        let (values, rest) ← readValues k fuel rest
        let (body, rest) ← readBody k fuel rest
        return (.each line name values body, rest)
      | none => do
        let rest := match skipGaps rest with
          | ';' :: rest => rest
          | rest => rest
        let (body, rest) ← readBody k fuel rest
        return (.each line name [[.parameter "@" .plain true]] body, rest)

/-- Reads a pattern of a branch. A token that is no word counts as an empty one. -/
def readPattern (k : Reading) : Nat → List Char → Except Flaw (Word × List Char)
  | 0, _ => .error k.exhausted
  | fuel + 1, cs =>
    if (cs.head?).all endsWord then .ok ([.literal "" true], (tokenStart false cs).2)
    else readWord k fuel cs

/-- Reads the patterns of a branch up to the parenthesis that closes them. -/
def readPatterns (k : Reading) : Nat → List Char → Except Flaw (List Word × List Char)
  | 0, _ => .error k.exhausted
  | fuel + 1, cs => do
    let (w, rest) ← readPattern k fuel (skipGaps cs)
    match skipGaps rest with
    | ')' :: rest => return ([w], rest)
    | '|' :: rest => (readPatterns k fuel rest).map fun p => (w :: p.1, p.2)
    | rest => throw (unexpectedToken k false rest (some ")"))

/-- Reads the branches of a selection and the word that closes it. -/
def readCases (k : Reading) : Nat → List Char → Except Flaw (List (List Word × Command) × List Char)
  | 0, _ => .error k.exhausted
  | fuel + 1, cs =>
    match reserved? "esac" cs with
    | some rest => .ok ([], rest)
    | none => do
      let cs := skipSpace cs
      let cs := match cs with
        | '(' :: rest => rest
        | cs => cs
      let (patterns, rest) ← readPatterns k fuel cs
      let (body, rest) ← readList k fuel false rest
      match skipSpace rest with
      | ';' :: ';' :: rest =>
        (readCases k fuel rest).map fun p => ((patterns, body) :: p.1, p.2)
      | rest =>
        match reserved? "esac" rest with
        | some rest => return ([(patterns, body)], rest)
        | none => throw (unexpected k rest (some ";;"))

/-- Reads a compound command, if its first word opens one. -/
def readCompound (k : Reading) : Nat → List Char → Except Flaw (Option (Command × List Char))
  | 0, _ => .error k.exhausted
  | fuel + 1, cs =>
    match cs with
    | '(' :: rest => do
      let (body, rest) ← readPart k fuel rest
      let rest ← expectParen k (skipSpace rest)
      return some (.subshell body, rest)
    | cs =>
      match plainStart cs with
      | "\x7b" => do
        let (body, rest) ← readPart k fuel (cs.drop 1)
        let rest ← expectWord k "\x7d" rest
        return some (body, rest)
      | "while" => (readLoop k fuel false (cs.drop 5)).map some
      | "until" => (readLoop k fuel true (cs.drop 5)).map some
      | "for" => (readEach k fuel (k.lineAt cs) (cs.drop 3)).map some
      | "if" => do
        let (condition, rest) ← readPart k fuel (cs.drop 2)
        (readBranches k fuel condition rest).map some
      | "case" => do
        let (subject, rest) ← readTarget k fuel (cs.drop 4)
        let rest ← expectWord k "in" rest
        let (branches, rest) ← readCases k fuel rest
        return some (.select (k.lineAt cs) subject branches, rest)
      | _ => .ok none

/-- Reads one command. -/
def readCommand (k : Reading) : Nat → List Char → Except Flaw (Command × List Char)
  | 0, _ => .error k.exhausted
  | fuel + 1, cs => do
    let cs := skipGaps cs
    match ← readCompound k fuel cs with
    | some (body, rest) =>
      let (redirects, rest) ← readRedirects k fuel rest
      return (body.under (k.lineAt cs) redirects, rest)
    | none =>
      let word := plainStart cs
      match openAlias? k word (cs.drop word.length) with
      | some opened => readCommand (k.within word) fuel opened
      | none =>
        if reservedWords.contains word && word != "in" then throw (unexpected k cs none)
        else readSimple k fuel (k.lineAt cs) [] [] [] cs

/-- Reads the parts of a pipeline after the first one. -/
def readParts (k : Reading) : Nat → (done : List Command) → List Char →
    Except Flaw (Command × List Char)
  | 0, _, _ => .error k.exhausted
  | fuel + 1, done, cs =>
    match skipGaps cs with
    | '|' :: '|' :: rest => .ok (joinParts done, '|' :: '|' :: rest)
    | '|' :: rest => do
      let (c, rest) ← readCommand k fuel (skipSpace rest)
      readParts k fuel (c :: done) rest
    | cs => .ok (joinParts done, cs)

/-- Reads a pipeline, negated or not. -/
def readPipeline (k : Reading) : Nat → List Char → Except Flaw (Command × List Char)
  | 0, _ => .error k.exhausted
  | fuel + 1, cs =>
    let cs := skipGaps cs
    if plainStart cs = "!" then do
      let (c, rest) ← readCommand k fuel (cs.drop 1)
      (readParts k fuel [c] rest).map fun p => (.negation p.1, p.2)
    else do
      let (c, rest) ← readCommand k fuel cs
      readParts k fuel [c] rest

/-- Reads commands joined by success or failure. -/
def readJoined (k : Reading) : Nat → (first : Command) → List Char →
    Except Flaw (Command × List Char)
  | 0, _, _ => .error k.exhausted
  | fuel + 1, first, cs =>
    match skipGaps cs with
    | '&' :: '&' :: rest => do
      let (second, rest) ← readPipeline k fuel (skipSpace rest)
      readJoined k fuel (.both first second) rest
    | '|' :: '|' :: rest => do
      let (second, rest) ← readPipeline k fuel (skipSpace rest)
      readJoined k fuel (.either first second) rest
    | cs => .ok (first, cs)

/-- Reads commands up to the end of a line, or of a part of a script. -/
def readList (k : Reading) : Nat → (isLine : Bool) → List Char → Except Flaw (Command × List Char)
  | 0, _, _ => .error k.exhausted
  | fuel + 1, isLine, cs =>
    let cs := if isLine then skipGaps cs else skipSpace cs
    if atClose cs || cs.head? == some '\n' then .ok (.nothing, cs)
    else do
      let (first, rest) ← readPipeline k fuel cs
      let (c, rest) ← readJoined k fuel first rest
      match skipGaps rest with
      | '&' :: rest =>
        (readList k fuel isLine rest).map fun p => (Command.andThen (.background c) p.1, p.2)
      | ';' :: ';' :: rest => return (c, ';' :: ';' :: rest)
      | ';' :: rest => (readList k fuel isLine rest).map fun p => (c.andThen p.1, p.2)
      | '\n' :: rest =>
        if isLine then return (c, '\n' :: rest)
        else (readList k fuel isLine rest).map fun p => (c.andThen p.1, p.2)
      | rest => return (c, rest)

end

/-- Reads the commands on the next line of a script, a line being as many lines as its commands
need; none at the end. -/
def readLine (k : Reading) (cs : List Char) : Except Flaw (Option (Command × List Char)) :=
  match skipSpace cs with
  | [] => .ok none
  | cs =>
    match readList k (10 * cs.length + 20) true cs with
    | .error flaw => .error flaw
    | .ok (c, []) => .ok (some (c, []))
    | .ok (c, '\n' :: rest) => .ok (some (c, rest))
    | .ok (_, rest) => .error (unexpected k rest none)

end SnippetForge.Shell
