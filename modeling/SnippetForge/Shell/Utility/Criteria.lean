import SnippetForge.Shell.Expression
import SnippetForge.Shell.Utility.Listing

/-!
# Criteria for entries of a disk

How `find` reads its words: where to look, and a criterion that is a condition on entries and at the
same time says what to do with them. Conditions stand beside each other or are joined by operators; a
comma binds least, then comes the choice, and negation binds most.
-/

namespace SnippetForge.Shell.Utility

/-! ### Criteria -/

/-- A number that something is to be below, at or above. -/
structure Bound where
  order : Ordering
  value : Nat
  deriving DecidableEq, Repr

namespace Bound

/-- The bound that a text means: a plus sign asks for more and a dash for less. -/
def ofText? (text : String) : Option Bound :=
  match text.toList with
  | '+' :: cs => (Text.natural? (String.ofList cs)).map (Bound.mk .gt)
  | '-' :: cs => (Text.natural? (String.ofList cs)).map (Bound.mk .lt)
  | _ => (Text.natural? text).map (Bound.mk .eq)

/-- Whether a number keeps to a bound. -/
def holds (b : Bound) (n : Nat) : Bool :=
  compare n b.value == b.order

end Bound

/-- How the permissions of an entry are compared with some bits. -/
inductive ModeTest
  | exactly
  | allOf
  | anyOf
  deriving DecidableEq, Repr

/-- A condition on entries, or something to do with them. -/
inductive Criterion
  | constant (holds : Bool)
  | negation (c : Criterion)
  | both (first second : Criterion)
  | either (first second : Criterion)
  /-- Both are looked at, and the second one counts. -/
  | sequence (first second : Criterion)
  /-- The last name of the path is accepted by a pattern. -/
  | name (ignoresCase : Bool) (pattern : String)
  /-- The whole path is accepted by a pattern. -/
  | path (ignoresCase : Bool) (pattern : String)
  /-- What a link points to is accepted by a pattern. -/
  | target (ignoresCase : Bool) (pattern : String)
  /-- The whole path matches an expression. -/
  | spelled (ignoresCase : Bool) (e : Expression)
  /-- The kind is one of some letters; if `isOther`, the kind on the other side of a link. -/
  | kind (isOther : Bool) (letters : List Char)
  | isEmpty
  | size (unit : Nat) (bound : Bound)
  | links (bound : Bound)
  | mode (test : ModeTest) (bits : Mode)
  | isExecutable
  | isReadable
  | isWritable
  /-- The entry is another name of a node. -/
  | isNode (id : Nat)
  /-- How many days or minutes ago it was written. -/
  | age (inMinutes : Bool) (bound : Bound)
  /-- It was written after a point in time. -/
  | newer (time : Nat)
  | print (lineEnd : String)
  | format (template : List Char)
  /-- Starts a program for the entry. -/
  | start (isInPlace : Bool) (words : List String)
  /-- Keeps the entry for a program that is started for many. -/
  | gather (key : Nat) (words : List String)
  /-- Asks before starting a program, and nobody answers. -/
  | ask (words : List String)
  | delete
  | prune
  | quit

namespace Criterion

/-- Whether something is done with entries, so that they are not shown besides. -/
def acts : Criterion → Bool
  | .negation c => c.acts
  | .both a b => a.acts || b.acts
  | .either a b => a.acts || b.acts
  | .sequence a b => a.acts || b.acts
  | .print _ => true
  | .format _ => true
  | .start _ _ => true
  | .gather _ _ => true
  | .ask _ => true
  | .delete => true
  | _ => false

end Criterion

/-! ### Words -/

/-- What is said about entries besides the criterion. -/
structure Scope where
  minDepth : Nat
  maxDepth : Option Nat
  /-- Whether what is in a directory comes before it. -/
  isInsideOut : Bool
  /-- Whether links are followed. -/
  followsAll : Bool
  /-- Whether links are followed that are named in the call. -/
  followsNamed : Bool
  /-- How expressions are spelled; none for the spelling in which only groups need a backslash. -/
  dialect : Option Expression.Dialect
  warnings : List String

/-- A part of a criterion as it is written. -/
inductive CriterionToken
  | opening
  | closing
  | negating (name : String)
  | joining (name : String) (level : Nat)
  | part (c : Criterion)

/-- A name as messages of `find` quote it. -/
def backQuoted (name : String) : String :=
  String.ofList [Char.ofNat 96] ++ name ++ "'"

/-- The operators. -/
def criterionOperator? (word : String) : Option CriterionToken :=
  match word with
  | "(" => some .opening
  | ")" => some .closing
  | "!" => some (.negating word)
  | "-not" => some (.negating word)
  | "," => some (.joining word 1)
  | "-o" => some (.joining word 2)
  | "-or" => some (.joining word 2)
  | "-a" => some (.joining word 3)
  | "-and" => some (.joining word 3)
  | _ => none

/-- Criteria that need no value. -/
def plainCriterion? (word : String) (lineEnd : String) : Option Criterion :=
  match word with
  | "-true" => some (.constant true)
  | "-false" => some (.constant false)
  | "-empty" => some .isEmpty
  | "-executable" => some .isExecutable
  | "-readable" => some .isReadable
  | "-writable" => some .isWritable
  | "-nouser" => some (.constant false)
  | "-nogroup" => some (.constant false)
  | "-print" => some (.print lineEnd)
  | "-print0" => some (.print "\x00")
  | "-delete" => some .delete
  | "-prune" => some .prune
  | "-quit" => some .quit
  | "-daystart" => some (.constant true)
  | "-noleaf" => some (.constant true)
  | "-xdev" => some (.constant true)
  | "-mount" => some (.constant true)
  | "-warn" => some (.constant true)
  | "-nowarn" => some (.constant true)
  | "-ignore_readdir_race" => some (.constant true)
  | "-depth" => some (.constant true)
  | "-d" => some (.constant true)
  | "-follow" => some (.constant true)
  | _ => none

/-- The letters for the kinds of entries. -/
def kindLetters : List Char :=
  ['f', 'd', 'l', 'p', 'c', 'b', 's']

/-- The kinds that a list of letters names, or a complaint. -/
def kindsIn (name : String) : (seen : List Char) → List Char → Except String (List Char)
  | seen, [] =>
    if seen.isEmpty then .error ("Arguments to " ++ name ++ " should contain at least one letter")
    else
      .error ("Last file type in list argument to " ++ name
        ++ " is missing, i.e., list is ending on: ','")
  | seen, c :: rest =>
    if !kindLetters.contains c then
      .error ("Unknown argument to " ++ name ++ ": " ++ String.singleton c)
    else if seen.contains c then
      .error ("Duplicate file type '" ++ String.singleton c ++ "' in the argument list to " ++ name
        ++ ".")
    else
      match rest with
      | [] => .ok (c :: seen)
      | ',' :: rest => kindsIn name (c :: seen) rest
      | _ => .error ("Must separate multiple arguments to " ++ name ++ " using: ','")

/-- The bytes that a letter after a size stands for. -/
def sizeUnits : List (Char × Nat) :=
  [('b', 512), ('c', 1), ('w', 2), ('k', 1024), ('M', 1048576), ('G', 1073741824)]

/-- The size that a text asks for. -/
def sizeCriterion? (text : String) : Option Criterion :=
  let cs := text.toList
  let unit? := (cs.getLast?).bind fun c => sizeUnits.lookup c
  let number := if unit?.isSome then cs.dropLast else cs
  (Bound.ofText? (String.ofList number)).map (.size (unit?.getD 512))

/-- The permissions that a text asks for. -/
def modeCriterion? (text : String) : Option Criterion :=
  let bits? (text : String) : Option Mode := (readMode? text).map fun m => changedMode false 0 m 0
  match text.toList with
  | '-' :: cs => (bits? (String.ofList cs)).map (.mode .allOf)
  | '/' :: cs => (bits? (String.ofList cs)).map (.mode .anyOf)
  | '+' :: _ => none
  | _ => (bits? text).map (.mode .exactly)

/-- An expression in which groups and choices have backslashes, spelled so that they have none.
`inSet` tells whether a set of characters is being read. -/
def withPlainGroups : (inSet : Bool) → List Char → List Char
  | _, [] => []
  | true, ']' :: rest => ']' :: withPlainGroups false rest
  | true, c :: rest => c :: withPlainGroups true rest
  | false, '[' :: '^' :: ']' :: rest => '[' :: '^' :: ']' :: withPlainGroups true rest
  | false, '[' :: ']' :: rest => '[' :: ']' :: withPlainGroups true rest
  | false, '[' :: rest => '[' :: withPlainGroups true rest
  | false, '\\' :: c :: rest =>
    (if c = '(' || c = ')' || c = '|' then [c] else ['\\', c]) ++ withPlainGroups false rest
  | false, c :: rest =>
    (if "(|)\x7b\x7d".toList.contains c then ['\\', c] else [c]) ++ withPlainGroups false rest

/-- The names of spellings of expressions. -/
def dialectOf? (name : String) : Option (Option Expression.Dialect) :=
  if name = "emacs" || name = "findutils-default" then some none
  else if ["posix-extended", "posix-egrep", "egrep", "posix-awk", "awk", "gnu-awk"].contains name
  then some (some ⟨true, true⟩)
  else if ["posix-basic", "posix-minimal-basic", "grep", "sed", "ed"].contains name then
    some (some ⟨false, true⟩)
  else none

/-- What is said about a spelling of expressions that is not known. -/
def unknownDialect (name : String) : String :=
  let names := ["findutils-default", "ed", "emacs", "gnu-awk", "grep", "posix-awk", "awk",
    "posix-basic", "posix-egrep", "egrep", "posix-extended", "posix-minimal-basic", "sed"]
  "Unknown regular expression type " ++ marked name ++ "; valid types are "
    ++ ", ".intercalate (names.map marked) ++ "."

/-- The expression that a text means. -/
def spelledCriterion (dialect : Option Expression.Dialect) (ignoresCase : Bool) (text : String) :
    Except String Criterion :=
  let (dialect, cs) :=
    match dialect with
    | some dialect => (dialect, charactersOf text)
    | none => (⟨true, true⟩, withPlainGroups false (charactersOf text))
  match Expression.read dialect cs with
  | .ok (e, _) => .ok (.spelled ignoresCase e)
  | .error flaw =>
    .error ("failed to compile regular expression " ++ inQuotes text ++ ": " ++ flaw.words)

/-- What a number asks for that counts days or minutes since some time. -/
def ageCriterion (name text : String) (inMinutes : Bool) : Except String Criterion :=
  match Bound.ofText? text with
  | some b => .ok (.age inMinutes b)
  | none => .error ("invalid argument " ++ backQuoted text ++ " to " ++ backQuoted name)

/-- The entry of a file that is named, or a complaint. -/
def namedEntry (site : Site) (name : String) : Except String Entry :=
  match site.disk.locateEntry site.cwd true (pathOf name) with
  | .ok (_, entry) => .ok entry
  | .error fault => .error (marked name ++ ": " ++ wordsOf fault)

/-- The criterion of being newer than a file. -/
def newerCriterion (site : Site) (name : String) : Except String Criterion :=
  (namedEntry site name).map fun entry => .newer entry.time

/-- A number as a bound, or a complaint. -/
def boundCriterion (name text : String) (use : Bound → Criterion) : Except String Criterion :=
  match Bound.ofText? text with
  | some b => .ok (use b)
  | none => .error ("invalid argument " ++ backQuoted text ++ " to " ++ backQuoted name)

/-- Criteria that have a value; none for other words. -/
def valuedCriterion? (site : Site) (scope : Scope) (name value : String) :
    Option (Except String Criterion) :=
  match name with
  | "-name" => some (.ok (.name false value))
  | "-iname" => some (.ok (.name true value))
  | "-path" => some (.ok (.path false value))
  | "-wholename" => some (.ok (.path false value))
  | "-ipath" => some (.ok (.path true value))
  | "-iwholename" => some (.ok (.path true value))
  | "-lname" => some (.ok (.target false value))
  | "-ilname" => some (.ok (.target true value))
  | "-regex" => some (spelledCriterion scope.dialect false value)
  | "-iregex" => some (spelledCriterion scope.dialect true value)
  | "-type" => some ((kindsIn name [] value.toList).map (.kind false))
  | "-xtype" => some ((kindsIn name [] value.toList).map (.kind true))
  | "-size" =>
    some (match sizeCriterion? value with
      | some c => .ok c
      | none => .error ("invalid -size type " ++ backQuoted
          (String.singleton ((value.toList.getLast?).getD ' '))))
  | "-perm" =>
    some (match modeCriterion? value with
      | some c => .ok c
      | none => .error ("invalid mode " ++ marked value))
  | "-links" => some (boundCriterion name value .links)
  | "-inum" => some (boundCriterion name value fun _ => .constant false)
  | "-uid" => some (boundCriterion name value fun b => .constant (b.holds 0))
  | "-gid" => some (boundCriterion name value fun b => .constant (b.holds 0))
  | "-mtime" => some (ageCriterion name value false)
  | "-atime" => some (ageCriterion name value false)
  | "-ctime" => some (ageCriterion name value false)
  | "-mmin" => some (ageCriterion name value true)
  | "-amin" => some (ageCriterion name value true)
  | "-cmin" => some (ageCriterion name value true)
  | "-newer" => some (newerCriterion site value)
  | "-anewer" => some (newerCriterion site value)
  | "-cnewer" => some (newerCriterion site value)
  | "-newermm" => some (newerCriterion site value)
  | "-newermt" =>
    some (match pointInTime? site.disk.now value with
      | some time => .ok (.newer time)
      | none =>
        .error ("I cannot figure out how to interpret " ++ marked value
          ++ " as a date or time"))
  | "-samefile" => some ((namedEntry site value).map fun entry => .isNode entry.id)
  | "-user" =>
    some (if value = "root" || value = "0" then .ok (.constant true)
      else .error (marked value ++ " is not the name of a known user"))
  | "-group" =>
    some (if value = "root" || value = "0" then .ok (.constant true)
      else .error (marked value ++ " is not the name of an existing group"))
  | "-printf" => some (.ok (.format value.toList))
  | "-regextype" =>
    some (if (dialectOf? value).isSome then .ok (.constant true) else .error (unknownDialect value))
  | "-maxdepth" => some (depthCriterion name value)
  | "-mindepth" => some (depthCriterion name value)
  | _ => none
where
  /-- The value of a limit of depth. -/
  depthCriterion (name value : String) : Except String Criterion :=
    if (Text.natural? value).isSome then .ok (.constant true)
    else
      .error ("Expected a positive decimal integer argument to " ++ name ++ ", but got "
        ++ marked value)

/-! ### Programs to start -/

/-- The words of a program to start, whether it is started for many entries, and the words after
them. -/
def readProgram (name : String) : (done : List String) → List String →
    Except String (Bool × List String × List String)
  | _, [] => .error ("missing argument to " ++ backQuoted name)
  | done, ";" :: rest =>
    if done.isEmpty then .error ("invalid argument " ++ backQuoted ";" ++ " to " ++ backQuoted name)
    else .ok (false, done.reverse, rest)
  | "\x7b\x7d" :: done, "+" :: rest => .ok (true, done.reverse, rest)
  | done, word :: rest => readProgram name (word :: done) rest

/-- The criterion that starts a program, and the words after it. -/
def programCriterion (name : String) (words : List String) :
    Except String (Criterion × List String) := do
  let (isForMany, program, rest) ← readProgram name [] words
  if name = "-ok" || name = "-okdir" then return (.ask program, rest)
  else if isForMany then
    if program.any fun word => 1 < (word.splitOn "\x7b\x7d").length then
      throw ("Only one instance of \x7b\x7d is supported with " ++ name ++ " ... +")
    else return (.gather rest.length program, rest)
  else return (.start (name == "-execdir") program, rest)

/-! ### Formats -/

/-- The letters of a format for entries. -/
def formatLetters : List Char :=
  "pfhPHsymMlduUgGYnkbi%".toList

/-- The letters after a backslash in a format. -/
def formatEscapes : List (Char × Nat) :=
  [('a', 7), ('b', 8), ('f', 12), ('n', 10), ('r', 13), ('t', 9), ('v', 11), ('\\', 92)]

/-- A part of a format: a text, a letter with how it is padded, or the end of the output. -/
inductive FormatPiece
  | text (cs : List Char)
  | item (flags : List Char) (width : Nat) (letter : Char)
  | stop
  /-- A part that means nothing, with what is said about it. -/
  | odd (cs : List Char) (warning : String)

/-- Reads a part of a format. -/
def readFormat : (fuel : Nat) → List Char → Except String (List FormatPiece)
  | 0, _ => .ok []
  | _, [] => .ok []
  | fuel + 1, '%' :: rest =>
    let flags := rest.takeWhile fun c => "-+ 0#".toList.contains c
    let after := rest.drop flags.length
    let width := after.takeWhile Char.isDigit
    match after.drop width.length with
    | [] => .error "error: % at end of format string"
    | c :: more =>
      let piece :=
        if formatLetters.contains c then .item flags (Text.digitsValue width) c
        else
          .odd ('%' :: flags ++ width ++ [c])
            ("warning: unrecognized format directive " ++ backQuoted (String.ofList ['%', c]))
      (readFormat fuel more).map (piece :: ·)
  | fuel + 1, '\\' :: c :: rest =>
    if c = 'c' then .ok [.stop]
    else if '0' ≤ c && c ≤ '7' then
      let digits := (c :: rest).takeWhile (fun d => '0' ≤ d && d ≤ '7') |>.take 3
      let n := digits.foldl (fun n d => n * 8 + (d.toNat - 48)) 0
      (readFormat fuel ((c :: rest).drop digits.length)).map
        (.text [Char.ofNat (n % 256)] :: ·)
    else
      let piece :=
        match formatEscapes.lookup c with
        | some n => .text [Char.ofNat n]
        | none =>
          .odd ['\\', c] ("warning: unrecognized escape " ++ backQuoted (String.ofList ['\\', c]))
      (readFormat fuel rest).map (piece :: ·)
  | fuel + 1, c :: rest => (readFormat fuel rest).map (.text [c] :: ·)

/-- The pieces of a format, or a complaint. -/
def formatPieces (template : List Char) : Except String (List FormatPiece) :=
  readFormat (template.length + 1) template

/-! ### Reading all words -/

/-- Whether a word starts a criterion; `isFirst` tells whether no criterion has come yet. -/
def startsCriterion (isFirst : Bool) (word : String) : Bool :=
  match word.toList with
  | '-' :: _ :: _ => true
  | ['('] => true
  | ['!'] => true
  | [')'] => !isFirst
  | [','] => !isFirst
  | _ => false

/-- The scope after a word with its value. -/
def Scope.take (scope : Scope) (name value : String) : Scope :=
  match name with
  | "-maxdepth" => { scope with maxDepth := Text.natural? value }
  | "-mindepth" => { scope with minDepth := (Text.natural? value).getD 0 }
  | "-depth" => { scope with isInsideOut := true }
  | "-d" => { scope with isInsideOut := true }
  | "-delete" => { scope with isInsideOut := true }
  | "-follow" => { scope with followsAll := true }
  | "-regextype" => { scope with dialect := (dialectOf? value).getD none }
  | "-printf" =>
    let warnings := ((formatPieces value.toList).toOption.getD []).filterMap fun piece =>
      match piece with
      | .odd _ warning => some warning
      | _ => none
    { scope with warnings := scope.warnings ++ warnings }
  | _ => scope

/-- Reads the words of a criterion; a failure is a list of messages. -/
def readTokens (site : Site) : (fuel : Nat) → (before : String) → Scope → List String →
    Except (List String) (List CriterionToken × Scope)
  | 0, _, scope, _ => .ok ([], scope)
  | _, _, scope, [] => .ok ([], scope)
  | fuel + 1, before, scope, word :: rest =>
    let goOn (token : CriterionToken) (scope : Scope) (rest : List String) :
        Except (List String) (List CriterionToken × Scope) :=
      (readTokens site fuel word scope rest).map fun p => (token :: p.1, p.2)
    if !startsCriterion false word then
      let isThere := site.disk.holds site.cwd (pathOf word)
      .error (("paths must precede expression: " ++ backQuoted word)
        :: if isThere && before != "" then
          ["possible unquoted pattern after predicate " ++ backQuoted before ++ "?"] else [])
    else
      match criterionOperator? word, plainCriterion? word "\n" with
      | some token, _ => goOn token scope rest
      | none, some c => goOn (.part c) (scope.take word "") rest
      | none, none =>
        if ["-exec", "-execdir", "-ok", "-okdir"].contains word then
          match programCriterion word rest with
          | .ok (c, rest) => goOn (.part c) scope rest
          | .error text => .error [text]
        else
          match valuedCriterion? site scope word (rest.headD ""), rest with
          | none, _ => .error ["unknown predicate " ++ backQuoted word]
          | some _, [] => .error ["missing argument to " ++ backQuoted word]
          | some (.error text), _ => .error [text]
          | some (.ok (.format template)), value :: rest =>
            match formatPieces template with
            | .error text => .error [text]
            | .ok _ => goOn (.part (.format template)) (scope.take word value) rest
          | some (.ok c), value :: rest => goOn (.part c) (scope.take word value) rest

/-! ### The structure of a criterion -/

/-- The flaw of a part that is missing after an operator. -/
def missingAfter (name : String) : String :=
  "expected an expression after " ++ inQuotes name

/-- The flaw of a group without end. -/
def openGroup : String :=
  "invalid expression; I was expecting to find a ')' somewhere but did not see one."

mutual

/-- Reads a part of a criterion; `before` is the operator in front of it. -/
def readFactor : (fuel : Nat) → (before : Option String) → List CriterionToken →
    Except String (Criterion × List CriterionToken)
  | 0, _, _ => .error "invalid expression"
  | _, some name, [] => .error (missingAfter name)
  | _, none, [] => .error "invalid expression"
  | _, _, .part c :: rest => .ok (c, rest)
  | _, _, .joining name _ :: _ =>
    .error ("invalid expression; you have used a binary operator " ++ inQuotes name
      ++ " with nothing before it.")
  | _, some name, .closing :: _ =>
    .error ("expected an expression between " ++ inQuotes name ++ " and ')'")
  | _, none, .closing :: _ => .error "invalid expression; you have too many ')'"
  | fuel + 1, _, .negating name :: rest =>
    (readFactor fuel (some name) rest).map fun p => (.negation p.1, p.2)
  | _, _, .opening :: [] => .error openGroup
  | _, _, .opening :: .closing :: _ =>
    .error "invalid expression; empty parentheses are not allowed."
  | fuel + 1, _, .opening :: rest =>
    match readJoint fuel 0 none rest with
    | .error text => .error text
    | .ok (c, .closing :: rest) => .ok (c, rest)
    | .ok _ => .error openGroup

/-- Reads parts that are joined by operators above a level. -/
def readJoint : (fuel : Nat) → (level : Nat) → (before : Option String) → List CriterionToken →
    Except String (Criterion × List CriterionToken)
  | 0, _, _, _ => .error "invalid expression"
  | fuel + 1, level, before, tokens =>
    match readFactor fuel before tokens with
    | .error text => .error text
    | .ok (c, rest) => readMore fuel level c rest

/-- Goes on after a part with the operators above a level. -/
def readMore : (fuel : Nat) → (level : Nat) → Criterion → List CriterionToken →
    Except String (Criterion × List CriterionToken)
  | 0, _, _, _ => .error "invalid expression"
  | _, _, c, [] => .ok (c, [])
  | _, _, c, .closing :: rest => .ok (c, .closing :: rest)
  | fuel + 1, level, c, .joining name own :: rest =>
    if own ≤ level then .ok (c, .joining name own :: rest)
    else
      match readJoint fuel own (some name) rest with
      | .error text => .error text
      | .ok (other, rest) =>
        let joined : Criterion :=
          match own with
          | 1 => .sequence c other
          | 2 => .either c other
          | _ => .both c other
        readMore fuel level joined rest
  | fuel + 1, level, c, token :: rest =>
    if 3 ≤ level then .ok (c, token :: rest)
    else
      match readJoint fuel 3 none (token :: rest) with
      | .error text => .error text
      | .ok (other, rest) => readMore fuel level (.both c other) rest

end

/-- The criterion that tokens spell. Entries are shown if nothing else is done with them. -/
def criterionOf (tokens : List CriterionToken) : Except String Criterion :=
  if tokens.isEmpty then .ok (.print "\n")
  else
    match readJoint (4 * tokens.length + 8) 0 none tokens with
    | .error text => .error text
    | .ok (c, []) => .ok (if c.acts then c else .both c (.print "\n"))
    | .ok _ => .error "you have too many ')'"

/-! ### Calls -/

/-- What the words of `find` say. -/
structure FindCall where
  starts : List String
  scope : Scope
  criterion : Criterion

/-- Reads the options in front of the places. -/
def readLeadingLetters : Scope → List String → Scope × List String
  | scope, [] => (scope, [])
  | scope, word :: rest =>
    match word with
    | "-L" => readLeadingLetters { scope with followsAll := true, followsNamed := true } rest
    | "-H" => readLeadingLetters { scope with followsAll := false, followsNamed := true } rest
    | "-P" => readLeadingLetters { scope with followsAll := false, followsNamed := false } rest
    | "--" => (scope, rest)
    | word =>
      match word.toList with
      | '-' :: 'O' :: _ => readLeadingLetters scope rest
      | _ => (scope, word :: rest)

/-- What the words of `find` say, or what is wrong with them. -/
def FindCall.ofWords (site : Site) (words : List String) : Except (List String) FindCall := do
  let (scope, words) := readLeadingLetters ⟨0, none, false, false, false, none, []⟩ words
  let starts := words.takeWhile fun word => !startsCriterion true word
  let (tokens, scope) ← readTokens site (words.length + 1) "" scope (words.drop starts.length)
  match criterionOf tokens with
  | .error text => throw [text]
  | .ok c => return ⟨if starts.isEmpty then ["."] else starts, scope, c⟩

end SnippetForge.Shell.Utility
