import SnippetForge.Disk.Basic
import SnippetForge.Shell.Builtin.Reply
import SnippetForge.Shell.Options

/-!
# Commands for variables, arguments and options

Declaring variables, dropping them, showing them, setting options and arguments, taking options from
arguments, and words that stand for other text.
-/

namespace SnippetForge.Shell.Builtin

/-! ### Declarations -/

/-- The name in a declaration and the value, if there is one. -/
def declaration (word : String) : String × Option String :=
  let name := word.toList.takeWhile (· != '=')
  match word.toList.drop name.length with
  | _ :: value => (String.ofList name, some (String.ofList value))
  | [] => (word, none)

/-- Sets a variable, or complains. -/
def setVariable (p : Process) (name value : String) : Except String Process :=
  if !isName name then .error (name ++ ": bad variable name")
  else
    match p.assign? name value with
    | some p => .ok p
    | none => .error (name ++ ": is read only")

/-- Makes a declaration and then gives the variable an attribute, or complains. -/
def declare (give : Process → String → Process) (p : Process) (word : String) :
    Except String Process :=
  let (name, value) := declaration word
  if !isName name then .error (name ++ ": bad variable name")
  else
    match value with
    | some value => (setVariable p name value).map fun p => give p name
    | none => .ok (give p name)

/-- The variables by their names, each as a text with its value. -/
def listing (front : String) (vs : List Variable) : String :=
  String.join ((vs.mergeSort fun a b => Disk.nameLe a.name b.name).map fun v =>
    front ++ v.name ++ (v.value.map fun t => "=" ++ quoteText t).getD "" ++ "\n")

/-- Gives variables an attribute, or shows those that have it. -/
def markWords (p : Process) (command : String) (give : Process → String → Process)
    (has : Variable → Bool) (words : List String) : Reply :=
  match optionsOf "p" words with
  | .error text => .error p text
  | .ok (options, names) =>
    if names.isEmpty || !options.isEmpty then
      .print p (listing (command ++ " ") (p.bindings.filter has))
    else .ofResult p (names.foldlM (declare give) p)

/-- Hands variables on to programs. -/
def exportWords (p : Process) (words : List String) : Reply :=
  markWords p "export" Process.exportVariable (·.isExported) words

/-- Makes variables ones that cannot be changed. -/
def readonlyWords (p : Process) (words : List String) : Reply :=
  markWords p "readonly" Process.protectVariable (·.isReadonly) words

/-- Makes a variable one of the command that runs, or the options if the name is a dash. The
variable is put back when the command ends. -/
def localWord (frame : Frame) (p : Process) (word : String) : Except String (Frame × Process) :=
  let (name, value) := declaration word
  if word = "-" then
    .ok ({ frame with options := some (frame.options.getD p.options) }, p)
  else if !isName name then .error (name ++ ": bad variable name")
  else
    let former : Former := (name, p.named? name)
    let frame := { frame with bindings := former :: frame.bindings }
    match value with
    | some value => (setVariable p name value).map fun p => (frame, p)
    | none => .ok (frame, p)

/-- Makes variables ones of the command that runs. -/
def localWords (p : Process) (words : List String) : Reply :=
  match p.frame with
  | none => .error p "not in a function"
  | some frame =>
    let made := words.foldlM (fun s word => localWord s.1 s.2 word) (frame, p)
    .ofResult p (made.map fun s => { s.2 with frame := some s.1 })

/-- Drops a variable, or complains. -/
def dropWord (p : Process) (name : String) : Except String Process :=
  if !isName name then .error (name ++ ": bad variable name")
  else if p.isReadonly name then .error (name ++ ": is read only")
  else .ok (p.dropVariable name)

/-- Drops variables or commands. -/
def unsetWords (p : Process) (words : List String) : Reply :=
  match optionsOf "vf" words with
  | .error text => .error p text
  | .ok (options, names) =>
    if (options.getLast?).any fun o => o.1 == 'f' then
      .done { p with functions := p.functions.filter fun f => !names.contains f.1 }
    else .ofResult p (names.foldlM dropWord p)

/-! ### Arguments -/

/-- Gives a process other arguments. -/
def setArguments (p : Process) (words : List String) : Process :=
  { p with arguments := p.arguments.take 1 ++ words, cursor := ⟨1, none⟩ }

/-- Drops some of the first arguments. -/
def shiftWords (p : Process) (words : List String) : Reply :=
  match naturalWord (words.headD "1") with
  | .error text => .error p text
  | .ok n =>
    if p.words.length < n then .error p "can't shift that many"
    else .done (setArguments p (p.words.drop n))

/-! ### Options -/

/-- What words that set options have done so far: the process, and what they have written. -/
structure Setting where
  process : Process
  out : String

/-- Sets options by the letters of a word, which may take a name from the words that follow. -/
def setLetters (isOn : Bool) : List Char → List String → Setting →
    Except String (Setting × List String)
  | [], words, s => .ok (s, words)
  | 'o' :: letters, words, s =>
    match words with
    | [] => setLetters isOn letters [] { s with out := optionTable s.process.options isOn }
    | name :: rest => do
      let set ← setName s.process.options name isOn
      setLetters isOn letters rest { s with process := { s.process with options := set } }
  | letter :: letters, words, s => do
    let set ← setLetter s.process.options letter isOn
    setLetters isOn letters words { s with process := { s.process with options := set } }

/-- Sets options and then arguments, or complains. -/
def setFrom : Nat → Setting → List String → Except String Setting
  | 0, s, _ => .ok s
  | fuel + 1, s, words =>
    let withArguments (words : List String) : Setting :=
      { s with process := setArguments s.process words }
    match words with
    | [] => .ok s
    | word :: rest =>
      match word.toList with
      | ['-'] =>
        let p := s.process
        let p := { p with options := withLetter (withLetter p.options 'x' false) 'v' false }
        .ok { s with process := if rest.isEmpty then p else setArguments p rest }
      | ['-', '-'] => .ok (withArguments rest)
      | '-' :: letters => do
        let (s, rest) ← setLetters true letters rest s
        setFrom fuel s rest
      | '+' :: letters => do
        let (s, rest) ← setLetters false letters rest s
        setFrom fuel s rest
      | _ => .ok (withArguments words)

/-- Sets options and arguments, or shows the variables. Jobs cannot be controlled. -/
def setWords (p : Process) (words : List String) : Reply :=
  if words.isEmpty then .print p (listing "" (p.bindings.filter fun v => v.value.isSome))
  else
    match setFrom (words.length + 1) ⟨p, ""⟩ words with
    | .ok s =>
      let letters := s.process.options
      if letters.contains 'm' then
        let p := { s.process with options := withLetter letters 'm' false }
        { Reply.print p s.out with complaints := [noTerminal] }
      else .print s.process s.out
    | .error text => .error p text

/-! ### Taking options from arguments -/

/-- What is found at the place among the options: the letter, what is left of its word, and how many
words have been used. None if there are no more options, with the number of words used too. -/
def nextLetter (cursor : OptionCursor) (words : List String) :
    Option (Char × List Char × Nat) × Nat :=
  let used := cursor.index - 1
  let here : List Char :=
    match cursor.offset, used with
    | some offset, used + 1 => ((words[used]?).getD "").toList.drop offset
    | _, _ => []
  match here with
  | c :: more => (some (c, more, used), used)
  | [] =>
    match words[used]? with
    | none => (none, used)
    | some word =>
      match word.toList with
      | ['-', '-'] => (none, used + 1)
      | '-' :: c :: more => (some (c, more, used + 1), used + 1)
      | _ => (none, used)

/-- What an option comes to: what its variable gets, its value if it is set, a note, whether its word
is finished, and how many words have been used. -/
structure OptionFound where
  letter : String
  value : Option String
  note : String
  left : List Char
  used : Nat

/-- What an option comes to by the letters that are allowed. A colon in front of them keeps quiet
about mistakes, and one after a letter asks for a value. -/
def judgeOption (spec : List Char) (c : Char) (more : List Char) (used : Nat)
    (words : List String) : OptionFound :=
  let isQuiet := spec.head? == some ':'
  let name := String.singleton c
  let letters := if isQuiet then spec.drop 1 else spec
  if c = ':' || !letters.contains c then
    if isQuiet then ⟨"?", some name, "", more, used⟩
    else ⟨"?", none, "Illegal option -" ++ name ++ "\n", more, used⟩
  else if ((letters.dropWhile (· != c)).drop 1).head? == some ':' then
    match more, words[used]? with
    | [], none =>
      if isQuiet then ⟨":", some name, "", [], used⟩
      else ⟨"?", none, "No arg for -" ++ name ++ " option\n", [], used⟩
    | [], some value => ⟨name, some value, "", [], used + 1⟩
    | more, _ => ⟨name, some (String.ofList more), "", [], used⟩
  else ⟨name, some "", "", more, used⟩

/-- Takes the next option from the arguments or from some words. -/
def getopts (p : Process) (words : List String) : Reply :=
  match optionsOf "" words with
  | .error text => .error p text
  | .ok (_, spec :: name :: given) =>
    let words := if given.isEmpty then p.words else given
    let cursor := if words.length + 1 < p.cursor.index then ⟨1, none⟩ else p.cursor
    let finish (p : Process) (letter : String) (used : Nat) (left : List Char) (note : String)
        (status : Nat) : Reply :=
      let p := p.setValue "OPTIND" (toString (used + 1))
      let offset :=
        if left.isEmpty then none
        else some (((words[used - 1]?).getD "").length - left.length)
      let p := { p with cursor := ⟨used + 1, offset⟩ }
      match setVariable p name letter with
      | .ok p => { Reply.done p with notes := note, status := status }
      | .error text => .error p text
    match nextLetter cursor words with
    | (none, used) => finish p "?" used [] "" 1
    | (some (c, more, used), _) =>
      let found := judgeOption spec.toList c more used words
      let p :=
        match found.value with
        | some value => p.setValue "OPTARG" value
        | none => p.dropVariable "OPTARG"
      finish p found.letter found.used found.left found.note 0
  | .ok _ => .error p "Usage: getopts optstring var [arg...]"

/-! ### Aliases -/

/-- An alias as a declaration. -/
def aliasText (a : String × String) : String :=
  a.1 ++ "=" ++ quoteText a.2 ++ "\n"

/-- How many rows aliases are kept in. -/
def aliasRows : Nat := 39

/-- Shows an alias or makes it. -/
def aliasWord (r : Reply) (word : String) : Reply :=
  let p := r.process
  let cs := word.toList
  let name := String.ofList (cs.take 1 ++ (cs.drop 1).takeWhile (· != '='))
  match cs.drop name.length with
  | _ :: value =>
    let entry := (name, String.ofList value)
    let aliases :=
      if (p.aliases.lookup name).isSome then p.aliases.map fun a => if a.1 = name then entry else a
      else p.aliases ++ [entry]
    { r with process := { p with aliases := aliases } }
  | [] =>
    match p.aliases.lookup word with
    | some text => { r with out := r.out ++ aliasText (word, text) }
    | none => { r with notes := r.notes ++ "alias: " ++ word ++ " not found\n", status := 1 }

/-- Shows aliases or makes them. -/
def aliasWords (p : Process) (words : List String) : Reply :=
  if words.isEmpty then
    let key (a : String × String) : Nat := Process.nameKey aliasRows a.1
    let sorted := p.aliases.mergeSort fun a b => key a ≤ key b
    .print p (String.join (sorted.map aliasText))
  else words.foldl aliasWord (.done p)

/-- Drops aliases. -/
def unaliasWords (p : Process) (words : List String) : Reply :=
  match optionsOf "a" words with
  | .error text => .error p text
  | .ok (_ :: _, _) => .done { p with aliases := [] }
  | .ok ([], names) =>
    let missing := names.filter fun name => (p.aliases.lookup name).isNone
    { Reply.done { p with aliases := p.aliases.filter fun a => !names.contains a.1 } with
      notes := String.join (missing.map fun name => "unalias: " ++ name ++ " not found\n"),
      status := if missing.isEmpty then 0 else 1 }

/-! ### The mask for new files -/

/-- A number in octal digits, at least four. -/
def octalText (n : Nat) : String :=
  let digits := Nat.toDigits 8 n
  String.ofList (List.replicate (4 - digits.length) '0' ++ digits)

/-- The permissions that three bits stand for. -/
def permissionText (bits : Nat) : String :=
  (if bits / 4 % 2 = 1 then "r" else "") ++ (if bits / 2 % 2 = 1 then "w" else "")
    ++ (if bits % 2 = 1 then "x" else "")

/-- The permissions that a mask leaves, for the owner, the group and others. -/
def maskText (mask : Nat) : String :=
  "u=" ++ permissionText (7 - mask / 64 % 8) ++ ",g=" ++ permissionText (7 - mask / 8 % 8)
    ++ ",o=" ++ permissionText (7 - mask % 8)

/-- The bits that the letters before the operator of a mode stand for. -/
def modeWho (letters : List Char) : Nat :=
  let bits := (if letters.contains 'u' then 448 else 0) + (if letters.contains 'g' then 56 else 0)
    + (if letters.contains 'o' then 7 else 0)
  if letters.contains 'a' || letters.isEmpty then 511 else bits

/-- The bits that the letters after the operator of a mode stand for. -/
def modeWhat (letters : List Char) : Nat :=
  (if letters.contains 'r' then 292 else 0) + (if letters.contains 'w' then 146 else 0)
    + (if letters.contains 'x' || letters.contains 'X' then 73 else 0)

/-- Permissions after a clause of a mode; none if it is no clause. -/
def applyClause (permissions : Nat) (clause : List Char) : Option Nat :=
  let who := clause.takeWhile fun c => "ugoa".toList.contains c
  match clause.drop who.length with
  | operator :: what =>
    if !what.all fun c => "rwxXst".toList.contains c then none
    else
      let mask := modeWho who
      let bits := Nat.land (modeWhat what) mask
      let others := permissions - Nat.land permissions mask
      match operator with
      | '+' => some (Nat.lor permissions bits)
      | '-' => some (permissions - Nat.land permissions bits)
      | '=' => some (others + bits)
      | _ => none
  | [] => none

/-- Shows or sets the bits that new files do not get. -/
def umaskWords (p : Process) (words : List String) : Reply :=
  match optionsOf "S" words with
  | .error text => .error p text
  | .ok (options, []) =>
    .print p ((if options.isEmpty then octalText p.mask else maskText p.mask) ++ "\n")
  | .ok (_, mode :: _) =>
    let cs := mode.toList
    if (cs.head?).any Char.isDigit then
      if cs.all fun c => '0' ≤ c && c ≤ '7' then
        .done { p with mask := (cs.foldl (fun n c => n * 8 + (c.toNat - 48)) 0) % 512 }
      else .error p ("Illegal number: " ++ mode)
    else
      match (cs.splitOn ',').foldlM applyClause (511 - p.mask) with
      | some permissions => .done { p with mask := 511 - permissions }
      | none => .error p ("Illegal mode: " ++ mode)

end SnippetForge.Shell.Builtin
