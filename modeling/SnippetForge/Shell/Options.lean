import SnippetForge.Shell.Variable

/-!
# Options of a shell

The options that change how a shell works, by their letters and their names, and the words that a
shell is started with.
-/

namespace SnippetForge.Shell

/-! ### Letters and names -/

/-- The names of the options and their letters; some options have no letter. -/
def optionNames : List (String × Option Char) :=
  [("errexit", some 'e'), ("noglob", some 'f'), ("ignoreeof", some 'I'),
    ("interactive", some 'i'), ("monitor", some 'm'), ("noexec", some 'n'), ("stdin", some 's'),
    ("xtrace", some 'x'), ("verbose", some 'v'), ("vi", some 'V'), ("emacs", some 'E'),
    ("noclobber", some 'C'), ("allexport", some 'a'), ("notify", some 'b'),
    ("nounset", some 'u'), ("privileged", some 'p'), ("nolog", none), ("debug", none)]

/-- Some option letters with one more or one less. -/
def withLetter (letters : List Char) (letter : Char) (isOn : Bool) : List Char :=
  let others := letters.filter (· != letter)
  if isOn then letter :: others else others

/-- Option letters after setting an option by its letter, or a complaint. -/
def setLetter (letters : List Char) (letter : Char) (isOn : Bool) : Except String (List Char) :=
  if Process.optionLetters.contains letter then .ok (withLetter letters letter isOn)
  else .error ("Illegal option -" ++ String.singleton letter)

/-- Option letters after setting an option by its name, or a complaint. -/
def setName (letters : List Char) (name : String) (isOn : Bool) : Except String (List Char) :=
  match optionNames.lookup name with
  | some (some letter) => .ok (withLetter letters letter isOn)
  | some none => .ok letters
  | none => .error ("Illegal option -o " ++ name)

/-- The complaint of a shell that is asked to control jobs: it has no terminal to do it from. -/
def noTerminal : String :=
  "can't access tty; job control turned off"

/-- The settings of all options, as a table or as commands that set them. -/
def optionTable (letters : List Char) (isTable : Bool) : String :=
  let isOn (e : String × Option Char) : Bool := e.2.any letters.contains
  let pad (name : String) : String :=
    name ++ String.ofList (List.replicate (16 - name.length) ' ')
  let rows := optionNames.map fun e =>
    if isTable then pad e.1 ++ (if isOn e then "on" else "off") ++ "\n"
    else "set " ++ (if isOn e then "-" else "+") ++ "o " ++ e.1 ++ "\n"
  (if isTable then "Current option settings\n" else "") ++ String.join rows

/-! ### Starting a shell -/

/-- What the words of a shell ask for: options, whether the first of the other words is a script
itself, and the other words. -/
structure ShellCall where
  letters : List Char
  isCommand : Bool
  rest : List String
  deriving DecidableEq, Repr

namespace ShellCall

/-- Takes the letters of a word of options. A letter may take the name of an option from the words
that follow. -/
def takeLetters (isOn : Bool) : List Char → ShellCall → Except String ShellCall
  | [], call => .ok call
  | 'c' :: letters, call => takeLetters isOn letters { call with isCommand := true }
  | 'l' :: letters, call => takeLetters isOn letters call
  | 'o' :: letters, call =>
    match call.rest with
    | name :: rest => do
      let set ← setName call.letters name isOn
      takeLetters isOn letters { call with letters := set, rest := rest }
    | [] => takeLetters isOn letters call
  | letter :: letters, call => do
    let set ← setLetter call.letters letter isOn
    takeLetters isOn letters { call with letters := set }

/-- Takes the options from the words of a shell, or complains. -/
def takeWords : Nat → ShellCall → Except String ShellCall
  | 0, call => .ok call
  | fuel + 1, call =>
    match call.rest with
    | [] => .ok call
    | word :: rest =>
      match word.toList with
      | ['-'] => .ok { call with rest := rest }
      | ['-', '-'] => .ok { call with rest := rest }
      | '-' :: letters => do
        let call ← takeLetters true letters { call with rest := rest }
        takeWords fuel call
      | '+' :: letters => do
        let call ← takeLetters false letters { call with rest := rest }
        takeWords fuel call
      | _ => .ok call

/-- What the words of a shell ask for, or a complaint. -/
def ofWords (words : List String) : Except String ShellCall := do
  let call ← takeWords (words.length + 1) ⟨[], false, words⟩
  if call.isCommand && call.rest.isEmpty then throw "-c requires an argument" else return call

end ShellCall

end SnippetForge.Shell
