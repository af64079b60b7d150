import SnippetForge.Shell.Format
import SnippetForge.Shell.Variable

/-!
# Replies of commands of the shell

What a command that the shell runs in place comes to: what it writes, what it complains about, its
status and the process after it. Such commands read their options by the same rules.
-/

namespace SnippetForge.Shell

/-- What a command of the shell comes to. -/
structure Reply where
  process : Process
  out : String
  /-- What it complains about, by its name. -/
  complaints : List String
  /-- What it writes to the error stream besides. -/
  notes : String
  status : Nat
  /-- Whether it has failed so badly that a script ends if it needs the command. -/
  isError : Bool

namespace Reply

/-- A command that does its work without a word. -/
def done (p : Process) : Reply :=
  ⟨p, "", [], "", 0, false⟩

/-- A command that only gives a status. -/
def ofStatus (p : Process) (status : Nat) : Reply :=
  { done p with status := status }

/-- A command that writes something. -/
def print (p : Process) (out : String) : Reply :=
  { done p with out := out }

/-- A command that fails with a complaint. -/
def error (p : Process) (text : String) : Reply :=
  { done p with complaints := [text], status := 2, isError := true }

/-- A command that does its work or fails with a complaint. -/
def ofResult (p : Process) : Except String Process → Reply
  | .ok p => done p
  | .error text => error p text

end Reply

/-! ### Options -/

/-- The options among some words, each with its value, and the other words; or a complaint. In
`spec` a colon follows the letter of an option that has a value. -/
def takeOptions (spec : List Char) : Nat → List String →
    Except String (List (Char × String) × List String)
  | 0, words => .ok ([], words)
  | fuel + 1, words =>
    match words with
    | [] => .ok ([], [])
    | word :: rest =>
      match word.toList with
      | ['-', '-'] => .ok ([], rest)
      | '-' :: c :: more =>
        if c = ':' || !spec.contains c then .error ("Illegal option -" ++ String.singleton c)
        else if (spec.dropWhile (· != c)).drop 1 |>.head? |>.any (· == ':') then
          match more, rest with
          | [], [] => .error ("No arg for -" ++ String.singleton c ++ " option")
          | [], value :: rest =>
            (takeOptions spec fuel rest).map fun p => ((c, value) :: p.1, p.2)
          | more, rest =>
            (takeOptions spec fuel rest).map fun p => ((c, String.ofList more) :: p.1, p.2)
        else
          let rest := if more.isEmpty then rest else String.ofList ('-' :: more) :: rest
          (takeOptions spec fuel rest).map fun p => ((c, "") :: p.1, p.2)
      | _ => .ok ([], words)

/-- The options of a command of the shell and its other words, or a complaint. -/
def optionsOf (spec : String) (words : List String) :
    Except String (List (Char × String) × List String) :=
  takeOptions spec.toList ((words.map (·.length + 1)).foldl (· + ·) 1) words

/-! ### Words -/

/-- A text between quotes, so that a shell reads it back. Quotes in it stand between double quotes
of their own. -/
def quoteText (text : String) : String :=
  let cs := text.toList
  String.ofList (go (cs.length + 1) cs)
where
  /-- The quoted characters. -/
  go : Nat → List Char → List Char
    | 0, _ => []
    | fuel + 1, cs =>
      let plain := cs.takeWhile (· != '\'')
      let rest := cs.drop plain.length
      let quotes := rest.takeWhile (· == '\'')
      let after := rest.drop quotes.length
      let double := if quotes.isEmpty then [] else '"' :: quotes ++ ['"']
      '\'' :: plain ++ '\'' :: double ++ (if after.isEmpty then [] else go fuel after)

/-- The largest number that a word may be. -/
def largestNatural : Nat := 2147483647

/-- The number that a word must be, or a complaint. -/
def naturalWord (word : String) : Except String Nat :=
  match (Text.natural? word).filter (· ≤ largestNatural) with
  | some n => .ok n
  | none => .error ("Illegal number: " ++ word)

end SnippetForge.Shell
