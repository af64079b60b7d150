import SnippetForge.Machine.Basic
import SnippetForge.Shell.Arithmetic
import SnippetForge.Shell.Token

/-!
# Variables and parameters

What a script can read by a name: its variables, its arguments, and what it knows about itself. A
variable that is set keeps its attributes; one that cannot be changed stays as it is.
-/

namespace SnippetForge.Process

open Shell

/-! ### Variables -/

/-- The variable of a name. -/
def named? (p : Process) (name : String) : Option Variable :=
  p.bindings.find? (·.name == name)

/-- The value of a variable. -/
def value? (p : Process) (name : String) : Option String :=
  (p.named? name).bind (·.value)

/-- Whether a variable cannot be changed. -/
def isReadonly (p : Process) (name : String) : Bool :=
  (p.named? name).any (·.isReadonly)

/-- The variables without the one of a name. -/
def dropVariable (p : Process) (name : String) : Process :=
  { p with bindings := p.bindings.filter fun v => v.name != name }

/-- Whether an option is set. -/
def hasOption (p : Process) (letter : Char) : Bool :=
  p.options.contains letter

/-- Puts a variable in the place of the one with its name. The place among the options starts anew
when its variable is set, and programs are looked up anew when the search path is. -/
def putVariable (p : Process) (v : Variable) : Process :=
  let bindings :=
    if (p.named? v.name).isSome then
      p.bindings.map fun w => if w.name = v.name then v else w
    else p.bindings ++ [v]
  let p := { p with bindings := bindings }
  if v.name = "OPTIND" then
    { p with cursor := ⟨((Text.natural? (v.value.getD "")).filter (0 < ·)).getD 1, none⟩ }
  else if v.name = "PATH" then { p with known := [] }
  else p

/-- Sets a variable, whatever its attributes. -/
def setValue (p : Process) (name value : String) : Process :=
  match p.named? name with
  | some v =>
    p.putVariable
      { v with value := some value, isExported := v.isExported || p.hasOption 'a' }
  | none => p.putVariable ⟨name, some value, p.hasOption 'a', false⟩

/-- Sets a variable; none if it cannot be changed. -/
def assign? (p : Process) (name value : String) : Option Process :=
  if p.isReadonly name then none else some (p.setValue name value)

/-- Puts variables back as they were. -/
def putBack (p : Process) (former : List Former) : Process :=
  former.foldl (fun p f =>
    match f.2 with
    | some v => p.putVariable v
    | none => p.dropVariable f.1) p

/-- Hands a variable on to programs. -/
def exportVariable (p : Process) (name : String) : Process :=
  match p.named? name with
  | some v => p.putVariable { v with isExported := true }
  | none => p.putVariable ⟨name, none, true, false⟩

/-- Makes a variable one that cannot be changed. -/
def protectVariable (p : Process) (name : String) : Process :=
  match p.named? name with
  | some v => p.putVariable { v with isReadonly := true }
  | none => p.putVariable ⟨name, none, false, true⟩

/-- The number by which names are listed that are kept in some number of rows. -/
def nameKey (rows : Nat) (name : String) : Nat :=
  let cs := name.toList.map Char.toNat
  (cs.foldl (· + ·) (((cs.head?).getD 0) * 16)) % rows

/-- How many rows variables are kept in. -/
def variableRows : Nat := 39

/-- The variables that a script hands on to programs, in the order of its rows. -/
def handedOn (p : Process) : List Variable :=
  (p.bindings.filter fun v => v.isExported && v.value.isSome).mergeSort fun a b =>
    nameKey variableRows a.name ≤ nameKey variableRows b.name

/-- The variables of a program as a list. -/
def environment (p : Process) : List (String × String) :=
  p.bindings.filterMap fun v => if v.isExported then v.value.map fun t => (v.name, t) else none

/-- The search path of a process. -/
def searchPath (p : Process) : String :=
  (p.value? "PATH").getD "/usr/local/sbin:/usr/local/bin:/usr/sbin:/usr/bin:/sbin:/bin"

/-! ### Parameters -/

/-- The text between arguments that are joined. -/
def joint (p : Process) : String :=
  match p.value? "IFS" with
  | some separators => String.ofList (separators.toList.take 1)
  | none => " "

/-- The arguments of a process. -/
def words (p : Process) : List String :=
  p.arguments.drop 1

/-- Whether a name stands for all arguments. -/
def isAll (name : String) : Bool :=
  name == "@" || name == "*"

/-- The letters of the options that can be set, the last one of the table first. -/
def optionLetters : List Char :=
  "pubaCEVvxsnmiIfe".toList

/-- The value of a parameter, if it is set. -/
def parameter? (p : Process) (name : String) : Option String :=
  match name with
  | "#" => some (toString p.words.length)
  | "?" => some (toString p.status)
  | "$" => some (toString p.leader)
  | "!" => p.lastBackground.map toString
  | "@" => some (p.joint.intercalate p.words)
  | "*" => some (p.joint.intercalate p.words)
  | "-" => some (String.ofList (optionLetters.filter p.hasOption))
  | name =>
    match Text.natural? name with
    | some n => p.arguments[n]?
    | none => p.value? name

/-- Whether the value of a parameter counts as missing for a word that stands in for it. -/
def lacks (p : Process) (name : String) (orEmpty : Bool) : Bool :=
  match p.parameter? name with
  | none => true
  | some value => orEmpty && value == ""

/-- The characters that separate fields. -/
def separators (p : Process) : List Char :=
  ((p.value? "IFS").getD " \t\n").toList

/-- How an expression reads and changes the variables of a process. -/
def access : Arithmetic.Access Process :=
  ⟨fun p name => (p.value? name).getD "", assign?⟩

/-! ### Home directories -/

/-- The home directories of the users of the system. -/
def homes : List (String × String) :=
  [("root", "/root"), ("daemon", "/usr/sbin"), ("bin", "/bin"), ("sys", "/dev"),
    ("mail", "/var/mail"), ("www-data", "/var/www"), ("nobody", "/nonexistent")]

/-- The home directory that a user's name means; no name means the user of the process. -/
def home? (p : Process) (user : String) : Option String :=
  if user = "" then p.value? "HOME" else homes.lookup user

end SnippetForge.Process
