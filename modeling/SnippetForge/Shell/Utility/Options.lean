import SnippetForge.Shell.Utility.Basic

/-!
# Options of system programs

How system programs read their words. An option is a letter after a dash or a name after two; several
letters may share a dash. An option that has a value takes it from the same word or from the next
one. A name may be shortened as long as it is clear. Options may stand after operands, unless the
program runs another one whose words they could be; two dashes alone end the options.
-/

namespace SnippetForge.Shell.Utility

/-- The options of a program: its letters, a colon following those that have a value and two those
that may have one, and its names with the letters that they stand for. -/
structure OptionTable where
  letters : String
  names : List (String × Char)

/-- What the words of a program say: its options with their values, and the other words. -/
structure Call where
  options : List (Char × String)
  operands : List String
  deriving DecidableEq, Repr

/-- Why words cannot be read. -/
inductive CallFlaw
  | unknownLetter (c : Char)
  | unknownName (word : String)
  | unclearName (word : String) (names : List String)
  | missingValue (c : Char)
  | missingNamed (name : String)
  | unwantedValue (name : String)
  deriving DecidableEq, Repr

/-- The words for a flaw. -/
def CallFlaw.words : CallFlaw → String
  | .unknownLetter c => "invalid option -- " ++ inQuotes (String.singleton c)
  | .unknownName word => "unrecognized option " ++ inQuotes word
  | .unclearName word names =>
    "option " ++ inQuotes word ++ " is ambiguous; possibilities:"
      ++ String.join (names.map fun name => " " ++ inQuotes ("--" ++ name))
  | .missingValue c => "option requires an argument -- " ++ inQuotes (String.singleton c)
  | .missingNamed name => "option " ++ inQuotes ("--" ++ name) ++ " requires an argument"
  | .unwantedValue name => "option " ++ inQuotes ("--" ++ name) ++ " doesn't allow an argument"

/-- How an option takes a value. -/
inductive Arity
  | none
  | optional
  | required
  deriving DecidableEq, Repr

namespace OptionTable

/-- No options. -/
def empty : OptionTable :=
  ⟨"", []⟩

/-- How the option of a letter takes a value, if there is such an option. -/
def arity? (t : OptionTable) (c : Char) : Option Arity :=
  if c = ':' then .none
  else
    match t.letters.toList.dropWhile (· != c) with
    | [] => Option.none
    | _ :: ':' :: ':' :: _ => some .optional
    | _ :: ':' :: _ => some .required
    | _ => some .none

/-- The option that a name, or the start of one, means. -/
def named? (t : OptionTable) (word name : String) : Except CallFlaw (String × Char) :=
  match t.names.find? fun n => n.1 == name with
  | some found => .ok found
  | none =>
    match t.names.filter fun n => name.toList.isPrefixOf n.1.toList with
    | [] => .error (.unknownName word)
    | [found] => .ok found
    | found :: others =>
      if others.all fun n => n.2 == found.2 then .ok found
      else .error (.unclearName word ((found :: others).map (·.1)))

end OptionTable

namespace Call

/-- The call with one more option. -/
def add (c : Char) (value : String) (call : Call) : Call :=
  { call with options := (c, value) :: call.options }

/-- Reads the letters after a dash; gives the options, and the letter that still needs a value. -/
def readLetters (t : OptionTable) : List Char →
    Except CallFlaw (List (Char × String) × Option Char)
  | [] => .ok ([], none)
  | c :: rest =>
    match t.arity? c with
    | none => .error (.unknownLetter c)
    | some .none => (readLetters t rest).map fun p => ((c, "") :: p.1, p.2)
    | some .optional => .ok ([(c, String.ofList rest)], none)
    | some .required =>
      if rest.isEmpty then .ok ([], some c) else .ok ([(c, String.ofList rest)], none)

/-- Reads the words of a program. `pending` is an option whose value is the next word, with the flaw
if there is none. -/
def readFrom (t : OptionTable) (permutes : Bool) : (pending : Option (Char × CallFlaw)) →
    List String → Except CallFlaw Call
  | some (_, flaw), [] => .error flaw
  | some (c, _), value :: rest => (readFrom t permutes none rest).map (add c value)
  | none, [] => .ok ⟨[], []⟩
  | none, word :: rest =>
    match word.toList with
    | ['-', '-'] => .ok ⟨[], rest⟩
    | '-' :: '-' :: cs =>
      let name := String.ofList (cs.takeWhile (· != '='))
      match t.named? word name with
      | .error flaw => .error flaw
      | .ok (full, c) =>
        match cs.drop name.length, (t.arity? c).getD .none with
        | _ :: _, .none => .error (.unwantedValue full)
        | _ :: value, _ => (readFrom t permutes none rest).map (add c (String.ofList value))
        | [], .required => readFrom t permutes (some (c, .missingNamed full)) rest
        | [], _ => (readFrom t permutes none rest).map (add c "")
    | '-' :: c :: cs =>
      match readLetters t (c :: cs) with
      | .error flaw => .error flaw
      | .ok (options, pending) =>
        (readFrom t permutes (pending.map fun c => (c, .missingValue c)) rest).map fun call =>
          { call with options := options ++ call.options }
    | _ =>
      if permutes then
        (readFrom t permutes none rest).map fun call =>
          { call with operands := word :: call.operands }
      else .ok ⟨[], word :: rest⟩

/-- What the words of a program say. -/
def read (t : OptionTable) (words : List String) : Except CallFlaw Call :=
  readFrom t true none words

/-- What the words of a program say that runs another one. -/
def readLeading (t : OptionTable) (words : List String) : Except CallFlaw Call :=
  readFrom t false none words

/-- Whether an option is given. -/
def has (call : Call) (c : Char) : Bool :=
  call.options.any (·.1 == c)

/-- Whether one of some options is given. -/
def hasAny (call : Call) (letters : String) : Bool :=
  call.options.any fun o => letters.toList.contains o.1

/-- The last value of an option. -/
def value? (call : Call) (c : Char) : Option String :=
  (call.options.reverse.find? (·.1 == c)).map (·.2)

/-- All values of an option, in order. -/
def values (call : Call) (c : Char) : List String :=
  (call.options.filter (·.1 == c)).map (·.2)

/-- The last of some options that is given. -/
def lastOf? (call : Call) (letters : String) : Option Char :=
  (call.options.reverse.find? fun o => letters.toList.contains o.1).map (·.1)

end Call

/-! ### Values that are words -/

/-- The words that an option may have as its value; those of one group mean the same. -/
abbrev Choices (α : Type) := List (List String × α)

/-- What a word means among some choices, which it may only begin; or a complaint. -/
def Choices.read {α : Type} (choices : Choices α) (name word : String) : Except String α :=
  let named := choices.filter fun choice => choice.1.contains word
  let begun := choices.filter fun choice => choice.1.any fun w => word.toList.isPrefixOf w.toList
  let refuse (kind : String) : Except String α :=
    .error (kind ++ " argument " ++ marked word ++ " for " ++ marked name
      ++ "\nValid arguments are:" ++ String.join (choices.map fun choice =>
        "\n  - " ++ ", ".intercalate (choice.1.map marked)))
  match named, begun with
  | (_, a) :: _, _ => .ok a
  | [], [(_, a)] => .ok a
  | [], [] => refuse "invalid"
  | [], _ => refuse "ambiguous"

/-- Runs a program on what its words say, or fails with the given code. -/
def withCall (site : Site) (t : OptionTable) (code : Nat) (words : List String)
    (use : Call → Outcome) : Outcome :=
  match Call.read t words with
  | .ok call => use call
  | .error flaw => misuse site flaw.words code

end SnippetForge.Shell.Utility
