import SnippetForge.Disk.Basic

/-!
# Modes in words

How modes are written and changed: as octal digits, as letters, and as clauses that say for whom
something is added, removed or set. A clause that names nobody leaves the bits alone that new files
do not get either.
-/

namespace SnippetForge.Shell.Utility

/-! ### Bits -/

/-- All bits of a mode. -/
def allBits : Mode := 4095

/-- The bits of a letter for a person, with those that belong to that person besides. -/
def personBits : Char → Mode
  | 'u' => 2496
  | 'g' => 1080
  | 'o' => 519
  | _ => allBits

/-- The bits of a letter for something that can be done. -/
def rightBits : Char → Mode
  | 'r' => 292
  | 'w' => 146
  | 'x' => 73
  | 's' => 3072
  | 't' => 512
  | _ => 0

/-- The bits of several letters together. -/
def unionOf (bits : Char → Mode) (letters : List Char) : Mode :=
  letters.foldl (fun m c => Nat.lor m (bits c)) 0

/-! ### Changes -/

/-- What a part of a clause names. -/
inductive ModeValue
  /-- Some bits. -/
  | bits (m : Mode)
  /-- Some bits, and those for executing if anybody may execute or if it is a directory. -/
  | bitsAndAnyExecution (m : Mode)
  /-- What a person may do already. -/
  | copied (person : Char)
  deriving DecidableEq, Repr

/-- One change of a mode. -/
structure ModeChange where
  operator : Char
  /-- The bits of those that are named; none if nobody is. -/
  affected : Mode
  value : ModeValue
  /-- The bits that are named one way or another. -/
  mentioned : Mode
  deriving DecidableEq, Repr

/-- The value of octal digits; none if there are none or too many. -/
def octalMode? (cs : List Char) : Option Mode :=
  if !cs.isEmpty && cs.all fun c => '0' ≤ c && c ≤ '7' then
    let n := cs.foldl (fun n c => n * 8 + (c.toNat - 48)) 0
    if n ≤ allBits then some n else none
  else none

/-- What follows an operator, and the rest; none if it is nothing that can follow. -/
def readValue? (affected : Mode) (cs : List Char) : Option (Mode × ModeValue × List Char) :=
  let digits := cs.takeWhile fun c => '0' ≤ c && c ≤ '7'
  match cs with
  | 'u' :: rest => some (affected, .copied 'u', rest)
  | 'g' :: rest => some (affected, .copied 'g', rest)
  | 'o' :: rest => some (affected, .copied 'o', rest)
  | _ =>
    if digits.isEmpty then
      let letters := cs.takeWhile fun c => "rwxXst".toList.contains c
      let bits := unionOf rightBits letters
      let value := if letters.contains 'X' then ModeValue.bitsAndAnyExecution bits else .bits bits
      some (affected, value, cs.drop letters.length)
    else
      let rest := cs.drop digits.length
      if affected = 0 && (rest.head?).all (· == ',') then
        (octalMode? digits).map fun m => (allBits, .bits m, rest)
      else none

/-- The bits that a value names by itself. -/
def ModeValue.named : ModeValue → Mode
  | .bits m => m
  | .bitsAndAnyExecution m => m
  | .copied person => Nat.land (personBits person) 511

/-- The changes after the persons of a clause, and the rest. -/
def readChanges? (affected : Mode) : (fuel : Nat) → List Char →
    Option (List ModeChange × List Char)
  | 0, _ => none
  | fuel + 1, operator :: cs =>
    if operator = '+' || operator = '-' || operator = '=' then do
      let (bits, value, rest) ← readValue? affected cs
      let named := value.named
      let mentioned :=
        if affected = 0 then (if bits = 0 then named else bits) else Nat.land affected named
      let change : ModeChange := ⟨operator, bits, value, mentioned⟩
      match rest with
      | c :: _ =>
        if c = ',' then return ([change], rest)
        else
          let (changes, rest) ← readChanges? affected fuel rest
          return (change :: changes, rest)
      | [] => return ([change], [])
    else none
  | _, [] => none

/-- The changes of some clauses. -/
def readClauses? : (fuel : Nat) → List Char → Option (List ModeChange)
  | 0, _ => none
  | fuel + 1, cs => do
    let persons := cs.takeWhile fun c => "ugoa".toList.contains c
    let (changes, rest) ←
      readChanges? (unionOf personBits persons) (cs.length + 1) (cs.drop persons.length)
    match rest with
    | [] => return changes
    | _ :: rest => return changes ++ (← readClauses? fuel rest)

/-- The changes that a mode in words means; none if it means none. -/
def readMode? (text : String) : Option (List ModeChange) :=
  let cs := text.toList
  if (cs.head?).any fun c => '0' ≤ c && c ≤ '7' then
    (octalMode? cs).map fun m =>
      let mentioned := if cs.length < 5 then Nat.lor (Nat.land m 3584) 511 else allBits
      [⟨'=', allBits, .bits m, mentioned⟩]
  else readClauses? (cs.length + 1) cs

/-- The mode after a change. -/
def ModeChange.apply (isDirectory : Bool) (mask : Mode) (m : Mode) (c : ModeChange) : Mode :=
  let spared := if isDirectory then (3072 : Mode).without c.mentioned else 0
  let value :=
    match c.value with
    | .bits bits => bits
    | .bitsAndAnyExecution bits =>
      if isDirectory || m.isExecutableByAny then Nat.lor bits 73 else bits
    | .copied person =>
      let held := Nat.land m (Nat.land (personBits person) 511)
      unionOf (fun right => if Nat.land held (rightBits right) = 0 then 0 else rightBits right)
        ['r', 'w', 'x']
  let allowed := if c.affected = 0 then allBits.without mask else c.affected
  let value := Mode.without (Nat.land value allowed) spared
  match c.operator with
  | '+' => Nat.lor m value
  | '-' => m.without value
  | _ =>
    let kept := Nat.lor (if c.affected = 0 then 0 else allBits.without c.affected) spared
    Nat.lor (Nat.land m kept) value

/-- The mode after some changes. -/
def changedMode (isDirectory : Bool) (mask : Mode) (changes : List ModeChange) (m : Mode) : Mode :=
  changes.foldl (ModeChange.apply isDirectory mask) m

/-! ### Texts -/

/-- The letters of the three bits of a person; a special bit changes the last one. -/
def rightLetters (bits : Nat) (special : Option Char) : List Char :=
  let last :=
    match special, bits.testBit 0 with
    | some c, true => c
    | some c, false => c.toUpper
    | none, true => 'x'
    | none, false => '-'
  [if bits.testBit 2 then 'r' else '-', if bits.testBit 1 then 'w' else '-', last]

/-- A mode as letters. -/
def modeLetters (m : Mode) : String :=
  String.ofList
    (rightLetters (m / 64 % 8) (if m.testBit 11 then some 's' else none)
      ++ rightLetters (m / 8 % 8) (if m.testBit 10 then some 's' else none)
      ++ rightLetters (m % 8) (if m.testBit 9 then some 't' else none))

/-- A mode as four octal digits. -/
def modeDigits (m : Mode) : String :=
  String.ofList ([m / 512 % 8, m / 64 % 8, m / 8 % 8, m % 8].map fun d => Char.ofNat (48 + d))

/-- A mode as octal digits and as letters. -/
def modeText (m : Mode) : String :=
  modeDigits m ++ " (" ++ modeLetters m ++ ")"

/-- The letter for the kind of a node. -/
def kindLetter : Node → Char
  | .directory => 'd'
  | .link _ => 'l'
  | .pipe => 'p'
  | .device _ => 'c'
  | .file _ => '-'

/-- The letters for the kind and the mode of an entry. -/
def entryLetters (e : Entry) : String :=
  String.singleton (kindLetter e.node) ++ modeLetters e.mode

end SnippetForge.Shell.Utility
