import SnippetForge.Shell.Awk.Fields
import SnippetForge.Shell.Awk.Table
import SnippetForge.Shell.Utility.Basic

/-!
# The state of a program for records

What a program has while it runs: values of names, tables, the record and its fields, texts that it
reads from, and texts that it has written but not handed over. What it hands over stands in order.

A program may need a command to be run. It then stops with a request, and is run again from its
start with the answers to all requests so far; the disk after a command is part of the answer.
-/

namespace SnippetForge.Shell.Awk

/-- What a name stands for. -/
inductive Slot
  | value (v : Value)
  | table (id : Nat)
  /-- A name that has not been used; it stands for a table of this number if it is used as one. -/
  | undecided (id : Nat)

/-- A text to read records from. -/
structure Feed where
  rest : List Char
  /-- Whether nothing more will come. -/
  isWhole : Bool

/-- Where a program writes to besides its output, and what has not been handed over, last text
first. -/
structure Target where
  name : String
  isCommand : Bool
  texts : List String

/-- Why the statements that follow are not executed. -/
inductive Stop
  | leaveLoop
  | goRound
  | nextRecord
  | nextFile
  | giveBack (v : Value)
  | quit
  | fails (message : String)
  | asks (r : CommandRequest)
  /-- More of the input is needed. -/
  | starves
  /-- A bound for the depth of calls was reached. -/
  | sinks

/-- The state of a program. -/
structure State where
  site : Site
  definitions : Std.HashMap String Definition
  globals : Std.HashMap String Slot
  locals : List (String × Slot)
  tables : Std.HashMap Nat Table
  nextTable : Nat
  record : String
  fields : Array Value
  /-- Whether fields have changed since the record was a text. -/
  isStale : Bool
  /-- The number of the next operand. -/
  operand : Nat
  /-- Whether an operand has named an input. -/
  hasInput : Bool
  /-- The text that records come from; the standard input if there is none inside. -/
  current : Option (Option Feed)
  input : Feed
  files : List (String × Feed)
  commands : List (String × Feed × Nat)
  targets : List Target
  /-- Output that has not been handed over, last text first. -/
  out : List String
  /-- What has been handed over to descriptors, last piece first. -/
  written : List (Nat × String)
  disk : Disk
  answers : List CommandAnswer
  code : Nat
  seed : Value
  /-- The rules from a record to another one that are between these. -/
  between : List Nat

/-- What a program does. -/
abbrev Run := ExceptT Stop (StateM State)

/-! ### Names -/

/-- What a name stands for. -/
def State.slot? (s : State) (name : String) : Option Slot :=
  match s.locals.lookup name with
  | some slot => some slot
  | none => s.globals[name]?

/-- A state in which a name stands for something else. -/
def State.withSlot (s : State) (name : String) (slot : Slot) : State :=
  if s.locals.any fun e => e.1 == name then
    { s with locals := s.locals.map fun e => if e.1 == name then (name, slot) else e }
  else { s with globals := s.globals.insert name slot }

/-- The value of a name of the whole program. -/
def State.global (s : State) (name : String) : Value :=
  match s.globals[name]? with
  | some (.value v) => v
  | _ => .unset

/-- The text of a name of the whole program. -/
def State.setting (s : State) (name : String) : String :=
  (s.global name).toText "%.6g"

/-- The text of a value, as it is joined with others. -/
def State.textOf (s : State) (v : Value) : String :=
  match v with
  | .number n => numberText (s.setting "CONVFMT") n
  | v => v.toText ""

/-- The text of a value. -/
def textOf (v : Value) : Run String := do
  return (← get).textOf v

/-! ### Failures -/

/-- Fails with a message about the run. -/
def failRun {α : Type} (text : String) : Run α := do
  let s ← get
  throw (.fails ("run time error: " ++ text ++ "\n\tFILENAME=\"" ++ s.setting "FILENAME" ++ "\" FNR="
    ++ s.setting "FNR" ++ " NR=" ++ s.setting "NR"))

/-- The pattern that a text means. -/
def patternOfText (text : String) : Run Expression :=
  match Sought.read text.toList with
  | .ok e => pure e
  | .error flaw =>
    failRun ("regular expression compile failed (" ++ flaw.words ++ ")\n" ++ text)

/-- The separator that a text means. -/
def separatorOfText (text : String) : Run Separator :=
  match Separator.ofText text with
  | .ok k => pure k
  | .error flaw =>
    failRun ("regular expression compile failed (" ++ flaw.words ++ ")\n" ++ text)

/-! ### The record -/

/-- The record as a text. -/
def recordText : Run String := do
  let s ← get
  if s.isStale then
    let text := (s.setting "OFS").intercalate (s.fields.toList.map s.textOf)
    modify fun s => { s with record := text, isStale := false }
    return text
  else return s.record

/-- Splits a text into fields as it is usual in the program. -/
def usualParts (text : String) : Run (List String) := do
  let s ← get
  return (← separatorOfText (s.setting "FS")).split text

/-- Sets the record. -/
def setRecord (text : String) : Run Unit := do
  let parts ← usualParts text
  modify fun s =>
    { s with
      record := text, fields := (parts.map Value.ofOutside).toArray, isStale := false }

/-- The value of a field. -/
def fieldValue (number : Nat) : Run Value := do
  if number = 0 then return Value.ofOutside (← recordText)
  else return ((← get).fields[number - 1]?).getD .unset

/-- Sets how many fields there are. -/
def setFieldCount (count : Nat) : Run Unit :=
  modify fun s =>
    let kept := s.fields.extract 0 count
    { s with
      fields := kept ++ (List.replicate (count - kept.size) Value.unset).toArray
      isStale := true }

/-- Sets a field. -/
def setField (number : Nat) (v : Value) : Run Unit := do
  if number = 0 then setRecord (← textOf v)
  else
    if (← get).fields.size < number then setFieldCount number
    modify fun s => { s with fields := s.fields.setIfInBounds (number - 1) v, isStale := true }

/-- The number of a field for a value. -/
def fieldNumber (v : Value) : Run Nat := do
  let k := wholeOf v.toNumber
  if k < 0 then failRun ("negative field index $" ++ toString k) else return k.toNat

/-! ### Values of names -/

/-- Whether a name is the one for the number of fields. -/
def namesCount (s : State) (name : String) : Bool :=
  name == "NF" && (s.locals.lookup name).isNone

/-- The value of a name. -/
def nameValue (name : String) : Run Value := do
  let s ← get
  if namesCount s name then return .ofInt s.fields.size
  else
    match s.slot? name with
    | some (.value v) => return v
    | _ => return .unset

/-- Sets the value of a name. -/
def setName (name : String) (v : Value) : Run Unit := do
  if namesCount (← get) name then setFieldCount (wholeOf v.toNumber).toNat
  else modify fun s => s.withSlot name (.value v)

/-- The number of a name's table; the name stands for a table from now on. -/
def tableNumber (name : String) : Run Nat := do
  let s ← get
  match s.slot? name with
  | some (.table id) => return id
  | some (.undecided id) =>
    set (s.withSlot name (.table id))
    return id
  | _ =>
    set { s.withSlot name (.table s.nextTable) with nextTable := s.nextTable + 1 }
    return s.nextTable

/-- The table of a number. -/
def State.tableAt (s : State) (id : Nat) : Table :=
  (s.tables[id]?).getD Table.empty

/-- Changes the table of a number. -/
def changeTable {α : Type} (id : Nat) (change : Table → α × Table) : Run α := do
  let s ← get
  let (a, t) := change (s.tableAt id)
  set { s with tables := s.tables.insert id t }
  return a

/-! ### Writing -/

/-- Appends a text to a file. -/
def appendFile (name text : String) : Run Unit := do
  let s ← get
  match s.disk.updateFile s.site.cwd (Utility.pathOf name) s.site.fileMode
      fun old => old ++ Text.octetBytes text with
  | .ok disk => set { s with disk := disk }
  | .error fault =>
    throw (.fails ("close failed on file \"" ++ name ++ "\" (" ++ Utility.wordsOf fault ++ ")"))

/-- The text of a target that has not been handed over. -/
def Target.pending (t : Target) : String :=
  String.join t.texts.reverse

/-- Hands over the output that is kept back. -/
def flushOut : Run Unit :=
  modify fun s =>
    if s.out.isEmpty then s
    else { s with written := (1, String.join s.out.reverse) :: s.written, out := [] }

/-- Hands over all that is kept back, except what commands are to read. -/
def flush : Run Unit := do
  for t in (← get).targets do
    if !t.isCommand && !t.texts.isEmpty then
      modify fun s =>
        { s with
          targets := s.targets.map fun u => if u.name == t.name then { u with texts := [] } else u }
      appendFile t.name t.pending
  flushOut

/-- What comes of a command. -/
def ask (r : CommandRequest) : Run CommandAnswer := do
  match (← get).answers with
  | [] => throw (.asks r)
  | a :: rest =>
    modify fun s => { s with answers := rest, disk := a.disk }
    return a

/-- Writes to the output. -/
def writeOut (text : String) : Run Unit :=
  modify fun s => { s with out := text :: s.out }

/-- Writes to a file or a command, which is opened if it is not open. -/
def writeTo (outlet : Outlet) (name text : String) : Run Unit := do
  if name = "/dev/stdout" || name = "-" then writeOut text
  else if name = "/dev/stderr" then modify fun s => { s with written := (2, text) :: s.written }
  else
    let s ← get
    match s.targets.find? fun t => t.name == name with
    | some t =>
      let others := s.targets.filter fun t => t.name != name
      set { s with targets := { t with texts := text :: t.texts } :: others }
    | none =>
      let isCommand := outlet = .command
      if isCommand then flushOut
      else
        let change (old : ByteArray) : ByteArray :=
          if outlet = .append then old else ByteArray.empty
        match s.disk.updateFile s.site.cwd (Utility.pathOf name) s.site.fileMode change with
        | .ok disk => modify fun s => { s with disk := disk }
        | .error fault =>
          throw (.fails ("cannot open \"" ++ name ++ "\" for output (" ++ Utility.wordsOf fault
            ++ ")"))
      modify fun s => { s with targets := ⟨name, isCommand, [text]⟩ :: s.targets }

/-- Closes what a program writes to, and gives its code. -/
def closeTarget (t : Target) : Run Nat := do
  modify fun s => { s with targets := s.targets.filter fun u => u.name != t.name }
  if t.isCommand then return (← ask (.write t.name t.pending)).status
  else
    if !t.texts.isEmpty then appendFile t.name t.pending
    return 0

/-- Closes all that is open of a name, and gives the code; none if nothing is. -/
def closeName (name : String) : Run (Option Nat) := do
  let s ← get
  let target := s.targets.find? fun t => t.name == name
  let command := s.commands.lookup name
  let isRead := (s.files.lookup name).isSome
  modify fun s =>
    { s with
      files := s.files.filter fun f => f.1 != name
      commands := s.commands.filter fun f => f.1 != name }
  match target, command with
  | some t, _ => return some (← closeTarget t)
  | none, some (_, status) => return some status
  | none, none => return if isRead then some 0 else none

/-- Closes all that a program writes to: first the commands, then the rest. -/
def closeAll : Run Unit := do
  for t in (← get).targets do
    if t.isCommand then let _ ← closeTarget t
  flush

/-! ### Reading -/

/-- The next record of a text and the text after it; none if there is none. -/
def takeRecord (feed : Feed) : Run (Option (String × Feed)) := do
  let text := (← get).setting "RS"
  match RecordEnd.ofText text with
  | .error flaw =>
    failRun ("regular expression compile failed (" ++ flaw.words ++ ")\n" ++ text)
  | .ok k =>
    match k.next? feed.rest with
    | some (front, rest, isEnded) =>
      if isEnded || feed.isWhole then
        return some (String.ofList front, { feed with rest := rest })
      else throw .starves
    | none => if feed.isWhole then return none else throw .starves

/-- The text of a file, or the input. Opening a directory is fatal. -/
def openFile? (name : String) : Run (Except Fault Feed) := do
  let s ← get
  match Utility.readPath { s.site with disk := s.disk } s.disk name with
  | .ok source => return .ok ⟨source.text.toList, true⟩
  | .error (.system .isDirectory) => throw (.fails "read error (Is a directory)")
  | .error fault => return .error fault

/-- Whether a name stands for the standard input. -/
def namesStandard (name : String) : Bool :=
  name == "-" || name == "/dev/stdin"

/-- The name and the value of an operand that sets a value. -/
def settingOf? (word : String) : Option (String × String) :=
  let cs := word.toList
  let name := cs.takeWhile fun c => c.isAlphanum || c == '_'
  match name, cs.drop name.length with
  | c :: _, '=' :: value =>
    if c.isDigit then none else some (String.ofList name, String.ofList value)
  | _, _ => none

/-- The text that a value of an operand stands for. -/
def unescaped (text : String) : String :=
  let rec go : Nat → List Char → List Char
    | 0, cs => cs
    | _ + 1, [] => []
    | fuel + 1, '\\' :: '"' :: rest => '"' :: go fuel rest
    | fuel + 1, '\\' :: '/' :: rest => '/' :: go fuel rest
    | fuel + 1, '\\' :: c :: rest =>
      if c = 'e' then '\\' :: 'e' :: go fuel rest
      else
        match readEscape (c :: rest) with
        | (d, rest) => d :: go fuel rest
    | fuel + 1, c :: rest => c :: go fuel rest
  String.ofList (go (text.length + 1) text.toList)

/-- Goes on to the next operand that names an input; false if there is none. -/
def openNext : (fuel : Nat) → Run Bool
  | 0 => return false
  | fuel + 1 => do
    let s ← get
    let count := (wholeOf (s.global "ARGC").toNumber).toNat
    if s.operand < count then
      let id ← tableNumber "ARGV"
      let key := toString s.operand
      let word := (((← get).tableAt id).cells[key]?).map (·.toText "%.6g")
      modify fun s => { s with operand := s.operand + 1 }
      match word with
      | none => openNext fuel
      | some "" => openNext fuel
      | some word =>
        match settingOf? word with
        | some (name, value) =>
          setName name (.ofOutside (unescaped value))
          openNext fuel
        | none =>
          let feed ←
            if namesStandard word then pure none
            else
              match ← openFile? word with
              | .ok feed => pure (some feed)
              | .error fault =>
                throw (.fails ("cannot open \"" ++ word ++ "\" (" ++ Utility.wordsOf fault ++ ")"))
          setName "FILENAME" (.text word)
          setName "FNR" (.ofInt 0)
          modify fun s => { s with hasInput := true, current := some feed }
          return true
    else if s.hasInput then return false
    else
      setName "FILENAME" (.text "-")
      modify fun s => { s with hasInput := true, current := some none }
      return true

/-- The next record of the program; none if there is none. `fuel` bounds how many inputs are
empty. -/
def nextMain : (fuel : Nat) → Run (Option String)
  | 0 => return none
  | fuel + 1 => do
    match (← get).current with
    | none =>
      let count := (wholeOf ((← get).global "ARGC").toNumber).toNat
      if ← openNext (count + 1) then nextMain fuel else return none
    | some feed? =>
      match ← takeRecord (feed?.getD (← get).input) with
      | some (text, feed) =>
        modify fun s =>
          if feed?.isSome then { s with current := some (some feed) } else { s with input := feed }
        return some text
      | none =>
        modify fun s => { s with current := none }
        nextMain fuel

/-- The next record of the program, counted. -/
def nextCounted : Run (Option String) := do
  let count := (wholeOf ((← get).global "ARGC").toNumber).toNat
  match ← nextMain (2 * count + 4) with
  | none => return none
  | some text =>
    let step (name : String) : Run Unit := do
      let n := ((← get).global name).toNumber
      modify fun s =>
        { s with globals := s.globals.insert name (.value (.number (n.add (.ofInt 1)))) }
    step "NR"
    step "FNR"
    return some text

/-- The next record of a file; none at its end, or a fault. -/
def nextOfFile (name : String) : Run (Except Fault (Option String)) := do
  if namesStandard name then
    match ← takeRecord (← get).input with
    | some (text, feed) =>
      modify fun s => { s with input := feed }
      return .ok (some text)
    | none => return .ok none
  else
    let feed ←
      match (← get).files.lookup name with
      | some feed => pure (.ok feed)
      | none => openFile? name
    match feed with
    | .error fault => return .error fault
    | .ok feed =>
      let taken ← takeRecord feed
      let left := (taken.map (·.2)).getD ⟨[], true⟩
      modify fun s =>
        { s with files := (name, left) :: s.files.filter fun f => f.1 != name }
      return .ok (taken.map (·.1))

/-- The next record that a command writes; none at the end. -/
def nextOfCommand (command : String) : Run (Option String) := do
  let (feed, status) ←
    match (← get).commands.lookup command with
    | some found => pure found
    | none =>
      flushOut
      let a ← ask (.read command)
      pure (⟨a.text.toList, true⟩, a.status)
  let taken ← takeRecord feed
  let left := (taken.map (·.2)).getD ⟨[], true⟩
  modify fun s =>
    { s with commands := (command, left, status) :: s.commands.filter fun f => f.1 != command }
  return taken.map (·.1)

end SnippetForge.Shell.Awk
