import SnippetForge.Number.Elementary
import SnippetForge.Shell.Awk.Parser
import SnippetForge.Shell.Awk.State
import SnippetForge.Shell.Awk.Writing
import SnippetForge.Shell.Utility.Dates

/-!
# Evaluating expressions and executing statements

Expressions and statements are evaluated by recursion whose depth is bounded. A loop goes round as
often as it has to, up to a bound that no program reaches.
-/

namespace SnippetForge.Shell.Awk

/-! ### Operations -/

/-- The result of an operation. -/
def Operation.apply (k : Operation) (a b : Binary) : Binary :=
  match k with
  | .add => a.add b
  | .sub => a.sub b
  | .mul => a.mul b
  | .div => a.div b
  | .mod => a.rem b
  | .pow => a.pow b

/-- Compares two values: as texts if one of them is nothing but a text, as numbers otherwise. -/
def compareValues (k : Comparison) (a b : Value) : Run Bool := do
  if a.isText || b.isText then
    let a ← textOf a
    let b ← textOf b
    return k.holds (decide (a < b)) (a == b)
  else
    let x := a.toNumber
    let y := b.toNumber
    return k.holds (x.lt y) (x.eq y)

/-- The key for some values. -/
def keyOfValues (vs : List Value) : Run Key := do
  match vs with
  | [v] => return Key.ofValue ((← get).setting "CONVFMT") v
  | vs => return .text (((← get).setting "SUBSEP").intercalate (← vs.mapM textOf))

/-- The part of a text from a place on that is so long. A start below zero makes it longer. -/
def partOfText (text : String) (start : Binary) (length : Option Binary) : String :=
  let cs := text.toList
  let start := wholeOf start
  match length with
  | none => String.ofList (cs.drop (start - 1).toNat)
  | some length =>
    let length := wholeOf length
    let length := if start < 0 then length - start else length
    String.ofList ((cs.drop (start - 1).toNat).take length.toNat)

/-- The place of a text in another one, counted from one; zero if it is not there. -/
def placeOfText (text sought : List Char) : (fuel : Nat) → (place : Nat) → Nat
  | 0, _ => 0
  | fuel + 1, place =>
    if sought.isPrefixOf text then place
    else
      match text with
      | [] => 0
      | _ :: rest => placeOfText rest sought fuel (place + 1)

/-- The point in time that six numbers mean; one second before all time if they mean none. -/
def timeOfText (text : String) : Int :=
  match (Separator.blanks.split text).map fun w => wholeOf (numberOf w) with
  | year :: month :: day :: hour :: minute :: second :: _ =>
    let d : Utility.CalendarDay := ⟨year.toNat, month.toNat, day.toNat⟩
    (d.number * Utility.daySeconds : Int) + hour * 3600 + minute * 60 + second
  | _ => -1

/-- How often a loop goes round at most. -/
def mostRounds : Nat := 1000000000000

/-- Does a step over and over as long as it says so. -/
def repeatRun (step : Run Bool) : (fuel : Nat) → Run Unit
  | 0 => throw .sinks
  | fuel + 1 => do
    if ← step then repeatRun step fuel else pure ()

/-- Executes the body of a loop; false if that leaves the loop. -/
def runBody (body : Run Unit) : Run Bool :=
  tryCatch (do body; return true) fun stop =>
    match stop with
    | .leaveLoop => return false
    | .goRound => return true
    | stop => throw stop

/-- Where a value is. -/
inductive Spot
  | name (name : String)
  | item (table : Nat) (key : Key)
  | field (number : Nat)

/-- The value at a spot. -/
def Spot.value : Spot → Run Value
  | .name n => nameValue n
  | .item table key => changeTable table fun t => t.fetch key
  | .field n => fieldValue n

/-- Sets the value at a spot. -/
def Spot.set (v : Value) : Spot → Run Unit
  | .name n => setName n v
  | .item table key => changeTable table fun t => ((), t.put key v)
  | .field n => setField n v

/-- Reads a record: from where it comes decides what is set and counted. The result is one, zero at
the end, and below zero if nothing can be read. -/
def readRecord (inlet : Inlet) (source : String) (spot : Option Spot) : Run Value := do
  let taken : Except Fault (Option String) ←
    match inlet with
    | .main => do pure (.ok (← nextCounted))
    | .file => nextOfFile source
    | .command => do pure (.ok (← nextOfCommand source))
  match taken with
  | .error _ => return .ofInt (-1)
  | .ok none => return .ofInt 0
  | .ok (some text) =>
    match inlet with
    | .command =>
      let n := ((← get).global "NR").toNumber
      modify fun s =>
        { s with globals := s.globals.insert "NR" (.value (.number (n.add (.ofInt 1)))) }
    | _ => pure ()
    match spot with
    | some spot => spot.set (.ofOutside text)
    | none => setRecord text
    return .ofInt 1

/-- Prints values. -/
def printValues (vs : List Value) : Run String := do
  let s ← get
  let shown := vs.map fun v =>
    match v with
    | .number n => numberText (s.setting "OFMT") n
    | v => s.textOf v
  return (s.setting "OFS").intercalate shown ++ s.setting "ORS"

/-- A text by a format, or a failure of the run. `say` gets what was written before the failure. -/
def formatValues (function : String) (vs : List Value) (say : String → Run Unit) : Run Unit := do
  match vs with
  | [] => pure ()
  | v :: vs =>
    let format ← textOf v
    let (done, failure) :=
      writeFormat ((← get).setting "CONVFMT") (format.length + 1) 0 format.toList vs []
    say (String.ofList done.reverse)
    match failure with
    | none => pure ()
    | some f => failRun (f.words function format)

mutual

/-- The value of an expression. -/
def evaluate : (fuel : Nat) → Expr → Run Value
  | 0, _ => throw .sinks
  | fuel + 1, e =>
    match e with
    | .number n => return .number n
    | .text s => return .text s
    | .regex _ e => return .ofBool (Sought.holds (← recordText) e)
    | .name n => nameValue n
    | .item _ _ => do (← spotOf fuel e).value
    | .field _ => do (← spotOf fuel e).value
    | .assign target k value => do
      let spot ← spotOf fuel target
      let v ← evaluate fuel value
      let v : Value ←
        match k with
        | none => pure v
        | some k =>
          let a := (← spot.value).toNumber
          pure (.number (k.apply a v.toNumber))
      spot.set v
      return v
    | .count target isBefore isUp => do
      let spot ← spotOf fuel target
      let a := (← spot.value).toNumber
      let b := if isUp then a.add (.ofInt 1) else a.sub (.ofInt 1)
      spot.set (.number b)
      return .number (if isBefore then b else a)
    | .arithmetic k a b => do
      let x ← evaluate fuel a
      let y ← evaluate fuel b
      return .number (k.apply x.toNumber y.toNumber)
    | .minus e => do return .number (← evaluate fuel e).toNumber.neg
    | .plus e => do return .number (← evaluate fuel e).toNumber
    | .not e => do return .ofBool !(← evaluate fuel e).isTrue
    | .compare k a b => do
      let x ← evaluate fuel a
      let y ← evaluate fuel b
      return .ofBool (← compareValues k x y)
    | .fits isNegated text pattern => do
      let text ← textOf (← evaluate fuel text)
      let e ← patternOf fuel pattern
      return .ofBool (Sought.holds text e != isNegated)
    | .join a b => do
      let x ← textOf (← evaluate fuel a)
      let y ← textOf (← evaluate fuel b)
      return .text (x ++ y)
    | .both a b => do
      if (← evaluate fuel a).isTrue then return .ofBool (← evaluate fuel b).isTrue
      else return .ofBool false
    | .either a b => do
      if (← evaluate fuel a).isTrue then return .ofBool true
      else return .ofBool (← evaluate fuel b).isTrue
    | .choice condition yes no => do
      if (← evaluate fuel condition).isTrue then evaluate fuel yes else evaluate fuel no
    | .holds indices table => do
      let key ← keyOfValues (← indices.mapM (evaluate fuel))
      return .ofBool (← changeTable (← tableNumber table) fun t => t.has key)
    | .call name arguments => callFunction fuel name arguments
    | .builtin b arguments => callBuiltin fuel b arguments
    | .getline inlet source target => do
      let source ←
        match source with
        | some e => textOf (← evaluate fuel e)
        | none => pure ""
      let spot ← target.mapM (spotOf fuel)
      readRecord inlet source spot
    | .several es => do
      let vs ← es.mapM (evaluate fuel)
      return .text (String.join (← vs.mapM textOf))

/-- Where the value of a place is. -/
def spotOf : (fuel : Nat) → Expr → Run Spot
  | 0, _ => throw .sinks
  | fuel + 1, e =>
    match e with
    | .name n => return .name n
    | .item table indices => do
      let key ← keyOfValues (← indices.mapM (evaluate fuel))
      let id ← tableNumber table
      let _ ← changeTable id fun t => t.fetch key
      return .item id key
    | .field number => do return .field (← fieldNumber (← evaluate fuel number))
    | e => do
      let _ ← evaluate fuel e
      return .name ""

/-- The pattern that an expression means. -/
def patternOf : (fuel : Nat) → Expr → Run Expression
  | 0, _ => throw .sinks
  | fuel + 1, e =>
    match e with
    | .regex _ e => return e
    | e => do patternOfText (← textOf (← evaluate fuel e))

/-- The value that a function of the program gives back. A name that has not been used is handed on
so that it can become a table. -/
def callFunction : (fuel : Nat) → String → List Expr → Run Value
  | 0, _, _ => throw .sinks
  | fuel + 1, name, arguments => do
    let slots ← arguments.mapM fun e => do
      match e with
      | .name n =>
        let s ← get
        match s.slot? n with
        | some (.table id) => return Slot.table id
        | some (.undecided id) => return .undecided id
        | some (.value v) => return .value v
        | none =>
          if namesCount s n then return .value (← nameValue n)
          set { s.withSlot n (.undecided s.nextTable) with nextTable := s.nextTable + 1 }
          return .undecided s.nextTable
      | e => return .value (← evaluate fuel e)
    match (← get).definitions[name]? with
    | none => return .unset
    | some d => do
      let outer := (← get).locals
      let extra := d.parameters.length - slots.length
      let fresh ← (List.replicate extra ()).mapM fun _ => do
        let s ← get
        set { s with nextTable := s.nextTable + 1 }
        return Slot.undecided s.nextTable
      modify fun s => { s with locals := d.parameters.zip (slots ++ fresh) }
      let v ← tryCatch (do execute fuel d.body; return Value.unset) fun stop =>
        match stop with
        | .giveBack v => return v
        | stop => throw stop
      modify fun s => { s with locals := outer }
      return v

/-- The value of a function that is there without being defined. -/
def callBuiltin : (fuel : Nat) → Builtin → List Expr → Run Value
  | 0, _, _ => throw .sinks
  | fuel + 1, b, arguments =>
    let number (e : Expr) : Run Binary := do return (← evaluate fuel e).toNumber
    let text (e : Expr) : Run String := do textOf (← evaluate fuel e)
    match b, arguments with
    | .length, [] => do return .ofInt (← recordText).length
    | .length, [.name n] => do
      match (← get).slot? n with
      | some (.table id) => return .ofInt ((← get).tableAt id).size
      | some (.undecided id) => return .ofInt ((← get).tableAt id).size
      | _ => return .ofInt (← textOf (← nameValue n)).length
    | .length, e :: _ => do return .ofInt (← text e).length
    | .index, a :: b :: _ => do
      let cs := (← text a).toList
      let sought := (← text b).toList
      return .ofInt (placeOfText cs sought (cs.length + 1) 1)
    | .substr, [s, start] => do
      let s ← text s
      return .text (partOfText s (← number start) none)
    | .substr, s :: start :: length :: _ => do
      let s ← text s
      let start ← number start
      return .text (partOfText s start (some (← number length)))
    | .split, s :: table :: rest => do
      let s ← text s
      let parts ←
        match rest with
        | [] => usualParts s
        | .regex _ e :: _ => pure (Separator.split (.pattern e) s)
        | e :: _ => do pure ((← separatorOfText (← text e)).split s)
      match table with
      | .name n =>
        let id ← tableNumber n
        changeTable id fun _ => ((), Table.ofValues (parts.map Value.ofOutside))
      | _ => pure ()
      return .ofInt parts.length
    | .matches, s :: pattern :: _ => do
      let s ← text s
      let e ← patternOf fuel pattern
      let (start, length) : Int × Int :=
        match Sought.find? s.toList.toArray e 0 with
        | some (i, j) => (i + 1, j - i)
        | none => (0, -1)
      setName "RSTART" (.ofInt start)
      setName "RLENGTH" (.ofInt length)
      return .ofInt start
    | .sub, pattern :: replacement :: rest => replaceWith fuel false pattern replacement rest
    | .gsub, pattern :: replacement :: rest => replaceWith fuel true pattern replacement rest
    | .sprintf, es => do
      let vs ← es.mapM (evaluate fuel)
      let s ← get
      match vs with
      | [] => return .text ""
      | v :: vs =>
        let format ← textOf v
        let (done, failure) :=
          writeFormat (s.setting "CONVFMT") (format.length + 1) 0 format.toList vs []
        match failure with
        | none => return .text (String.ofList done.reverse)
        | some f => failRun (f.words "sprintf" format)
    | .sin, e :: _ => do return .number (← number e).sin
    | .cos, e :: _ => do return .number (← number e).cos
    | .exp, e :: _ => do return .number (← number e).exp
    | .log, e :: _ => do return .number (← number e).log
    | .sqrt, e :: _ => do return .number (← number e).sqrt
    | .int, e :: _ => do return .number (← number e).truncate
    | .atan2, y :: x :: _ => do
      let y ← number y
      return .number (y.atan2 (← number x))
    | .rand, _ => return .number (.ofRatio false 1 2)
    | .srand, es => do
      let old := (← get).seed
      let v ←
        match es with
        | e :: _ => evaluate fuel e
        | [] => pure .unset
      modify fun s => { s with seed := v }
      return old
    | .toLower, e :: _ => do return .text (← text e).toLower
    | .toUpper, e :: _ => do return .text (← text e).toUpper
    | .system, e :: _ => do
      let command ← text e
      flush
      return .ofInt (← ask (.run command)).status
    | .close, e :: _ => do
      match ← closeName (← text e) with
      | some code => return .ofInt code
      | none => return .ofInt (-1)
    | .flush, _ => do
      flush
      return .ofInt 0
    | .systemTime, _ => do return .ofInt ((← get).disk.now / Utility.secondNanos : Nat)
    | .timeText, es => do
      let format ←
        match es with
        | e :: _ => text e
        | [] => pure "%c"
      let time ←
        match es with
        | _ :: e :: _ => do pure (wholeOf (← number e)).toNat
        | _ => do pure ((← get).disk.now / Utility.secondNanos)
      return .text (Utility.dateText (time * Utility.secondNanos) format.toList)
    | .timeOf, e :: _ => do return .ofInt (timeOfText (← text e))
    | _, _ => return .unset

/-- Replaces matches in the value of a place, which is the record if none is named, and counts
them. -/
def replaceWith : (fuel : Nat) → (isForAll : Bool) → (pattern replacement : Expr) →
    (target : List Expr) → Run Value
  | 0, _, _, _, _ => throw .sinks
  | fuel + 1, isForAll, pattern, replacement, target => do
    let e ← patternOf fuel pattern
    let replacement ← textOf (← evaluate fuel replacement)
    let spot ←
      match target with
      | target :: _ => spotOf fuel target
      | [] => pure (.field 0)
    let text ← textOf (← spot.value)
    let (done, n) := replaceIn text e replacement isForAll
    if 0 < n then spot.set (.text done)
    return .ofInt n

/-- Executes a statement. -/
def execute : (fuel : Nat) → Statement → Run Unit
  | 0, _ => throw .sinks
  | fuel + 1, statement =>
    let send (outlet : Option (Outlet × Expr)) (text : String) : Run Unit := do
      match outlet with
      | none => writeOut text
      | some (k, e) => writeTo k (← textOf (← evaluate fuel e)) text
    match statement with
    | .nothing => pure ()
    | .value e => do
      let _ ← evaluate fuel e
    | .print es outlet => do
      let text ←
        match es with
        | [] => do pure ((← recordText) ++ (← get).setting "ORS")
        | es => do printValues (← es.mapM (evaluate fuel))
      send outlet text
    | .format es outlet => do
      let vs ← es.mapM (evaluate fuel)
      formatValues "printf" vs (send outlet)
    | .block ss => ss.forM (execute fuel)
    | .choice condition yes no => do
      if (← evaluate fuel condition).isTrue then execute fuel yes
      else
        match no with
        | some no => execute fuel no
        | none => pure ()
    | .whileTrue condition body =>
      repeatRun (do
        if (← evaluate fuel condition).isTrue then runBody (execute fuel body)
        else return false) mostRounds
    | .untilFalse body condition =>
      repeatRun (do
        if ← runBody (execute fuel body) then return (← evaluate fuel condition).isTrue
        else return false) mostRounds
    | .loop start condition next body => do
      if let some s := start then execute fuel s
      repeatRun (do
        let goesOn ←
          match condition with
          | some e => do pure (← evaluate fuel e).isTrue
          | none => pure true
        if goesOn then
          if ← runBody (execute fuel body) then
            if let some s := next then execute fuel s
            return true
          else return false
        else return false) mostRounds
    | .each name table body => do
      let keys ← changeTable (← tableNumber table) fun t => t.keys
      let _ ← keys.allM fun key => do
        setName name (.text key)
        runBody (execute fuel body)
    | .nextRecord => throw .nextRecord
    | .nextFile => throw .nextFile
    | .quit code => do
      if let some e := code then
        let n := wholeOf (← evaluate fuel e).toNumber
        modify fun s => { s with code := (n % 256).toNat }
      throw .quit
    | .giveBack value => do
      match value with
      | some e => throw (.giveBack (← evaluate fuel e))
      | none => throw (.giveBack .unset)
    | .leaveLoop => throw .leaveLoop
    | .goRound => throw .goRound
    | .remove table indices => do
      let id ← tableNumber table
      match indices with
      | none => changeTable id fun _ => ((), Table.empty)
      | some es =>
        let key ← keyOfValues (← es.mapM (evaluate fuel))
        changeTable id fun t => ((), t.remove key)

end

/-! ### Programs -/

/-- How deep calls and expressions may be in each other. -/
def depthLimit : Nat := 20000

/-- Executes the rules for a record from a number on. -/
def runRules : (number : Nat) → List (Guard × Statement) → Run Unit
  | _, [] => pure ()
  | number, (guard, body) :: rest => do
    let isChosen ←
      match guard with
      | .always => pure true
      | .when e => do pure (← evaluate depthLimit e).isTrue
      | .between first last => do
        let isBetween := (← get).between.contains number
        if isBetween || (← evaluate depthLimit first).isTrue then
          let ends := (← evaluate depthLimit last).isTrue
          modify fun s =>
            let others := s.between.filter (· != number)
            { s with between := if ends then others else number :: others }
          pure true
        else pure false
    if isChosen then execute depthLimit body
    runRules (number + 1) rest

/-- Goes through all records. -/
def runRecords (rules : List (Guard × Statement)) : Run Unit :=
  repeatRun (do
    match ← nextCounted with
    | none => return false
    | some text =>
      setRecord text
      tryCatch (runRules 0 rules) fun stop =>
        match stop with
        | .nextRecord => pure ()
        | .nextFile => modify fun s => { s with current := none }
        | stop => throw stop
      return true) mostRounds

/-- Does something unless the program has ended, and tells whether it goes on. -/
def unlessQuit (run : Run Unit) : Run Bool :=
  tryCatch (do run; return true) fun stop =>
    match stop with
    | .quit => do
      modify fun s => { s with locals := [] }
      return false
    | stop => throw stop

/-- Runs a program. -/
def Program.run (p : Program) : Run Unit := do
  let goesOn ← unlessQuit (p.starts.forM (execute depthLimit))
  if goesOn && !(p.rules.isEmpty && p.finishes.isEmpty) then
    let _ ← unlessQuit (runRecords p.rules)
  let _ ← unlessQuit (p.finishes.forM (execute depthLimit))

end SnippetForge.Shell.Awk
