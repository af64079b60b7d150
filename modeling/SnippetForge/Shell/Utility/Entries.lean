import SnippetForge.Shell.Utility.Dates
import SnippetForge.Shell.Utility.Modes
import SnippetForge.Shell.Utility.Options

/-!
# Making and removing entries

Programs that make files, directories and named pipes, remove them, and set their modes.
-/

namespace SnippetForge.Shell.Utility

/-- Runs a step on the operands of a call, of which there has to be one. -/
def onOperands (site : Site) (call : Call) (missing : String)
    (step : Outcome → String → Outcome) : Outcome :=
  if call.operands.isEmpty then misuse site missing 1 else forEach site step call.operands

/-! ### Removing -/

/-- The options of `rm`. -/
def rmTable : OptionTable :=
  ⟨"rRfivdI",
    [("recursive", 'r'), ("force", 'f'), ("interactive", 'i'), ("verbose", 'v'), ("dir", 'd')]⟩

/-- A path without the slashes at its end. -/
def withoutSlashes (word : String) : String :=
  let cs := (word.toList.reverse.dropWhile (· == '/')).reverse
  if cs.isEmpty then word else String.ofList cs

/-- The lines about what is removed with a directory, the directory last. `fuel` bounds how deep it
goes. -/
def removedLines (disk : Disk) : (fuel : Nat) → Place → (word : String) → String
  | 0, _, _ => ""
  | fuel + 1, directory, word =>
    let inside := (disk.sortedChildren directory).map fun e =>
      let name := within word (Text.encoded e.1)
      if e.2 = .directory then removedLines disk fuel (directory ++ [e.1]) name
      else "removed " ++ quoted name ++ "\n"
    String.join inside ++ "removed directory " ++ quoted word ++ "\n"

/-- Whether a link is named with a slash after it. -/
def isSlashedLink (site : Site) (disk : Disk) (word : String) : Bool :=
  Path.endsWithSlash word &&
    match disk.linkOrNode? site.cwd (pathOf (withoutSlashes word)) with
    | some (.link _) => true
    | _ => false

/-- Removes what a word names. -/
def rmStep (site : Site) (call : Call) (o : Outcome) (word : String) : Outcome :=
  let refuse (words : String) : Outcome :=
    o.note (message site ("cannot remove " ++ quoted word ++ ": " ++ words)) 1
  let last := lastName word
  let isRecursive := call.hasAny "rR"
  if isRecursive && (last = "." || last = "..") then
    o.note (message site ("refusing to remove '.' or '..' directory: skipping " ++ quoted word)) 1
  else if isRecursive && last = "/" then
    o.note (message site "it is dangerous to operate recursively on '/'" ++
      message site "use --no-preserve-root to override this failsafe") 1
  else
    match o.disk.locateNode site.cwd false (pathOf word) with
    | .error fault =>
      if call.has 'f' && (fault == .system .noEntry || fault == .system .notDirectory) then o
      else refuse (wordsOf fault)
    | .ok (place, .directory) =>
      let isEmpty := (o.disk.children place).isEmpty
      if !isRecursive && !call.has 'd' then refuse "Is a directory"
      else if isSlashedLink site o.disk word then refuse "Not a directory"
      else if !o.disk.mayChange place.dropLast then refuse SystemError.accessDenied.words
      else if isRecursive then
        let text := removedLines o.disk o.disk.entries.length place word
        (if call.has 'v' then o.write text else o).onDisk (o.disk.cut place)
      else if isEmpty then o.onDisk (o.disk.cut place)
      else refuse "Directory not empty"
    | .ok (place, _) =>
      if !o.disk.mayChange place.dropLast then refuse SystemError.accessDenied.words
      else
        let o := if call.has 'v' then o.write ("removed " ++ quoted word ++ "\n") else o
        o.onDisk (o.disk.cut place)

/-- Removes files, and directories if asked to. -/
def rm (site : Site) (words : List String) : Outcome :=
  withCall site rmTable 1 words fun call =>
    if call.operands.isEmpty && call.has 'f' then Outcome.nothing site
    else onOperands site call "missing operand" (rmStep site call)

/-- Removes a file. -/
def unlink (site : Site) (words : List String) : Outcome :=
  match words with
  | [] => misuse site "missing operand" 1
  | [word] =>
    match site.disk.removeEntry site.cwd (pathOf word) with
    | .ok disk => (Outcome.nothing site).onDisk disk
    | .error fault => fails site ("cannot unlink " ++ quoted word ++ ": " ++ wordsOf fault) 1
  | _ :: word :: _ => misuse site ("extra operand " ++ marked word) 1

/-- The options of `rmdir`. -/
def rmdirTable : OptionTable :=
  ⟨"pvi", [("parents", 'p'), ("verbose", 'v'), ("ignore-fail-on-non-empty", 'i')]⟩

/-- The path above a word, if it has one. -/
def above? (word : String) : Option String :=
  match (withoutSlashes word).toList.reverse.dropWhile (· != '/') with
  | [] => none
  | cs =>
    match (cs.dropWhile (· == '/')).reverse with
    | [] => none
    | cs => some (String.ofList cs)

/-- Removes an empty directory. -/
def rmdirOne (site : Site) (call : Call) (isAbove : Bool) (o : Outcome) (word : String) :
    Outcome × Bool :=
  let o := if call.has 'v' then o.write ("rmdir: removing directory, " ++ quoted word ++ "\n") else o
  let refuse (words : String) : Outcome × Bool :=
    (o.note (message site ("failed to remove " ++ (if isAbove then "directory " else "")
      ++ quoted word ++ ": " ++ words)) 1, false)
  if lastName word = "." then refuse "Invalid argument"
  else
    match o.disk.locateNode site.cwd false (pathOf word) with
    | .error fault => refuse (wordsOf fault)
    | .ok (place, .directory) =>
      if isSlashedLink site o.disk word then refuse "Not a directory"
      else if (o.disk.children place).isEmpty then (o.onDisk (o.disk.cut place), true)
      else if call.has 'i' then (o, false)
      else refuse "Directory not empty"
    | .ok _ => refuse "Not a directory"

/-- Removes empty directories above a word. -/
def rmdirAbove (site : Site) (call : Call) : (fuel : Nat) → Outcome → String → Outcome
  | 0, o, _ => o
  | fuel + 1, o, word =>
    match above? word with
    | none => o
    | some word =>
      let (o, isDone) := rmdirOne site call true o word
      if isDone then rmdirAbove site call fuel o word else o

/-- Removes empty directories. -/
def rmdir (site : Site) (words : List String) : Outcome :=
  withCall site rmdirTable 1 words fun call =>
    onOperands site call "missing operand" fun o word =>
      let (o, isDone) := rmdirOne site call false o word
      if isDone && call.has 'p' then rmdirAbove site call word.length o word else o

/-! ### Making -/

/-- The options of `mkdir`. -/
def mkdirTable : OptionTable :=
  ⟨"pvm:", [("parents", 'p'), ("verbose", 'v'), ("mode", 'm')]⟩

/-- What is said about a directory that has been made. -/
def madeText (call : Call) (word : String) : String :=
  if call.has 'v' then "mkdir: created directory " ++ quoted word ++ "\n" else ""

/-- The paths on the way to a word, the word last. -/
def stepsTo (word : String) : List String :=
  let segments := (word.toList.splitOn '/').map String.ofList
  let sizes := (List.range segments.length).filter fun n => segments[n]? != some ""
  sizes.map fun n => "/".intercalate (segments.take (n + 1))

/-- The mode that an option asks for, of something that would get another one. -/
def chosenMode? (site : Site) (call : Call) (isDirectory : Bool) (usual : Mode) : Option Mode :=
  match call.value? 'm' with
  | some text => (readMode? text).map fun changes => changedMode isDirectory site.mask changes usual
  | none => some (usual.without site.mask)

/-- Makes the directories on the way to a word as far as they are missing. -/
def mkdirSteps (site : Site) (call : Call) (mode : Mode) (o : Outcome) : List String → Outcome
  | [] => o
  | word :: rest =>
    let path := pathOf word
    let own := if rest.isEmpty then mode else Nat.lor site.directoryMode 192
    if o.disk.isDirectory site.cwd path then mkdirSteps site call mode o rest
    else
      match o.disk.makeDirectory site.cwd path own with
      | .ok disk => mkdirSteps site call mode ((o.onDisk disk).write (madeText call word)) rest
      | .error fault =>
        let words :=
          if o.disk.holds site.cwd path && !rest.isEmpty then "Not a directory" else wordsOf fault
        o.note (message site ("cannot create directory " ++ marked word ++ ": " ++ words)) 1

/-- Makes directories. -/
def mkdir (site : Site) (words : List String) : Outcome :=
  withCall site mkdirTable 1 words fun call =>
    match chosenMode? site call true Mode.unrestricted with
    | none =>
      if call.operands.isEmpty then misuse site "missing operand" 1
      else fails site ("invalid mode " ++ marked ((call.value? 'm').getD "")) 1
    | some mode =>
      onOperands site call "missing operand" fun o word =>
        if call.has 'p' && word != "" then mkdirSteps site call mode o (stepsTo word)
        else
          match o.disk.makeDirectory site.cwd (pathOf word) mode with
          | .ok disk => (o.onDisk disk).write (madeText call word)
          | .error fault =>
            o.note (message site ("cannot create directory " ++ marked word ++ ": "
              ++ wordsOf fault)) 1

/-- The options of `touch`. -/
def touchTable : OptionTable :=
  ⟨"camhd:t:r:",
    [("no-create", 'c'), ("no-dereference", 'h'), ("date", 'd'), ("reference", 'r')]⟩

/-- The time that files are to have, or what is wrong with it. -/
def touchTime (site : Site) (call : Call) : Except String Nat :=
  let now := site.disk.now
  let read (text : String) (time? : Option Nat) : Except String Nat :=
    match time? with
    | some time => .ok time
    | none => .error ("invalid date format " ++ marked text)
  match call.value? 'r', call.value? 't', call.value? 'd' with
  | some name, _, _ =>
    match site.disk.locateEntry site.cwd true (pathOf name) with
    | .ok (_, entry) => .ok entry.time
    | .error fault =>
      .error ("failed to get attributes of " ++ quoted name ++ ": " ++ wordsOf fault)
  | none, some text, _ => read text (stampTime? now text)
  | none, none, some text => read text (pointInTime? now text)
  | none, none, none => .ok now

/-- Gives a file a time, and makes it if nothing is there. -/
def touchStep (site : Site) (call : Call) (time : Nat) (o : Outcome) (word : String) : Outcome :=
  let path := pathOf word
  let stamp (disk : Disk) (entry : Entry) : Disk :=
    disk.change entry.id fun e => { e with time := time }
  match o.disk.locateEntry site.cwd (!call.has 'h') path with
  | .ok (_, entry) => o.onDisk (stamp o.disk entry)
  | .error _ =>
    if call.has 'c' then o
    else if call.has 'h' || (Path.endsWithSlash word && word != "") then
      o.note (message site ("setting times of " ++ quoted word ++ ": "
        ++ SystemError.noEntry.words)) 1
    else
      let made := o.disk.updateFile site.cwd path site.fileMode id
      match made.bind fun disk => (disk.locateEntry site.cwd true path).map (disk, ·.2) with
      | .ok (disk, entry) => o.onDisk (stamp disk entry)
      | .error fault =>
        o.note (message site ("cannot touch " ++ quoted word ++ ": " ++ wordsOf fault)) 1

/-- Sets the times of files, and makes empty ones where nothing is. -/
def touch (site : Site) (words : List String) : Outcome :=
  withCall site touchTable 1 words fun call =>
    match touchTime site call with
    | .error text => fails site text 1
    | .ok time => onOperands site call "missing file operand" (touchStep site call time)

/-- The options of `mkfifo`. -/
def mkfifoTable : OptionTable :=
  ⟨"m:", [("mode", 'm')]⟩

/-- Makes named pipes. -/
def mkfifo (site : Site) (words : List String) : Outcome :=
  withCall site mkfifoTable 1 words fun call =>
    match chosenMode? site call false Mode.shared with
    | none =>
      if call.operands.isEmpty then misuse site "missing operand" 1
      else fails site "invalid mode" 1
    | some mode =>
      onOperands site call "missing operand" fun o word =>
        match o.disk.makePipe site.cwd (pathOf word) mode with
        | .ok disk => o.onDisk disk
        | .error fault =>
          o.note (message site ("cannot create fifo " ++ quoted word ++ ": " ++ wordsOf fault)) 1

/-- The options of `truncate`. -/
def truncateTable : OptionTable :=
  ⟨"cs:r:", [("no-create", 'c'), ("size", 's'), ("reference", 'r')]⟩

/-- Cuts files to a size, or makes them longer. -/
def truncate (site : Site) (words : List String) : Outcome :=
  withCall site truncateTable 1 words fun call =>
    match call.value? 's' with
    | none => misuse site "you must specify either '--size' or '--reference'" 1
    | some size =>
      onOperands site call "missing file operand" fun o word =>
        let resize (content : ByteArray) : ByteArray :=
          let n :=
            match size.toList with
            | '+' :: cs => content.size + Text.digitsValue cs
            | '-' :: cs => content.size - Text.digitsValue cs
            | cs => Text.digitsValue cs
          content.extract 0 n ++ ⟨Array.replicate (n - content.size) 0⟩
        match o.disk.updateFile site.cwd (pathOf word) site.fileMode resize with
        | .ok disk => o.onDisk disk
        | .error fault =>
          o.note (message site ("cannot open " ++ quoted word ++ " for writing: "
            ++ wordsOf fault)) 1

/-! ### Temporary files -/

/-- The options of `mktemp`. -/
def mktempTable : OptionTable :=
  ⟨"dup:qt", [("directory", 'd'), ("dry-run", 'u'), ("tmpdir", 'p'), ("quiet", 'q'), ("suffix", 's')]⟩

/-- A name in which a number stands for the last marks in a row, and what follows them. -/
def filledTemplate (number : Nat) (template : String) : Option String :=
  let cs := template.toList.reverse
  let suffix := cs.takeWhile (· != 'X')
  let marks := (cs.drop suffix.length).takeWhile (· == 'X')
  let before := cs.drop (suffix.length + marks.length)
  let digits := (toString number).toList
  let digits := List.replicate (marks.length - digits.length) '0' ++ digits
  if marks.length < 3 then none
  else
    some (String.ofList
      (before.reverse ++ digits.drop (digits.length - marks.length) ++ suffix.reverse))

/-- Makes an empty file or directory whose name nothing else has. -/
def mktemp (site : Site) (words : List String) : Outcome :=
  withCall site mktempTable 1 words fun call =>
    let template := call.operands.headD "tmp.XXXXXXXXXX"
    let usual := ((site.environment.lookup "TMPDIR").filter (· != "")).getD "/tmp"
    let directory :=
      match call.value? 'p' with
      | some directory => some (if directory = "" then usual else directory)
      | none => if call.operands.isEmpty || call.has 't' then some usual else none
    let full := (directory.map (within · template)).getD template
    let kind := if call.has 'd' then "directory" else "file"
    match call.operands with
    | _ :: _ :: _ => misuse site "too many templates" 1
    | _ =>
      match filledTemplate site.disk.nextId full with
      | none => fails site ("too few X's in template " ++ marked template) 1
      | some name =>
        let make : Except Fault Disk :=
          if call.has 'u' then .ok site.disk
          else if call.has 'd' then
            site.disk.makeDirectory site.cwd (pathOf name) Mode.secluded
          else site.disk.make site.cwd (pathOf name) (.file ByteArray.empty) Mode.secret
        match make with
        | .ok disk => (prints site (name ++ "\n")).onDisk disk
        | .error fault =>
          fails site ("failed to create " ++ kind ++ " via template " ++ marked full ++ ": "
            ++ wordsOf fault) 1

/-! ### Modes -/

/-- The options of `chmod`. -/
def chmodTable : OptionTable :=
  ⟨"RvcfF:",
    [("recursive", 'R'), ("verbose", 'v'), ("changes", 'c'), ("silent", 'f'), ("quiet", 'f'),
      ("reference", 'F')]⟩

/-- What is said about a mode that has been set or kept. -/
def modeReport (call : Call) (word : String) (old new : Mode) : String :=
  if new != old && call.hasAny "vc" then
    "mode of " ++ quoted word ++ " changed from " ++ modeText old ++ " to " ++ modeText new ++ "\n"
  else if call.has 'v' then "mode of " ++ quoted word ++ " retained as " ++ modeText old ++ "\n"
  else ""

/-- Sets the mode of what lies at a place. A mode that looks like an option is said not to have come
out as it reads, if it has not. -/
def setModeAt (site : Site) (call : Call) (changes : List ModeChange) (isOption : Bool)
    (o : Outcome) (word : String) (entry : Entry) : Outcome :=
  let isDirectory := entry.node == .directory
  let new := changedMode isDirectory site.mask changes entry.mode
  let plain := changedMode isDirectory 0 changes entry.mode
  let o := o.onDisk (o.disk.change entry.id fun e => { e with mode := new })
  let o := o.write (modeReport call word entry.mode new)
  if isOption && new.without plain != 0 then
    o.note (message site (nameText word ++ ": new permissions are " ++ modeLetters new ++ ", not "
      ++ modeLetters plain)) 1
  else o

/-- Sets the modes of what lies below a directory. `fuel` bounds how deep it goes. -/
def chmodBelow (site : Site) (call : Call) (changes : List ModeChange) (isOption : Bool) :
    (fuel : Nat) → Place → (word : String) → Outcome → Outcome
  | 0, _, _, o => o
  | fuel + 1, directory, word, o =>
    (site.disk.sortedChildren directory).foldl (fun o e =>
      let name := within word (Text.encoded e.1)
      let place := directory ++ [e.1]
      match o.disk.entry? place with
      | some entry =>
        if entry.node.isLink then
          if call.has 'v' then
            o.write ("neither symbolic link " ++ quoted name ++ " nor referent has been changed\n")
          else o
        else
          let o := setModeAt site call changes isOption o name entry
          if entry.node = .directory then chmodBelow site call changes isOption fuel place name o
          else o
      | none => o) o

/-- Sets the mode of what a word names. -/
def chmodStep (site : Site) (call : Call) (changes : List ModeChange) (isOption : Bool)
    (o : Outcome) (word : String) : Outcome :=
  match o.disk.locateEntry site.cwd true (pathOf word) with
  | .error fault =>
    let isDangling := (o.disk.linkOrNode? site.cwd (pathOf word)).isSome
    let text :=
      if isDangling then message site ("cannot operate on dangling symlink " ++ quoted word)
      else message site ("cannot access " ++ quoted word ++ ": " ++ wordsOf fault)
    o.note (if call.has 'f' then "" else text) 1
  | .ok (place, entry) =>
    let o := setModeAt site call changes isOption o word entry
    if call.has 'R' && entry.node = .directory then
      chmodBelow site call changes isOption o.disk.entries.length place word o
    else o

/-- Sets modes. A mode can look like options. -/
def chmod (site : Site) (words : List String) : Outcome :=
  let isMode (word : String) : Bool :=
    match word.toList with
    | '-' :: c :: _ => "rwxXstugoa0123456789,=+".toList.contains c
    | _ => false
  let modes := words.filter isMode
  withCall site chmodTable 1 (words.filter fun word => !isMode word) fun call =>
    match call.value? 'F', (if modes.isEmpty then [] else [",".intercalate modes]) ++ call.operands with
    | some reference, names =>
      match site.disk.targetEntry? site.cwd (pathOf reference) with
      | none => fails site ("failed to get attributes of " ++ quoted reference ++ ": "
          ++ SystemError.noEntry.words) 1
      | some entry =>
        let change : ModeChange := ⟨'=', allBits, .bits entry.mode, allBits⟩
        if names.isEmpty then misuse site "missing operand" 1
        else forEach site (chmodStep site call [change] false) names
    | none, [] => misuse site "missing operand" 1
    | none, [mode] =>
      if modes.isEmpty then misuse site ("missing operand after " ++ marked mode) 1
      else misuse site "missing operand" 1
    | none, mode :: names =>
      match readMode? mode with
      | none => misuse site ("invalid mode: " ++ marked mode) 1
      | some changes => forEach site (chmodStep site call changes (!modes.isEmpty)) names

end SnippetForge.Shell.Utility
