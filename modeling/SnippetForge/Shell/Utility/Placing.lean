import SnippetForge.Shell.Utility.Options

/-!
# Copying, moving and linking

Programs that put something at a target: one source at a path, or several in a directory. What is put
in a directory keeps the last name of its source.
-/

namespace SnippetForge.Shell.Utility

/-! ### Targets -/

/-- Sources and where they go: the target of each of them. -/
abbrev Placement := List (String × String)

/-- Where sources go: in a directory that is named by an option, in the last operand, or for a single
source at the last operand. -/
def placement (site : Site) (call : Call) : Except Outcome Placement :=
  let isDirectory (word : String) : Bool := site.disk.isDirectory site.cwd (pathOf word)
  let inside (directory : String) (sources : List String) : Placement :=
    sources.map fun source => (source, within directory (lastName source))
  let refuse (target : String) : Except Outcome Placement :=
    let words :=
      match site.disk.locateNode site.cwd true (pathOf target) with
      | .ok _ => "Not a directory"
      | .error fault => wordsOf fault
    .error (fails site ("target " ++ quoted target ++ ": " ++ words) 1)
  match call.value? 't', call.operands.reverse with
  | _, [] => .error (misuse site "missing file operand" 1)
  | some directory, _ =>
    if isDirectory directory then .ok (inside directory call.operands) else refuse directory
  | none, [source] =>
    .error (misuse site ("missing destination file operand after " ++ quoted source) 1)
  | none, [target, source] =>
    if isDirectory target && !call.has 'T' then .ok (inside target [source])
    else .ok [(source, target)]
  | none, target :: sources =>
    if isDirectory target then .ok (inside target sources.reverse) else refuse target

/-- Runs a step on every source and its target. -/
def place (site : Site) (call : Call) (step : Outcome → String → String → Outcome) : Outcome :=
  match placement site call with
  | .error outcome => outcome
  | .ok pairs => pairs.foldl (fun o pair => step o pair.1 pair.2) (Outcome.nothing site)

/-- The options of programs that put something at a target. -/
def placingNames : List (String × Char) :=
  [("force", 'f'), ("interactive", 'i'), ("no-clobber", 'n'), ("verbose", 'v'),
    ("target-directory", 't'), ("no-target-directory", 'T'), ("update", 'u')]

/-- The line about something that is put at a target. -/
def arrow (source target : String) : String :=
  quoted source ++ " -> " ++ quoted target

/-! ### Copying -/

/-- The options of `cp`. -/
def cpTable : OptionTable :=
  ⟨"rRafinpuvTt:LPdlsH",
    placingNames ++
      [("recursive", 'r'), ("archive", 'a'), ("preserve", 'p'), ("dereference", 'L'),
        ("no-dereference", 'P'), ("link", 'l'), ("symbolic-link", 's')]⟩

/-- Whether directories are copied. -/
def copiesTrees (call : Call) : Bool :=
  call.hasAny "rRa"

/-- Whether the links among the sources are followed. -/
def followsSources (call : Call) : Bool :=
  match call.lastOf? "LPdaH" with
  | some c => c == 'L' || c == 'H'
  | none => !copiesTrees call

/-- Whether copies keep the modes of their sources and the times at which these were written. -/
def keepsAttributes (call : Call) : Bool :=
  call.hasAny "pa"

/-- The disk after a copy has got what it keeps of its source. -/
def withAttributes (site : Site) (call : Call) (source : Entry) (target : String) (disk : Disk) :
    Disk :=
  match disk.locateEntry site.cwd false (pathOf target) with
  | .ok (_, entry) =>
    if keepsAttributes call then
      disk.change entry.id fun e => { e with mode := source.mode, time := source.time }
    else disk
  | .error _ => disk

/-- Copies some bytes to a target. -/
def copyFile (site : Site) (call : Call) (o : Outcome) (source : Entry) (content : ByteArray)
    (target : String) : Outcome :=
  let path := pathOf target
  let refuse (words : String) : Outcome :=
    o.note (message site ("cannot create regular file " ++ quoted target ++ ": " ++ words)) 1
  let isNew := !o.disk.holds site.cwd path
  let isDangling := isNew && (o.disk.linkOrNode? site.cwd path).isSome
  if isDangling then
    o.note (message site ("not writing through dangling symlink " ++ quoted target)) 1
  else if isNew && Path.endsWithSlash target then refuse "Not a directory"
  else
    let mode := Mode.without (Nat.land source.mode Mode.unrestricted) site.mask
    let write (disk : Disk) : Except Fault Disk :=
      disk.updateFile site.cwd path mode fun _ => content
    let written : Except Fault Disk :=
      match write o.disk with
      | .ok disk => .ok disk
      | .error fault =>
        if call.has 'f' then (o.disk.removeEntry site.cwd path).bind write else .error fault
    match written with
    | .error fault => refuse (wordsOf fault)
    | .ok disk => o.onDisk (withAttributes site call source target disk)

/-- The disk without what is not a directory at a target. -/
def cleared (site : Site) (disk : Disk) (target : String) : Disk :=
  match disk.removeEntry site.cwd (pathOf target) with
  | .ok disk => disk
  | .error _ => disk

/-- Puts a node at a target, over what is not a directory there. -/
def putNode (site : Site) (call : Call) (o : Outcome) (source : Entry) (node : Node)
    (target : String) : Outcome :=
  match (cleared site o.disk target).make site.cwd (pathOf target) node source.mode with
  | .ok disk => o.onDisk (withAttributes site call source target disk)
  | .error fault =>
    o.note (message site ("cannot create symbolic link " ++ quoted target ++ ": " ++ wordsOf fault)) 1

/-- Gives a node one more name at a target. -/
def putName (site : Site) (call : Call) (o : Outcome) (entry : Entry) (source target : String) :
    Outcome :=
  let disk := if call.has 'f' then cleared site o.disk target else o.disk
  match disk.makeName site.cwd (pathOf target) entry with
  | .ok disk => o.onDisk disk
  | .error fault =>
    o.note (message site ("cannot create hard link " ++ quoted target ++ " to " ++ quoted source
      ++ ": " ++ wordsOf fault)) 1

/-- A step that copies what lies at a place to a target. -/
abbrev CopyStep := Place → (source target : String) → Outcome → Outcome

/-- Copies what is in a directory. -/
def copyBelow (site : Site) (step : CopyStep) (directory : Place) (source target : String)
    (o : Outcome) : Outcome :=
  (site.disk.sortedChildren directory).foldl (fun o e =>
    let name := Text.encoded e.1
    step (directory ++ [e.1]) (within source name) (within target name) o) o

/-- Copies a directory to a target, with what is in it. -/
def copyDirectory (site : Site) (call : Call) (step : CopyStep) (directory : Place) (entry : Entry)
    (source target : String) (o : Outcome) : Outcome :=
  match o.disk.target? site.cwd (pathOf target) with
  | some .directory => copyBelow site step directory source target o
  | some _ =>
    o.note (message site ("cannot overwrite non-directory " ++ quoted target
      ++ " with directory " ++ quoted source)) 1
  | none =>
    match o.disk.makeDirectory site.cwd (pathOf target) Mode.secluded with
    | .error fault =>
      o.note (message site ("cannot create directory " ++ quoted target ++ ": "
        ++ wordsOf fault)) 1
    | .ok disk =>
      let o := copyBelow site step directory source target (o.onDisk disk)
      let disk := (o.disk.setMode site.cwd (pathOf target) (entry.mode.without site.mask)).toOption
      o.onDisk (withAttributes site call entry target (disk.getD o.disk))

/-- Copies anything but a directory to a target. -/
def copyLeaf (site : Site) (call : Call) (entry : Entry) (source target : String) (o : Outcome) :
    Outcome :=
  if o.disk.isDirectory site.cwd (pathOf target) then
    o.note (message site ("cannot overwrite directory " ++ quoted target
      ++ " with non-directory")) 1
  else if call.has 'l' then putName site call o entry source target
  else
    match entry.node with
    | .file content =>
      if call.has 's' then putNode site call o entry (.link (pathOf source)) target
      else if entry.mode.isReadable then copyFile site call o entry content target
      else
        o.note (message site ("cannot open " ++ quoted source ++ " for reading: "
          ++ SystemError.accessDenied.words)) 1
    | .link aim => putNode site call o entry (.link aim) target
    | .pipe =>
      if copiesTrees call then putNode site call o entry .pipe target
      else copyFile site call o entry ByteArray.empty target
    | _ => copyFile site call o entry ByteArray.empty target

/-- Copies what lies at a place to a target, a directory with what is in it. `fuel` bounds how deep
directories go. -/
def copyNode (site : Site) (call : Call) : (fuel : Nat) → CopyStep
  | 0 => fun _ _ _ o => o
  | fuel + 1 => fun origin source target o =>
    let o := if call.has 'v' then o.write (arrow source target ++ "\n") else o
    match site.disk.entry? origin with
    | some entry =>
      if entry.node = .directory then
        copyDirectory site call (copyNode site call fuel) origin entry source target o
      else copyLeaf site call entry source target o
    | none => o

/-- How deep directories are copied. -/
def depthOf (disk : Disk) : Nat :=
  disk.entries.foldl (fun n e => max n e.1.length) 0 + 1

/-- Copies a source to a target. -/
def cpStep (site : Site) (call : Call) (o : Outcome) (source target : String) : Outcome :=
  let follows := followsSources call
  match o.disk.locateNode site.cwd follows (pathOf source) with
  | .error fault =>
    o.note (message site ("cannot stat " ++ quoted source ++ ": " ++ wordsOf fault)) 1
  | .ok (origin, node) =>
    let other := (o.disk.canonical site.cwd (pathOf target)).toOption
    let parent :=
      match o.disk.locate site.cwd true (pathOf target) with
      | .ok (.free directory _) => some directory
      | _ => other
    if node = .directory && !copiesTrees call then
      o.note (message site ("-r not specified; omitting directory " ++ quoted source)) 1
    else if call.has 'n' && (o.disk.linkOrNode? site.cwd (pathOf target)).isSome then
      o.note (message site
        "warning: behavior of -n is non-portable and may change in future; use --update=none instead") 0
    else if call.has 'u' && isNewer o.disk site.cwd origin target then o
    else if other.any fun place => o.disk.isSameNode place origin then
      if node = .directory then
        o.note (message site ("cannot copy a directory, " ++ quoted source ++ ", into itself, "
          ++ quoted target)) 1
      else
        o.note (message site (quoted source ++ " and " ++ quoted target ++ " are the same file")) 1
    else if node = .directory && parent.any fun directory => origin.isPrefixOf directory then
      o.note (message site ("cannot copy a directory, " ++ quoted source ++ ", into itself, "
        ++ quoted target)) 1
    else copyNode { site with disk := o.disk } call (depthOf o.disk) origin source target o
where
  /-- Whether a target has been written no earlier than a source. -/
  isNewer (disk : Disk) (cwd : Place) (origin : Place) (target : String) : Bool :=
    match disk.entry? origin, disk.targetEntry? cwd (pathOf target) with
    | some old, some new => old.time ≤ new.time
    | _, _ => false

/-- Copies files, and directories if asked to. -/
def cp (site : Site) (words : List String) : Outcome :=
  withCall site cpTable 1 words fun call => place site call (cpStep site call)

/-! ### Moving -/

/-- The options of `mv`. -/
def mvTable : OptionTable :=
  ⟨"finuvTt:", placingNames⟩

/-- Moves a source to a target. -/
def mvStep (site : Site) (call : Call) (o : Outcome) (source target : String) : Outcome :=
  let path := pathOf target
  match o.disk.locateNode site.cwd false (pathOf source) with
  | .error fault =>
    o.note (message site ("cannot stat " ++ quoted source ++ ": " ++ wordsOf fault)) 1
  | .ok (origin, node) =>
    let old := o.disk.locateNode site.cwd false path
    let parent :=
      match o.disk.locate site.cwd false (Disk.dropEndSlashes path) with
      | .ok (.free directory _) => some directory
      | .ok (.taken place _) => some place
      | .error _ => none
    let refuse (text : String) : Outcome := o.note (message site text) 1
    let isInside := node = .directory && parent.any fun directory => origin.isPrefixOf directory
    let isSame := match old with
      | .ok (place, _) => place == origin
      | .error _ => false
    let isOtherName := match old with
      | .ok (place, _) => place != origin && o.disk.isSameNode place origin
      | .error _ => false
    if call.has 'n' && old.isOk then refuse ("not replacing " ++ quoted target)
    else if isOtherName then moved (o.disk.cut origin)
    else if isSame then refuse (quoted source ++ " and " ++ quoted target ++ " are the same file")
    else if isInside then
      refuse ("cannot move " ++ quoted source ++ " to a subdirectory of itself, " ++ quoted target)
    else
      let target' := if node = .directory then Disk.dropEndSlashes path else path
      match node, old with
      | .directory, .ok (_, .directory) =>
        match o.disk.move site.cwd (pathOf source) target' with
        | .ok disk => moved disk
        | .error fault => refuse ("cannot overwrite " ++ quoted target ++ ": " ++ wordsOf fault)
      | .directory, .ok _ =>
        refuse ("cannot overwrite non-directory " ++ quoted target ++ " with directory "
          ++ quoted source)
      | _, .ok (_, .directory) =>
        refuse ("cannot overwrite directory " ++ quoted target ++ " with non-directory")
      | _, _ =>
        match o.disk.move site.cwd (pathOf source) target' with
        | .ok disk => moved disk
        | .error fault =>
          refuse ("cannot move " ++ quoted source ++ " to " ++ quoted target ++ ": "
            ++ wordsOf fault)
where
  /-- What is said about a source that has moved. -/
  moved (disk : Disk) : Outcome :=
    let o := o.onDisk disk
    if call.has 'v' then o.write ("renamed " ++ arrow source target ++ "\n") else o

/-- Moves files and directories. -/
def mv (site : Site) (words : List String) : Outcome :=
  withCall site mvTable 1 words fun call => place site call (mvStep site call)

/-! ### Linking -/

/-- The options of `ln`. -/
def lnTable : OptionTable :=
  ⟨"sfinvTt:rLPb", placingNames ++ [("symbolic", 's'), ("relative", 'r'), ("no-dereference", 'n')]⟩

/-- The text of a link to a target, seen from where the link is if it is to be relative. -/
def linkText (site : Site) (call : Call) (target name : String) : String :=
  if call.has 'r' then
    match site.disk.locate site.cwd false (pathOf name), site.disk.locate site.cwd true (pathOf target)
      with
    | .ok spot, .ok goal =>
      let start := match spot with
        | .free directory _ => directory
        | .taken place _ => place.dropLast
      let place := match goal with
        | .free directory last => directory ++ [last]
        | .taken place _ => place
      relativePath start place
    | _, _ => target
  else target

/-- Makes a link to a target. A link that is not symbolic is one more name. -/
def lnStep (site : Site) (call : Call) (o : Outcome) (target name : String) : Outcome :=
  let path := pathOf name
  let isSymbolic := call.has 's'
  let refuse (text : String) : Outcome := o.note (message site text) 1
  let kind := if isSymbolic then "symbolic" else "hard"
  let cleared :=
    if call.has 'f' then
      match o.disk.removeEntry site.cwd path with
      | .ok disk => disk
      | .error _ => o.disk
    else o.disk
  let done (made : Except Fault Disk) : Outcome :=
    match made with
    | .ok disk =>
      let o := o.onDisk disk
      if call.has 'v' then
        o.write (quoted name ++ (if isSymbolic then " -> " else " => ") ++ quoted target ++ "\n")
      else o
    | .error fault =>
      refuse ("failed to create " ++ kind ++ " link " ++ quoted name ++ ": " ++ wordsOf fault)
  if isSymbolic then done (cleared.makeLink site.cwd path (pathOf (linkText site call target name)))
  else
    match o.disk.locateEntry site.cwd (call.has 'L') (pathOf target) with
    | .error fault => refuse ("failed to access " ++ quoted target ++ ": " ++ wordsOf fault)
    | .ok (_, entry) =>
      if entry.node = .directory then
        refuse (nameText target ++ ": hard link not allowed for directory")
      else done (cleared.makeName site.cwd path entry)

/-- Makes links. With a single operand the link has its last name. -/
def ln (site : Site) (words : List String) : Outcome :=
  withCall site lnTable 1 words fun call =>
    match call.operands, call.value? 't' with
    | [target], none => lnStep site call (Outcome.nothing site) target (within "." (lastName target))
    | _, _ =>
      let call :=
        match call.operands.getLast?, call.has 'n' with
        | some last, true =>
          match site.disk.linkOrNode? site.cwd (pathOf last) with
          | some (.link _) => Call.add 'T' "" call
          | _ => call
        | _, _ => call
      place site call (lnStep site call)

/-- Gives a file one more name. -/
def link (site : Site) (words : List String) : Outcome :=
  withCall site .empty 1 words fun call =>
    match call.operands with
    | [] => misuse site "missing operand" 1
    | [word] => misuse site ("missing operand after " ++ marked word) 1
    | _ :: _ :: word :: _ => misuse site ("extra operand " ++ marked word) 1
    | [target, name] =>
      let made : Except Fault Disk :=
        match site.disk.locateEntry site.cwd false (pathOf target) with
        | .ok (_, entry) =>
          if entry.node = .directory then .error (.system .notPermitted)
          else site.disk.makeName site.cwd (pathOf name) entry
        | .error fault => .error fault
      match made with
      | .ok disk => (Outcome.nothing site).onDisk disk
      | .error fault =>
        fails site ("cannot create link " ++ quoted name ++ " to " ++ quoted target ++ ": "
          ++ wordsOf fault) 1

end SnippetForge.Shell.Utility
