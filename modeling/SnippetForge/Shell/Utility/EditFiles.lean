import SnippetForge.Shell.Utility.Editing

/-!
# Editing files

The program that edits the lines of files, or of its input, by a script. What it makes of them is
written, or takes the place of the files.
-/

namespace SnippetForge.Shell.Utility

open Editing

/-! ### Pieces of scripts -/

/-- A piece of a script: its text, and the file that it is from unless it is one of the words. -/
structure ScriptPiece where
  file : Option String
  text : List Char

/-- The pieces of a script as one text. -/
def joinedPieces (pieces : List ScriptPiece) : List Char :=
  [pieceEnd].intercalate (pieces.map (·.text))

/-- Where a place is that so many characters are behind: the piece, the number of the piece among
those that are words, and the characters of the piece up to there. -/
def locatePiece : (number offset : Nat) → List ScriptPiece → Option (ScriptPiece × Nat × List Char)
  | _, _, [] => none
  | number, offset, piece :: rest =>
    let number := if piece.file.isSome then number else number + 1
    if offset ≤ piece.text.length || rest.isEmpty then
      some (piece, number, piece.text.take offset)
    else locatePiece number (offset - piece.text.length - 1) rest

/-- The name of a place in a script. -/
def placeName (pieces : List ScriptPiece) (offset : Nat) (countsOctets : Bool) : String :=
  match locatePiece 0 offset pieces with
  | some (⟨some file, _⟩, _, front) =>
    "file " ++ file ++ " line " ++ toString ((front.filter (· == '\n')).length + 1)
  | some (_, number, front) =>
    "-e expression #" ++ toString number ++ ", char "
      ++ toString (if countsOctets then Text.octetCount front else 0)
  | none => "-e expression #1, char 0"

/-- What is said about a flaw in a script, and the exit code. -/
def flawText (pieces : List ScriptPiece) : Editing.Flaw → String × Nat
  | .here left text =>
    (placeName pieces ((joinedPieces pieces).length - left) true ++ ": " ++ text, 1)
  | .unmatched left =>
    (placeName pieces ((joinedPieces pieces).length - left) false ++ ": unmatched `\x7b'", 1)
  | .noLabel label => ("can't find label for jump to `" ++ label ++ "'", 4)
  | .misplacedClass => (ExpressionFlaw.misplacedClass.words, 4)

/-! ### Calls -/

/-- The options of `sed`. -/
def sedTable : OptionTable :=
  ⟨"bnrsuzEe:f:l:i::",
    [("binary", 'b'), ("regexp-extended", 'r'), ("debug", 'δ'), ("in-place", 'i'),
      ("expression", 'e'), ("file", 'f'), ("line-length", 'l'), ("null-data", 'z'),
      ("zero-terminated", 'z'), ("quiet", 'n'), ("posix", 'π'), ("silent", 'n'),
      ("sandbox", 'σ'), ("separate", 's'), ("unbuffered", 'u'), ("version", 'ν'), ("help", 'η'),
      ("follow-symlinks", 'φ')]⟩

/-- What the options of `sed` do, line by line. -/
def sedOptionLines : List String :=
  ["  -n, --quiet, --silent",
    "                 suppress automatic printing of pattern space",
    "      --debug",
    "                 annotate program execution",
    "  -e script, --expression=script",
    "                 add the script to the commands to be executed",
    "  -f script-file, --file=script-file",
    "                 add the contents of script-file to the commands to be executed",
    "  --follow-symlinks",
    "                 follow symlinks when processing in place",
    "  -i[SUFFIX], --in-place[=SUFFIX]",
    "                 edit files in place (makes backup if SUFFIX supplied)",
    "  -l N, --line-length=N",
    "                 specify the desired line-wrap length for the `l' command",
    "  --posix",
    "                 disable all GNU extensions.",
    "  -E, -r, --regexp-extended",
    "                 use extended regular expressions in the script",
    "                 (for portability use POSIX -E).",
    "  -s, --separate",
    "                 consider files as separate rather than as a single,",
    "                 continuous long stream.",
    "      --sandbox",
    "                 operate in sandbox mode (disable e/r/w commands).",
    "  -u, --unbuffered",
    "                 load minimal amounts of data from the input files and flush",
    "                 the output buffers more often",
    "  -z, --null-data",
    "                 separate lines by NUL characters",
    "      --help     display this help and exit",
    "      --version  output version information and exit"]

/-- The address of a page in brackets. -/
def pageAddress (path : String) : String :=
  "<https:" ++ "//" ++ "www.gnu.org" ++ "/" ++ path ++ "/>"

/-- The usage of `sed`. -/
def sedUsage (site : Site) : String :=
  unlines
    (["Usage: " ++ site.label
        ++ " [OPTION]... \x7bscript-only-if-no-other-script\x7d [input-file]...", ""]
      ++ sedOptionLines
      ++ ["", "If no -e, --expression, -f, or --file option is given, then the first",
        "non-option argument is taken as the sed script to interpret.  All",
        "remaining arguments are names of input files; if no input files are",
        "specified, then the standard input is read.", "",
        "GNU sed home page: " ++ pageAddress "software/sed" ++ ".",
        "General help using GNU software: " ++ pageAddress "gethelp" ++ "."])

/-- Where faults of `sed` are told. -/
def sedContact : String :=
  "E-mail bug reports to: <bug-sed" ++ "@" ++ "gnu.org>.\n"

/-- The pieces of the script that a call names, and its other words. -/
def scriptPieces (site : Site) (input : Source) (call : Call) :
    Except Fault (List ScriptPiece × List String) := do
  let named ← call.options.filterMapM fun o =>
    if o.1 = 'e' then pure (some ⟨none, charactersOf o.2⟩)
    else if o.1 = 'f' then
      (readWord site input o.2).map fun source => some ⟨some o.2, charactersOf source.text⟩
    else pure none
  match named, call.operands with
  | [], script :: names => return ([⟨none, charactersOf script⟩], names)
  | pieces, names => return (pieces, names)

/-- Whether a script starts with the comment that stands for an option. -/
def startsQuiet (script : List Char) : Bool :=
  match script with
  | '#' :: 'n' :: rest => (rest.head?).all endsLine
  | _ => false

/-! ### Files -/

/-- The files that a script writes to. -/
def targetsOf (commands : List Editing.Command) : List String :=
  commands.filterMap fun c =>
    match c.action with
    | .writeFile name => some name
    | .writeFirst name => some name
    | .replace sub => sub.target
    | _ => none

/-- Makes the files that a script writes to, empty. -/
def openTargets (site : Site) (commands : List Editing.Command) : Except String Disk :=
  (targetsOf commands).foldlM (fun disk name =>
    match Sink.ofName name with
    | .file name =>
      match disk.updateFile site.cwd (pathOf name) site.fileMode fun _ => ByteArray.empty with
      | .ok disk => .ok disk
      | .error fault => .error ("couldn't open file " ++ name ++ ": " ++ wordsOf fault)
    | _ => .ok disk) site.disk

/-- The files to edit, with what is said about those that cannot be read. -/
def feedsOf (site : Site) (supply : Supply) (inPlace : Bool) (terminator : Char) :
    List String → List Feed × List (String × Nat)
  | [] => ([], [])
  | name :: names =>
    let (feeds, failures) := feedsOf site supply inPlace terminator names
    if namesInput name && !inPlace then
      let lines := spacesOf terminator supply.source.text
      let lines := if supply.isWhole then lines else lines.filter (·.isClosed)
      (⟨name, lines, !supply.isWhole, true⟩ :: feeds, failures)
    else
      match readPath site site.disk name with
      | .ok source => (⟨name, spacesOf terminator source.text, false, false⟩ :: feeds, failures)
      | .error (.system .isDirectory) =>
        if inPlace then (feeds, ("couldn't edit " ++ name ++ ": not a regular file", 4) :: failures)
        else ([], [("read error on " ++ name ++ ": Is a directory", 4)])
      | .error fault => (feeds, ("can't read " ++ name ++ ": " ++ wordsOf fault, 2) :: failures)

/-- The name of the copy that is kept of a file before it is edited. -/
def copyName (suffix name : String) : String :=
  let last := lastName name
  let front := String.ofList (name.toList.take (name.length - last.length))
  if suffix.toList.contains '*' then
    let filled := String.ofList (suffix.toList.flatMap fun c => if c = '*' then last.toList else [c])
    if filled.toList.contains '/' then filled else front ++ filled
  else name ++ suffix

/-- The disk with an edited file in the place of the old one. -/
def replaceFile (site : Site) (suffix : String) (st : State) (disk : Disk) (name : String) : Disk :=
  match disk.locateEntry site.cwd true (pathOf name), disk.locateNode site.cwd false (pathOf name)
    with
  | .ok (_, old), .ok (place, _) =>
    let kept :=
      if suffix = "" then disk
      else
        match disk.locate site.cwd false (pathOf (copyName suffix name)) with
        | .ok (.free directory last) => disk.attach (directory ++ [last]) old
        | .ok (.taken other _) => (disk.cut other).attach other old
        | .error _ => disk
    (kept.cut place).add place (.file (Text.octetBytes (st.textOf (.place name)))) old.mode
  | _, _ => disk

/-- The disk with what a script has written to files. -/
def writeTargets (site : Site) (st : State) (disk : Disk) : Disk :=
  st.written.foldl (fun disk w =>
    match w.sink with
    | .file name =>
      match disk.updateFile site.cwd (pathOf name) site.fileMode fun _ =>
          Text.octetBytes (st.textOf w.sink) with
      | .ok disk => disk
      | .error _ => disk
    | _ => disk) disk

/-! ### The program -/

/-- The files that a call names; the input stands for them if there are none. -/
def editedNames (inPlace : Bool) (names : List String) : List String :=
  if inPlace then names else orInput names

/-- Edits files by a script that has been read; none if more input is needed. -/
def editFiles (site : Site) (call : Call) (commands : List Editing.Command) (isQuiet : Bool)
    (pieces : List ScriptPiece) (names : List String) (supply : Supply) : Option Outcome :=
  let inPlace := call.has 'i'
  let terminator := if call.has 'z' then Char.ofNat 0 else '\n'
  match openTargets site commands with
  | .error text => some (fails site text 4)
  | .ok disk =>
    if inPlace && names.isEmpty then some (fails site "no input files" 4)
    else
      let (feeds, failures) := feedsOf site supply inPlace terminator (editedNames inPlace names)
      let job : Job :=
        { commands := commands.toArray, isQuiet := isQuiet,
          isSeparate := inPlace || call.has 's', inPlace := inPlace, terminator := terminator,
          width := ((call.value? 'l').bind Text.natural?).getD 70,
          fileText := fun name => (readWord site supply.source name).toOption.map Source.text }
      let (st, code) := Editing.run job feeds
      if st.isStarved then none
      else
        let o := failures.foldl (fun o f => o.note (message site f.1) f.2) (Outcome.nothing site)
        let o := o.write (st.textOf .out)
        let o := if st.textOf .err = "" then o else o.note (st.textOf .err) 0
        let o :=
          if st.lacksSearch then
            o.note (message site (placeName pieces 0 false ++ ": no previous regular expression")) 1
          else o
        let suffix := (call.value? 'i').getD ""
        let disk := writeTargets site st disk
        let disk :=
          if inPlace then (feeds.map (·.name)).foldl (replaceFile site suffix st) disk else disk
        let taken := if !st.feeds.any (·.isInput) then none else some st.consumed
        some
          { o with
            disk := disk, code := if code = 0 then o.code else code,
            taken := if supply.fileSize.isSome then taken else none }

/-- Edits files, or the input, by a script; none if more input is needed. -/
def sed (site : Site) (words : List String) (supply : Supply) : Option Outcome :=
  match Call.read sedTable words with
  | .error flaw => some ((Outcome.nothing site).note (message site flaw.words ++ sedUsage site) 1)
  | .ok call =>
    if call.has 'η' then some (prints site (sedUsage site ++ sedContact))
    else
      match scriptPieces site supply.source call with
      | .error fault =>
        let name := (call.value? 'f').getD ""
        some (fails site ("couldn't open file " ++ name ++ ": " ++ wordsOf fault) 4)
      | .ok ([], _) => some ((Outcome.nothing site).note (sedUsage site) 1)
      | .ok (pieces, names) =>
        let script := joinedPieces pieces
        match readScript (call.hasAny "Er") script with
        | .error flaw =>
          let (text, code) := flawText pieces flaw
          some (fails site text code)
        | .ok commands =>
          editFiles site call commands (call.has 'n' || startsQuiet script) pieces names supply

end SnippetForge.Shell.Utility
