import SnippetForge.Shell.Utility.Lines

/-!
# Copying the input

Programs that hand their input on: to several files at once, or block by block.
-/

namespace SnippetForge.Shell.Utility

/-! ### Several files -/

/-- The options of `tee`. -/
def teeTable : OptionTable :=
  ⟨"aip", [("append", 'a'), ("ignore-interrupts", 'i'), ("output-error", 'p')]⟩

/-- Writes the input to files too. -/
def tee (site : Site) (words : List String) (input : Source) : Outcome :=
  withCall site teeTable 1 words fun call =>
    let keep (content : ByteArray) : ByteArray :=
      (if call.has 'a' then content else ByteArray.empty) ++ input.content
    let o := forEach site (fun o name =>
      if name = "/dev/stdout" then o.write input.text
      else if name = "/dev/stderr" then o.note input.text 0
      else
        match o.disk.updateFile site.cwd (pathOf name) site.fileMode keep with
        | .ok disk => o.onDisk disk
        | .error fault => o.note (message site (nameText name ++ ": " ++ wordsOf fault)) 1)
      call.operands
    o.write input.text

/-! ### Blocks -/

/-- The settings of `dd` among its words. -/
def blockSettings : List String :=
  ["if", "of", "bs", "ibs", "obs", "cbs", "count", "skip", "seek", "iseek", "oseek", "conv",
    "status", "iflag", "oflag"]

/-- The name and the value of a setting. -/
def setting? (word : String) : Option (String × String) :=
  let cs := word.toList
  let name := String.ofList (cs.takeWhile (· != '='))
  if cs.contains '=' && blockSettings.contains name then
    some (name, String.ofList (cs.drop (name.length + 1)))
  else none

/-- What the words of `dd` ask for. -/
structure BlockCopy where
  settings : List (String × String)

namespace BlockCopy

/-- The value of a setting. -/
def value? (c : BlockCopy) (name : String) : Option String :=
  c.settings.reverse.lookup name

/-- The items of a setting that is a list. -/
def items (c : BlockCopy) (name : String) : List String :=
  ((c.value? name).map fun text => text.splitOn ",").getD []

/-- The number of a setting. -/
def number (c : BlockCopy) (name : String) (usual : Nat) : Nat :=
  ((c.value? name).bind fun text => countOf? text.toList).getD usual

/-- A setting whose value has to be a number and is none. -/
def badNumber? (c : BlockCopy) : Option String :=
  (c.settings.find? fun s =>
    ["bs", "ibs", "obs", "count", "skip", "seek"].contains s.1 && (countOf? s.2.toList).isNone).map
    (·.2)

/-- The size of the blocks that are read. -/
def readSize (c : BlockCopy) : Nat :=
  max 1 (c.number "bs" (c.number "ibs" 512))

/-- The size of the blocks that are written. -/
def writeSize (c : BlockCopy) : Nat :=
  max 1 (c.number "bs" (c.number "obs" 512))

/-- How many bytes are passed over. -/
def skipped (c : BlockCopy) : Nat :=
  c.number "skip" 0 * (if (c.items "iflag").contains "skip_bytes" then 1 else c.readSize)

/-- How many bytes are read at most, those that are passed over included. -/
def needed? (c : BlockCopy) : Option Nat :=
  let unit := if (c.items "iflag").contains "count_bytes" then 1 else c.readSize
  (c.value? "count").map fun _ => c.skipped + c.number "count" 0 * unit

/-- The bytes that are copied. -/
def chosen (c : BlockCopy) (source : Source) : ByteArray :=
  match c.needed? with
  | some last => (source.first last).extract c.skipped last
  | none => source.content.extract c.skipped source.content.size

/-- The bytes that are written for some that are read. -/
def converted (c : BlockCopy) (bytes : ByteArray) : ByteArray :=
  let text := Text.octets bytes
  let text := if (c.items "conv").contains "ucase" then text.toUpper else text
  Text.octetBytes (if (c.items "conv").contains "lcase" then text.toLower else text)

/-- What is said about blocks that were copied. -/
def blocksText (size total : Nat) : String :=
  toString (total / size) ++ "+" ++ (if total % size = 0 then "0" else "1")

/-- What is said at the end. -/
def summary (c : BlockCopy) (size : Nat) : String :=
  let records := blocksText c.readSize size ++ " records in\n" ++
    blocksText (if (c.value? "bs").isSome || (c.value? "obs").isNone then c.readSize else c.writeSize)
      size ++ " records out\n"
  match c.value? "status" with
  | some "none" => ""
  | some "noxfer" => records
  | _ =>
    records ++ toString size ++ (if size = 1 then " byte" else " bytes") ++ " copied, 0 s, Infinity B/s\n"

end BlockCopy

/-- What `dd` reads: its input or a file. -/
def blockSource (site : Site) (c : BlockCopy) (input : Source) : Except Outcome Source :=
  match c.value? "if" with
  | none => .ok input
  | some name =>
    match readWord site input name with
    | .ok source => .ok source
    | .error (.system .isDirectory) =>
      .error ((fails site ("error reading " ++ quoted name ++ ": Is a directory") 1).note
        (c.summary 0) 1)
    | .error fault =>
      .error (fails site ("failed to open " ++ quoted name ++ ": " ++ wordsOf fault) 1)

/-- Copies the blocks of a source. -/
def copyBlocks (site : Site) (c : BlockCopy) (source : Source) : Outcome :=
  let bytes := c.converted (c.chosen source)
  let o : Outcome :=
    match c.value? "of" with
    | none => prints site (Text.octets bytes)
    | some name =>
      let start := c.number "seek" 0 *
        (if (c.items "oflag").contains "seek_bytes" then 1 else c.writeSize)
      let change (content : ByteArray) : ByteArray :=
        if (c.items "oflag").contains "append" then content ++ bytes
        else
          let kept := if (c.items "conv").contains "notrunc" then content else content.extract 0 start
          Machine.overwrite kept start bytes
      match site.disk.updateFile site.cwd (pathOf name) site.fileMode change with
      | .ok disk => (Outcome.nothing site).onDisk disk
      | .error fault => fails site ("failed to open " ++ quoted name ++ ": " ++ wordsOf fault) 1
  let text := c.summary bytes.size
  if o.code = 0 && text != "" then o.note text 0 else o

/-- Copies blocks; none if more of the input is needed. What follows the blocks is left to
others. -/
def dd (site : Site) (words : List String) (supply : Supply) : Option Outcome :=
  let words := if words.head? = some "--" then words.drop 1 else words
  match words.find? fun word => (setting? word).isNone with
  | some word => some (misuse site ("unrecognized operand " ++ quoted word) 1)
  | none =>
    let c : BlockCopy := ⟨words.filterMap setting?⟩
    let size := supply.source.content.size
    let isThere := supply.isWhole || (c.needed?).any (· ≤ size) || (c.value? "if").isSome
    match c.badNumber?, blockSource site c supply.source with
    | some text, _ => some (fails site ("invalid number: " ++ quoted text) 1)
    | none, .error outcome => some outcome
    | none, .ok source =>
      if isThere then
        let taken := if (c.value? "if").isSome then some 0 else (c.needed?).map (min size)
        some { copyBlocks site c source with taken := taken }
      else none

end SnippetForge.Shell.Utility
