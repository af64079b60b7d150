import SnippetForge.Shell.Utility.Lines

/-!
# Comparing files

Where two files differ first, and which lines have to be dropped and added to turn one into the
other. The lines that stay are a longest common part of both.
-/

namespace SnippetForge.Shell.Utility

/-- A failure of a program that names itself in front of the pointer to its help too. -/
def namedMisuse (site : Site) (text : String) : Outcome :=
  (Outcome.nothing site).note (message site text ++ message site (helpHint site)) 2

/-- Runs a program on what its words say, or fails. -/
def withNamedCall (site : Site) (t : OptionTable) (words : List String) (use : Call → Outcome) :
    Outcome :=
  match Call.read t words with
  | .ok call => use call
  | .error flaw => namedMisuse site flaw.words

/-! ### Bytes -/

/-- The options of `cmp`. -/
def cmpTable : OptionTable :=
  ⟨"bi:ln:s",
    [("print-bytes", 'b'), ("ignore-initial", 'i'), ("verbose", 'l'), ("bytes", 'n'), ("quiet", 's'),
      ("silent", 's')]⟩

/-- The bytes in which two texts differ, by their numbers. -/
def differences : (number : Nat) → List Char → List Char → List (Nat × Char × Char)
  | _, [], _ => []
  | _, _, [] => []
  | n, a :: as, b :: bs =>
    if a = b then differences (n + 1) as bs else (n, a, b) :: differences (n + 1) as bs

/-- An octal number of at least three digits. -/
def octalText (n : Nat) : String :=
  padLeft 3 (String.ofList (Nat.toDigits 8 n))

/-- How many lines start in a text before its last character. -/
def lineOf (cs : List Char) : Nat :=
  (cs.filter (· == '\n')).length + 1

/-- Compares two texts byte by byte. -/
def compareBytes (site : Site) (call : Call) (a b : String) (as bs : List Char) : Outcome :=
  let isSilent := call.has 's'
  let found := differences 1 as bs
  let o := Outcome.nothing site
  let front := as.take (min as.length bs.length)
  let o :=
    if isSilent then o
    else if call.has 'l' then
      let width := (toString (max as.length bs.length)).length
      o.write (String.join (found.map fun d =>
        padLeft width (toString d.1) ++ " " ++ octalText d.2.1.toNat ++ " "
          ++ octalText d.2.2.toNat ++ "\n"))
    else
      match found with
      | (n, x, y) :: _ =>
        let place := if call.has 'b' then "byte " else "char "
        let bytes :=
          if call.has 'b' then
            " is " ++ octalText x.toNat ++ " " ++ visible x ++ " " ++ octalText y.toNat ++ " "
              ++ visible y
          else ""
        o.write (a ++ " " ++ b ++ " differ: " ++ place ++ toString n ++ ", line "
          ++ toString (lineOf (as.take (n - 1))) ++ bytes ++ "\n")
      | [] => o
  let isShort := as.length != bs.length && (found.isEmpty || call.has 'l')
  let name := if as.length < bs.length then a else b
  let text :=
    if front.isEmpty then "EOF on " ++ name ++ " which is empty"
    else
      let atLine := front.getLast? = some '\n'
      let lines := (front.filter (· == '\n')).length
      "EOF on " ++ name ++ " after byte " ++ toString front.length ++
        (if call.has 'l' then ""
          else if atLine then ", line " ++ toString lines
          else ", in line " ++ toString (lines + 1))
  let o := if isShort && !isSilent then o.note (message site text) 1 else o
  if found.isEmpty && !isShort then o else { o with code := 1 }

/-- Compares two files byte by byte. -/
def cmp (site : Site) (words : List String) (input : Source) : Outcome :=
  withNamedCall site cmpTable words fun call =>
    let run (a b : String) (others : List String) : Outcome :=
      match others[2]? with
      | some word => namedMisuse site ("extra operand " ++ quoted word)
      | none =>
        let skip (n : Nat) : Nat :=
          (((call.value? 'i').orElse fun _ => others[n]?).bind fun t => countOf? t.toList).getD 0
        let limit := (call.value? 'n').bind fun t => countOf? t.toList
        let part (n : Nat) (text : String) : List Char :=
          let cs := text.toList.drop (skip n)
          match limit with
          | some n => cs.take n
          | none => cs
        match readText site input a, readText site input b with
        | .ok as, .ok bs => compareBytes site call a b (part 0 as) (part 1 bs)
        | .error text, _ => fails site text 2
        | _, .error text => fails site text 2
    match call.operands with
    | [] => namedMisuse site ("missing operand after " ++ quoted site.label)
    | [a] => run a "-" []
    | a :: b :: others => run a b others

/-! ### Lines -/

/-- A change of a text: after some lines of it that stay, lines are dropped and others added. -/
structure Change where
  /-- How many lines of the old text come before the change. -/
  oldStart : Nat
  /-- How many lines of the new text come before the change. -/
  newStart : Nat
  dropped : List String
  added : List String
  deriving DecidableEq, Repr

/-- The lengths of the longest common parts of a list with all ends of another one, given those for
the list without its first item. -/
def commonRow (a : List Char) : (bs : List (List Char)) → (below : List Nat) → List Nat
  | b :: bs, n :: m :: below =>
    let row := commonRow a bs (m :: below)
    (if a = b then m + 1 else max n (row.headD 0)) :: row
  | _, _ => [0]

/-- The rows of the lengths of longest common parts, for all ends of a list. -/
def commonRows (bs : List (List Char)) : List (List Char) → List (List Nat)
  | [] => [List.replicate (bs.length + 1) 0]
  | a :: as =>
    let rows := commonRows bs as
    commonRow a bs (rows.headD []) :: rows

/-- For each step from one list to the other, whether an item stays (none), is dropped (true) or is
added (false). -/
def stepsBetween : (fuel : Nat) → List (List Char) → List (List Char) → List (List Nat) →
    List (Option Bool)
  | 0, _, _, _ => []
  | fuel + 1, as, bs, rows =>
    match as, bs, rows with
    | a :: as, b :: bs, row :: below :: rows =>
      if a = b then none :: stepsBetween fuel as bs ((below.drop 1) :: rows.map (·.drop 1))
      else if (row.drop 1).headD 0 ≤ below.headD 0 then
        some true :: stepsBetween fuel as (b :: bs) (below :: rows)
      else
        some false :: stepsBetween fuel (a :: as) bs ((row :: below :: rows).map (·.drop 1))
    | as, bs, _ => as.map (fun _ => some true) ++ bs.map fun _ => some false

/-- The changes that some steps make. -/
def changesOf : (oldStart newStart : Nat) → List (Option Bool) → (old new : List String) →
    List Change
  | _, _, [], _, _ => []
  | i, j, step :: steps, old, new =>
    match step with
    | none => changesOf (i + 1) (j + 1) steps (old.drop 1) (new.drop 1)
    | some isDropped =>
      let rest :=
        if isDropped then changesOf (i + 1) j steps (old.drop 1) new
        else changesOf i (j + 1) steps old (new.drop 1)
      let first : Change :=
        if isDropped then ⟨i, j, old.take 1, []⟩ else ⟨i, j, [], new.take 1⟩
      match rest with
      | c :: rest =>
        if c.oldStart = i + first.dropped.length && c.newStart = j + first.added.length then
          ⟨i, j, first.dropped ++ c.dropped, first.added ++ c.added⟩ :: rest
        else first :: c :: rest
      | [] => [first]

/-- The lines of a text; one without an end is told apart by a mark. -/
def markedLines (text : String) : List String :=
  let (lines, isClosed) := linesOf text
  if isClosed then lines
  else lines.dropLast ++ [(lines.getLast?.getD "") ++ "\n\\ No newline at end of file"]

/-- What of a line counts. -/
def comparedLine (call : Call) (line : String) : List Char :=
  let cs := line.toList
  let cs := if call.has 'w' then cs.filter fun c => !isSpace c || c == '\n' else cs
  let cs := if call.has 'b' then squeezed cs else cs
  if call.has 'i' then cs.map Char.toLower else cs
where
  /-- Characters with single blanks, none of them at the end. -/
  squeezed : List Char → List Char
    | [] => []
    | c :: rest =>
      let rest := squeezed rest
      if c = ' ' || c = '\t' then
        match rest with
        | [] => []
        | ' ' :: _ => rest
        | _ => ' ' :: rest
      else c :: rest

/-- The changes between two texts. The lines that both start with are passed over first. -/
def changesBetween (call : Call) (old new : List String) : List Change :=
  let key := comparedLine call
  let same := ((old.zip new).takeWhile fun e => key e.1 = key e.2).length
  let as := old.drop same
  let bs := new.drop same
  let keysA := as.map key
  let keysB := bs.map key
  let steps := stepsBetween (as.length + bs.length + 1) keysA keysB (commonRows keysB keysA)
  changesOf same same steps as bs

/-! ### Showing changes -/

/-- A range of lines by its first and last number. -/
def rangeText (start count : Nat) : String :=
  if count ≤ 1 then toString (start + count) else toString (start + 1) ++ "," ++ toString (start + count)

/-- A change with the lines that are dropped and added. -/
def changeText (c : Change) : String :=
  let letter := if c.added.isEmpty then "d" else if c.dropped.isEmpty then "a" else "c"
  rangeText c.oldStart c.dropped.length ++ letter ++ rangeText c.newStart c.added.length ++ "\n"
    ++ String.join (c.dropped.map fun l => "< " ++ l ++ "\n")
    ++ (if letter = "c" then "---\n" else "") ++ String.join (c.added.map fun l => "> " ++ l ++ "\n")

/-- Changes in groups that are close to each other. -/
def closeChanges (context : Nat) : List Change → List (List Change)
  | [] => []
  | c :: rest =>
    match closeChanges context rest with
    | (d :: group) :: groups =>
      if d.oldStart - (c.oldStart + c.dropped.length) ≤ 2 * context then (c :: d :: group) :: groups
      else [c] :: (d :: group) :: groups
    | groups => [c] :: groups

/-- The place of lines in the head of a group. -/
def hunkRange (start count : Nat) : String :=
  if count = 1 then toString (start + 1)
  else toString (if count = 0 then start else start + 1) ++ "," ++ toString count

/-- A group of changes with the lines around them. -/
def hunkText (context : Nat) (old : List String) (group : List Change) : String :=
  match group.head?, group.getLast? with
  | some first, some last =>
    let start := first.oldStart - context
    let stop := min old.length (last.oldStart + last.dropped.length + context)
    let newStart := first.newStart - (first.oldStart - start)
    let removed := (group.map (·.dropped.length)).foldl (· + ·) 0
    let added := (group.map (·.added.length)).foldl (· + ·) 0
    let count := stop - start
    let kept (i j : Nat) : String :=
      String.join (((old.drop i).take (j - i)).map fun l => " " ++ l ++ "\n")
    let body := group.foldl (fun (s : Nat × String) c =>
      (c.oldStart + c.dropped.length,
        s.2 ++ kept s.1 c.oldStart ++ String.join (c.dropped.map fun l => "-" ++ l ++ "\n")
          ++ String.join (c.added.map fun l => "+" ++ l ++ "\n"))) (start, "")
    "@@ -" ++ hunkRange start count ++ " +" ++ hunkRange newStart (count + added - removed)
      ++ " @@\n" ++ body.2 ++ kept body.1 stop
  | _, _ => ""

/-! ### Files and directories -/

/-- The options of `diff`. -/
def diffTable : OptionTable :=
  ⟨"qsuU:rNibwBacC:eyx:L:t",
    [("brief", 'q'), ("report-identical-files", 's'), ("unified", 'u'), ("recursive", 'r'),
      ("new-file", 'N'), ("ignore-case", 'i'), ("ignore-space-change", 'b'),
      ("ignore-all-space", 'w'), ("ignore-blank-lines", 'B'), ("text", 'a'), ("label", 'L'),
      ("exclude", 'x')]⟩

/-- How many lines are shown around changes, if changes are shown in groups. -/
def contextSize? (call : Call) : Option Nat :=
  match call.value? 'U' with
  | some n => some ((Text.natural? n).getD 3)
  | none => if call.has 'u' then some 3 else none

/-- The differences of two texts, by the names of their files. `head` stands before them. -/
def differenceText (call : Call) (head a b old new : String) : String :=
  let hasNull (text : String) : Bool := text.toList.contains (Char.ofNat 0)
  if old = new then (if call.has 's' then "Files " ++ a ++ " and " ++ b ++ " are identical\n" else "")
  else
    let oldLines := markedLines old
    let changes := changesBetween call oldLines (markedLines new)
    if changes.isEmpty then
      (if call.has 's' then "Files " ++ a ++ " and " ++ b ++ " are identical\n" else "")
    else if call.has 'q' then "Files " ++ a ++ " and " ++ b ++ " differ\n"
    else if !call.has 'a' && (hasNull old || hasNull new) then
      "Binary files " ++ a ++ " and " ++ b ++ " differ\n"
    else
      match contextSize? call with
      | none => head ++ String.join (changes.map changeText)
      | some context =>
        let labels := call.values 'L'
        let time := "\t1970-01-01 00:00:00.000000000 +0000"
        head ++ "--- " ++ (labels[0]?).getD (a ++ time) ++ "\n+++ " ++ (labels[1]?).getD (b ++ time)
          ++ "\n" ++ String.join ((closeChanges context changes).map (hunkText context oldLines))

/-- Compares two files. -/
def diffFiles (site : Site) (call : Call) (input : Source) (head a b : String) (o : Outcome) :
    Outcome :=
  let failures := [a, b].filterMap fun name =>
    match readWord site input name with
    | .ok _ => none
    | .error fault => some (name ++ ": " ++ wordsOf fault)
  match readWord site input a, readWord site input b with
  | .ok old, .ok new =>
    let text := differenceText call head a b old.text new.text
    let isSame := text = "" || (old.text = new.text) ||
      (changesBetween call (markedLines old.text) (markedLines new.text)).isEmpty
    let o := o.write text
    if isSame then o else { o with code := max o.code 1 }
  | _, _ => failures.foldl (fun o text => o.note (message site text) 2) o

/-- Compares two directories. `fuel` bounds how deep they are. -/
def diffDirectories (site : Site) (call : Call) (input : Source) :
    (fuel : Nat) → (a b : String) → (placeA placeB : Place) → Outcome → Outcome
  | 0, _, _, _, _, o => o
  | fuel + 1, a, b, placeA, placeB, o =>
    let inA := site.disk.sortedChildren placeA
    let inB := site.disk.sortedChildren placeB
    let names := ((inA ++ inB.filter fun e => !inA.any fun f => f.1 == e.1).map (·.1)).mergeSort
      Disk.nameLe
    let options := String.join ((call.options.map fun o => "-" ++ String.singleton o.1 ++ " "))
    names.foldl (fun o name =>
      let last := Text.encoded name
      let x := within a last
      let y := within b last
      let only (directory : String) : Outcome :=
        { o.write ("Only in " ++ directory ++ ": " ++ last ++ "\n") with code := max o.code 1 }
      match inA.lookup name, inB.lookup name with
      | some _, none => only a
      | none, some _ => only b
      | some .directory, some .directory =>
        if call.has 'r' then
          diffDirectories site call input fuel x y (placeA ++ [name]) (placeB ++ [name]) o
        else o.write ("Common subdirectories: " ++ x ++ " and " ++ y ++ "\n")
      | some _, some _ =>
        let head := if call.has 'q' then "" else "diff " ++ options ++ x ++ " " ++ y ++ "\n"
        diffFiles site call input head x y o
      | none, none => o) o

/-- Shows how two files, or the files of two directories, differ. -/
def diff (site : Site) (words : List String) (input : Source) : Outcome :=
  withNamedCall site diffTable words fun call =>
    match call.operands with
    | [] => namedMisuse site ("missing operand after " ++ quoted site.label)
    | [a] => namedMisuse site ("missing operand after " ++ quoted a)
    | _ :: _ :: word :: _ => namedMisuse site ("extra operand " ++ quoted word)
    | [a, b] =>
      let directory? (name : String) : Option Place :=
        match site.disk.locateNode site.cwd true (pathOf name) with
        | .ok (place, .directory) => if name = "-" then none else some place
        | _ => none
      let o := Outcome.nothing site
      match directory? a, directory? b with
      | some x, some y =>
        diffDirectories site call input (site.disk.entries.length + 1) a b x y o
      | some _, none => diffFiles site call input "" (within a (lastName b)) b o
      | none, some _ => diffFiles site call input "" a (within b (lastName a)) o
      | none, none => diffFiles site call input "" a b o

end SnippetForge.Shell.Utility
