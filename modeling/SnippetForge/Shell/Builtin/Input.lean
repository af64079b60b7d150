import SnippetForge.Machine.Input
import SnippetForge.Shell.Builtin.Variables
import SnippetForge.Shell.Expand

/-!
# Reading lines into variables

A script reads a line byte by byte, so that what follows it stays for others. The line is cut into
as many fields as there are variables; the last one gets all that is left.
-/

namespace SnippetForge.Shell.Builtin

/-! ### Lines -/

/-- A line as a script reads it: the characters, those behind a backslash quoted, how many bytes
they take, and whether the line has an end. None if more bytes are needed to tell. -/
def readGlyphs (isRaw isWhole : Bool) (bytes : ByteArray) :
    (fuel : Nat) → (start : Nat) → (done : List Glyph) → Option (List Glyph × Nat × Bool)
  | 0, _, _ => none
  | fuel + 1, start, done =>
    if start < bytes.size then
      let c := Char.ofNat (bytes.get! start).toNat
      if c = '\n' then some (done.reverse, start + 1, true)
      else if c.toNat = 0 then readGlyphs isRaw isWhole bytes fuel (start + 1) done
      else if c = '\\' && !isRaw then
        if start + 1 < bytes.size then
          let next := Char.ofNat (bytes.get! (start + 1)).toNat
          let done := if next = '\n' then done else (next, true) :: done
          readGlyphs isRaw isWhole bytes fuel (start + 2) done
        else if isWhole then some (done.reverse, start + 1, false)
        else none
      else readGlyphs isRaw isWhole bytes fuel (start + 1) ((c, false) :: done)
    else if isWhole then some (done.reverse, start, false)
    else none

/-! ### Fields -/

/-- The text of some characters. -/
def glyphText (glyphs : List Glyph) : String :=
  String.ofList (glyphs.map (·.1))

/-- The value of the last variable: what is left without the blank separators at its end, and
without one more separator if there is only one field. -/
def lastField (separates isBlank : Glyph → Bool) (line : List Glyph) : String :=
  let strip (line : List Glyph) : List Glyph := (line.reverse.dropWhile isBlank).reverse
  let line := strip line
  match line.getLast? with
  | some g =>
    let shorter := strip line.dropLast
    if separates g && !isBlank g && !shorter.any separates then glyphText shorter
    else glyphText line
  | none => ""

/-- Distributes the fields of a line over variables. -/
def distribute (separators : List Char) : List String → List Glyph → List (String × String)
  | [], _ => []
  | name :: names, line =>
    let separates (g : Glyph) : Bool := !g.2 && separators.contains g.1
    let isBlank (g : Glyph) : Bool := separates g && isBlankSeparator g.1
    let line := line.dropWhile isBlank
    if names.isEmpty then [(name, lastField separates isBlank line)]
    else
      let field := line.takeWhile fun g => !separates g
      let after := (line.drop field.length).dropWhile isBlank
      let after :=
        match after with
        | g :: rest => if separates g then rest.dropWhile isBlank else after
        | [] => []
      (name, glyphText field) :: distribute separators names after

/-- Sets variables to values, or complains. -/
def setFields (p : Process) (values : List (String × String)) : Except String Process :=
  values.foldlM (fun p v => setVariable p v.1 v.2) p

/-- Reads a line into variables; none if it is not there yet. -/
def read? (m : Machine) (p : Process) (words : List String) : Option (Machine × Reply) :=
  match optionsOf "p:r" words with
  | .error text => some (m, .error p text)
  | .ok (_, []) => some (m, .error p "arg count")
  | .ok (options, names) =>
    let isRaw := options.any fun o => o.1 == 'r'
    let supply := m.supply p
    let bytes := supply.source.content
    match readGlyphs isRaw supply.isWhole bytes (bytes.size + 1) 0 [] with
    | none => none
    | some (line, size, hasEnd) =>
      let m := m.take (Machine.handleOf p 0) size
      let reply := Reply.ofResult p (setFields p (distribute p.separators names line))
      some (m, { reply with status := if reply.isError then 2 else if hasEnd then 0 else 1 })

end SnippetForge.Shell.Builtin
