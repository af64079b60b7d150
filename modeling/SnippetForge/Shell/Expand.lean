import SnippetForge.Shell.Pattern
import SnippetForge.Shell.Variable

/-!
# Expanding words

A word becomes fields. Quoted parts and literals are kept together; the value of an unquoted
parameter or substitution is cut at separators. A word without quotes whose parts are all empty
gives no field at all. A field with a wildcard that is not quoted then stands for the names on the
disk that it matches, if there are any.

A word is expanded from left to right, since its parts can change variables. A substitution needs a
script to run: the expansion stops there and tells what is left of the word. When the script has
ended, its output takes the place that is marked in the rest, and the expansion of the rest goes on.
-/

namespace SnippetForge.Shell

/-! ### Progress -/

/-- How far an expansion has come. -/
inductive Progress (α β : Type)
  /-- It has a result. -/
  | done (p : Process) (result : α)
  /-- It needs the output of a script before it goes on with what is left. -/
  | paused (p : Process) (script : Command) (left : β)

namespace Progress

/-- Progress with another result and another rest. -/
def map {α β γ δ : Type} (f : α → γ) (g : β → δ) : Progress α β → Progress γ δ
  | .done p result => .done p (f result)
  | .paused p script left => .paused p script (g left)

end Progress

/-! ### Atoms -/

/-- The character between arguments that are cut apart whatever the separators are. -/
def argumentMark : Char :=
  Char.ofNat 0

/-- The text of an atom. -/
def Atom.text : Atom → String
  | .solid text _ => text
  | .loose text => text
  | .cut => " "

/-- The characters of an atom. -/
def Atom.glyphs : Atom → List Glyph
  | .solid text isQuoted => text.toList.map fun c => (c, isQuoted)
  | .loose text => text.toList.map fun c => (c, false)
  | .cut => [(' ', true)]

/-- The text of some atoms. -/
def textOf (atoms : List Atom) : String :=
  String.join (atoms.map Atom.text)

/-- The atom that a value makes. -/
def valueAtom (value : String) (isQuoted : Bool) : List Atom :=
  if isQuoted then [.solid value true] else [.loose value]

/-- The atoms that a literal makes. One in a word that stands in for a parameter is cut like a
value. -/
def literalAtoms (text : String) (isQuoted isInner : Bool) : List Atom :=
  if isQuoted then [.solid text true]
  else if text = "" then []
  else if isInner then [.loose text]
  else [.solid text false]

/-- The atoms that a parameter makes when it is used as it is, or a complaint. `isCut` tells
whether the word is cut into fields. -/
def plainAtoms (p : Process) (isCut : Bool) (name : String) (isQuoted : Bool) :
    Except String (List Atom) :=
  if name = "@" && isQuoted && isCut then
    .ok ((p.words.map fun a => Atom.solid a true).intersperse .cut)
  else if Process.isAll name && !isQuoted && isCut then
    .ok [.loose ((String.singleton argumentMark).intercalate p.words)]
  else
    match p.parameter? name with
    | some value => .ok (valueAtom value isQuoted)
    | none =>
      if p.hasOption 'u' then .error (name ++ ": parameter not set")
      else .ok (valueAtom "" isQuoted)

/-- The text of a parameter, or a complaint. -/
def plainText (p : Process) (name : String) : Except String String :=
  (plainAtoms p false name true).map textOf

/-! ### Fragments -/

/-- The complaint about a parameter that is missing. -/
def demandText (name : String) (orEmpty : Bool) (message : String) : String :=
  name ++ ": " ++
    if message != "" then message
    else if orEmpty then "parameter not set or null"
    else "parameter not set"

mutual

/-- Expands a fragment. -/
def expandFragment (p : Process) (isCut isInner : Bool) :
    Fragment → Except String (Progress (List Atom) Fragment)
  | .literal text isQuoted => .ok (.done p (literalAtoms text isQuoted isInner))
  | .expanded atoms => .ok (.done p atoms)
  | .awaited _ => .ok (.done p [])
  | .substitution script isQuoted => .ok (.paused p script (.awaited isQuoted))
  | .arithmetic expression isQuoted =>
    match expandParts p false false expression with
    | .error message => .error message
    | .ok (.paused p script left) => .ok (.paused p script (.arithmetic left isQuoted))
    | .ok (.done p atoms) =>
      match Arithmetic.evaluate Process.access p (textOf atoms) with
      | .ok (n, p) => .ok (.done p (valueAtom (toString n) isQuoted))
      | .error e => .error (e.message (textOf atoms))
  | .parameter name edit isQuoted =>
    (expandEdit p isCut name isQuoted edit).map fun progress =>
      progress.map id fun left => .parameter name left isQuoted

/-- Expands a parameter with an edit. -/
def expandEdit (p : Process) (isCut : Bool) (name : String) (isQuoted : Bool) :
    Edit → Except String (Progress (List Atom) Edit)
  | .unknown => .error "Bad substitution"
  | .plain => (plainAtoms p isCut name isQuoted).map (.done p ·)
  | .length =>
    (plainText p name).map fun text => .done p (valueAtom (toString text.length) isQuoted)
  | .drop isAtEnd isLongest pattern =>
    match plainText p name with
    | .error message => .error message
    | .ok value =>
      match expandParts p false false pattern with
      | .error message => .error message
      | .ok (.paused p script left) => .ok (.paused p script (.drop isAtEnd isLongest left))
      | .ok (.done p atoms) =>
        let pattern := Pattern.ofGlyphs (atoms.flatMap Atom.glyphs)
        let text := String.ofList (pattern.dropMatch isAtEnd isLongest value.toList)
        .ok (.done p (valueAtom text isQuoted))
  | .default orEmpty word =>
    if p.lacks name orEmpty then
      (expandParts p isCut true word).map fun progress => progress.map id (.default orEmpty)
    else (plainAtoms p isCut name isQuoted).map (.done p ·)
  | .alternative orEmpty word =>
    if p.lacks name orEmpty then .ok (.done p (literalAtoms "" isQuoted false))
    else
      (expandParts p isCut true word).map fun progress => progress.map id (.alternative orEmpty)
  | .assign orEmpty word =>
    if p.lacks name orEmpty then
      match expandParts p false false word with
      | .error message => .error message
      | .ok (.paused p script left) => .ok (.paused p script (.assign orEmpty left))
      | .ok (.done p atoms) =>
        if !isName name then .error (name ++ ": bad variable name")
        else
          match p.assign? name (textOf atoms) with
          | some p => .ok (.done p (valueAtom (textOf atoms) isQuoted))
          | none => .error (name ++ ": is read only")
    else (plainAtoms p isCut name isQuoted).map (.done p ·)
  | .demand orEmpty word =>
    if p.lacks name orEmpty then
      match expandParts p false false word with
      | .error message => .error message
      | .ok (.paused p script left) => .ok (.paused p script (.demand orEmpty left))
      | .ok (.done _ atoms) => .error (demandText name orEmpty (textOf atoms))
    else (plainAtoms p isCut name isQuoted).map (.done p ·)

/-- Expands fragments from left to right. -/
def expandParts (p : Process) (isCut isInner : Bool) :
    List Fragment → Except String (Progress (List Atom) (List Fragment))
  | [] => .ok (.done p [])
  | f :: rest =>
    match expandFragment p isCut isInner f with
    | .error message => .error message
    | .ok (.paused p script left) => .ok (.paused p script (left :: rest))
    | .ok (.done p first) =>
      match expandParts p isCut isInner rest with
      | .error message => .error message
      | .ok (.paused p script left) => .ok (.paused p script (.expanded first :: left))
      | .ok (.done p rest) => .ok (.done p (first ++ rest))

end

/-! ### The output of scripts -/

mutual

/-- Puts output in the marked place of a fragment. -/
def fillFragment (output : String) : Fragment → Fragment
  | .awaited isQuoted => .expanded (valueAtom output isQuoted)
  | .arithmetic expression isQuoted => .arithmetic (fillParts output expression) isQuoted
  | .parameter name edit isQuoted => .parameter name (fillEdit output edit) isQuoted
  | f => f

/-- Puts output in the marked place of an edit. -/
def fillEdit (output : String) : Edit → Edit
  | .drop isAtEnd isLongest pattern => .drop isAtEnd isLongest (fillParts output pattern)
  | .default orEmpty word => .default orEmpty (fillParts output word)
  | .alternative orEmpty word => .alternative orEmpty (fillParts output word)
  | .assign orEmpty word => .assign orEmpty (fillParts output word)
  | .demand orEmpty word => .demand orEmpty (fillParts output word)
  | edit => edit

/-- Puts output in the marked place of some fragments. -/
def fillParts (output : String) : List Fragment → List Fragment
  | [] => []
  | f :: rest => fillFragment output f :: fillParts output rest

end

/-! ### Home directories -/

/-- Replaces a tilde at the start of some text that stands for a home directory. The text ends
where a word does, or at a colon if `isList`. -/
def replaceTilde (p : Process) (isList isEnd : Bool) (cs : List Char) :
    Option (String × List Char) :=
  match cs with
  | '~' :: rest =>
    let stops (c : Char) : Bool := c == '/' || (isList && c == ':')
    let user := rest.takeWhile fun c => !stops c
    let after := rest.drop user.length
    if after.isEmpty && !isEnd then none
    else (p.home? (String.ofList user)).map fun home => (home, after)
  | _ => none

/-- Text with the tildes after colons replaced. `isEnd` tells whether a word ends with it. -/
def replaceListed (p : Process) (isEnd : Bool) : Nat → (plain : List Char) → List Char → Word
  | 0, plain, cs => [.literal (String.ofList (plain.reverse ++ cs)) false]
  | _ + 1, plain, [] => [.literal (String.ofList plain.reverse) false]
  | fuel + 1, plain, c :: rest =>
    if c = ':' then
      match replaceTilde p true isEnd rest with
      | some (home, after) =>
        .literal (String.ofList (':' :: plain).reverse) false :: .literal home true
          :: replaceListed p isEnd fuel [] after
      | none => replaceListed p isEnd fuel (':' :: plain) rest
    else replaceListed p isEnd fuel (c :: plain) rest

/-- A word whose tildes are replaced: the one at its start, and if it `isList` those after colons
too. -/
def expandHome (p : Process) (isList : Bool) : Word → Word
  | .literal text false :: rest =>
    let (front, cs) : Word × List Char :=
      match replaceTilde p isList rest.isEmpty text.toList with
      | some (home, after) => ([.literal home true], after)
      | none => ([], text.toList)
    let middle := if isList then replaceListed p rest.isEmpty (cs.length + 1) [] cs
      else if cs.isEmpty then [] else [.literal (String.ofList cs) false]
    front ++ middle ++ (if isList then listed rest else rest)
  | w => if isList then listed w else w
where
  /-- The other fragments of a list, in which tildes stand after colons only. -/
  listed : Word → Word
    | [] => []
    | .literal text false :: rest =>
      replaceListed p rest.isEmpty (text.length + 1) [] text.toList ++ listed rest
    | f :: rest => f :: listed rest

mutual

/-- A fragment with the tildes of the words in it replaced. -/
def homeInFragment (p : Process) : Fragment → Fragment
  | .parameter name edit false => .parameter name (homeInEdit p edit) false
  | f => f

/-- An edit with the tildes of its word replaced. -/
def homeInEdit (p : Process) : Edit → Edit
  | .default orEmpty word => .default orEmpty (expandHome p false (homeInParts p word))
  | .alternative orEmpty word => .alternative orEmpty (expandHome p false (homeInParts p word))
  | .assign orEmpty word => .assign orEmpty (expandHome p false (homeInParts p word))
  | .demand orEmpty word => .demand orEmpty (expandHome p false (homeInParts p word))
  | edit => edit

/-- Fragments with the tildes of the words in them replaced. -/
def homeInParts (p : Process) : List Fragment → List Fragment
  | [] => []
  | f :: rest => homeInFragment p f :: homeInParts p rest

end

/-- A word with all tildes replaced. -/
def withHomes (p : Process) (isList : Bool) (w : Word) : Word :=
  homeInParts p (expandHome p isList w)

/-! ### Fields -/

/-- Fields being built. -/
structure Fields where
  /-- The current field, reversed. -/
  current : List Glyph
  /-- Whether the current field counts even if it is empty. -/
  isMarked : Bool
  /-- The finished fields, last first. -/
  done : List (List Glyph)

namespace Fields

/-- No field. -/
def none : Fields :=
  ⟨[], false, []⟩

/-- Whether the current field has begun. -/
def hasBegun (fields : Fields) : Bool :=
  fields.isMarked || !fields.current.isEmpty

/-- Ends the current field, which may be empty. -/
def cut (fields : Fields) : Fields :=
  ⟨[], false, fields.current.reverse :: fields.done⟩

/-- Puts characters that are kept together at the end of the current field. -/
def push (fields : Fields) (text : String) (isQuoted : Bool) : Fields :=
  { fields with
    current := (text.toList.map fun c => (c, isQuoted)).reverse ++ fields.current,
    isMarked := fields.isMarked || isQuoted }

/-- All fields. -/
def finish (fields : Fields) : List (List Glyph) :=
  (if fields.hasBegun then fields.cut else fields).done.reverse

end Fields

/-- Whether a separator is a blank; several of them separate as one does. -/
def isBlankSeparator (c : Char) : Bool :=
  c == ' ' || c == '\t' || c == '\n' || c == argumentMark

/-- What follows a separator in a text: blank separators are skipped, and after a blank one also one
that is not blank. -/
def afterSeparator (separates : Char → Bool) (isBlank : Bool) : List Char → List Char
  | c :: rest =>
    if !separates c then c :: rest
    else if isBlankSeparator c then afterSeparator separates isBlank rest
    else if isBlank then afterSeparator separates false rest
    else c :: rest
  | [] => []

theorem length_afterSeparator_le (separates : Char → Bool) (isBlank : Bool) (cs : List Char) :
    (afterSeparator separates isBlank cs).length ≤ cs.length := by
  induction cs generalizing isBlank with
  | nil => simp [afterSeparator]
  | cons c rest ih =>
    unfold afterSeparator
    split
    · exact Nat.le_refl _
    · split
      · exact Nat.le_succ_of_le (ih isBlank)
      · split
        · exact Nat.le_succ_of_le (ih false)
        · exact Nat.le_refl _

/-- Puts text that is cut at separators behind some fields. -/
def cutText (separates : Char → Bool) (fields : Fields) (cs : List Char) : Fields :=
  match cs with
  | [] => fields
  | c :: rest =>
    if !separates c then
      cutText separates { fields with current := (c, false) :: fields.current } rest
    else if isBlankSeparator c && !fields.hasBegun then cutText separates fields rest
    else cutText separates fields.cut (afterSeparator separates (isBlankSeparator c) rest)
termination_by cs.length
decreasing_by
  all_goals
    have hshort := length_afterSeparator_le separates (isBlankSeparator c) rest
    simp only [List.length_cons]
    omega

/-- Puts an atom behind some fields. -/
def addAtom (separates : Char → Bool) (fields : Fields) : Atom → Fields
  | .solid text isQuoted => fields.push text isQuoted
  | .loose text => cutText separates fields text.toList
  | .cut => fields.cut

/-- The fields that some atoms make. -/
def fieldsOf (separators : List Char) (atoms : List Atom) : List (List Glyph) :=
  let separates (c : Char) : Bool := c == argumentMark || separators.contains c
  (atoms.foldl (addAtom separates) Fields.none).finish

/-! ### Names on the disk -/

/-- The names in a directory that a pattern matches. A leading dot is matched only by itself. -/
def matchingNames (d : Disk) (cwd : Place) (directory : String) (pattern : Pattern) :
    List String :=
  let showsHidden := pattern.head? == some (.char '.')
  match d.list cwd ⟨if directory = "" then "." else Text.decoded directory⟩ with
  | .ok entries =>
    ("." :: ".." :: entries.map fun e => Text.encoded e.1).filter fun name =>
      (showsHidden || name.toList.head? != some '.') && pattern.accepts name.toList
  | .error _ => []

/-- The paths that start with some text and go on as some patterns match. -/
def matchingPaths (d : Disk) (cwd : Place) (start : String) : List Pattern → List String
  | [] => [start]
  | pattern :: rest =>
    let next : List String :=
      if pattern.hasWildcard then (matchingNames d cwd start pattern).map (start ++ ·)
      else [start ++ pattern.literalText]
    if rest.isEmpty then
      next.filter fun path => (d.linkOrNode? cwd ⟨Text.decoded path⟩).isSome
    else next.flatMap fun path => matchingPaths d cwd (path ++ "/") rest

/-- The text of a field. -/
def fieldText (field : List Glyph) : String :=
  String.ofList (field.map (·.1))

/-- The names that a field stands for: the paths it matches, in order, or else its text. -/
def fieldNames (d : Disk) (cwd : Place) (field : List Glyph) : List String :=
  let patterns := (field.splitOnP fun g => g.1 == '/').map Pattern.ofGlyphs
  if patterns.any Pattern.hasWildcard then
    match matchingPaths d cwd "" patterns with
    | [] => [fieldText field]
    | paths => paths.mergeSort fun a b => Disk.nameLe a b
  else [fieldText field]

/-! ### Expansion -/

/-- The names or texts that some fields stand for to a process. -/
def namesOf (d : Disk) (p : Process) (fields : List (List Glyph)) : List String :=
  if p.hasOption 'f' then fields.map fieldText else fields.flatMap (fieldNames d p.cwd)

/-- A word that stands for a text. -/
def fieldWord (text : String) : Word :=
  [.expanded [.solid text true]]

/-- Expands a word to fields. -/
def expandWord (d : Disk) (p : Process) (w : Word) :
    Except String (Progress (List String) Word) :=
  (expandParts p true false (withHomes p false w)).map fun progress =>
    match progress with
    | .done p atoms => .done p (namesOf d p (fieldsOf p.separators atoms))
    | .paused p script left => .paused p script left

/-- Expands a word to a text that is not cut. -/
def expandText (p : Process) (isList : Bool) (w : Word) : Except String (Progress String Word) :=
  (expandParts p false false (withHomes p isList w)).map fun progress => progress.map textOf id

/-- Expands a word to the pattern that it spells. -/
def expandPattern (p : Process) (w : Word) : Except String (Progress Pattern Word) :=
  (expandParts p false false (withHomes p false w)).map fun progress =>
    progress.map (fun atoms => Pattern.ofGlyphs (atoms.flatMap Atom.glyphs)) id

/-- Commands whose arguments can be assignments. -/
def assigners : List String :=
  ["export", "readonly", "local", "alias"]

/-- Whether a text starts like an assignment. -/
def startsAssignment (text : String) : Bool :=
  let name := text.toList.takeWhile isNameChar
  (name.head?).any startsName && (text.toList.drop name.length).head? == some '='

/-- Whether a word is an assignment, or what is left of one. -/
def isAssignment : Word → Bool
  | .literal text false :: _ => startsAssignment text
  | .expanded (.solid text _ :: _) :: _ => startsAssignment text
  | _ => false

/-- A word for an assignment with the tildes of its value replaced. -/
def assignmentWord (p : Process) : Word → Word
  | .literal text false :: rest =>
    let name := text.toList.takeWhile (· != '=')
    .literal (String.ofList (name ++ ['='])) true
      :: withHomes p true (.literal (String.ofList (text.toList.drop (name.length + 1))) false
        :: rest)
  | w => w

/-- Whether the words of a command that are expanded so far make it one whose arguments can be
assignments. -/
def takesAssignments (fields : List String) : Bool :=
  match fields.dropWhile (· == "command") with
  | name :: _ => assigners.contains name
  | [] => false

/-- Expands words to fields, behind the fields that are there. The rest that is left when a script
is needed stands for the fields too. -/
def expandWords (d : Disk) (p : Process) :
    (fields : List String) → List Word → Except String (Progress (List String) (List Word))
  | fields, [] => .ok (.done p fields)
  | fields, w :: rest =>
    let first :=
      if takesAssignments fields && isAssignment w then
        (expandParts p false false (assignmentWord p w)).map fun progress =>
          progress.map (fun atoms => [textOf atoms]) id
      else expandWord d p w
    match first with
    | .error message => .error message
    | .ok (.paused p script left) =>
      .ok (.paused p script (fields.map fieldWord ++ left :: rest))
    | .ok (.done p more) => expandWords d p (fields ++ more) rest

end SnippetForge.Shell
