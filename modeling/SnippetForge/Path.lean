/-!
# Paths

A path is a text in which slashes separate segments. Two views of it matter. Its *segments* are
what the text spells, empty ones included. Its *components* are what it means on its own: empty
segments drop out, and so does `.`, except at the very start of a relative path, where it is kept.
A path that starts with a slash has the root as its first component.

Joining and taking the parent work on the spelling and never resolve `..`, so that a path stays
the one its author wrote. Joining an absolute path onto another replaces it.
-/

namespace SnippetForge

/-- A path, as spelled. -/
structure Path where
  text : String
  deriving DecidableEq, Repr

namespace Path

/-! ### Segments and components -/

/-- What stands between the slashes of a path. -/
def segments (p : Path) : List String :=
  (p.text.toList.splitOn '/').map String.ofList

/-- Whether the path starts at the root. -/
def isAbsolute (p : Path) : Bool :=
  match p.text.toList with
  | '/' :: _ => true
  | _ => false

/-- A part of a path with a meaning of its own. -/
inductive Component
  /-- The root. -/
  | root
  /-- The directory the path starts in. -/
  | current
  /-- The directory above. -/
  | up
  /-- An entry of a directory. -/
  | name (value : String)
  deriving DecidableEq, Repr

/-- Whether a segment adds nothing to a path. -/
def isTrivial (segment : String) : Bool :=
  segment == "" || segment == "."

/-- The component of a segment that is not trivial. -/
def componentOf (segment : String) : Component :=
  if segment = ".." then .up else .name segment

/-- The components of segments, trivial ones left out. -/
def componentsOf (segments : List String) : List Component :=
  (segments.filter fun s => !isTrivial s).map componentOf

/-- The components of a path. -/
def components (p : Path) : List Component :=
  if p.isAbsolute then .root :: componentsOf p.segments
  else
    match p.segments with
    | "." :: rest => .current :: componentsOf rest
    | segments => componentsOf segments

/-- Whether every component is an entry of a directory. -/
def isPlain (p : Path) : Bool :=
  p.components.all fun c =>
    match c with
    | .name _ => true
    | _ => false

/-! ### Joining -/

/-- Whether a text ends with a slash. -/
def endsWithSlash (s : String) : Bool :=
  s.toList.getLast? == some '/'

/-- The path `q` seen from `p`. -/
def join (p q : Path) : Path :=
  if q.isAbsolute then q
  else if p.text = "" ∨ endsWithSlash p.text then ⟨p.text ++ q.text⟩
  else ⟨p.text ++ "/" ++ q.text⟩

/-- The entry of a name in the directory `p`. -/
def child (p : Path) (name : String) : Path :=
  p.join ⟨name⟩

/-! ### Parents -/

/-- Reversed segments without the trivial ones in front. -/
def dropTrivial (reversed : List String) : List String :=
  reversed.dropWhile isTrivial

/-- Puts slashes between segments. -/
def ofSegments (segments : List String) : String :=
  String.intercalate "/" segments

/-- Takes the last component off the segments of a relative path. A single leading `.` is a
component of its own. -/
def relativeParent? (segments : List String) : Option String :=
  match segments with
  | "." :: rest =>
    match dropTrivial rest.reverse with
    | [] => some ""
    | _ :: above => some (ofSegments ("." :: (dropTrivial above).reverse))
  | _ =>
    match dropTrivial segments.reverse with
    | [] => none
    | _ :: above => some (ofSegments (dropTrivial above).reverse)

/-- The path without its last component; none if that is the root or if there is none. -/
def parent? (p : Path) : Option Path :=
  if p.isAbsolute then
    match dropTrivial p.segments.reverse with
    | [] => none
    | _ :: above =>
      match (dropTrivial above).reverse with
      | "" :: rest => some ⟨"/" ++ ofSegments rest⟩
      | rest => some ⟨"/" ++ ofSegments rest⟩
  else (relativeParent? p.segments).map Path.mk

/-- The name the path ends in, if its last component is one. -/
def fileName? (p : Path) : Option String :=
  match p.components.getLast? with
  | some (.name n) => some n
  | _ => none

end Path

end SnippetForge
