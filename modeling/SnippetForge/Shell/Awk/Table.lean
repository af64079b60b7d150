import Std.Data.HashMap
import SnippetForge.Shell.Awk.Value

/-!
# Tables of programs for records

A table gives values to keys. It is gone through in an order that looks arbitrary: the keys are spread
over a fixed number of lists, and what was used last stands first in its list. Keys that are whole
numbers are first listed by themselves; they join the others when the keys are needed as texts.
-/

namespace SnippetForge.Shell.Awk

/-- A table. -/
structure Table where
  cells : Std.HashMap String Value
  /-- The keys that are whole numbers, in their lists. -/
  wholes : Array (List Int)
  /-- The keys as texts, in their lists. -/
  texts : Array (List String)
  /-- Whether every key is there as a text. -/
  hasTexts : Bool

/-- A key of a table. -/
inductive Key
  | whole (n : Int)
  | text (s : String)

namespace Table

/-- How many lists there are. -/
def width : Nat := 64

/-- A table without keys. -/
def empty : Table :=
  ⟨{}, (List.replicate width []).toArray, (List.replicate width []).toArray, false⟩

/-- The number by which a text is put into a list. -/
def spread (s : String) : Nat :=
  s.toList.foldl (fun h c => Nat.xor h c.toNat * 16777619 % 4294967296) 2166136261

/-- The list of a text. -/
def slotOfText (s : String) : Nat :=
  spread s % width

/-- The list of a whole number. -/
def slotOfWhole (n : Int) : Nat :=
  (n % (width : Int)).toNat

/-- Puts an item first in a list, wherever it was there before. -/
def inFront {α : Type} [BEq α] (x : α) (xs : List α) : List α :=
  if xs.head? == some x then xs else x :: xs.erase x

/-- Puts a text first in its list. -/
def frontText (t : Table) (s : String) : Table :=
  { t with texts := t.texts.modify (slotOfText s) (inFront s) }

/-- Puts a whole number first in its list. -/
def frontWhole (t : Table) (n : Int) : Table :=
  { t with wholes := t.wholes.modify (slotOfWhole n) (inFront n) }

/-- A table in which every key is there as a text. -/
def withTexts (t : Table) : Table :=
  if t.hasTexts then t
  else
    let numbers := t.wholes.toList.flatMap id
    { numbers.foldl (fun t n => t.frontText (toString n)) t with hasTexts := true }

/-- How many keys there are. -/
def size (t : Table) : Nat :=
  t.cells.size

/-- The text of a key. -/
def keyText : Key → String
  | .whole n => toString n
  | .text s => s

/-- Notes that a key is used. -/
def touch (t : Table) (key : Key) : Table :=
  match key with
  | .whole n => if t.hasTexts then (t.frontText (toString n)).frontWhole n else t.frontWhole n
  | .text s => t.withTexts.frontText s

/-- The value of a key. A key that is not there is added. -/
def fetch (t : Table) (key : Key) : Value × Table :=
  let name := keyText key
  match t.cells[name]? with
  | some v => (v, t.touch key)
  | none => (.unset, { t.touch key with cells := t.cells.insert name .unset })

/-- A table in which a key has a value. -/
def put (t : Table) (key : Key) (v : Value) : Table :=
  { t.touch key with cells := t.cells.insert (keyText key) v }

/-- Whether a key is there. -/
def has (t : Table) (key : Key) : Bool × Table :=
  if t.cells.contains (keyText key) then (true, t.touch key)
  else
    match key with
    | .whole _ => (false, t)
    | .text _ => (false, if t.size = 0 then t else t.withTexts)

/-- A table without a key. -/
def remove (t : Table) (key : Key) : Table :=
  let name := keyText key
  if t.cells.contains name then
    let cells := t.cells.erase name
    if cells.isEmpty then empty
    else
      let isNamed (n : Int) : Bool := toString n == name
      let numbers : Table :=
        match name.toInt?.filter isNamed with
        | some n => { t with wholes := t.wholes.modify (slotOfWhole n) (·.erase n) }
        | none => t
      { numbers with
        cells := cells, texts := numbers.texts.modify (slotOfText name) (·.erase name) }
  else (t.has key).2

/-- The keys in the order in which they are gone through. -/
def keys (t : Table) : List String × Table :=
  let t := t.withTexts
  (t.texts.toList.flatMap id, t)

/-- The table of some values that are counted from one. -/
def ofValues (values : List Value) : Table :=
  (values.foldl (fun (s : Nat × Table) v => (s.1 + 1, s.2.put (.whole s.1) v)) (1, empty)).2

end Table

/-- The key for a value. -/
def Key.ofValue (format : String) : Value → Key
  | .number n =>
    let k := wholeOf n
    if (Binary.ofInt k).eq n then .whole k else .text (formattedNumber format n)
  | .unset => .text ""
  | .text s => .text s
  | .given s _ => .text s

end SnippetForge.Shell.Awk
