/-!
# Numbers in text

A text of decimal digits and nothing else is a number.
-/

namespace SnippetForge.Text

/-- The number that decimal digits spell. -/
def digitsValue (cs : List Char) : Nat :=
  cs.foldl (fun n c => n * 10 + (c.toNat - '0'.toNat)) 0

/-- The number that a text of decimal digits spells. -/
def natural? (s : String) : Option Nat :=
  let cs := s.toList
  if !cs.isEmpty && cs.all Char.isDigit then some (digitsValue cs) else none

/-- The number that a text spells which may have a sign. -/
def integer? (s : String) : Option Int :=
  match s.toList with
  | '-' :: cs => (natural? (String.ofList cs)).map fun n => -(n : Int)
  | '+' :: cs => (natural? (String.ofList cs)).map fun n => (n : Int)
  | _ => (natural? s).map fun n => (n : Int)

end SnippetForge.Text
