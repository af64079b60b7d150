import SnippetForge.Text.Octets

/-!
# Octets as characters

Some programs work on the characters that octets encode, others on the octets themselves. Octets
that encode no character stand for themselves: each becomes a character at the very end of the code
space, which is taken for nothing else. So no octet is lost, and octets can be had back.
-/

namespace SnippetForge.Text

/-- The number in front of those of octets that encode no character. -/
def strayBase : Nat := 0x10FF00

/-- An octet that encodes no character, as a character. -/
def stray (c : Char) : Char :=
  Char.ofNat (strayBase + c.toNat)

/-- Whether a character is an octet that encodes none. -/
def isStray (c : Char) : Bool :=
  strayBase + 128 ≤ c.toNat

/-- The number that continuing octets go on with. -/
def continued (n : Nat) (octets : List Char) : Nat :=
  octets.foldl (fun n c => n * 64 + c.toNat % 64) n

/-- The character at the start of some octets that are not plain, and how many of them it takes. -/
def sequence? (lead : Char) (rest : List Char) : Option (Char × Nat) :=
  let n := lead.toNat
  let tails := rest.takeWhile fun c => 0x80 ≤ c.toNat && c.toNat < 0xC0
  let sized (count least start : Nat) : Option (Char × Nat) :=
    let value := continued start (tails.take count)
    if count ≤ tails.length && least ≤ value && value < strayBase
        && !(0xD800 ≤ value && value < 0xE000) then
      some (Char.ofNat value, count)
    else none
  if n < 0xC0 then none
  else if n < 0xE0 then sized 1 0x80 (n - 0xC0)
  else if n < 0xF0 then sized 2 0x800 (n - 0xE0)
  else if n < 0xF5 then sized 3 0x10000 (n - 0xF0)
  else none

/-- The characters of some octets, of which the first ones are passed over. -/
def charactersFrom : (passed : Nat) → List Char → List Char
  | _, [] => []
  | passed + 1, _ :: rest => charactersFrom passed rest
  | 0, c :: rest =>
    if c.toNat < 128 then c :: charactersFrom 0 rest
    else
      match sequence? c rest with
      | some (found, passed) => found :: charactersFrom passed rest
      | none => stray c :: charactersFrom 0 rest

/-- Whether all characters are plain ones, so that octets and characters are the same. -/
def isPlain (s : String) : Bool :=
  s.toList.all fun c => c.toNat < 128

/-- The characters that octets encode. -/
def characters (s : String) : String :=
  if isPlain s then s else String.ofList (charactersFrom 0 s.toList)

/-- The octets of a character. -/
def octetsOfChar (c : Char) : List Char :=
  let n := c.toNat
  let tail (n : Nat) : Char := Char.ofNat (0x80 + n % 64)
  if n < 0x80 then [c]
  else if isStray c then [Char.ofNat (n - strayBase)]
  else if n < 0x800 then [Char.ofNat (0xC0 + n / 64), tail n]
  else if n < 0x10000 then [Char.ofNat (0xE0 + n / 4096), tail (n / 64), tail n]
  else [Char.ofNat (0xF0 + n / 262144), tail (n / 4096), tail (n / 64), tail n]

/-- The octets that encode some characters. -/
def octetsOf (s : String) : String :=
  if isPlain s then s else String.ofList (s.toList.flatMap octetsOfChar)

/-- The characters of octets that are characters in part already. -/
def rejoined (cs : List Char) : List Char :=
  if cs.any isStray then charactersFrom 0 (cs.flatMap octetsOfChar) else cs

/-- How many octets encode some characters. -/
def octetCount (cs : List Char) : Nat :=
  cs.foldl (fun n c => n + if c.toNat < 128 then 1 else (octetsOfChar c).length) 0

end SnippetForge.Text
