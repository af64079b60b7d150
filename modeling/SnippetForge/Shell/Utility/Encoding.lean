import SnippetForge.Shell.Utility.Amounts

/-!
# Bytes in letters

Bytes are written in letters of which each one stands for a few bits, in groups: four letters for
three bytes, or eight letters for five. Signs fill a group that is not full. Reading goes on as far
as the letters make sense.
-/

namespace SnippetForge.Shell.Utility

namespace Encoding

/-- Letters for bits. -/
structure Alphabet where
  letters : List Char
  /-- How many bits a letter stands for. -/
  bits : Nat
  /-- How many bytes are a group. -/
  bytes : Nat

/-- The letters for six bits each. -/
def sixBits : Alphabet :=
  ⟨"ABCDEFGHIJKLMNOPQRSTUVWXYZabcdefghijklmnopqrstuvwxyz0123456789+/".toList, 6, 3⟩

/-- The letters for five bits each. -/
def fiveBits : Alphabet :=
  ⟨"ABCDEFGHIJKLMNOPQRSTUVWXYZ234567".toList, 5, 5⟩

/-- How many letters are a group. -/
def Alphabet.groupSize (a : Alphabet) : Nat :=
  8 * a.bytes / a.bits

/-- How many letters some bytes take, without the signs that fill their group. -/
def Alphabet.lettersFor (a : Alphabet) (bytes : Nat) : Nat :=
  (8 * bytes + a.bits - 1) / a.bits

/-- Bytes in letters. -/
def Alphabet.write (a : Alphabet) : (fuel : Nat) → List Nat → List Char
  | 0, _ => []
  | _ + 1, [] => []
  | fuel + 1, bs =>
    let group := bs.take a.bytes
    let n := (group ++ List.replicate (a.bytes - group.length) 0).foldl (fun n b => n * 256 + b) 0
    let size := a.groupSize
    let base := Nat.shiftLeft 1 a.bits
    let letter (k : Nat) : Char :=
      (a.letters[n / Nat.shiftLeft 1 (a.bits * (size - 1 - k)) % base]?).getD '='
    let used := a.lettersFor group.length
    (List.range size).map (fun k => if k < used then letter k else '=')
      ++ a.write fuel (bs.drop a.bytes)

/-- The bytes that the letters at the start of a group spell. -/
def Alphabet.bytesOf (a : Alphabet) (values : List Nat) : List Nat :=
  let bits := a.bits * a.groupSize
  let all := values ++ List.replicate (a.groupSize - values.length) 0
  let n := all.foldl (fun n v => n * Nat.shiftLeft 1 a.bits + v) 0
  (List.range (a.bits * values.length / 8)).map fun k =>
    n / Nat.shiftLeft 1 (bits - 8 * (k + 1)) % 256

/-- The bytes that letters spell, and whether all of them make sense. -/
def Alphabet.read (a : Alphabet) : (fuel : Nat) → List Char → List Nat × Bool
  | 0, _ => ([], true)
  | _ + 1, [] => ([], true)
  | fuel + 1, cs =>
    let group := cs.take a.groupSize
    let letters := group.takeWhile a.letters.contains
    let bytes := a.bytesOf (letters.map fun c => a.letters.idxOf c)
    let isFilled := (group.drop letters.length).all (· == '=')
    let isWhole := (List.range (a.bytes + 1)).any fun n =>
      0 < n && a.lettersFor n = letters.length
    if group.length = a.groupSize && isFilled && isWhole then
      let (more, isRight) := a.read fuel (cs.drop a.groupSize)
      (bytes ++ more, isRight)
    else (bytes, false)

/-- The options of the programs for bytes in letters. -/
def table : OptionTable :=
  ⟨"dw:i", [("decode", 'd'), ("wrap", 'w'), ("ignore-garbage", 'i')]⟩

/-- How long lines of letters are, zero if there is one only; or a complaint. -/
def widthIn (call : Call) : Except String Nat :=
  match call.value? 'w' with
  | none => .ok 76
  | some text =>
    match Amount.read "" 0 Amount.mostSigned text with
    | .ok n => .ok n.toNat
    | .error .noNumber => .error ("invalid wrap size: " ++ marked text)
    | .error _ => .ok 0

/-- Letters in lines of a width. -/
def wrapped (width : Nat) : (fuel : Nat) → List Char → List String
  | 0, _ => []
  | fuel + 1, cs =>
    if cs.isEmpty then []
    else String.ofList (cs.take width) :: wrapped width fuel (cs.drop width)

/-- Writes bytes in the letters of an alphabet, or reads them back. -/
def convert (a : Alphabet) (site : Site) (words : List String) (input : Source) : Outcome :=
  withCall site table 1 words fun call =>
    match widthIn call, call.operands with
    | .error text, _ => fails site text 1
    | _, _ :: word :: _ => misuse site ("extra operand " ++ marked word) 1
    | .ok width, names =>
      match readWord site input (names.headD "-") with
      | .error (.system .isDirectory) => fails site "read error: Is a directory" 1
      | .error fault => fails site (nameText (names.headD "-") ++ ": " ++ wordsOf fault) 1
      | .ok source =>
        let cs := source.text.toList
        if call.has 'd' then
          let letters := cs.filter fun c =>
            c != '\n' && (!call.has 'i' || c == '=' || a.letters.contains c)
          let (bytes, isRight) := a.read (letters.length + 1) letters
          let o := prints site (String.ofList (bytes.map Char.ofNat))
          if isRight then o else o.note (message site "invalid input") 1
        else
          let letters := a.write (cs.length + 1) (cs.map Char.toNat)
          if width = 0 then prints site (String.ofList letters)
          else prints site (unlines (wrapped width (letters.length + 1) letters))

end Encoding

/-- Writes bytes in 64 letters, or reads them back. -/
def base64 (site : Site) (words : List String) (input : Source) : Outcome :=
  Encoding.convert Encoding.sixBits site words input

/-- Writes bytes in 32 letters, or reads them back. -/
def base32 (site : Site) (words : List String) (input : Source) : Outcome :=
  Encoding.convert Encoding.fiveBits site words input

end SnippetForge.Shell.Utility
