import SnippetForge.Number.Binary
import SnippetForge.Shell.Utility.Amounts
import SnippetForge.Text.Hex

/-!
# Bytes by their numbers

The bytes of all files together are shown in blocks. Each format shows a block in a line of its own,
with one field for some bytes; the fields of all formats stand below each other. A block that is the
same as the one before is left out.
-/

namespace SnippetForge.Shell.Utility

namespace Dumping

/-! ### Fields -/

/-- Digits with zeros in front. -/
def paddedDigits (base width n : Nat) : String :=
  let digits := Nat.toDigits base n
  String.ofList (List.replicate (width - digits.length) '0' ++ digits)

/-- The number that some bytes make, the lowest one first. -/
def littleEndian (bytes : List Nat) : Nat :=
  bytes.reverse.foldl (fun n b => n * 256 + b) 0

/-- The number that some bytes make if the highest bit is a sign. -/
def signedNumber (bytes : List Nat) : Int :=
  let n := littleEndian bytes
  let limit := Nat.shiftLeft 1 (8 * bytes.length)
  if 2 * n < limit then n else (n : Int) - limit

/-- The names of the control characters and of the blank. -/
def controlNames : List String :=
  ["nul", "soh", "stx", "etx", "eot", "enq", "ack", "bel", "bs", "ht", "nl", "vt", "ff", "cr",
    "so", "si", "dle", "dc1", "dc2", "dc3", "dc4", "nak", "syn", "etb", "can", "em", "sub", "esc",
    "fs", "gs", "rs", "us", "sp"]

/-- Whether a byte is shown as it is. -/
def isPrintable (b : Nat) : Bool :=
  31 < b && b < 127

/-- A byte as a character or an escape. -/
def charText (b : Nat) : String :=
  if b = 0 then "\\0"
  else
    match controlLetters.lookup b with
    | some letter => String.ofList ['\\', letter]
    | none => if isPrintable b then String.singleton (Char.ofNat b) else paddedDigits 8 3 b

/-- A byte by its name. -/
def byteName (b : Nat) : String :=
  let n := b % 128
  if n = 127 then "del" else (controlNames[n]?).getD (String.singleton (Char.ofNat n))

/-- The number whose sign, exponent and mantissa some bits are, with how many bits the mantissa has
and how large exponents are. -/
def binaryOf (mantissaBits exponentBits n : Nat) : Binary :=
  let unit := Nat.shiftLeft 1 mantissaBits
  let top := Nat.shiftLeft 1 exponentBits
  let isNegative := n / (unit * top) % 2 = 1
  let exponent := n / unit % top
  let mantissa := n % unit
  let least : Int := 2 - (top / 2 : Nat) - mantissaBits
  if exponent + 1 = top then if mantissa = 0 then .infinite isNegative else .nan
  else if exponent = 0 then .finite isNegative mantissa least
  else .finite isNegative (mantissa + unit) (least + exponent - 1)

/-- A number with as few digits as tell it from others of its kind; `least` is the number of digits
that are tried first. -/
def shortestText (a : Binary) (least : Nat) : String :=
  let tells (digits : Nat) : Bool :=
    match a, Binary.ofText? (a.text digits) with
    | .finite _ m e, some (.finite _ m' e') =>
      let (num, den) := Binary.ratio m' e'
      Binary.inUnits num den e == m
    | _, _ => true
  a.text (((List.range 12).map (least + ·)).find? tells |>.getD 17)

/-- How some bytes are shown: how many make a field, how wide it is, its text, and whether the bytes
of a line are shown as characters too. -/
structure Format where
  size : Nat
  width : Nat
  shown : List Nat → String
  hasText : Bool

/-- What a letter shows numbers as. -/
inductive Numeral
  | signed
  | unsigned
  | octal
  | hex
  deriving DecidableEq, Repr

/-- The format for whole numbers of a size. -/
def Numeral.format (k : Numeral) (size : Nat) : Format :=
  let limit := Nat.shiftLeft 1 (8 * size)
  match k with
  | .hex =>
    ⟨size, 2 * size, fun bs => paddedDigits 16 (2 * size) (littleEndian bs), false⟩
  | .octal =>
    let width := (8 * size + 2) / 3
    ⟨size, width, fun bs => paddedDigits 8 width (littleEndian bs), false⟩
  | .unsigned =>
    ⟨size, (toString (limit - 1)).length, fun bs => toString (littleEndian bs), false⟩
  | .signed =>
    ⟨size, (toString (limit / 2)).length + 1, fun bs => toString (signedNumber bs), false⟩

/-- The format for numbers with a point. -/
def pointFormat (isLong : Bool) : Format :=
  if isLong then
    ⟨8, 24, fun bs => shortestText (binaryOf 52 11 (littleEndian bs)) 15, false⟩
  else ⟨4, 15, fun bs => shortestText (binaryOf 23 8 (littleEndian bs)) 6, false⟩

/-- The letters for whole numbers. -/
def numerals : List (Char × Numeral) :=
  [('d', .signed), ('u', .unsigned), ('o', .octal), ('x', .hex)]

/-- The letters for sizes. -/
def sizeNames : List (Char × Nat) :=
  [('C', 1), ('S', 2), ('I', 4), ('L', 8)]

/-- The format at the start of a text that spells some, and what follows it. -/
def readFormat (all : String) (cs : List Char) : Except String (Format × List Char) := do
  let invalid := "invalid type string " ++ marked all
  let noType (size : Nat) (kind : String) : String :=
    invalid ++ ";\nthis system doesn't provide a " ++ toString size ++ "-byte " ++ kind ++ " type"
  match cs with
  | [] => throw invalid
  | c :: rest =>
    let digits := rest.takeWhile Char.isDigit
    let afterDigits := rest.drop digits.length
    let size := Text.digitsValue digits
    let (format, after) : Format × List Char ←
      match numerals.lookup c with
      | some k =>
        match (rest.head?).bind fun s => sizeNames.lookup s with
        | some n => pure (k.format n, rest.drop 1)
        | none =>
          if digits.isEmpty then pure (k.format 4, rest)
          else if [1, 2, 4, 8].contains size then pure (k.format size, afterDigits)
          else throw (noType size "integral")
      | none =>
        if c = 'f' then
          if rest.head? = some 'F' then pure (pointFormat false, rest.drop 1)
          else if rest.head? = some 'D' then pure (pointFormat true, rest.drop 1)
          else if digits.isEmpty then pure (pointFormat true, rest)
          else if size = 4 || size = 8 then pure (pointFormat (size == 8), afterDigits)
          else throw (noType size "floating point")
        else if c = 'a' then pure (⟨1, 3, fun bs => byteName (bs.headD 0), false⟩, rest)
        else if c = 'c' then pure (⟨1, 3, fun bs => charText (bs.headD 0), false⟩, rest)
        else
          throw ("invalid character '" ++ String.singleton c ++ "' in type string " ++ marked all)
    if after.head? = some 'z' then return ({ format with hasText := true }, after.drop 1)
    else return (format, after)

/-- The formats that a text spells, or a complaint. -/
def readFormats (all : String) : (fuel : Nat) → List Char → Except String (List Format)
  | 0, _ => .ok []
  | _ + 1, [] => .ok []
  | fuel + 1, cs => do
    let (format, rest) ← readFormat all cs
    return format :: (← readFormats all fuel rest)

/-! ### Calls -/

/-- The options of `od`. Named options that have values are told apart from letters. -/
def table : OptionTable :=
  ⟨"A:aBbcDdeFfHhIij:LlN:OoS:st:vw::Xxε:τσ:ν:ω::Σ::",
    [("skip-bytes", 'σ'), ("address-radix", 'A'), ("read-bytes", 'ν'), ("format", 't'),
      ("output-duplicates", 'v'), ("strings", 'Σ'), ("traditional", 'τ'), ("width", 'ω'),
      ("endian", 'ε')]⟩

/-- The formats that letters stand for. -/
def plainFormats : List (Char × String) :=
  [('a', "a"), ('b', "o1"), ('c', "c"), ('D', "u4"), ('d', "u2"), ('e', "fD"), ('F', "fD"),
    ('f', "fF"), ('H', "x4"), ('X', "x4"), ('i', "dI"), ('I', "dL"), ('L', "dL"), ('l', "dL"),
    ('O', "o4"), ('B', "o2"), ('o', "o2"), ('s', "d2"), ('h', "x2"), ('x', "x2")]

/-- The formats that a call asks for, or a complaint. -/
def formatsIn (call : Call) : Except String (List Format) := do
  let spelled := call.options.filterMap fun o =>
    if o.1 = 't' then some o.2 else plainFormats.lookup o.1
  let formats ← spelled.mapM fun text => readFormats text (text.length + 1) text.toList
  match formats.flatten with
  | [] => return [Numeral.octal.format 2]
  | formats => return formats

/-- The letters for factors. -/
def factorLetters : String := "bEGKkMmPQRTYZ0"

/-- The number of bytes that a text spells, in any notation, or what is said about the text. -/
def readBytes (option text : String) : Except String Nat :=
  let cs := text.toList
  let isHex := cs.length > 2 && (cs.take 2 = ['0', 'x'] || cs.take 2 = ['0', 'X'])
  let isOctal := !isHex && cs.head? = some '0'
  let isDigit (c : Char) : Bool :=
    if isHex then (Text.hexValue? c).isSome
    else if isOctal then '0' ≤ c && c ≤ '7'
    else c.isDigit
  let base := if isHex then 16 else if isOctal then 8 else 10
  let cs := if isHex then cs.drop 2 else cs
  let digits := cs.takeWhile isDigit
  let value := digits.foldl (fun n c => n * base + (Text.hexValue? c).getD 0) 0
  let after := cs.drop digits.length
  let isLetter := (after.head?).any factorLetters.toList.contains
  if digits.isEmpty && !isLetter then
    .error ("invalid " ++ option ++ " argument " ++ inQuotes text)
  else
    match Amount.factor? factorLetters after with
    | some (factor, []) =>
      let n := (if digits.isEmpty then 1 else value) * factor
      if n ≤ Amount.mostUnsigned then .ok n
      else .error (option ++ " argument " ++ inQuotes text ++ " too large")
    | _ => .error ("invalid suffix in " ++ option ++ " argument " ++ inQuotes text)

/-- What a call asks for. -/
structure Rule where
  formats : List Format
  /-- The base of addresses and how many digits they have at least; none if they are not shown. -/
  radix : Option (Nat × Nat)
  skipped : Nat
  most : Option Nat
  /-- How many bytes are shown in a line. -/
  width : Nat
  showsAll : Bool
  isBigEndian : Bool
  /-- How long texts are at least, if only texts are shown. -/
  strings : Option Nat

/-- The common multiple of the sizes of formats, which are powers of two. -/
def Rule.unit (formats : List Format) : Nat :=
  formats.foldl (fun n f => max n f.size) 1

/-- The bases of addresses by their letters. -/
def radixes : List (Char × Option (Nat × Nat)) :=
  [('d', some (10, 7)), ('o', some (8, 7)), ('x', some (16, 6)), ('n', none)]

/-- The bytes that are passed over because of an old kind of operand, if a word is one. -/
def oldOffset? (word : String) : Option Nat :=
  let cs := word.toList
  let cs := if cs.head? = some '+' then cs.drop 1 else cs
  let digits := cs.takeWhile fun c => '0' ≤ c && c ≤ '7'
  let n := digits.foldl (fun n c => n * 8 + (c.toNat - 48)) 0
  match digits.isEmpty, cs.drop digits.length with
  | false, [] => some n
  | false, ['b'] => some (n * 512)
  | false, ['B'] => some (n * 1024)
  | _, _ => none

/-- The names of files in a call, and the bytes that are passed over by an old kind of operand. -/
def operandsIn (call : Call) : List String × Option Nat :=
  let isModern := call.hasAny "AjNtvwSσνωΣ"
  let starts (word : String) (f : Char → Bool) : Bool := (word.toList.head?).any f
  match isModern, call.operands with
  | false, [word] =>
    match oldOffset? word with
    | some n => if starts word (· == '+') then ([], some n) else ([word], none)
    | none => ([word], none)
  | false, [name, word] =>
    match oldOffset? word with
    | some n =>
      if starts word fun c => c == '+' || c.isDigit then ([name], some n) else ([name, word], none)
    | none => ([name, word], none)
  | _, names => (names, none)

/-- Reads what a call asks for, with a warning; or a complaint, which may point to the help. -/
def ruleOf (call : Call) : Except (String × Bool) (Rule × Option String) := do
  let plain {α : Type} (r : Except String α) : Except (String × Bool) α :=
    r.mapError fun text => (text, false)
  let bytes (c named : Char) (option name : String) : Except (String × Bool) (Option Nat) :=
    match call.options.reverse.find? fun o => o.1 == c || o.1 == named with
    | some o =>
      plain ((readBytes (if o.1 = c then option else name) o.2).map some)
    | none => .ok none
  let skipped ← bytes 'j' 'σ' "-j" "--skip-bytes"
  let most ← bytes 'N' 'ν' "-N" "--read-bytes"
  let strings ←
    match call.value? 'Σ' with
    | some "" => .ok (some 3)
    | _ => bytes 'S' 'Σ' "-S" "--strings"
  let formats ← plain (formatsIn call)
  let letter := (((call.value? 'A').getD "o").toList.head?).getD (Char.ofNat 0)
  let radix ←
    match radixes.lookup letter with
    | some radix => pure radix
    | none =>
      throw ("invalid output address radix '" ++ String.singleton letter
        ++ "'; it must be one character from [doxn]", false)
  let endians : Choices Bool := [(["little"], false), (["big"], true)]
  let isBigEndian ← ((call.value? 'ε').map (endians.read "--endian")).getD (.ok false)
    |>.mapError fun text => (text, true)
  let unit := Rule.unit formats
  let usual := if unit < 16 then unit * (16 / unit) else unit
  let wanted ←
    match call.options.reverse.find? fun o => o.1 == 'w' || o.1 == 'ω' with
    | some (_, "") => pure (some 32)
    | some (c, text) =>
      let option := if c = 'w' then "-w" else "--width"
      match Amount.read "" 0 Amount.mostUnsigned text with
      | .ok n => pure (some n.toNat)
      | .error .noNumber => throw ("invalid " ++ option ++ " argument " ++ inQuotes text, false)
      | .error _ => throw (option ++ " argument " ++ inQuotes text ++ " too large", false)
    | none => pure none
  let isFit (n : Nat) : Bool := 0 < n && n % unit = 0
  let warning := wanted.bind fun n =>
    if isFit n then none
    else
      some ("warning: invalid width " ++ toString n ++ "; using " ++ toString unit ++ " instead")
  let width := match wanted with
    | some n => if isFit n then n else unit
    | none => usual
  let (_, old) := operandsIn call
  let rule : Rule :=
    ⟨formats, radix, old.getD (skipped.getD 0), most, width, call.has 'v', isBigEndian, strings⟩
  return (rule, warning)

/-! ### Lines -/

/-- Some numbers in pieces of a size. -/
def pieces (size : Nat) : (fuel : Nat) → List Nat → List (List Nat)
  | 0, _ => []
  | fuel + 1, bs => if bs.isEmpty then [] else bs.take size :: pieces size fuel (bs.drop size)

/-- The text of an address. -/
def Rule.address (r : Rule) (n : Nat) : String :=
  match r.radix with
  | some (base, width) => paddedDigits base width n
  | none => ""

/-- How wide the fields of a line are together. -/
def Rule.lineWidth (r : Rule) : Nat :=
  r.formats.foldl (fun n f => max n ((f.width + 1) * (r.width / f.size))) 0

/-- The fields of a format for some bytes. What is missing to the width of all lines stands between
the fields. -/
def Rule.fields (r : Rule) (f : Format) (bs : List Nat) : String :=
  let count := r.width / f.size
  let pad := r.lineWidth - f.width * count
  let blank := (r.width - bs.length) / f.size
  let padBefore (left : Nat) : Nat := pad * left / count
  let field (i : Nat) : String :=
    let part := (bs.drop (i * f.size)).take f.size
    let part := part ++ List.replicate (f.size - part.length) 0
    let part := if r.isBigEndian then part.reverse else part
    padLeft (padBefore (count - i) - padBefore (count - i - 1) + f.width) (f.shown part)
  let text := String.join ((List.range (count - blank)).map field)
  if f.hasText then
    let printable := bs.map fun b => if isPrintable b then Char.ofNat b else '.'
    let gap := String.ofList (List.replicate (blank * f.width + pad * blank / count) ' ')
    text ++ gap ++ "  >" ++ String.ofList printable ++ "<"
  else text

/-- The lines for the bytes at an address. -/
def Rule.lines (r : Rule) (address : Nat) (bs : List Nat) : String :=
  let front := r.address address
  let blank := String.ofList (List.replicate front.length ' ')
  let lines := r.formats.map fun f => r.fields f bs
  String.join ((lines.zip (List.range lines.length)).map fun e =>
    (if e.2 = 0 then front else blank) ++ e.1 ++ "\n")

/-- How far a dump has come. -/
structure Progress where
  /-- How many bytes are still to be passed over. -/
  skip : Nat
  /-- How many bytes are still to be shown, if that is bounded. -/
  left : Option Nat
  address : Nat
  /-- The bytes of the block that is being filled. -/
  held : List Nat
  /-- The last block, and whether it has been repeated. -/
  last : Option (List Nat)
  isRepeating : Bool

/-- Shows a full block. -/
def Rule.block (r : Rule) (p : Progress) (bs : List Nat) : Progress × String :=
  let next := { p with address := p.address + bs.length }
  if !r.showsAll && p.last = some bs then
    ({ next with isRepeating := true }, if p.isRepeating then "" else "*\n")
  else ({ next with last := some bs, isRepeating := false }, r.lines p.address bs)

/-- Shows the bytes of one more file as far as they fill blocks. -/
def Rule.take (r : Rule) (p : Progress) (bytes : List Nat) : Progress × String :=
  let skipped := min p.skip bytes.length
  let bytes := bytes.drop skipped
  let taken := match p.left with
    | some n => bytes.take n
    | none => bytes
  let all := p.held ++ taken
  let full := all.length / r.width * r.width
  let start : Progress × List String :=
    ({ p with
        skip := p.skip - skipped, left := p.left.map (· - taken.length),
        address := p.address + skipped }, [])
  let step (s : Progress × List String) (bs : List Nat) : Progress × List String :=
    let (p, out) := r.block s.1 bs
    (p, out :: s.2)
  let (p, outs) := (pieces r.width (full + 1) (all.take full)).foldl step start
  ({ p with held := all.drop full }, String.join outs.reverse)

/-- The end of a dump: the block that is not full, and the last address. -/
def Rule.finish (r : Rule) (p : Progress) : String :=
  let partLines := if p.held.isEmpty then "" else r.lines p.address p.held
  let final := r.address (p.address + p.held.length)
  partLines ++ (if final = "" then "" else final ++ "\n")

/-- The texts among some bytes that are long enough and end with a null byte. -/
def Rule.texts (r : Rule) (least : Nat) : (address : Nat) → (run : List Nat) → List Nat →
    String
  | _, _, [] => ""
  | address, run, b :: rest =>
    if isPrintable b then r.texts least (address + 1) (b :: run) rest
    else
      let front := r.address (address - run.length)
      let text := String.ofList (run.reverse.map Char.ofNat)
      (if b = 0 && least ≤ run.length then
          front ++ (if front = "" then "" else " ") ++ text ++ "\n" else "")
        ++ r.texts least (address + 1) [] rest

/-- The bytes of a source, of which no more than some are needed. -/
def bytesOf (needed : Option Nat) (source : Source) : List Nat :=
  match source, needed with
  | .zeros, n => List.replicate (n.getD 0) 0
  | source, _ => source.content.toList.map (·.toNat)

/-- Shows the bytes of files. -/
def Rule.dump (r : Rule) (site : Site) (input : Source) (names : List String) (o : Outcome) :
    Outcome :=
  let step (s : Outcome × Progress × Bool) (name : String) : Outcome × Progress × Bool :=
    let (o, p, isOpen) := s
    if isOpen && p.left = some 0 then s
    else
      match readWord site input name with
      | .error fault => (o.note (message site (nameText name ++ ": " ++ wordsOf fault)) 1, p,
          isOpen || fault = .system .isDirectory)
      | .ok source =>
        let bytes := bytesOf (p.left.map (· + p.skip)) source
        let (p, out) := r.take p bytes
        (o.write out, p, true)
  let start : Progress := ⟨r.skipped, r.most, 0, [], none, false⟩
  let (o, p, isOpen) := names.foldl step (o, start, false)
  if !isOpen then o
  else if 0 < p.skip then o.note (message site "cannot skip past end of combined input") 1
  else o.write (r.finish p)

/-- Shows the texts in files. -/
def Rule.dumpTexts (r : Rule) (site : Site) (input : Source) (least : Nat) (names : List String)
    (o : Outcome) : Outcome :=
  let read := names.map fun name => (name, readWord site input name)
  let o := read.foldl (fun o e =>
    match e.2 with
    | .ok _ => o
    | .error fault => o.note (message site (nameText e.1 ++ ": " ++ wordsOf fault)) 1) o
  let all := read.flatMap fun e =>
    match e.2 with
    | .ok source => bytesOf r.most source
    | .error _ => []
  let bytes := match r.most with
    | some n => (all.drop r.skipped).take n
    | none => all.drop r.skipped
  o.write (r.texts least r.skipped [] bytes)

end Dumping

open Dumping in
/-- Shows the bytes of all files together by their numbers. -/
def od (site : Site) (words : List String) (input : Source) : Outcome :=
  withCall site Dumping.table 1 words fun call =>
    match ruleOf call with
    | .error (text, isMisuse) => if isMisuse then misuse site text 1 else fails site text 1
    | .ok (rule, warning) =>
      let o := warning.toList.foldl (fun o text => o.note (message site text) 0)
        (Outcome.nothing site)
      let names := orInput (operandsIn call).1
      match rule.strings with
      | some least => rule.dumpTexts site input least names o
      | none => rule.dump site input names o

end SnippetForge.Shell.Utility
