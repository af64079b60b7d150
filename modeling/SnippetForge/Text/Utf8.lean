/-!
# Where bytes stop being text

UTF-8 writes a character as a leading byte and up to three bytes that continue it. The leading
byte tells how many continue, and for some of them the first continuing byte has a narrower range:
so every character has one form, and surrogates and numbers past the last character have none.

`Utf8.fault?` finds the first place where bytes break this form. A fault is either a sequence that
no continuation could complete, with the number of its bytes that were in order, or a sequence
that the bytes end in the middle of.
-/

namespace SnippetForge.Text.Utf8

/-- How bytes fail to be text. -/
inductive Fault
  /-- A sequence of some bytes at an index cannot be completed. -/
  | invalid (length index : Nat)
  /-- The bytes end inside the sequence at an index. -/
  | incomplete (index : Nat)
  deriving DecidableEq, Repr

/-- The description of a fault. -/
def Fault.message : Fault → String
  | .invalid length index =>
    "invalid utf-8 sequence of " ++ toString length ++ " bytes from index " ++ toString index
  | .incomplete index => "incomplete utf-8 byte sequence from index " ++ toString index

/-- What may still follow inside a character: how many bytes, and the range of the next one. -/
structure Owed where
  count : Nat
  low : UInt8
  high : UInt8
  deriving DecidableEq, Repr

namespace Owed

/-- Nothing: the character is whole. -/
def nothing : Owed := ⟨0, 0x80, 0xBF⟩

/-- Some bytes without a narrower range. -/
def tails (count : Nat) : Owed := ⟨count, 0x80, 0xBF⟩

/-- What a leading byte owes; none if the byte leads no character. -/
def ofLead? (b : UInt8) : Option Owed :=
  if b ≤ 0x7F then some nothing
  else if b < 0xC2 then none
  else if b ≤ 0xDF then some (tails 1)
  else if b = 0xE0 then some ⟨2, 0xA0, 0xBF⟩
  else if b = 0xED then some ⟨2, 0x80, 0x9F⟩
  else if b ≤ 0xEF then some (tails 2)
  else if b = 0xF0 then some ⟨3, 0x90, 0xBF⟩
  else if b ≤ 0xF3 then some (tails 3)
  else if b = 0xF4 then some ⟨3, 0x80, 0x8F⟩
  else none

end Owed

/-- The first fault in the bytes that are left. The current character starts at `start`, `seen` of
its bytes have been read, and `owed` is what it still needs. -/
def findFault? : List UInt8 → (start seen : Nat) → (owed : Owed) → Option Fault
  | [], start, _, owed => if owed.count = 0 then none else some (.incomplete start)
  | b :: rest, start, seen, owed =>
    if owed.count = 0 then
      match Owed.ofLead? b with
      | some next => findFault? rest (start + seen) 1 next
      | none => some (.invalid 1 (start + seen))
    else if owed.low ≤ b ∧ b ≤ owed.high then
      findFault? rest start (seen + 1) (.tails (owed.count - 1))
    else some (.invalid seen start)

/-- The first place where bytes stop being text. -/
def fault? (bytes : ByteArray) : Option Fault :=
  findFault? bytes.toList 0 0 .nothing

/-! ### The first characters beyond each rule -/

example : fault? ⟨#[0x61, 0xC3, 0xA9]⟩ = none := by decide +kernel
example : fault? ⟨#[0x61, 0xED, 0xA0, 0x80]⟩ = some (.invalid 1 1) := by decide +kernel
example : fault? ⟨#[0xE2, 0x82, 0x28]⟩ = some (.invalid 2 0) := by decide +kernel
example : fault? ⟨#[0x61, 0xF0, 0x9F, 0x98]⟩ = some (.incomplete 1) := by decide +kernel

end SnippetForge.Text.Utf8
