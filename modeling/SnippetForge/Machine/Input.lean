import SnippetForge.Machine.Control

/-!
# Reading

What a process can read from a descriptor: bytes that are there, with or without more to come, or
zeros without end. Reading takes bytes away for everyone who shares the descriptor.
-/

namespace SnippetForge

/-- Bytes to read, or zeros without end. -/
inductive Source
  | bytes (content : ByteArray)
  | zeros
  deriving DecidableEq

namespace Source

/-- The bytes of a source; those of an endless one are not counted. -/
def content : Source → ByteArray
  | .bytes content => content
  | .zeros => ByteArray.empty

/-- The first bytes of a source. -/
def first (n : Nat) : Source → ByteArray
  | .bytes content => content.extract 0 n
  | .zeros => ⟨Array.replicate n 0⟩

/-- Nothing to read. -/
def none : Source :=
  .bytes ByteArray.empty

/-- The octets of a source. -/
def text (s : Source) : String :=
  Text.octets s.content

end Source

/-- What can be read from a descriptor at some moment. -/
structure Supply where
  source : Source
  /-- Whether nothing more will come. -/
  isWhole : Bool
  /-- How large the file is that is read, if it is a file. -/
  fileSize : Option Nat

namespace Machine

/-- What can be read from where a descriptor leads. -/
def supplyOf (m : Machine) : Option Handle → Supply
  | some (.reading id) =>
    ⟨.bytes (m.buffered id), m.isDrained id, none⟩
  | some (.file id) =>
    match m.file? id with
    | some f =>
      let content := m.contentOf f
      if f.isReadable then
        ⟨.bytes (content.extract f.offset content.size), true, some content.size⟩
      else ⟨.none, true, none⟩
    | none => ⟨.none, true, none⟩
  | some (.device .zero) => ⟨.zeros, true, none⟩
  | some (.device .full) => ⟨.zeros, true, none⟩
  | _ => ⟨.none, true, none⟩

/-- What a process can use of its input: what it has read before, and what it can read. -/
def supply (m : Machine) (p : Process) : Supply :=
  let supply := m.supplyOf (handleOf p 0)
  match supply.source with
  | .bytes content => { supply with source := .bytes (p.held ++ content) }
  | .zeros => supply

/-- Takes bytes away from where a descriptor leads. -/
def take (m : Machine) (h : Option Handle) (n : Nat) : Machine :=
  match h with
  | some (.reading id) =>
    m.changePipe id fun p => { p with buffer := p.buffer.extract n p.buffer.size }
  | some (.file id) =>
    match m.file? id with
    | some f => m.seek id (f.offset + n)
    | none => m
  | _ => m

/-- Takes bytes away from what a process can use of its input. -/
def use (m : Machine) (p : Process) (n : Nat) : Machine × Process :=
  (m.take (handleOf p 0) (n - p.held.size), { p with held := p.held.extract n p.held.size })

/-- A process that has read all that there is. -/
def hold (m : Machine) (p : Process) : Machine × Process :=
  let bytes := (m.supplyOf (handleOf p 0)).source.content
  (m.take (handleOf p 0) bytes.size, { p with held := p.held ++ bytes })

/-- The place of the first line end in some bytes from a place on. -/
def lineEnd? (bytes : ByteArray) : (fuel : Nat) → (start : Nat) → Option Nat
  | 0, _ => none
  | fuel + 1, start =>
    if start < bytes.size then
      if bytes.get! start = 10 then some start else lineEnd? bytes fuel (start + 1)
    else none

end Machine

end SnippetForge
