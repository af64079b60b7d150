/-!
# Bytes as characters

Scripts and the programs of a system work on bytes and do not ask what text the bytes encode. A
string of octets holds each byte as the character of the same number, so the operations on text
work on it byte by byte. Text becomes octets where it enters that world, and octets become bytes or
text again where they leave it.
-/

namespace SnippetForge.Text

/-- The octets of some bytes. -/
def octets (bytes : ByteArray) : String :=
  String.ofList (bytes.toList.map fun b => Char.ofNat b.toNat)

/-- The bytes of a string of octets. -/
def octetBytes (s : String) : ByteArray :=
  ⟨(s.toList.map fun c => UInt8.ofNat c.toNat).toArray⟩

/-- The octets that encode a text. -/
def encoded (text : String) : String :=
  octets text.toUTF8

/-- The text that some octets encode. Octets that encode none are taken for a text themselves. -/
def decoded (s : String) : String :=
  (String.fromUTF8? (octetBytes s)).getD s

end SnippetForge.Text
