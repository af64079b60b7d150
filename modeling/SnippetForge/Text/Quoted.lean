import SnippetForge.Text.Escapes
import SnippetForge.Text.Hex

/-!
# Quoted text

A text in double quotes, as messages and settings show it. The quote and the backslash are
escaped by a backslash, the four common controls have letters of their own, and a character
without a visible sign is written by its number. Everything else stands for itself.
-/

namespace SnippetForge.Text

/-- How one character stands inside quotes. -/
def quotedChar (c : Char) : List Char :=
  if c = '"' then ['\\', '"']
  else if c = '\\' then ['\\', '\\']
  else if c = '\t' then ['\\', 't']
  else if c = '\r' then ['\\', 'r']
  else if c = '\n' then ['\\', 'n']
  else if c = Char.ofNat 0 then ['\\', '0']
  else if isInvisible c then
    ['\\', 'u', '\x7b'] ++ hexDigits c.toNat ++ ['\x7d']
  else [c]

/-- A text between double quotes. -/
def quoted (s : String) : String :=
  String.ofList (['"'] ++ s.toList.flatMap quotedChar ++ ['"'])

end SnippetForge.Text
