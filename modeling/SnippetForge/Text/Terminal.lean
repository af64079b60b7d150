import SnippetForge.Text.Hex

/-!
# Text that a terminal only shows

Some control characters steer a terminal instead of being shown: the escape and the bell, the
backspace, the form feed, the delete and the upper row of controls. What others have written may
hold them, so a log shows them by their number. Tabs and line ends are left as they are.
-/

namespace SnippetForge.Text

/-- Whether a character steers a terminal. -/
def steersTerminal (c : Char) : Bool :=
  let n := c.toNat
  n == 0x1B || n == 0x07 || n == 0x08 || n == 0x0C || n == 0x7F || (0x80 ≤ n && n ≤ 0x9F)

/-- The number that stands for a character: two digits for the lower controls, braces for the
upper ones. -/
def controlNumber (c : Char) : List Char :=
  let digits := [hexDigit (c.toNat / 16), hexDigit (c.toNat % 16)]
  if c.toNat < 0x80 then ['\\', 'x'] ++ digits else ['\\', 'u', '\x7b'] ++ digits ++ ['\x7d']

/-- A text whose characters are all only shown. -/
def inert (s : String) : String :=
  String.ofList (s.toList.flatMap fun c => if steersTerminal c then controlNumber c else [c])

end SnippetForge.Text
