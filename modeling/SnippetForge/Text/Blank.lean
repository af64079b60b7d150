/-!
# Blank characters, trimming and lines

Blank means the Unicode property `White_Space`, twenty-five characters in all. Trimming and the
test "nothing but blanks" use this one class, so a text is blank exactly when trimming leaves
nothing of it.

A line ends at a line feed. A carriage return directly before that line feed belongs to the line
ending; anywhere else it is an ordinary character of the line. A last line without an ending
counts if it is not empty.

Every function is defined on lists of characters, where the laws are stated, and lifted to
`String`.
-/

namespace SnippetForge.Text

/-! ### Blank characters -/

/-- The Unicode property `White_Space`. -/
def isBlank (c : Char) : Bool :=
  let n := c.toNat
  (0x09 ≤ n && n ≤ 0x0D) || n == 0x20 || n == 0x85 || n == 0xA0 || n == 0x1680
    || (0x2000 ≤ n && n ≤ 0x200A) || n == 0x2028 || n == 0x2029 || n == 0x202F || n == 0x205F
    || n == 0x3000

theorem isBlank_of_isWhitespace {c : Char} (h : c.isWhitespace = true) : isBlank c = true := by
  simp only [Char.isWhitespace, Bool.or_eq_true, decide_eq_true_eq] at h
  rcases h with ((rfl | rfl) | rfl) | rfl <;> decide

/-- Whether nothing but blanks is there. -/
def allBlank (cs : List Char) : Bool :=
  cs.all isBlank

/-- Whether a text holds nothing but blanks. -/
def isBlankText (s : String) : Bool :=
  allBlank s.toList

/-! ### Trimming -/

/-- The characters without the blanks they end with. -/
def dropTrailingBlanks (cs : List Char) : List Char :=
  (cs.reverse.dropWhile isBlank).reverse

/-- The characters without the blanks they start or end with. -/
def trimChars (cs : List Char) : List Char :=
  dropTrailingBlanks (cs.dropWhile isBlank)

/-- A text without the blanks it starts or ends with. -/
def trim (s : String) : String :=
  String.ofList (trimChars s.toList)

@[simp]
theorem toList_trim (s : String) : (trim s).toList = trimChars s.toList := by
  simp [trim]

@[simp]
theorem trimChars_nil : trimChars [] = [] := rfl

/-! ### Lines -/

/-- Removes the carriage return that ends a line, if there is one. -/
def dropCarriageReturn (reversedLine : List Char) : List Char :=
  match reversedLine with
  | '\r' :: rest => rest
  | line => line

/-- Cuts characters into lines. `line` holds the current line and `done` the finished ones, both
last first. -/
def cutLines : List Char → (line : List Char) → (done : List (List Char)) → List (List Char)
  | [], [], done => done.reverse
  | [], line, done => (line.reverse :: done).reverse
  | c :: rest, line, done =>
    if c = '\n' then cutLines rest [] ((dropCarriageReturn line).reverse :: done)
    else cutLines rest (c :: line) done

/-- The lines of a list of characters. -/
def lineChars (cs : List Char) : List (List Char) :=
  cutLines cs [] []

/-- The lines of a text. -/
def lines (s : String) : List String :=
  (lineChars s.toList).map String.ofList

@[simp]
theorem lineChars_nil : lineChars [] = [] := rfl

end SnippetForge.Text
