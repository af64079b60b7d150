import Mathlib
import SnippetForge.Json.Record

/-!
# The grammar of JSON

Which characters spell which value. The grammar knows no reader: it has a rule for each form that a
value can take, and white space is free wherever the format allows it, in front of a value and
before every comma, colon and closing mark. A value has many spellings, and `Written` says only that
some characters are one of them.

Strings are spelled in pieces, so that two halves of a pair of surrogates are two pieces of one
character. Numbers are their own digits.
-/

namespace SnippetForge.Json

/-- Nothing but white space. -/
def IsGap (cs : List Char) : Prop :=
  ∀ c ∈ cs, isSpace c = true

lemma IsGap.nil : IsGap [] := by
  simp [IsGap]

/-! ### Strings -/

/-- Characters, up to the closing quote, spell the pieces of a string. -/
inductive WrittenPieces : List Piece → List Char → Prop
  | close : WrittenPieces [] ['"']
  /-- A character stands for itself. -/
  | plain {c : Char} {pieces : List Piece} {cs : List Char} (quote : c ≠ '"') (slash : c ≠ '\\')
      (visible : 0x20 ≤ c.toNat) (rest : WrittenPieces pieces cs) :
      WrittenPieces (.char c :: pieces) (c :: cs)
  /-- A character is escaped by a letter. -/
  | letter {e c : Char} {pieces : List Piece} {cs : List Char} (escape : escaped? e = some c)
      (rest : WrittenPieces pieces cs) : WrittenPieces (.char c :: pieces) ('\\' :: e :: cs)
  /-- A unit is escaped by its four digits. -/
  | unit {a b c d : Char} {n : Nat} {pieces : List Piece} {cs : List Char}
      (digits : unit? a b c d = some n) (rest : WrittenPieces pieces cs) :
      WrittenPieces (.unit n :: pieces) ('\\' :: 'u' :: a :: b :: c :: d :: cs)

/-! ### Numbers -/

/-- At least one digit, and nothing else. -/
def AreDigits (cs : List Char) : Prop :=
  cs ≠ [] ∧ ∀ c ∈ cs, c.isDigit = true

/-- The whole part of a number: a zero, or digits that do not start with one. -/
inductive IsWhole : List Char → Prop
  | zero : IsWhole ['0']
  | digits {c : Char} {cs : List Char} (leading : c ≠ '0') (all : AreDigits (c :: cs)) :
      IsWhole (c :: cs)

/-- The fraction of a number, if it has one. -/
inductive IsFraction : List Char → Prop
  | none : IsFraction []
  | digits {cs : List Char} (all : AreDigits cs) : IsFraction ('.' :: cs)

/-- The exponent of a number, if it has one. -/
inductive IsExponent : List Char → Prop
  | none : IsExponent []
  | plain {e : Char} {cs : List Char} (mark : e = 'e' ∨ e = 'E') (all : AreDigits cs) :
      IsExponent (e :: cs)
  | signed {e sign : Char} {cs : List Char} (mark : e = 'e' ∨ e = 'E')
      (direction : sign = '+' ∨ sign = '-') (all : AreDigits cs) : IsExponent (e :: sign :: cs)

/-- A number. -/
inductive IsNumber : List Char → Prop
  | positive {whole fraction exponent : List Char} (hwhole : IsWhole whole)
      (hfraction : IsFraction fraction) (hexponent : IsExponent exponent) :
      IsNumber (whole ++ fraction ++ exponent)
  | negative {whole fraction exponent : List Char} (hwhole : IsWhole whole)
      (hfraction : IsFraction fraction) (hexponent : IsExponent exponent) :
      IsNumber ('-' :: (whole ++ fraction ++ exponent))

/-! ### Values -/

mutual

/-- Characters spell a value, with white space in front of it. -/
inductive Written : Json → List Char → Prop
  | gap {v : Json} {c : Char} {cs : List Char} (space : isSpace c = true) (rest : Written v cs) :
      Written v (c :: cs)
  | null : Written .null ['n', 'u', 'l', 'l']
  | yes : Written (.bool true) ['t', 'r', 'u', 'e']
  | no : Written (.bool false) ['f', 'a', 'l', 's', 'e']
  | number {digits : String} (h : IsNumber digits.toList) :
      Written (.number digits) digits.toList
  | string {pieces : List Piece} {cs : List Char} (h : WrittenPieces pieces cs) :
      Written (.string (literalOf pieces)) ('"' :: cs)
  | noItems {ws : List Char} (gap : IsGap ws) : Written (.array []) ('[' :: (ws ++ [']']))
  | array {items : List Json} {cs : List Char} (h : WrittenItems items cs) :
      Written (.array items) ('[' :: cs)
  | noMembers {ws : List Char} (gap : IsGap ws) :
      Written (.object []) ('\x7b' :: (ws ++ ['\x7d']))
  | object {members : List (Literal × Json)} {cs : List Char} (h : WrittenMembers members cs) :
      Written (.object members) ('\x7b' :: cs)

/-- Characters spell the items of an array up to its closing bracket, at least one of them. -/
inductive WrittenItems : List Json → List Char → Prop
  | last {v : Json} {cs ws : List Char} (h : Written v cs) (gap : IsGap ws) :
      WrittenItems [v] (cs ++ (ws ++ [']']))
  | next {v : Json} {cs ws : List Char} {items : List Json} {rest : List Char} (h : Written v cs)
      (gap : IsGap ws) (more : WrittenItems items rest) :
      WrittenItems (v :: items) (cs ++ (ws ++ ',' :: rest))

/-- Characters spell the members of an object up to its closing brace, at least one of them. -/
inductive WrittenMembers : List (Literal × Json) → List Char → Prop
  | last {pieces : List Piece} {v : Json} {front key back cs ws : List Char} (before : IsGap front)
      (name : WrittenPieces pieces key) (after : IsGap back) (h : Written v cs) (gap : IsGap ws) :
      WrittenMembers [(literalOf pieces, v)]
        (front ++ '"' :: (key ++ (back ++ ':' :: (cs ++ (ws ++ ['\x7d'])))))
  | next {pieces : List Piece} {v : Json} {front key back cs ws : List Char}
      {members : List (Literal × Json)} {rest : List Char} (before : IsGap front)
      (name : WrittenPieces pieces key) (after : IsGap back) (h : Written v cs) (gap : IsGap ws)
      (more : WrittenMembers members rest) :
      WrittenMembers ((literalOf pieces, v) :: members)
        (front ++ '"' :: (key ++ (back ++ ':' :: (cs ++ (ws ++ ',' :: rest)))))

end

/-- White space in front of a value belongs to it. -/
lemma Written.of_gap {v : Json} {ws cs : List Char} (gap : IsGap ws) (h : Written v cs) :
    Written v (ws ++ cs) := by
  induction ws with
  | nil => exact h
  | cons c ws ih =>
    have hrest : IsGap ws := fun c' hc' => gap c' (List.mem_cons_of_mem _ hc')
    exact .gap (gap c List.mem_cons_self) (ih hrest)

/-- White space in front of the first item belongs to it. -/
lemma WrittenItems.of_gap {items : List Json} {ws cs : List Char} (gap : IsGap ws)
    (h : WrittenItems items cs) : WrittenItems items (ws ++ cs) := by
  cases h with
  | last hv hws =>
    rw [← List.append_assoc]
    exact .last (hv.of_gap gap) hws
  | next hv hws more =>
    rw [← List.append_assoc]
    exact .next (hv.of_gap gap) hws more

/-- White space in front of the first member belongs to it. -/
lemma WrittenMembers.of_gap {members : List (Literal × Json)} {ws cs : List Char}
    (gap : IsGap ws) (h : WrittenMembers members cs) : WrittenMembers members (ws ++ cs) := by
  have hboth : ∀ {front : List Char}, IsGap front → IsGap (ws ++ front) := by
    intro front hfront c hc
    rcases List.mem_append.mp hc with hc | hc
    · exact gap c hc
    · exact hfront c hc
  cases h with
  | last before name after hv hws =>
    rw [← List.append_assoc]
    exact .last (hboth before) name after hv hws
  | next before name after hv hws more =>
    rw [← List.append_assoc]
    exact .next (hboth before) name after hv hws more

end SnippetForge.Json
