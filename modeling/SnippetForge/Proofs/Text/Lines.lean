import Mathlib
import SnippetForge.Text.Blank

/-!
# Lines and blanks

Cutting a text into lines goes on where it stands: after characters that are empty or end with a
line feed, the lines of what follows are cut as if nothing had been there. So a line stands apart
from the lines around it, whatever these hold.

A carriage return is a blank, so neither trimming a line nor asking whether it is blank depends on
whether its ending had one.
-/

namespace SnippetForge.Text

/-! ### Cutting -/

/-- Whether characters are empty or end with a line feed. -/
def EndsLine (cs : List Char) : Prop :=
  cs = [] ∨ ∃ front, cs = front ++ ['\n']

/-- A line without the carriage return that may end it. -/
def withoutReturn (line : List Char) : List Char :=
  (dropCarriageReturn line.reverse).reverse

/-- The finished lines only stand in front of the others. -/
lemma cutLines_done (cs line : List Char) (done : List (List Char)) :
    cutLines cs line done = done.reverse ++ cutLines cs line [] := by
  induction cs generalizing line done with
  | nil => cases line <;> simp [cutLines]
  | cons c cs ih =>
    by_cases hc : c = '\n'
    · have hrest := ih [] ((dropCarriageReturn line).reverse :: done)
      have hone := ih [] [(dropCarriageReturn line).reverse]
      simp [cutLines, hc, hrest, hone]
    · simp only [cutLines, hc, if_false]
      exact ih (c :: line) done

/-- A line feed ends the current line. -/
lemma cutLines_newline (cs line : List Char) :
    cutLines ('\n' :: cs) line [] = withoutReturn line.reverse :: lineChars cs := by
  rw [cutLines, if_pos rfl, cutLines_done, withoutReturn, List.reverse_reverse]
  rfl

/-- After a line feed the cutting starts anew. -/
lemma cutLines_append (front rest line : List Char) :
    cutLines (front ++ '\n' :: rest) line []
      = cutLines (front ++ ['\n']) line [] ++ lineChars rest := by
  induction front generalizing line with
  | nil =>
    rw [List.nil_append, List.nil_append, cutLines_newline, cutLines_newline]
    rfl
  | cons c front ih =>
    by_cases hc : c = '\n'
    · rw [List.cons_append, List.cons_append, hc, cutLines_newline, cutLines_newline]
      exact congrArg (withoutReturn line.reverse :: ·) (ih [])
    · simp only [List.cons_append, cutLines, hc, if_false]
      exact ih (c :: line)

/-- The lines of a text that follows on ended lines are lines of their own. -/
lemma lineChars_append {front : List Char} (h : EndsLine front) (rest : List Char) :
    lineChars (front ++ rest) = lineChars front ++ lineChars rest := by
  rcases h with rfl | ⟨front, rfl⟩
  · rfl
  · rw [List.append_assoc, List.singleton_append]
    exact cutLines_append front rest []

/-- Characters without a line feed go on with the current line. -/
lemma cutLines_line {cs : List Char} (h : '\n' ∉ cs) (rest seen : List Char) :
    cutLines (cs ++ '\n' :: rest) seen []
      = withoutReturn (seen.reverse ++ cs) :: lineChars rest := by
  induction cs generalizing seen with
  | nil => rw [List.nil_append, cutLines_newline, List.append_nil]
  | cons c cs ih =>
    rw [List.mem_cons, not_or] at h
    rw [List.cons_append, cutLines, if_neg (Ne.symm h.1), ih h.2 (c :: seen)]
    simp

/-- Characters without a line feed make one line, up to the line feed that follows. -/
lemma lineChars_line {line : List Char} (h : '\n' ∉ line) (rest : List Char) :
    lineChars (line ++ '\n' :: rest) = withoutReturn line :: lineChars rest :=
  cutLines_line h rest []

/-! ### Blanks -/

/-- A blank at the end is trimmed away. -/
lemma trimChars_append_blank {c : Char} (h : isBlank c = true) (cs : List Char) :
    trimChars (cs ++ [c]) = trimChars cs := by
  unfold trimChars
  rw [List.dropWhile_append]
  cases hfront : cs.dropWhile isBlank with
  | nil => simp [dropTrailingBlanks, h]
  | cons d front => simp [dropTrailingBlanks, h]

/-- Characters that neither start nor end with a blank are trimmed already. -/
lemma trimChars_of_ends {first last : Char} (hfirst : isBlank first = false)
    (hlast : isBlank last = false) (cs : List Char) :
    trimChars (first :: (cs ++ [last])) = first :: (cs ++ [last]) := by
  simp [trimChars, dropTrailingBlanks, hfirst, hlast]

/-- Nothing is left of characters by trimming exactly if all of them are blank. -/
lemma trimChars_eq_nil_iff {cs : List Char} : trimChars cs = [] ↔ allBlank cs = true := by
  unfold trimChars dropTrailingBlanks allBlank
  rw [List.reverse_eq_nil_iff, List.dropWhile_eq_nil_iff, List.all_eq_true]
  constructor
  · intro h c hc
    rw [← List.takeWhile_append_dropWhile (p := isBlank) (l := cs), List.mem_append] at hc
    rcases hc with hc | hc
    · exact List.mem_takeWhile_imp hc
    · exact h c (List.mem_reverse.mpr hc)
  · intro h c hc
    exact h c (List.dropWhile_sublist isBlank |>.subset (List.mem_reverse.mp hc))

lemma trim_eq_empty_iff {s : String} : trim s = "" ↔ isBlankText s = true := by
  rw [isBlankText, ← trimChars_eq_nil_iff, ← String.toList_inj, toList_trim]
  rfl

/-- What has been trimmed does not end with a blank. -/
lemma isBlank_getLast?_trim {s : String} : ∀ c ∈ (trim s).toList.getLast?, isBlank c = false := by
  intro c hc
  rw [toList_trim, trimChars, dropTrailingBlanks, List.getLast?_reverse] at hc
  have hhead := List.head?_dropWhile_not isBlank (s.toList.dropWhile isBlank).reverse
  rw [Option.mem_def.mp hc] at hhead
  simpa using hhead

/-- A line is its text without a carriage return, or with one at its end. -/
lemma eq_withoutReturn_or (line : List Char) :
    line = withoutReturn line ∨ line = withoutReturn line ++ ['\r'] := by
  rw [withoutReturn]
  cases hline : line.reverse with
  | nil => exact .inl (List.reverse_eq_nil_iff.mp hline)
  | cons c rest =>
    have hback : line = rest.reverse ++ [c] := by
      rw [← List.reverse_cons, ← hline, List.reverse_reverse]
    by_cases hc : c = '\r'
    · subst hc
      exact .inr hback
    · left
      unfold dropCarriageReturn
      split
      · next heq => exact absurd (List.cons.inj heq).1 hc
      · rw [List.reverse_cons, hback]

lemma trimChars_withoutReturn (line : List Char) :
    trimChars (withoutReturn line) = trimChars line := by
  have hreturn : isBlank '\r' = true := by decide
  rcases eq_withoutReturn_or line with heq | heq
  · rw [← heq]
  · conv_rhs => rw [heq]
    rw [trimChars_append_blank hreturn]

lemma allBlank_withoutReturn (line : List Char) :
    allBlank (withoutReturn line) = allBlank line := by
  have hreturn : isBlank '\r' = true := by decide
  rcases eq_withoutReturn_or line with heq | heq
  · rw [← heq]
  · conv_rhs => rw [heq]
    simp [allBlank, hreturn]

end SnippetForge.Text
