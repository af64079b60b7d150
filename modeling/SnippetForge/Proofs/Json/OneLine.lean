import SnippetForge.Proofs.Json.Printing

/-!
# The compact form stands on one line

A character is *visible* here if it is no control below the space. The compact form of a printable
value is made of visible characters alone: inside strings the controls are escaped, and outside of
them there is no white space. So whoever reads by lines gets a compact text in one piece.
-/

namespace SnippetForge.Json

/-- No control below the space. -/
def AreVisible (cs : List Char) : Prop :=
  ∀ c ∈ cs, 0x20 ≤ c.toNat

lemma AreVisible.append {cs ds : List Char} (hcs : AreVisible cs) (hds : AreVisible ds) :
    AreVisible (cs ++ ds) :=
  List.forall_mem_append.mpr ⟨hcs, hds⟩

lemma AreVisible.cons {c : Char} {cs : List Char} (hc : 0x20 ≤ c.toNat) (hcs : AreVisible cs) :
    AreVisible (c :: cs) :=
  List.forall_mem_cons.mpr ⟨hc, hcs⟩

lemma AreVisible.newline_notMem {cs : List Char} (h : AreVisible cs) : '\n' ∉ cs :=
  fun hmem => absurd (h '\n' hmem) (by decide)

/-! ### Strings and numbers -/

lemma areVisible_hex4 (n : Nat) : AreVisible (Text.hex4 n) := by
  have hdigit : ∀ k < 16, 0x20 ≤ (Text.hexDigit k).toNat := by decide
  intro c hc
  simp only [Text.hex4, List.mem_cons, List.not_mem_nil, or_false] at hc
  rcases hc with rfl | rfl | rfl | rfl <;> exact hdigit _ (Nat.mod_lt _ (by decide))

lemma areVisible_escapeChar (c : Char) : AreVisible (escapeChar c) := by
  unfold escapeChar
  split_ifs with hquote hslash hvisible
  case pos => simp [AreVisible]
  case pos => simp [AreVisible]
  case pos => simpa [AreVisible] using hvisible
  case neg => exact .cons (by decide) (.cons (by decide) (areVisible_hex4 _))
  all_goals simp [AreVisible]

lemma areVisible_literalChars (l : Literal) : AreVisible (literalChars l) := by
  have hquote : AreVisible ['"'] := by simp [AreVisible]
  cases l with
  | text s =>
    have hbody : AreVisible (s.toList.flatMap escapeChar) := by
      intro d hd
      obtain ⟨c, -, hd⟩ := List.mem_flatMap.mp hd
      exact areVisible_escapeChar c d hd
    exact .cons (by decide) (hbody.append hquote)
  | unpaired =>
    exact .cons (by decide) (.cons (by decide) (.cons (by decide)
      ((areVisible_hex4 _).append hquote)))

lemma AreDigits.areVisible {cs : List Char} (h : AreDigits cs) : AreVisible cs := by
  intro c hc
  have hdigit := h.2 c hc
  simp only [Char.isDigit, Bool.and_eq_true, decide_eq_true_eq] at hdigit
  exact le_trans (by decide) hdigit.1

lemma IsWhole.areVisible {cs : List Char} (h : IsWhole cs) : AreVisible cs := by
  cases h with
  | zero => simp [AreVisible]
  | digits leading all => exact all.areVisible

lemma IsFraction.areVisible {cs : List Char} (h : IsFraction cs) : AreVisible cs := by
  cases h with
  | none => simp [AreVisible]
  | digits all => exact .cons (by decide) all.areVisible

lemma IsExponent.areVisible {cs : List Char} (h : IsExponent cs) : AreVisible cs := by
  cases h with
  | none => simp [AreVisible]
  | plain mark all => rcases mark with rfl | rfl <;> exact .cons (by decide) all.areVisible
  | signed mark direction all =>
    rcases mark with rfl | rfl <;> rcases direction with rfl | rfl <;>
      exact .cons (by decide) (.cons (by decide) all.areVisible)

lemma IsNumber.areVisible {cs : List Char} (h : IsNumber cs) : AreVisible cs := by
  cases h with
  | positive hwhole hfraction hexponent =>
    exact (hwhole.areVisible.append hfraction.areVisible).append hexponent.areVisible
  | negative hwhole hfraction hexponent =>
    exact .cons (by decide)
      ((hwhole.areVisible.append hfraction.areVisible).append hexponent.areVisible)

/-! ### Values -/

mutual

/-- The compact form of a value is visible. -/
theorem areVisible_compactChars : ∀ {v : Json}, v.IsPrintable → AreVisible (compactChars v)
  | .null, _ => by simp [compactChars, AreVisible]
  | .bool true, _ => by simp [compactChars, AreVisible]
  | .bool false, _ => by simp [compactChars, AreVisible]
  | .number _, h => h.areVisible
  | .string l, _ => areVisible_literalChars l
  | .array _, h =>
    .cons (by decide) ((areVisible_compactItems h).append (by simp [AreVisible]))
  | .object _, h =>
    .cons (by decide) ((areVisible_compactMembers h).append (by simp [AreVisible]))

/-- So is the one of items. -/
theorem areVisible_compactItems : ∀ {items : List Json}, ArePrintable items →
    AreVisible (compactItems items)
  | [], _ => by simp [compactItems, AreVisible]
  | [_], h => areVisible_compactChars h.1
  | _ :: _ :: _, h =>
    (areVisible_compactChars h.1).append (.cons (by decide) (areVisible_compactItems h.2))

/-- So is the one of members. -/
theorem areVisible_compactMembers : ∀ {members : List (Literal × Json)}, HavePrintable members →
    AreVisible (compactMembers members)
  | [], _ => by simp [compactMembers, AreVisible]
  | [(k, _)], h =>
    (areVisible_literalChars k).append (.cons (by decide) (areVisible_compactChars h.1))
  | (k, _) :: _ :: _, h =>
    (areVisible_literalChars k).append (.cons (by decide)
      ((areVisible_compactChars h.1).append (.cons (by decide) (areVisible_compactMembers h.2))))

end

end SnippetForge.Json
