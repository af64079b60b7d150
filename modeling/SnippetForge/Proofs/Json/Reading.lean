import SnippetForge.Proofs.Json.Grammar

/-!
# Reading what the grammar spells

The reader reads every spelling of a value as that value. It reads as far as it can, so a number
must not be followed by something that could belong to it; in a text that is always so, because
only white space, a comma or a closing mark can follow a value. The reader spends at most two steps
on a character, so the fuel that a text is given never runs short.

The main statement is `parseChars?_of_written`: a spelling with white space behind it is read as
the value that it spells.
-/

namespace SnippetForge.Json

/-! ### White space -/

/-- No more white space in front. -/
def IsFlush (cs : List Char) : Prop :=
  ∀ c ∈ cs.head?, isSpace c = false

lemma IsFlush.cons {c : Char} (h : isSpace c = false) (cs : List Char) : IsFlush (c :: cs) := by
  simpa [IsFlush] using h

lemma skipSpace_cons_of_space {c : Char} (h : isSpace c = true) (cs : List Char) :
    skipSpace (c :: cs) = skipSpace cs := by
  simp [skipSpace, h]

lemma skipSpace_of_isFlush {cs : List Char} (h : IsFlush cs) : skipSpace cs = cs := by
  cases cs with
  | nil => rfl
  | cons c cs => simp [skipSpace, h c rfl]

lemma skipSpace_gap {ws : List Char} (gap : IsGap ws) (cs : List Char) :
    skipSpace (ws ++ cs) = skipSpace cs := by
  induction ws with
  | nil => rfl
  | cons c ws ih =>
    rw [List.cons_append, skipSpace_cons_of_space (gap c List.mem_cons_self)]
    exact ih fun c' hc' => gap c' (List.mem_cons_of_mem _ hc')

/-- After white space, a mark comes first. -/
lemma skipSpace_gap_cons {ws : List Char} (gap : IsGap ws) {c : Char} (h : isSpace c = false)
    (cs : List Char) : skipSpace (ws ++ c :: cs) = c :: cs := by
  rw [skipSpace_gap gap, skipSpace_of_isFlush (.cons h cs)]

lemma skipSpace_skipSpace (cs : List Char) : skipSpace (skipSpace cs) = skipSpace cs :=
  List.dropWhile_idempotent _ _

/-! ### Strings -/

/-- The pieces of a string are read up to its closing quote. -/
lemma scanPieces_of_written {pieces : List Piece} {cs : List Char}
    (h : WrittenPieces pieces cs) (rest : List Char) (done : List Piece) :
    scanPieces (cs ++ rest) done = some (done.reverse ++ pieces, rest) := by
  induction h generalizing done with
  | close => simp [scanPieces]
  | @plain c pieces cs quote slash visible _ ih =>
    have hvisible : ¬ (c = '\\' ∨ c.toNat < 0x20) := by
      rintro (h | h)
      · exact slash h
      · omega
    rw [List.cons_append, scanPieces, if_neg hvisible, ih]
    · simp
    · exact quote
    · exact fun _ _ _ _ _ h => absurd h slash
    · exact fun _ _ h => absurd h slash
  | @letter e c pieces cs escape _ ih =>
    have hunit : e ≠ 'u' := by
      rintro rfl
      simp [escaped?] at escape
    rw [List.cons_append, List.cons_append, scanPieces]
    · simp [escape, ih]
    · exact fun _ _ _ _ _ h => absurd h hunit
  | unit digits _ ih =>
    simp only [List.cons_append, scanPieces, digits, ih]
    simp

/-- A string is read up to its closing quote. -/
lemma readLiteral_of_written {pieces : List Piece} {cs : List Char}
    (h : WrittenPieces pieces cs) (rest : List Char) :
    readLiteral (cs ++ rest) = some (literalOf pieces, rest) := by
  simp [readLiteral, scanPieces_of_written h]

/-! ### Numbers -/

/-- Whether a character could belong to a number in front of it. -/
def extendsNumber (c : Char) : Bool :=
  c.isDigit || c == '.' || c == 'e' || c == 'E'

/-- No number in front goes on here. -/
def IsApart (cs : List Char) : Prop :=
  ∀ c ∈ cs.head?, extendsNumber c = false

lemma IsApart.cons {c : Char} (h : extendsNumber c = false) (cs : List Char) :
    IsApart (c :: cs) := by
  simpa [IsApart] using h

/-- White space belongs to no number. -/
lemma extendsNumber_of_isSpace {c : Char} (h : isSpace c = true) : extendsNumber c = false := by
  simp only [isSpace, Bool.or_eq_true, beq_iff_eq] at h
  rcases h with ((rfl | rfl) | rfl) | rfl <;> decide

/-- A number ends at white space or at a mark behind it. -/
lemma IsApart.gap {ws cs : List Char} (h : IsApart cs) (gap : IsGap ws) :
    IsApart (ws ++ cs) := by
  cases ws with
  | nil => exact h
  | cons c ws => exact .cons (extendsNumber_of_isSpace (gap c List.mem_cons_self)) _

/-- Digits are read as far as they go. -/
lemma readDigits_of_areDigits {cs rest : List Char} (h : AreDigits cs)
    (stop : ∀ c ∈ rest.head?, c.isDigit = false) : readDigits (cs ++ rest) = some (cs, rest) := by
  have hnone : rest.takeWhile Char.isDigit = [] ∧ rest.dropWhile Char.isDigit = rest := by
    cases rest with
    | nil => exact ⟨rfl, rfl⟩
    | cons c rest => simp [stop c rfl]
  have htake : (cs ++ rest).takeWhile Char.isDigit = cs := by
    rw [List.takeWhile_append_of_pos h.2, hnone.1, List.append_nil]
  have hdrop : (cs ++ rest).dropWhile Char.isDigit = rest := by
    rw [List.dropWhile_append_of_pos h.2, hnone.2]
  unfold readDigits
  rw [htake, hdrop]
  cases cs with
  | nil => exact absurd rfl h.1
  | cons c cs => rfl

lemma IsApart.not_isDigit {cs : List Char} (h : IsApart cs) :
    ∀ c ∈ cs.head?, c.isDigit = false := by
  intro c hc
  have hc := h c hc
  simp only [extendsNumber, Bool.or_eq_false_iff] at hc
  exact hc.1.1.1

lemma readExponent_of_isExponent {cs rest : List Char} (h : IsExponent cs) (apart : IsApart rest) :
    readExponent (cs ++ rest) = some (cs, rest) := by
  cases h with
  | none =>
    cases rest with
    | nil => rfl
    | cons c rest =>
      have hc := apart c rfl
      simp only [extendsNumber, Bool.or_eq_false_iff, beq_eq_false_iff_ne] at hc
      have hmark : ¬ (c = 'e' ∨ c = 'E') := by
        rintro (h | h)
        · exact hc.1.2 h
        · exact hc.2 h
      simp only [List.nil_append, readExponent, hmark, if_false]
  | @plain e cs mark all =>
    obtain ⟨c, cs, rfl⟩ := List.exists_cons_of_ne_nil all.1
    have hdigit : c.isDigit = true := all.2 c List.mem_cons_self
    have hread := readDigits_of_areDigits all apart.not_isDigit
    rw [List.cons_append] at hread
    have hsign : c ≠ '+' ∧ c ≠ '-' := by
      constructor <;> (rintro rfl; exact absurd hdigit (by decide))
    simp only [List.cons_append, readExponent, mark, if_true]
    split
    · next heq => exact absurd (List.cons.inj heq).1 hsign.1
    · next heq => exact absurd (List.cons.inj heq).1 hsign.2
    · simp [readExponentDigits, hread]
  | signed mark direction all =>
    have hread := readDigits_of_areDigits all apart.not_isDigit
    rcases direction with rfl | rfl <;>
      simp [readExponent, mark, readExponentDigits, hread]

/-- An exponent does not begin like digits or a fraction. -/
lemma IsExponent.head {cs rest : List Char} (h : IsExponent cs) (apart : IsApart rest) :
    ∀ c ∈ (cs ++ rest).head?, c.isDigit = false ∧ c ≠ '.' := by
  intro c hc
  cases h with
  | none =>
    have hc := apart c hc
    simp only [extendsNumber, Bool.or_eq_false_iff, beq_eq_false_iff_ne] at hc
    exact ⟨hc.1.1.1, hc.1.1.2⟩
  | plain mark _ | signed mark _ _ =>
    obtain rfl : _ = c := by simpa using hc
    rcases mark with rfl | rfl <;> decide

lemma readFraction_of_isFraction {cs rest : List Char} (h : IsFraction cs)
    (stop : ∀ c ∈ rest.head?, c.isDigit = false ∧ c ≠ '.') :
    readFraction (cs ++ rest) = some (cs, rest) := by
  cases h with
  | none =>
    rw [List.nil_append, readFraction]
    intro tail heq
    rw [heq] at stop
    exact (stop '.' rfl).2 rfl
  | digits all =>
    rw [List.cons_append, readFraction, readDigits_of_areDigits all fun c hc => (stop c hc).1]
    rfl

/-- A fraction does not begin like digits. -/
lemma IsFraction.head {cs rest : List Char} (h : IsFraction cs)
    (stop : ∀ c ∈ rest.head?, c.isDigit = false) : ∀ c ∈ (cs ++ rest).head?, c.isDigit = false := by
  cases h with
  | none => exact stop
  | digits _ =>
    intro c hc
    obtain rfl : '.' = c := by simpa using hc
    decide

lemma readWhole_of_isWhole {cs rest : List Char} (h : IsWhole cs)
    (stop : ∀ c ∈ rest.head?, c.isDigit = false) : readWhole (cs ++ rest) = some (cs, rest) := by
  cases h with
  | zero => rfl
  | digits leading all =>
    rw [List.cons_append, readWhole, ← List.cons_append]
    · exact readDigits_of_areDigits all stop
    · exact fun _ heq => leading (List.cons.inj heq).1

/-- A whole part begins with a digit. -/
lemma IsWhole.exists_digit {cs : List Char} (h : IsWhole cs) :
    ∃ c tail, cs = c :: tail ∧ c.isDigit = true := by
  cases h with
  | zero => exact ⟨'0', [], rfl, by decide⟩
  | @digits c cs _ all => exact ⟨c, cs, rfl, all.2 c List.mem_cons_self⟩

lemma readMagnitude_of_parts {whole fraction exponent rest : List Char} (hwhole : IsWhole whole)
    (hfraction : IsFraction fraction) (hexponent : IsExponent exponent) (apart : IsApart rest) :
    readMagnitude (whole ++ fraction ++ exponent ++ rest)
      = some (whole ++ fraction ++ exponent, rest) := by
  have hhead := hexponent.head apart
  have hfirst : readWhole (whole ++ (fraction ++ (exponent ++ rest)))
      = some (whole, fraction ++ (exponent ++ rest)) :=
    readWhole_of_isWhole hwhole (hfraction.head fun c hc => (hhead c hc).1)
  have hsecond := readFraction_of_isFraction hfraction hhead
  have hthird := readExponent_of_isExponent hexponent apart
  unfold readMagnitude
  simp only [List.append_assoc]
  rw [hfirst]
  simp only [hsecond, hthird]
  simp

/-- A number begins with a digit or with the sign. -/
lemma IsNumber.exists_head {cs : List Char} (h : IsNumber cs) :
    ∃ c tail, cs = c :: tail ∧ (c.isDigit = true ∨ c = '-') := by
  cases h with
  | positive hwhole _ _ =>
    obtain ⟨c, tail, rfl, hdigit⟩ := hwhole.exists_digit
    exact ⟨c, _, rfl, .inl hdigit⟩
  | negative _ _ _ => exact ⟨'-', _, rfl, .inr rfl⟩

/-- A number is read as far as it goes. -/
lemma readNumber_of_isNumber {cs rest : List Char} (h : IsNumber cs) (apart : IsApart rest) :
    readNumber (cs ++ rest) = some (cs, rest) := by
  cases h with
  | positive hwhole hfraction hexponent =>
    have hread := readMagnitude_of_parts hwhole hfraction hexponent apart
    obtain ⟨c, tail, rfl, hdigit⟩ := hwhole.exists_digit
    rw [List.cons_append, List.cons_append, List.cons_append] at hread ⊢
    rw [readNumber, hread]
    intro tail heq
    rw [(List.cons.inj heq).1] at hdigit
    exact absurd hdigit (by decide)
  | negative hwhole hfraction hexponent =>
    rw [List.cons_append, readNumber, readMagnitude_of_parts hwhole hfraction hexponent apart]
    rfl

/-! ### Values -/

lemma readValue_skipSpace (fuel : Nat) (cs : List Char) :
    readValue fuel (skipSpace cs) = readValue fuel cs := by
  cases fuel with
  | zero => simp [readValue]
  | succ fuel => simp only [readValue, skipSpace_skipSpace]

lemma readItems_skipSpace (fuel : Nat) (cs : List Char) (done : List Json) :
    readItems fuel (skipSpace cs) done = readItems fuel cs done := by
  cases fuel with
  | zero => simp [readItems]
  | succ fuel => simp only [readItems, readValue_skipSpace]

lemma readMembers_skipSpace (fuel : Nat) (cs : List Char) (done : List (Literal × Json)) :
    readMembers fuel (skipSpace cs) done = readMembers fuel cs done := by
  cases fuel with
  | zero => simp [readMembers]
  | succ fuel => simp only [readMembers, skipSpace_skipSpace]

/-- A number does not begin with white space. -/
lemma isSpace_of_numberHead {c : Char} (head : c.isDigit = true ∨ c = '-') : isSpace c = false := by
  by_contra hspace
  simp only [Bool.not_eq_false, isSpace, Bool.or_eq_true, beq_iff_eq] at hspace
  rcases hspace with ((rfl | rfl) | rfl) | rfl <;> exact absurd head (by decide)

/-- Anything that begins like a number is read as one. -/
lemma readValue_number {c : Char} {cs : List Char} (fuel : Nat)
    (head : c.isDigit = true ∨ c = '-') : readValue (fuel + 1) (c :: cs)
      = (readNumber (c :: cs)).map fun p => (.number (String.ofList p.1), p.2) := by
  have hne : ∀ mark ∈ ['"', '[', '\x7b', 'n', 't', 'f'], c ≠ mark := by
    rintro mark hmark rfl
    fin_cases hmark <;> exact absurd head (by decide)
  rw [readValue, skipSpace_of_isFlush (.cons (isSpace_of_numberHead head) cs)]
  split
  all_goals first
    | rfl
    | (next heq => exact absurd (List.cons.inj heq).1 (hne _ (by decide)))

/-- A value has a first character, and it is not the closing bracket of an array. -/
lemma Written.exists_head : ∀ {v : Json} {cs : List Char}, Written v cs → ∀ rest : List Char,
    ∃ c tail, skipSpace (cs ++ rest) = c :: tail ∧ c ≠ ']'
  | _, _, .gap space h, rest => by
    obtain ⟨c, tail, heq, hne⟩ := h.exists_head rest
    exact ⟨c, tail, by rw [List.cons_append, skipSpace_cons_of_space space, heq], hne⟩
  | _, _, .null, _ => ⟨'n', _, rfl, by decide⟩
  | _, _, .yes, _ => ⟨'t', _, rfl, by decide⟩
  | _, _, .no, _ => ⟨'f', _, rfl, by decide⟩
  | _, _, .number h, rest => by
    obtain ⟨c, tail, heq, head⟩ := h.exists_head
    have hspace : isSpace c = false := isSpace_of_numberHead head
    refine ⟨c, tail ++ rest, ?_, ?_⟩
    · rw [heq, List.cons_append, skipSpace_of_isFlush (.cons hspace _)]
    · rintro rfl
      exact absurd head (by decide)
  | _, _, .string _, _ => ⟨'"', _, rfl, by decide⟩
  | _, _, .noItems _, _ => ⟨'[', _, rfl, by decide⟩
  | _, _, .array _, _ => ⟨'[', _, rfl, by decide⟩
  | _, _, .noMembers _, _ => ⟨'\x7b', _, rfl, by decide⟩
  | _, _, .object _, _ => ⟨'\x7b', _, rfl, by decide⟩

/-- Neither do items begin with the closing bracket. -/
lemma WrittenItems.exists_head {items : List Json} {cs : List Char} (h : WrittenItems items cs)
    (rest : List Char) : ∃ c tail, skipSpace (cs ++ rest) = c :: tail ∧ c ≠ ']' := by
  cases h with
  | last h _ | next h _ _ =>
    rw [List.append_assoc]
    exact h.exists_head _

/-- Members begin with a quote. -/
lemma WrittenMembers.exists_tail {members : List (Literal × Json)} {cs : List Char}
    (h : WrittenMembers members cs) (rest : List Char) :
    ∃ tail, skipSpace (cs ++ rest) = '"' :: tail := by
  cases h with
  | last before _ _ _ _ | next before _ _ _ _ _ =>
    rw [List.append_assoc, List.cons_append, skipSpace_gap_cons before rfl]
    exact ⟨_, rfl⟩

/-- A mark behind a value ends it, with or without white space in between. -/
lemma isApart_gap_cons {ws : List Char} (gap : IsGap ws) {mark : Char}
    (h : extendsNumber mark = false) (rest : List Char) : IsApart (ws ++ mark :: rest) :=
  .gap (.cons h rest) gap

mutual

/-- A spelling of a value is read as that value. -/
theorem readValue_of_written : ∀ {v : Json} {cs : List Char}, Written v cs → ∀ {fuel : Nat},
    2 * cs.length ≤ fuel + 1 → ∀ {rest : List Char}, IsApart rest →
    readValue (fuel + 1) (cs ++ rest) = some (v, rest)
  | _, _, .gap space h, fuel, enough, rest, apart => by
    rw [List.cons_append, ← readValue_skipSpace, skipSpace_cons_of_space space,
      readValue_skipSpace]
    exact readValue_of_written h (Nat.le_trans (by simp) enough) apart
  | _, _, .null, _, _, _, _ => rfl
  | _, _, .yes, _, _, _, _ => rfl
  | _, _, .no, _, _, _, _ => rfl
  | _, _, .number h, fuel, _, rest, apart => by
    obtain ⟨c, tail, heq, head⟩ := h.exists_head
    have hread := readNumber_of_isNumber h apart
    rw [heq, List.cons_append] at hread
    rw [heq, List.cons_append, readValue_number fuel head, hread, ← heq]
    simp
  | _, _, .string h, fuel, _, rest, _ => by
    rw [List.cons_append, readValue, skipSpace_of_isFlush (.cons (by decide) _)]
    simp [readLiteral_of_written h]
  | _, _, .noItems gap, fuel, _, rest, _ => by
    rw [List.cons_append, readValue, skipSpace_of_isFlush (.cons (by decide) _)]
    simp only [List.append_assoc, List.singleton_append, skipSpace_gap_cons gap (c := ']') rfl]
  | _, _, .array h, fuel, enough, rest, _ => by
    rw [List.length_cons] at enough
    obtain ⟨f, rfl⟩ : ∃ f, fuel = f + 1 := ⟨fuel - 1, by omega⟩
    obtain ⟨c, tail, hskip, hne⟩ := h.exists_head rest
    have hread : readItems (f + 1) _ [] = _ := readItems_of_written h (by omega) rest []
    rw [← readItems_skipSpace, hskip] at hread
    rw [List.cons_append, readValue, skipSpace_of_isFlush (.cons (by decide) _)]
    simp only [hskip]
    split
    · next heq => exact absurd (List.cons.inj heq).1 hne
    · exact hread
  | _, _, .noMembers gap, fuel, _, rest, _ => by
    rw [List.cons_append, readValue, skipSpace_of_isFlush (.cons (by decide) _)]
    simp only [List.append_assoc, List.singleton_append, skipSpace_gap_cons gap (c := '\x7d') rfl]
  | _, _, .object h, fuel, enough, rest, _ => by
    rw [List.length_cons] at enough
    obtain ⟨f, rfl⟩ : ∃ f, fuel = f + 1 := ⟨fuel - 1, by omega⟩
    obtain ⟨tail, hskip⟩ := h.exists_tail rest
    have hread : readMembers (f + 1) _ [] = _ := readMembers_of_written h (by omega) rest []
    rw [← readMembers_skipSpace, hskip] at hread
    rw [List.cons_append, readValue, skipSpace_of_isFlush (.cons (by decide) _)]
    simp only [hskip]
    exact hread

/-- A spelling of items is read as those items. -/
theorem readItems_of_written : ∀ {items : List Json} {cs : List Char}, WrittenItems items cs →
    ∀ {fuel : Nat}, 2 * cs.length ≤ fuel → ∀ (rest : List Char) (done : List Json),
    readItems (fuel + 1) (cs ++ rest) done = some (.array (done.reverse ++ items), rest)
  | _, _, @WrittenItems.last v cs ws h gap, fuel, enough, rest, done => by
    simp only [List.length_append, List.length_cons] at enough
    obtain ⟨f, rfl⟩ : ∃ f, fuel = f + 1 := ⟨fuel - 1, by omega⟩
    have hread : readValue (f + 1) (cs ++ (ws ++ ']' :: rest)) = some (v, ws ++ ']' :: rest) :=
      readValue_of_written h (by omega) (isApart_gap_cons gap rfl rest)
    rw [List.append_assoc, List.append_assoc, List.singleton_append, readItems, hread]
    simp only [skipSpace_gap_cons gap (c := ']') rfl]
    simp
  | _, _, @WrittenItems.next v cs ws _ tail h gap more, fuel, enough, rest, done => by
    simp only [List.length_append, List.length_cons] at enough
    obtain ⟨f, rfl⟩ : ∃ f, fuel = f + 1 := ⟨fuel - 1, by omega⟩
    have hread : readValue (f + 1) (cs ++ (ws ++ ',' :: (tail ++ rest)))
        = some (v, ws ++ ',' :: (tail ++ rest)) :=
      readValue_of_written h (by omega) (isApart_gap_cons gap rfl _)
    rw [List.append_assoc, List.append_assoc, List.cons_append, readItems, hread]
    simp only [skipSpace_gap_cons gap (c := ',') rfl]
    rw [readItems_of_written more (by omega)]
    simp

/-- A spelling of members is read as those members. -/
theorem readMembers_of_written : ∀ {members : List (Literal × Json)} {cs : List Char},
    WrittenMembers members cs → ∀ {fuel : Nat}, 2 * cs.length ≤ fuel →
    ∀ (rest : List Char) (done : List (Literal × Json)),
    readMembers (fuel + 1) (cs ++ rest) done = some (.object (done.reverse ++ members), rest)
  | _, _, @WrittenMembers.last _ v _ _ _ cs ws before name after h gap, fuel, enough, rest,
      done => by
    simp only [List.length_append, List.length_cons] at enough
    obtain ⟨f, rfl⟩ : ∃ f, fuel = f + 1 := ⟨fuel - 1, by omega⟩
    have hread : readValue (f + 1) (cs ++ (ws ++ '\x7d' :: rest))
        = some (v, ws ++ '\x7d' :: rest) :=
      readValue_of_written h (by omega) (isApart_gap_cons gap rfl rest)
    rw [readMembers]
    simp only [List.append_assoc, List.cons_append, List.nil_append,
      skipSpace_gap_cons before (c := '"') rfl, readLiteral_of_written name,
      skipSpace_gap_cons after (c := ':') rfl, hread, skipSpace_gap_cons gap (c := '\x7d') rfl]
    simp
  | _, _, @WrittenMembers.next _ v _ _ _ cs ws _ tail before name after h gap more, fuel, enough,
      rest, done => by
    simp only [List.length_append, List.length_cons] at enough
    obtain ⟨f, rfl⟩ : ∃ f, fuel = f + 1 := ⟨fuel - 1, by omega⟩
    have hread : readValue (f + 1) (cs ++ (ws ++ ',' :: (tail ++ rest)))
        = some (v, ws ++ ',' :: (tail ++ rest)) :=
      readValue_of_written h (by omega) (isApart_gap_cons gap rfl _)
    rw [readMembers]
    simp only [List.append_assoc, List.cons_append,
      skipSpace_gap_cons before (c := '"') rfl, readLiteral_of_written name,
      skipSpace_gap_cons after (c := ':') rfl, hread, skipSpace_gap_cons gap (c := ',') rfl]
    rw [readMembers_of_written more (by omega)]
    simp

end

/-! ### Texts -/

/-- A spelling of a value is read as that value, also with white space behind it. -/
theorem parseChars?_of_written {v : Json} {cs ws : List Char} (h : Written v cs) (gap : IsGap ws) :
    parseChars? (cs ++ ws) = some v := by
  have apart : IsApart ws := by
    have hend : IsApart [] := by
      simp [IsApart]
    simpa using hend.gap gap
  have hread : readValue (2 * (cs ++ ws).length + 2) (cs ++ ws) = some (v, ws) := by
    refine readValue_of_written h ?_ apart
    rw [List.length_append]
    omega
  have hnothing : skipSpace ws = [] := by
    simpa [skipSpace] using skipSpace_gap gap []
  unfold parseChars? fuelFor
  rw [hread]
  simp [hnothing]

end SnippetForge.Json
