import SnippetForge.Proofs.Json.Reading
import SnippetForge.Text.Blank

/-!
# Only spellings are read

The converse of reading what the grammar spells: whatever the reader takes off the front of some
characters is a spelling of the value that it answers with. Each of the readers is sound for its
part of the grammar, from the pieces of strings and the parts of numbers up to values; nothing is
asked of the fuel, since a reader that runs short answers with nothing.

Both directions together say which texts are read at all. `parse?_eq_some_iff` does so for any text,
and `parse?_eq_some_iff_of_trimmed` for one without blanks at its end, which is a value exactly if
it spells one.
-/

namespace SnippetForge.Json

/-! ### White space -/

/-- What is skipped is white space. -/
lemma exists_gap (cs : List Char) : ∃ ws, IsGap ws ∧ cs = ws ++ skipSpace cs := by
  refine ⟨cs.takeWhile isSpace, fun c hc => ?_, ?_⟩
  · exact List.mem_takeWhile_imp hc
  · rw [skipSpace, List.takeWhile_append_dropWhile]

/-! ### Strings -/

/-- What is read as the pieces of a string spells them. -/
lemma written_of_scanPieces {cs rest : List Char} {done all : List Piece}
    (h : scanPieces cs done = some (all, rest)) :
    ∃ pieces front, all = done.reverse ++ pieces ∧ cs = front ++ rest ∧
      WrittenPieces pieces front := by
  fun_induction scanPieces cs done with
  | case1 done => cases h
  | case2 rest' done =>
    cases h
    exact ⟨[], ['"'], by simp, rfl, .close⟩
  | case3 a b c d rest' done n hunit ih =>
    obtain ⟨pieces, front, hall, rfl, hfront⟩ := ih h
    refine ⟨.unit n :: pieces, '\\' :: 'u' :: a :: b :: c :: d :: front, ?_, rfl,
      .unit hunit hfront⟩
    rw [hall, List.reverse_cons, List.append_assoc, List.singleton_append]
  | case4 => cases h
  | case5 e rest' done hnot c hescape ih =>
    obtain ⟨pieces, front, hall, rfl, hfront⟩ := ih h
    refine ⟨.char c :: pieces, '\\' :: e :: front, ?_, rfl, .letter hescape hfront⟩
    rw [hall, List.reverse_cons, List.append_assoc, List.singleton_append]
  | case6 => cases h
  | case7 => cases h
  | case8 c rest' done hquote hunit hescape hplain ih =>
    obtain ⟨pieces, front, hall, rfl, hfront⟩ := ih h
    rw [not_or, Nat.not_lt] at hplain
    refine ⟨.char c :: pieces, c :: front, ?_, rfl, .plain ?_ hplain.1 hplain.2 hfront⟩
    · rw [hall, List.reverse_cons, List.append_assoc, List.singleton_append]
    · exact fun heq => hquote heq

/-- What is read as a string spells it. -/
lemma written_of_readLiteral {cs rest : List Char} {l : Literal}
    (h : readLiteral cs = some (l, rest)) :
    ∃ pieces front, l = literalOf pieces ∧ cs = front ++ rest ∧ WrittenPieces pieces front := by
  obtain ⟨⟨all, rest'⟩, hscan, heq⟩ := Option.map_eq_some_iff.mp h
  obtain ⟨rfl, rfl⟩ := Prod.mk.inj heq
  obtain ⟨pieces, front, hall, hcs, hfront⟩ := written_of_scanPieces hscan
  rw [List.reverse_nil, List.nil_append] at hall
  exact ⟨pieces, front, by rw [hall], hcs, hfront⟩

/-! ### Numbers -/

lemma areDigits_of_readDigits {cs digits rest : List Char}
    (h : readDigits cs = some (digits, rest)) : cs = digits ++ rest ∧ AreDigits digits := by
  unfold readDigits at h
  split at h
  · cases h
  · next hne =>
    obtain ⟨rfl, rfl⟩ := Prod.mk.inj (Option.some.inj h)
    refine ⟨List.takeWhile_append_dropWhile.symm, fun hnil => hne hnil, fun c hc => ?_⟩
    exact List.mem_takeWhile_imp hc

lemma isWhole_of_readWhole {cs whole rest : List Char} (h : readWhole cs = some (whole, rest)) :
    cs = whole ++ rest ∧ IsWhole whole := by
  unfold readWhole at h
  split at h
  · obtain ⟨rfl, rfl⟩ := Prod.mk.inj (Option.some.inj h)
    exact ⟨rfl, .zero⟩
  · next hzero =>
    obtain ⟨rfl, hdigits⟩ := areDigits_of_readDigits h
    cases whole with
    | nil => exact absurd rfl hdigits.1
    | cons c cs =>
      refine ⟨rfl, .digits ?_ hdigits⟩
      rintro rfl
      exact hzero (cs ++ rest) rfl

lemma isFraction_of_readFraction {cs fraction rest : List Char}
    (h : readFraction cs = some (fraction, rest)) : cs = fraction ++ rest ∧ IsFraction fraction := by
  unfold readFraction at h
  split at h
  · obtain ⟨⟨digits, rest'⟩, hread, heq⟩ := Option.map_eq_some_iff.mp h
    obtain ⟨rfl, rfl⟩ := Prod.mk.inj heq
    obtain ⟨rfl, hdigits⟩ := areDigits_of_readDigits hread
    exact ⟨rfl, .digits hdigits⟩
  · obtain ⟨rfl, rfl⟩ := Prod.mk.inj (Option.some.inj h)
    exact ⟨rfl, .none⟩

lemma areDigits_of_readExponentDigits {mark cs exponent rest : List Char}
    (h : readExponentDigits mark cs = some (exponent, rest)) :
    ∃ digits, exponent = mark ++ digits ∧ cs = digits ++ rest ∧ AreDigits digits := by
  obtain ⟨⟨digits, rest'⟩, hread, heq⟩ := Option.map_eq_some_iff.mp h
  obtain ⟨rfl, rfl⟩ := Prod.mk.inj heq
  obtain ⟨rfl, hdigits⟩ := areDigits_of_readDigits hread
  exact ⟨digits, rfl, rfl, hdigits⟩

lemma isExponent_of_readExponent {cs exponent rest : List Char}
    (h : readExponent cs = some (exponent, rest)) : cs = exponent ++ rest ∧ IsExponent exponent := by
  unfold readExponent at h
  split at h
  · obtain ⟨rfl, rfl⟩ := Prod.mk.inj (Option.some.inj h)
    exact ⟨rfl, .none⟩
  · next e tail =>
    split at h
    · next mark =>
      split at h
      · obtain ⟨digits, rfl, rfl, hdigits⟩ := areDigits_of_readExponentDigits h
        exact ⟨rfl, .signed mark (.inl rfl) hdigits⟩
      · obtain ⟨digits, rfl, rfl, hdigits⟩ := areDigits_of_readExponentDigits h
        exact ⟨rfl, .signed mark (.inr rfl) hdigits⟩
      · obtain ⟨digits, rfl, rfl, hdigits⟩ := areDigits_of_readExponentDigits h
        exact ⟨rfl, .plain mark hdigits⟩
    · obtain ⟨rfl, rfl⟩ := Prod.mk.inj (Option.some.inj h)
      exact ⟨rfl, .none⟩

/-- What is read as a number without its sign consists of the parts of one. -/
lemma exists_parts_of_readMagnitude {cs magnitude rest : List Char}
    (h : readMagnitude cs = some (magnitude, rest)) :
    ∃ whole fraction exponent, magnitude = whole ++ fraction ++ exponent ∧
      cs = magnitude ++ rest ∧ IsWhole whole ∧ IsFraction fraction ∧ IsExponent exponent := by
  unfold readMagnitude at h
  split at h
  · cases h
  · next whole rest₁ hwhole =>
    split at h
    · cases h
    · next fraction rest₂ hfraction =>
      obtain ⟨⟨exponent, rest₃⟩, hexponent, heq⟩ := Option.map_eq_some_iff.mp h
      obtain ⟨rfl, rfl⟩ := Prod.mk.inj heq
      obtain ⟨rfl, isWhole⟩ := isWhole_of_readWhole hwhole
      obtain ⟨rfl, isFraction⟩ := isFraction_of_readFraction hfraction
      obtain ⟨rfl, isExponent⟩ := isExponent_of_readExponent hexponent
      exact ⟨whole, fraction, exponent, rfl, by simp, isWhole, isFraction, isExponent⟩

lemma isNumber_of_readNumber {cs number rest : List Char}
    (h : readNumber cs = some (number, rest)) : cs = number ++ rest ∧ IsNumber number := by
  unfold readNumber at h
  split at h
  · obtain ⟨⟨magnitude, rest'⟩, hread, heq⟩ := Option.map_eq_some_iff.mp h
    obtain ⟨rfl, rfl⟩ := Prod.mk.inj heq
    obtain ⟨whole, fraction, exponent, rfl, rfl, hwhole, hfraction, hexponent⟩ :=
      exists_parts_of_readMagnitude hread
    exact ⟨rfl, .negative hwhole hfraction hexponent⟩
  · obtain ⟨whole, fraction, exponent, rfl, rfl, hwhole, hfraction, hexponent⟩ :=
      exists_parts_of_readMagnitude h
    exact ⟨rfl, .positive hwhole hfraction hexponent⟩

/-! ### Values -/

mutual

/-- What is read as a value spells it. -/
theorem written_of_readValue : ∀ {fuel : Nat} {cs rest : List Char} {v : Json},
    readValue fuel cs = some (v, rest) → ∃ front, cs = front ++ rest ∧ Written v front
  | 0, _, _, _, h => by simp [readValue] at h
  | fuel + 1, cs, rest, v, h => by
    obtain ⟨ws, gap, hcs⟩ := exists_gap cs
    -- White space in front aside, the first character decides what is read.
    suffices hflush : ∃ front, skipSpace cs = front ++ rest ∧ Written v front by
      obtain ⟨front, hskip, hfront⟩ := hflush
      exact ⟨ws ++ front, by rw [hcs, hskip, List.append_assoc], hfront.of_gap gap⟩
    rw [readValue] at h
    generalize skipSpace cs = flush at h
    split at h
    · next tail =>
      obtain ⟨⟨l, rest'⟩, hread, heq⟩ := Option.map_eq_some_iff.mp h
      obtain ⟨rfl, rfl⟩ := Prod.mk.inj heq
      obtain ⟨pieces, front, rfl, rfl, hfront⟩ := written_of_readLiteral hread
      exact ⟨'"' :: front, rfl, .string hfront⟩
    · next tail =>
      obtain ⟨inner, hinner, htail⟩ := exists_gap tail
      split at h
      · next hskip =>
        obtain ⟨rfl, rfl⟩ := Prod.mk.inj (Option.some.inj h)
        exact ⟨'[' :: (inner ++ [']']), by rw [htail, hskip]; simp, .noItems hinner⟩
      · obtain ⟨items, front, rfl, hskip, hfront⟩ := written_of_readItems h
        rw [List.reverse_nil, List.nil_append]
        refine ⟨'[' :: (inner ++ front), ?_, .array (hfront.of_gap hinner)⟩
        rw [htail, hskip, List.cons_append, List.append_assoc]
    · next tail =>
      obtain ⟨inner, hinner, htail⟩ := exists_gap tail
      split at h
      · next hskip =>
        obtain ⟨rfl, rfl⟩ := Prod.mk.inj (Option.some.inj h)
        exact ⟨'\x7b' :: (inner ++ ['\x7d']), by rw [htail, hskip]; simp, .noMembers hinner⟩
      · obtain ⟨members, front, rfl, hskip, hfront⟩ := written_of_readMembers h
        rw [List.reverse_nil, List.nil_append]
        refine ⟨'\x7b' :: (inner ++ front), ?_, .object (hfront.of_gap hinner)⟩
        rw [htail, hskip, List.cons_append, List.append_assoc]
    · obtain ⟨rfl, rfl⟩ := Prod.mk.inj (Option.some.inj h)
      exact ⟨_, rfl, .null⟩
    · obtain ⟨rfl, rfl⟩ := Prod.mk.inj (Option.some.inj h)
      exact ⟨_, rfl, .yes⟩
    · obtain ⟨rfl, rfl⟩ := Prod.mk.inj (Option.some.inj h)
      exact ⟨_, rfl, .no⟩
    · obtain ⟨⟨number, rest'⟩, hread, heq⟩ := Option.map_eq_some_iff.mp h
      obtain ⟨rfl, rfl⟩ := Prod.mk.inj heq
      obtain ⟨rfl, isNumber⟩ := isNumber_of_readNumber hread
      have hspelled : Written (.number (String.ofList number)) (String.ofList number).toList :=
        .number (by rwa [String.toList_ofList])
      rw [String.toList_ofList] at hspelled
      exact ⟨number, rfl, hspelled⟩

/-- What is read as items spells them. -/
theorem written_of_readItems : ∀ {fuel : Nat} {cs rest : List Char} {done : List Json} {v : Json},
    readItems fuel cs done = some (v, rest) → ∃ items front,
      v = .array (done.reverse ++ items) ∧ cs = front ++ rest ∧ WrittenItems items front
  | 0, _, _, _, _, h => by simp [readItems] at h
  | fuel + 1, cs, rest, done, v, h => by
    rw [readItems] at h
    split at h
    · cases h
    · next item tail hread =>
      obtain ⟨front, rfl, hitem⟩ := written_of_readValue hread
      obtain ⟨ws, gap, htail⟩ := exists_gap tail
      split at h
      · next more hskip =>
        obtain ⟨items, back, rfl, rfl, hback⟩ := written_of_readItems h
        refine ⟨item :: items, front ++ (ws ++ ',' :: back), ?_, ?_, .next hitem gap hback⟩
        · rw [List.reverse_cons, List.append_assoc, List.singleton_append]
        · rw [htail, hskip]
          simp
      · next hskip =>
        obtain ⟨rfl, rfl⟩ := Prod.mk.inj (Option.some.inj h)
        refine ⟨[item], front ++ (ws ++ [']']), by rw [List.reverse_cons], ?_, .last hitem gap⟩
        rw [htail, hskip]
        simp
      · cases h

/-- What is read as members spells them. -/
theorem written_of_readMembers : ∀ {fuel : Nat} {cs rest : List Char}
    {done : List (Literal × Json)} {v : Json}, readMembers fuel cs done = some (v, rest) →
      ∃ members front, v = .object (done.reverse ++ members) ∧ cs = front ++ rest ∧
        WrittenMembers members front
  | 0, _, _, _, _, h => by simp [readMembers] at h
  | fuel + 1, cs, rest, done, v, h => by
    obtain ⟨before, hbefore, hcs⟩ := exists_gap cs
    rw [readMembers] at h
    split at h
    · next quoted hquoted =>
      split at h
      · cases h
      · next key keyed hkey =>
        obtain ⟨pieces, name, rfl, rfl, hname⟩ := written_of_readLiteral hkey
        obtain ⟨after, hafter, hkeyed⟩ := exists_gap keyed
        split at h
        · next valued hvalued =>
          split at h
          · cases h
          · next value tail hread =>
            obtain ⟨front, rfl, hvalue⟩ := written_of_readValue hread
            obtain ⟨ws, gap, htail⟩ := exists_gap tail
            split at h
            · next more hskip =>
              obtain ⟨members, back, rfl, rfl, hback⟩ := written_of_readMembers h
              refine ⟨_, _, ?_, ?_, .next hbefore hname hafter hvalue gap hback⟩
              · rw [List.reverse_cons, List.append_assoc, List.singleton_append]
              · rw [hcs, hquoted, hkeyed, hvalued, htail, hskip]
                simp
            · next hskip =>
              obtain ⟨rfl, rfl⟩ := Prod.mk.inj (Option.some.inj h)
              refine ⟨_, _, by rw [List.reverse_cons], ?_,
                .last hbefore hname hafter hvalue gap⟩
              rw [hcs, hquoted, hkeyed, hvalued, htail, hskip]
              simp
            · cases h
        · cases h
    · cases h

end

/-- Characters spell one value at most. -/
lemma Written.unique {v v' : Json} {cs : List Char} (h : Written v cs) (h' : Written v' cs) :
    v = v' := by
  have hread := parseChars?_of_written h .nil
  rw [parseChars?_of_written h' .nil] at hread
  exact (Option.some.inj hread).symm

/-! ### Texts -/

/-- Some characters are read as a value exactly if they spell it, with white space around it. -/
theorem parseChars?_eq_some_iff {cs : List Char} {v : Json} :
    parseChars? cs = some v ↔ ∃ front ws, cs = front ++ ws ∧ Written v front ∧ IsGap ws := by
  constructor
  · intro h
    unfold parseChars? at h
    split at h
    · next v' rest hread =>
      obtain ⟨front, hcs, hfront⟩ := written_of_readValue hread
      obtain ⟨ws, gap, hrest⟩ := exists_gap rest
      split at h
      · next hnothing =>
        obtain rfl := Option.some.inj h
        rw [hnothing, List.append_nil] at hrest
        exact ⟨front, ws, by rw [hcs, hrest], hfront, gap⟩
      · cases h
    · cases h
  · rintro ⟨front, ws, rfl, hfront, gap⟩
    exact parseChars?_of_written hfront gap

/-- A text is read as a value exactly if it spells it, with white space around it. -/
theorem parse?_eq_some_iff {s : String} {v : Json} :
    parse? s = some v ↔ ∃ front ws, s.toList = front ++ ws ∧ Written v front ∧ IsGap ws :=
  parseChars?_eq_some_iff

/-- White space is blank. -/
lemma isBlank_of_isSpace {c : Char} (h : isSpace c = true) : Text.isBlank c = true := by
  simp only [isSpace, Bool.or_eq_true, beq_iff_eq] at h
  rcases h with ((rfl | rfl) | rfl) | rfl <;> decide

/-- A text that does not end with a blank is read as a value exactly if it spells it. -/
theorem parse?_eq_some_iff_of_trimmed {s : String} {v : Json}
    (trimmed : ∀ c ∈ s.toList.getLast?, Text.isBlank c = false) :
    parse? s = some v ↔ Written v s.toList := by
  rw [parse?_eq_some_iff]
  constructor
  · rintro ⟨front, ws, hs, hfront, gap⟩
    rcases List.eq_nil_or_concat ws with rfl | ⟨ws', c, rfl⟩
    · rwa [hs, List.append_nil]
    · have hlast := trimmed c (by simp [hs])
      rw [isBlank_of_isSpace (gap c (by simp))] at hlast
      cases hlast
  · exact fun h => ⟨s.toList, [], by simp, h, .nil⟩

end SnippetForge.Json
