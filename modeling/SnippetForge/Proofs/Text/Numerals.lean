import SnippetForge.Proofs.Json.Records

/-!
# Numerals

A numeral is a number in decimal with nothing in it that could be left out: no zero in front of
other digits, none at the end of the fraction, and no point without a fraction. Its value is a
rational number.

A number has one numeral at most, and characters spell one at most. For the first, the whole part of
a number gives the digits before the point; a fraction can be filled up with zeros, and digits of one
length are told apart by their value. For the second, the point is no digit.
-/

namespace SnippetForge.Text

open Json (IsWhole)

/-! ### Kinds of characters -/

/-- Characters of one kind can be told from what follows if that starts with another kind. -/
lemma append_inj_of_kind {kind : Char → Bool} {cs ds rest rest' : List Char}
    (hcs : ∀ c ∈ cs, kind c = true) (hds : ∀ c ∈ ds, kind c = true)
    (hrest : ∀ c ∈ rest.head?, kind c = false) (hrest' : ∀ c ∈ rest'.head?, kind c = false)
    (h : cs ++ rest = ds ++ rest') : cs = ds ∧ rest = rest' := by
  have hspan : ∀ {l : List Char}, (∀ c ∈ l.head?, kind c = false) → l.takeWhile kind = [] := by
    intro l hl
    cases l with
    | nil => rfl
    | cons c l => rw [List.takeWhile_cons, hl c rfl]; rfl
  have htake : (cs ++ rest).takeWhile kind = cs := by
    rw [List.takeWhile_append_of_pos hcs, hspan hrest, List.append_nil]
  have htake' : (ds ++ rest').takeWhile kind = ds := by
    rw [List.takeWhile_append_of_pos hds, hspan hrest', List.append_nil]
  obtain rfl : cs = ds := by rw [← htake, h, htake']
  exact ⟨rfl, List.append_cancel_left h⟩

/-! ### Digits -/

lemma digit_lt_ten {c : Char} (h : c.isDigit = true) : c.toNat - '0'.toNat < 10 := by
  have hrange := Char.isDigit_iff_toNat.mp h
  have hzero : '0'.toNat = 48 := rfl
  have hnine : '9'.toNat = 57 := rfl
  omega

/-- A digit is told by its value. -/
lemma digitChar_digit {c : Char} (h : c.isDigit = true) :
    Nat.digitChar (c.toNat - '0'.toNat) = c := by
  have hrange := Char.isDigit_iff_toNat.mp h
  have hzero : '0'.toNat = 48 := rfl
  apply Char.toNat_inj.mp
  rw [Nat.toNat_digitChar_of_lt_ten (digit_lt_ten h)]
  omega

lemma isDigit_of_isWhole {cs : List Char} (h : IsWhole cs) : ∀ c ∈ cs, c.isDigit = true := by
  cases h with
  | zero => simp
  | digits leading all => exact all.2

/-- One more digit at the end is ten times the value and the value of the digit. -/
lemma ofDigitChars_concat (cs : List Char) (c : Char) :
    Nat.ofDigitChars 10 (cs ++ [c]) 0
      = 10 * Nat.ofDigitChars 10 cs 0 + (c.toNat - '0'.toNat) := by
  rw [Nat.ofDigitChars_append, Nat.ofDigitChars_cons, Nat.ofDigitChars_nil]

lemma ofDigitChars_lt {cs : List Char} (h : ∀ c ∈ cs, c.isDigit = true) :
    Nat.ofDigitChars 10 cs 0 < 10 ^ cs.length := by
  induction cs using List.reverseRecOn with
  | nil => simp [Nat.ofDigitChars_nil]
  | append_singleton cs c ih =>
    have hinit := ih fun d hd => h d (List.mem_append_left _ hd)
    have hlast := digit_lt_ten (h c (by simp))
    rw [ofDigitChars_concat, List.length_append, List.length_singleton, pow_succ]
    omega

/-- Digits of one length are told apart by their value. -/
lemma eq_of_ofDigitChars_eq {cs ds : List Char} (hcs : ∀ c ∈ cs, c.isDigit = true)
    (hds : ∀ c ∈ ds, c.isDigit = true) (length : cs.length = ds.length)
    (value : Nat.ofDigitChars 10 cs 0 = Nat.ofDigitChars 10 ds 0) : cs = ds := by
  induction cs using List.reverseRecOn generalizing ds with
  | nil => exact (List.length_eq_zero_iff.mp length.symm).symm
  | append_singleton cs c ih =>
    obtain rfl | ⟨ds, d, rfl⟩ := List.eq_nil_or_concat' ds
    · simp at length
    · have hc := hcs c (by simp)
      have hd := hds d (by simp)
      have hc_lt := digit_lt_ten hc
      have hd_lt := digit_lt_ten hd
      rw [ofDigitChars_concat, ofDigitChars_concat] at value
      have hlast : c = d := by
        rw [← digitChar_digit hc, ← digitChar_digit hd]
        congr 1
        omega
      have hinit : cs = ds := by
        refine ih (fun e he => hcs e (List.mem_append_left _ he))
          (fun e he => hds e (List.mem_append_left _ he)) (by simpa using length) ?_
        omega
      rw [hlast, hinit]

/-- Digits that do not start with a zero spell more than nothing. -/
lemma ofDigitChars_pos {c : Char} (hc : c.isDigit = true) (leading : c ≠ '0') (cs : List Char) :
    0 < Nat.ofDigitChars 10 (c :: cs) 0 := by
  have hpos : 0 < c.toNat - '0'.toNat := by
    refine Nat.pos_of_ne_zero fun hzero => leading ?_
    rw [← digitChar_digit hc, hzero]
    rfl
  rw [Nat.ofDigitChars_cons, Nat.mul_zero, Nat.zero_add, Nat.ofDigitChars_eq_ofDigitChars_zero]
  exact Nat.add_pos_left (Nat.mul_pos (by positivity) hpos) _

/-- Digits that are the whole part of a number are those of their value. -/
lemma toDigits_ofDigitChars {cs : List Char} (h : IsWhole cs) :
    Nat.toDigits 10 (Nat.ofDigitChars 10 cs 0) = cs := by
  cases h with
  | zero => decide
  | @digits c cs leading all =>
    obtain ⟨-, hdigits⟩ := all
    have hc := hdigits c List.mem_cons_self
    induction cs using List.reverseRecOn with
    | nil =>
      rw [Nat.ofDigitChars_cons, Nat.ofDigitChars_nil, Nat.mul_zero, Nat.zero_add,
        Nat.toDigits_of_lt_base (digit_lt_ten hc), digitChar_digit hc]
    | append_singleton cs d ih =>
      have hd := hdigits d (by simp)
      have hinit := ih fun e he => hdigits e (List.mem_append_left _ he)
      rw [← List.cons_append, ofDigitChars_concat, ← Nat.toDigits_append_toDigits (by decide)
        (ofDigitChars_pos hc leading cs) (digit_lt_ten hd), hinit,
        Nat.toDigits_of_lt_base (digit_lt_ten hd), digitChar_digit hd]

/-! ### Fractions -/

/-- The value of digits that follow a point. -/
def fractionValue (cs : List Char) : ℚ :=
  Nat.ofDigitChars 10 cs 0 / 10 ^ cs.length

lemma fractionValue_nonneg (cs : List Char) : 0 ≤ fractionValue cs := by
  unfold fractionValue
  positivity

lemma fractionValue_lt_one {cs : List Char} (h : ∀ c ∈ cs, c.isDigit = true) :
    fractionValue cs < 1 := by
  rw [fractionValue, div_lt_one (by positivity)]
  exact_mod_cast ofDigitChars_lt h

/-- A zero at the end does not change the value of a fraction. -/
lemma fractionValue_concat_zero (cs : List Char) :
    fractionValue (cs ++ ['0']) = fractionValue cs := by
  rw [fractionValue, fractionValue, ofDigitChars_concat, List.length_append, List.length_singleton,
    pow_succ, Nat.sub_self, Nat.add_zero]
  push_cast
  rw [mul_comm (10 : ℚ), mul_div_mul_right _ _ (by norm_num)]

lemma fractionValue_append_zeros (cs : List Char) (k : Nat) :
    fractionValue (cs ++ List.replicate k '0') = fractionValue cs := by
  induction k with
  | zero => simp
  | succ k ih => rw [List.replicate_succ', ← List.append_assoc, fractionValue_concat_zero, ih]

/-- Fractions that do not end with zeros are told apart by their value. -/
lemma eq_of_fractionValue_eq {cs ds : List Char} (hcs : ∀ c ∈ cs, c.isDigit = true)
    (hds : ∀ c ∈ ds, c.isDigit = true) (trimmed : cs.getLast? ≠ some '0')
    (trimmed' : ds.getLast? ≠ some '0') (value : fractionValue cs = fractionValue ds) : cs = ds := by
  wlog hle : cs.length ≤ ds.length generalizing cs ds
  · exact (this hds hcs trimmed' trimmed value.symm (Nat.le_of_not_le hle)).symm
  obtain ⟨k, hk⟩ := Nat.exists_eq_add_of_le hle
  -- Filled up with zeros, the shorter one has the length and the value of the other.
  have hfilled : cs ++ List.replicate k '0' = ds := by
    have hlength : (cs ++ List.replicate k '0').length = ds.length := by simp [hk]
    refine eq_of_ofDigitChars_eq (fun c hc => ?_) hds hlength ?_
    · rcases List.mem_append.mp hc with hc | hc
      · exact hcs c hc
      · rw [List.eq_of_mem_replicate hc]
        rfl
    · have hvalue := (fractionValue_append_zeros cs k).trans value
      rw [fractionValue, fractionValue, hlength, div_left_inj' (by positivity)] at hvalue
      exact_mod_cast hvalue
  cases k with
  | zero => simpa using hfilled
  | succ k =>
    rw [List.replicate_succ', ← List.append_assoc] at hfilled
    exact absurd (by rw [← hfilled, List.getLast?_concat]) trimmed'

/-! ### Numerals -/

/-- A number in decimal: the digits before the point and those after it. -/
@[ext]
structure Numeral where
  whole : List Char
  fraction : List Char
  isWhole : IsWhole whole
  isDigit : ∀ c ∈ fraction, c.isDigit = true
  /-- No zero ends the fraction. -/
  trimmed : fraction.getLast? ≠ some '0'

namespace Numeral

/-- The number that a numeral stands for. -/
def value (n : Numeral) : ℚ :=
  Nat.ofDigitChars 10 n.whole 0 + fractionValue n.fraction

/-- The characters of a numeral. Without a fraction there is no point. -/
def chars (n : Numeral) : List Char :=
  if n.fraction = [] then n.whole else n.whole ++ '.' :: n.fraction

/-- Characters spell one numeral at most. -/
lemma chars_injective {m n : Numeral} (h : m.chars = n.chars) : m = n := by
  have hm := isDigit_of_isWhole m.isWhole
  have hn := isDigit_of_isWhole n.isWhole
  have hpoint : ∀ cs : List Char, ∀ c ∈ ('.' :: cs).head?, c.isDigit = false := by simp
  unfold chars at h
  split_ifs at h with hnone hnone' hnone'
  · ext1
    · exact h
    · rw [hnone, hnone']
  · have hmem : '.' ∈ m.whole := by simp [h]
    exact absurd (hm '.' hmem) (by decide)
  · have hmem : '.' ∈ n.whole := by simp [← h]
    exact absurd (hn '.' hmem) (by decide)
  · obtain ⟨hwhole, hfraction⟩ := append_inj_of_kind hm hn (hpoint _) (hpoint _) h
    ext1
    · exact hwhole
    · exact (List.cons.inj hfraction).2

/-- A number has one numeral at most. -/
lemma value_injective {m n : Numeral} (h : m.value = n.value) : m = n := by
  have hm := fractionValue_nonneg m.fraction
  have hn := fractionValue_nonneg n.fraction
  have hm_lt := fractionValue_lt_one m.isDigit
  have hn_lt := fractionValue_lt_one n.isDigit
  rw [value, value] at h
  have hwhole : Nat.ofDigitChars 10 m.whole 0 = Nat.ofDigitChars 10 n.whole 0 := by
    have hle : (Nat.ofDigitChars 10 m.whole 0 : ℚ) < Nat.ofDigitChars 10 n.whole 0 + 1 := by linarith
    have hge : (Nat.ofDigitChars 10 n.whole 0 : ℚ) < Nat.ofDigitChars 10 m.whole 0 + 1 := by linarith
    norm_cast at hle hge
    omega
  ext1
  · rw [← toDigits_ofDigitChars m.isWhole, hwhole, toDigits_ofDigitChars n.isWhole]
  · rw [hwhole] at h
    exact eq_of_fractionValue_eq m.isDigit n.isDigit m.trimmed n.trimmed (add_left_cancel h)

/-- A numeral has no characters but digits and the point. -/
lemma isDigit_or_point (n : Numeral) : ∀ c ∈ n.chars, (c.isDigit || c == '.') = true := by
  have hwhole := isDigit_of_isWhole n.isWhole
  have hfraction := n.isDigit
  intro c hc
  have hmem : c ∈ n.whole ∨ c = '.' ∨ c ∈ n.fraction := by
    unfold chars at hc
    split_ifs at hc
    · exact .inl hc
    · simpa using hc
  rcases hmem with hc | rfl | hc
  · simp [hwhole c hc]
  · rfl
  · simp [hfraction c hc]

end Numeral

end SnippetForge.Text
