import SnippetForge.Duration
import SnippetForge.Proofs.Text.Numerals

/-!
# Durations in words

A duration is told exactly: by the numeral of how often the largest unit that fits goes into it, and
the sign of that unit. Nothing is rounded, however long or short it is.

So there is one text only that tells a duration, and it is the one that is written. The unit is fixed
by the duration, the number by the two, and a number has one numeral. Conversely a text tells one
duration only, since its numeral ends where the sign of the unit starts.
-/

namespace SnippetForge

open Text (Numeral append_inj_of_kind fractionValue)

/-! ### Units -/

/-- The units of time by their signs, with the seconds that each has. -/
inductive TimeUnit : String → ℚ → Prop
  | second : TimeUnit "s" 1
  | milli : TimeUnit "ms" (1 / 10 ^ 3)
  | micro : TimeUnit "µs" (1 / 10 ^ 6)
  | nano : TimeUnit "ns" (1 / 10 ^ 9)

namespace TimeUnit

variable {sign sign' : String} {size size' : ℚ}

lemma congr_size (h : TimeUnit sign size) (heq : size' = size) : TimeUnit sign size' := by
  rwa [heq]

lemma size_pos (h : TimeUnit sign size) : 0 < size := by
  cases h <;> norm_num

/-- Units are told apart by their sizes. -/
lemma sign_eq (h : TimeUnit sign size) (h' : TimeUnit sign' size') (heq : size = size') :
    sign = sign' := by
  cases h <;> cases h' <;> first | rfl | norm_num at heq

/-- Units are told apart by their signs. -/
lemma size_eq (h : TimeUnit sign size) (h' : TimeUnit sign' size') (heq : sign = sign') :
    size = size' := by
  cases h <;> cases h' <;> first | rfl | exact absurd heq (by decide)

/-- No sign starts like a number. -/
lemma head_sign (h : TimeUnit sign size) :
    ∀ c ∈ sign.toList.head?, (c.isDigit || c == '.') = false := by
  cases h <;> simp

end TimeUnit

namespace Duration

/-- A duration in seconds. -/
def seconds (d : Duration) : ℚ :=
  d.secs + d.nanos / 10 ^ 9

/-- A text tells exactly how long a duration is. -/
inductive Tells : String → Duration → Prop
  /-- No time at all is told in nanoseconds. -/
  | nothing {d : Duration} (zero : d.seconds = 0) : Tells "0ns" d
  /-- All other time is told in the largest unit that fits into it. -/
  | units {d : Duration} {sign : String} {size : ℚ} {n : Numeral} (unit : TimeUnit sign size)
      (value : n.value * size = d.seconds) (fits : 1 ≤ n.value)
      (largest : ∀ sign' size', TimeUnit sign' size' → size < size' → d.seconds < size') :
      Tells (String.ofList n.chars ++ sign) d

lemma seconds_eq (d : Duration) : d.seconds = d.totalNanos / 10 ^ 9 := by
  rw [seconds, totalNanos]
  push_cast
  ring

lemma seconds_eq_zero_iff {d : Duration} : d.seconds = 0 ↔ d.totalNanos = 0 := by
  rw [seconds_eq, div_eq_zero_iff]
  norm_num

lemma seconds_injective {d d' : Duration} (h : d.seconds = d'.seconds) : d = d' := by
  rw [seconds_eq, seconds_eq, div_left_inj' (by norm_num)] at h
  rw [← ofNanos_totalNanos d, ← ofNanos_totalNanos d']
  exact congrArg ofNanos (by exact_mod_cast h)

/-! ### The unit that is written -/

lemma Scale.size_pos (u : Scale) : 0 < u.size := by
  cases u <;> simp [size]

/-- The scale of a duration is a unit of time. -/
lemma timeUnit_scale (u : Scale) : TimeUnit u.sign (u.size / 10 ^ 9) := by
  cases u with
  | second => exact TimeUnit.second.congr_size (by norm_num [Scale.size])
  | milli => exact TimeUnit.milli.congr_size (by norm_num [Scale.size])
  | micro => exact TimeUnit.micro.congr_size (by norm_num [Scale.size])
  | nano => exact TimeUnit.nano.congr_size (by norm_num [Scale.size])

/-- A unit of time is a scale. -/
lemma exists_scale {sign : String} {size : ℚ} (h : TimeUnit sign size) :
    ∃ u : Scale, size = u.size / 10 ^ 9 := by
  cases h with
  | second => exact ⟨.second, by norm_num [Scale.size]⟩
  | milli => exact ⟨.milli, by norm_num [Scale.size]⟩
  | micro => exact ⟨.micro, by norm_num [Scale.size]⟩
  | nano => exact ⟨.nano, by norm_num [Scale.size]⟩

/-- The scale of a duration that is not empty fits into it, and no larger one does. -/
lemma scale_spec {d : Duration} (h : d.totalNanos ≠ 0) :
    d.scale.size ≤ d.totalNanos ∧ ∀ u : Scale, d.scale.size < u.size → d.totalNanos < u.size := by
  simp only [scale]
  split_ifs with hsecond hmilli hmicro
  · exact ⟨hsecond, fun u hu => by cases u <;> simp [Scale.size] at hu⟩
  · exact ⟨hmilli, fun u hu => by cases u <;> simp [Scale.size] at hu ⊢; omega⟩
  · exact ⟨hmicro, fun u hu => by cases u <;> simp [Scale.size] at hu ⊢ <;> omega⟩
  · refine ⟨Nat.one_le_iff_ne_zero.mpr h, fun u hu => ?_⟩
    cases u <;> simp [Scale.size] at hu ⊢ <;> omega

/-! ### The number that is written -/

lemma length_fixedDigits (width n : Nat) : (fixedDigits width n).length = width := by
  induction width generalizing n with
  | zero => rfl
  | succ width ih => rw [fixedDigits, List.length_append, ih, List.length_singleton]

lemma isDigit_fixedDigits (width n : Nat) : ∀ c ∈ fixedDigits width n, c.isDigit = true := by
  induction width generalizing n with
  | zero => simp [fixedDigits]
  | succ width ih =>
    intro c hc
    rw [fixedDigits, List.mem_append, List.mem_singleton] at hc
    rcases hc with hc | rfl
    · exact ih (n / 10) c hc
    · rw [Nat.isDigit_digitChar, decide_eq_true_eq]
      exact Nat.mod_lt n (by decide)

/-- So many digits of a number spell what the number leaves when it is divided by that power of
ten. -/
lemma ofDigitChars_fixedDigits (width n : Nat) :
    Nat.ofDigitChars 10 (fixedDigits width n) 0 = n % 10 ^ width := by
  induction width generalizing n with
  | zero => simp [fixedDigits, Nat.mod_one]
  | succ width ih =>
    have hdigit : (Nat.digitChar (n % 10)).toNat - '0'.toNat = n % 10 :=
      Nat.toNat_digitChar_sub_48_of_lt_ten (Nat.mod_lt n (by decide))
    rw [fixedDigits, Text.ofDigitChars_concat, ih, hdigit, pow_succ', Nat.mod_mul]
    omega

/-- Only a zero at the end is dropped. -/
lemma dropTrailingZeros_concat (cs : List Char) (c : Char) :
    dropTrailingZeros (cs ++ [c]) = if c = '0' then dropTrailingZeros cs else cs ++ [c] := by
  simp only [dropTrailingZeros, List.reverse_append, List.reverse_singleton, List.singleton_append,
    List.dropWhile_cons, beq_iff_eq]
  split_ifs <;> simp

lemma mem_of_mem_dropTrailingZeros {cs : List Char} {c : Char} (h : c ∈ dropTrailingZeros cs) :
    c ∈ cs :=
  (List.rdropWhile_prefix _ cs).subset h

lemma fractionValue_dropTrailingZeros (cs : List Char) :
    fractionValue (dropTrailingZeros cs) = fractionValue cs := by
  induction cs using List.reverseRecOn with
  | nil => rfl
  | append_singleton cs c ih =>
    rw [dropTrailingZeros_concat]
    split_ifs with hc
    · rw [ih, hc, Text.fractionValue_concat_zero]
    · rfl

lemma getLast?_dropTrailingZeros (cs : List Char) :
    (dropTrailingZeros cs).getLast? ≠ some '0' := by
  induction cs using List.reverseRecOn with
  | nil => simp [dropTrailingZeros]
  | append_singleton cs c ih =>
    rw [dropTrailingZeros_concat]
    split_ifs with hc
    · exact ih
    · simpa using hc

/-- The numeral of a duration in its unit. -/
def numeral (d : Duration) : Numeral where
  whole := Nat.toDigits 10 (d.totalNanos / d.scale.size)
  fraction := d.fraction
  isWhole := Json.isWhole_toDigits _
  isDigit c hc := isDigit_fixedDigits _ _ c (mem_of_mem_dropTrailingZeros hc)
  trimmed := getLast?_dropTrailingZeros _

lemma chars_numeral (d : Duration) : d.numeral.chars = d.number := by
  have hwhole : d.numeral.whole = Nat.toDigits 10 (d.totalNanos / d.scale.size) := rfl
  have hfraction : d.numeral.fraction = d.fraction := rfl
  rw [Numeral.chars, number, ← hwhole, ← hfraction]
  cases d.numeral.fraction with
  | nil => rw [if_pos rfl, pointed, List.append_nil]
  | cons c cs => rw [if_neg (List.cons_ne_nil c cs)]; rfl

/-- The numeral is what the duration is in its unit, and nothing is rounded. -/
lemma value_numeral (d : Duration) : d.numeral.value = d.totalNanos / d.scale.size := by
  have hsize : d.scale.size = 10 ^ d.scale.places := Scale.size_eq d.scale
  have hpos : (d.scale.size : ℚ) ≠ 0 := by rw [hsize]; positivity
  have hfraction : fractionValue d.fraction = (d.totalNanos % d.scale.size : Nat) / d.scale.size := by
    rw [fraction, fractionValue_dropTrailingZeros, fractionValue, ofDigitChars_fixedDigits,
      length_fixedDigits, ← hsize, Nat.mod_mod, hsize]
    push_cast
    rfl
  have hdiv := Nat.div_add_mod d.totalNanos d.scale.size
  rw [Numeral.value, numeral, Nat.ofDigitChars_ten_toDigits, hfraction, eq_div_iff hpos, add_mul,
    div_mul_cancel₀ _ hpos]
  exact_mod_cast (by rw [mul_comm]; exact hdiv)

/-! ### The text that is written -/

/-- The text of a duration tells it. -/
lemma tells_text (d : Duration) : Tells d.text d := by
  rcases eq_or_ne d.totalNanos 0 with hzero | hzero
  · obtain rfl : d = ofNanos 0 := by rw [← hzero, ofNanos_totalNanos]
    have htext : (ofNanos 0).text = "0ns" := by decide
    rw [htext]
    exact .nothing (seconds_eq_zero_iff.mpr hzero)
  · obtain ⟨hfits, hlargest⟩ := scale_spec hzero
    have hpos : (0 : ℚ) < d.scale.size := by exact_mod_cast d.scale.size_pos
    rw [text, ← chars_numeral]
    refine .units (timeUnit_scale d.scale) ?_ ?_ fun sign' size' hunit hlt => ?_
    · rw [value_numeral, seconds_eq, div_mul_div_cancel₀ hpos.ne']
    · rw [value_numeral, one_le_div hpos]
      exact_mod_cast hfits
    · obtain ⟨u, rfl⟩ := exists_scale hunit
      rw [div_lt_div_iff_of_pos_right (by norm_num)] at hlt
      rw [seconds_eq, div_lt_div_iff_of_pos_right (by norm_num)]
      exact_mod_cast hlargest u (by exact_mod_cast hlt)

example : [0, 999, 1000, 1050000, 60000000001].map (fun n => (ofNanos n).text)
    = ["0ns", "999ns", "1µs", "1.05ms", "60.000000001s"] := by decide +kernel

/-! ### Telling durations apart -/

/-- A text that tells a duration is a numeral and the sign of a unit, whose product the duration is. -/
lemma Tells.exists_numeral {t : String} {d : Duration} (h : Tells t d) :
    ∃ (n : Numeral) (sign : String) (size : ℚ), TimeUnit sign size ∧
      t = String.ofList n.chars ++ sign ∧ n.value * size = d.seconds := by
  cases h with
  | nothing zero =>
    refine ⟨⟨['0'], [], .zero, by simp, by simp⟩, "ns", _, .nano, rfl, ?_⟩
    rw [zero, Numeral.value, fractionValue]
    simp [Nat.ofDigitChars_cons, Nat.ofDigitChars_nil]
  | units unit value _ _ => exact ⟨_, _, _, unit, rfl, value⟩

/-- A text tells one duration only. -/
lemma Tells.duration_eq {t : String} {d d' : Duration} (h : Tells t d) (h' : Tells t d') :
    d = d' := by
  obtain ⟨n, sign, size, hunit, htext, hvalue⟩ := h.exists_numeral
  obtain ⟨n', sign', size', hunit', htext', hvalue'⟩ := h'.exists_numeral
  have hchars : n.chars ++ sign.toList = n'.chars ++ sign'.toList := by
    have h := congrArg String.toList (htext.symm.trans htext')
    rwa [String.toList_append, String.toList_append, String.toList_ofList, String.toList_ofList] at h
  -- The sign starts with the first character that is neither a digit nor the point.
  obtain ⟨hnumeral, hsign⟩ := append_inj_of_kind n.isDigit_or_point n'.isDigit_or_point
    hunit.head_sign hunit'.head_sign hchars
  obtain rfl := Numeral.chars_injective hnumeral
  obtain rfl := hunit.size_eq hunit' (String.toList_injective hsign)
  exact seconds_injective (hvalue.symm.trans hvalue')

section Units

variable {d : Duration} {sign : String} {size : ℚ} {n : Numeral}

/-- A unit that goes at least once into a duration is no longer than that. -/
lemma size_le_seconds (unit : TimeUnit sign size) (value : n.value * size = d.seconds)
    (fits : 1 ≤ n.value) : size ≤ d.seconds := by
  rw [← value]
  exact le_mul_of_one_le_left unit.size_pos.le fits

lemma seconds_ne_zero (unit : TimeUnit sign size) (value : n.value * size = d.seconds)
    (fits : 1 ≤ n.value) : d.seconds ≠ 0 :=
  (unit.size_pos.trans_le (size_le_seconds unit value fits)).ne'

end Units

/-- A duration is told by one text only. -/
lemma Tells.text_eq {t t' : String} {d : Duration} (h : Tells t d) (h' : Tells t' d) : t = t' := by
  cases h with
  | nothing zero =>
    cases h' with
    | nothing _ => rfl
    | units unit value fits _ => exact absurd zero (seconds_ne_zero unit value fits)
  | @units _ sign size n unit value fits largest =>
    cases h' with
    | nothing zero => exact absurd zero (seconds_ne_zero unit value fits)
    | @units _ sign' size' n' unit' value' fits' largest' =>
      -- Both units are the largest one that fits.
      obtain rfl : size = size' := by
        rcases lt_trichotomy size size' with hlt | heq | hlt
        · exact absurd (largest _ _ unit' hlt) (size_le_seconds unit' value' fits').not_gt
        · exact heq
        · exact absurd (largest' _ _ unit hlt) (size_le_seconds unit value fits).not_gt
      obtain rfl := unit.sign_eq unit' rfl
      obtain rfl : n = n' :=
        Numeral.value_injective (mul_right_cancel₀ unit.size_pos.ne' (value.trans value'.symm))
      rfl

/-- The text of a duration is the one that tells it. -/
lemma tells_iff {t : String} {d : Duration} : Tells t d ↔ t = d.text := by
  constructor
  · exact fun h => h.text_eq (tells_text d)
  · rintro rfl
    exact tells_text d

/-- Durations are told apart by their texts. -/
lemma text_inj {d d' : Duration} : d.text = d'.text ↔ d = d' := by
  refine ⟨fun h => (tells_text d).duration_eq ?_, congrArg text⟩
  rw [h]
  exact tells_text d'

/-- The text of a duration is one word. -/
lemma space_notMem_text (d : Duration) : ' ' ∉ d.text.toList := by
  obtain ⟨n, sign, size, hunit, htext, -⟩ := (tells_text d).exists_numeral
  rw [htext, String.toList_append, String.toList_ofList, List.mem_append, not_or]
  refine ⟨fun hmem => ?_, ?_⟩
  · exact absurd (n.isDigit_or_point ' ' hmem) (by decide)
  · cases hunit <;> decide

end Duration

end SnippetForge
