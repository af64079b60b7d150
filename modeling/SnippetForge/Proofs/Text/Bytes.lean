import Mathlib

/-!
# Texts and their bytes

A text is read back from the bytes that encode it, and also from behind other bytes: these are text
exactly if all of it is.

Names of files are put in order by the bytes that encode them. The order of texts that the library
has compares characters. The two agree, because the encoding of a character with a smaller number
is smaller at the first byte in which the two encodings differ, and no encoding is the beginning of
another one.
-/

namespace SnippetForge.Text

/-! ### Sizes -/

/-- A text of characters that take one byte each has as many bytes as characters. -/
lemma size_ofList {cs : List Char} (h : ∀ c ∈ cs, c.utf8Size = 1) :
    (String.ofList cs).utf8ByteSize = cs.length := by
  induction cs with
  | nil => rfl
  | cons c cs ih =>
    have hsplit : String.ofList (c :: cs) = String.singleton c ++ String.ofList cs := by
      rw [← String.toList_inj]
      simp
    rw [hsplit, String.utf8ByteSize_append, String.utf8ByteSize_singleton,
      h c (List.mem_cons_self ..), ih fun b hb => h b (List.mem_cons_of_mem _ hb),
      List.length_cons, Nat.add_comm]

/-! ### Decoding -/

/-- A text at the end of bytes does not count for whether they are one. -/
lemma isValidUTF8_append_iff {front back : ByteArray} (hback : back.IsValidUTF8) :
    (front ++ back).IsValidUTF8 ↔ front.IsValidUTF8 := by
  constructor
  · intro hboth
    let s := String.ofByteArray (front ++ back) hboth
    -- Where a text follows, one character has ended and the next one begins.
    have hposition : (String.Pos.Raw.mk front.size).IsValid s := by
      rw [String.Pos.Raw.isValid_iff_isValidUTF8_extract_utf8ByteSize]
      refine ⟨by simp [s, String.Pos.Raw.le_iff, String.rawEndPos, String.utf8ByteSize], ?_⟩
      have hextract : (front ++ back).extract front.size (front.size + back.size) = back :=
        ByteArray.extract_append_eq_right rfl rfl
      simpa [s, String.utf8ByteSize, hextract] using hback
    have hfront := hposition.isValidUTF8_extract_zero
    simpa [s, ByteArray.extract_append_eq_left] using hfront
  · exact fun hfront => hfront.append hback

lemma fromUTF8?_toUTF8 (s : String) : String.fromUTF8? s.toUTF8 = some s := by
  unfold String.fromUTF8?
  rw [String.toUTF8_eq_toByteArray, dif_pos s.isValidUTF8]
  rfl

lemma fromUTF8?_eq_some_iff {bytes : ByteArray} {s : String} :
    String.fromUTF8? bytes = some s ↔ bytes = s.toUTF8 := by
  constructor
  · intro h
    unfold String.fromUTF8? at h
    split at h
    · rw [← Option.some.inj h]
      rfl
    · simp at h
  · rintro rfl
    exact fromUTF8?_toUTF8 s

lemma toUTF8_append (a b : String) : (a ++ b).toUTF8 = a.toUTF8 ++ b.toUTF8 := by
  simp

/-- Bytes with a text at their end are the text of the bytes before it and that text. -/
lemma fromUTF8?_append (front : ByteArray) (s : String) :
    String.fromUTF8? (front ++ s.toUTF8) = (String.fromUTF8? front).map (· ++ s) := by
  have hs : s.toUTF8.IsValidUTF8 := by
    rw [String.toUTF8_eq_toByteArray]
    exact s.isValidUTF8
  cases hfront : String.fromUTF8? front with
  | some text =>
    rw [fromUTF8?_eq_some_iff] at hfront
    rw [hfront, ← toUTF8_append, fromUTF8?_toUTF8]
    rfl
  | none =>
    have hinvalid : ¬ front.IsValidUTF8 := by
      intro hvalid
      simp [String.fromUTF8?, hvalid] at hfront
    rw [String.fromUTF8?, dif_neg (fun h => hinvalid ((isValidUTF8_append_iff hs).mp h))]
    rfl

/-! ### Order -/

/-- The bytes that encode a text. -/
def bytes (s : String) : List UInt8 :=
  s.toUTF8.data.toList

lemma bytes_eq (s : String) : bytes s = s.toList.flatMap String.utf8EncodeChar := by
  have h : s.toUTF8 = s.toList.utf8Encode := (String.utf8Encode_toList (b := s)).symm
  rw [bytes, h, List.utf8Encode, List.toList_data_toByteArray]

/-- The numbers of bytes decide which of two lists of bytes is smaller. -/
lemma cons_lt_cons_iff {m n : Nat} (hm : m < 256) (hn : n < 256) {xs ys : List UInt8} :
    UInt8.ofNat m :: xs < UInt8.ofNat n :: ys ↔ m < n ∨ m = n ∧ xs < ys := by
  rw [List.cons_lt_cons_iff, UInt8.lt_iff_toNat_lt, ← UInt8.toNat_inj, UInt8.toNat_ofNat',
    UInt8.toNat_ofNat', Nat.mod_eq_of_lt hm, Nat.mod_eq_of_lt hn]

/-- A character with a smaller number has a smaller encoding, whatever follows. -/
lemma encode_lt_encode {a b : Char} (h : a < b) (xs ys : List UInt8) :
    String.utf8EncodeChar a ++ xs < String.utf8EncodeChar b ++ ys := by
  have hval : a.val.toNat < b.val.toNat := h
  have hmax : b.val.toNat < 1114112 := by
    rcases b.valid with hlow | ⟨-, hhigh⟩ <;> omega
  unfold String.utf8EncodeChar
  generalize a.val.toNat = m at *
  generalize b.val.toNat = n at *
  have htwo : ∀ k : Nat, k / 4096 = k / 64 / 64 := fun k => by omega
  have hthree : ∀ k : Nat, k / 262144 = k / 64 / 64 / 64 := fun k => by omega
  simp only [htwo, hthree]
  -- Encodings of different lengths differ in their first bytes, whose ranges are in order.
  split_ifs
  all_goals simp (disch := omega) only [List.cons_append, List.nil_append, cons_lt_cons_iff]
  all_goals omega

/-- Texts whose characters are in order have their bytes in order. -/
lemma bytes_lt_bytes {a b : String} (h : a < b) : bytes a < bytes b := by
  rw [String.lt_iff_toList_lt] at h
  rw [bytes_eq, bytes_eq]
  generalize a.toList = xs at h
  generalize b.toList = ys at h
  induction xs generalizing ys with
  | nil =>
    cases ys with
    | nil => exact absurd h (List.lt_irrefl _)
    | cons c ys =>
      obtain ⟨byte, rest, hbytes⟩ := List.exists_cons_of_ne_nil (@String.utf8EncodeChar_ne_nil c)
      rw [List.flatMap_nil, List.flatMap_cons, hbytes]
      exact List.nil_lt_cons _ _
  | cons c xs ih =>
    cases ys with
    | nil => exact absurd h (List.not_lt_nil _)
    | cons c' ys =>
      rw [List.flatMap_cons, List.flatMap_cons]
      rcases List.cons_lt_cons_iff.mp h with hlt | ⟨rfl, hlt⟩
      · exact encode_lt_encode hlt _ _
      · exact List.append_left_lt (ih ys hlt)

end SnippetForge.Text
