import SnippetForge.Proofs.Json.Reading

/-!
# Reading what has been printed

Both printed forms of a value are spellings of it, so both are read back as that value; all that is
asked of the value is that its numbers are numbers. A printed form has no white space of its own in
front or behind, and no control character inside a string.

The main statements are `parse?_compact` and `parse?_pretty`.
-/

namespace SnippetForge.Json

/-! ### Strings -/

/-- Four digits spell the number that they were made of. -/
lemma unit?_hex4 {n : Nat} (h : n < 65536) :
    unit? (Text.hexDigit (n / 4096 % 16)) (Text.hexDigit (n / 256 % 16))
      (Text.hexDigit (n / 16 % 16)) (Text.hexDigit (n % 16)) = some n := by
  have hdigit : ∀ k, Text.hexValue? (Text.hexDigit (k % 16)) = some (k % 16) :=
    fun k => Text.hexValue?_hexDigit _ (Nat.mod_lt _ (by decide))
  simp only [unit?, hdigit, Option.some.injEq]
  omega

/-- The controls that are escaped by a letter. -/
def letteredControls : List Char :=
  [Char.ofNat 0x08, '\t', '\n', Char.ofNat 0x0C, '\r']

/-- The piece that a printed character is read as. -/
def pieceOf (c : Char) : Piece :=
  if c.toNat < 0x20 ∧ c ∉ letteredControls then .unit c.toNat else .char c

/-- A printed character spells its piece. -/
lemma writtenPieces_escapeChar (c : Char) {pieces : List Piece} {cs : List Char}
    (rest : WrittenPieces pieces cs) :
    WrittenPieces (pieceOf c :: pieces) (escapeChar c ++ cs) := by
  unfold pieceOf
  split_ifs with hunit
  · obtain ⟨hlow, hletter⟩ := hunit
    have hquote : c ≠ '"' := by
      rintro rfl
      exact absurd hlow (by decide)
    have hslash : c ≠ '\\' := by
      rintro rfl
      exact absurd hlow (by decide)
    simp only [letteredControls, List.mem_cons, not_or] at hletter
    have hescape : escapeChar c = '\\' :: 'u' :: Text.hex4 c.toNat := by
      simp [escapeChar, hquote, hslash, hletter, hlow]
    rw [hescape]
    exact .unit (unit?_hex4 (by omega)) rest
  · unfold escapeChar
    split_ifs with hquote hslash hvisible hback htab hline hform hreturn
    · exact .letter (by rw [hquote]; rfl) rest
    · exact .letter (by rw [hslash]; rfl) rest
    · exact .plain hquote hslash hvisible rest
    · exact .letter (by rw [hback]; rfl) rest
    · exact .letter (by rw [htab]; rfl) rest
    · exact .letter (by rw [hline]; rfl) rest
    · exact .letter (by rw [hform]; rfl) rest
    · exact .letter (by rw [hreturn]; rfl) rest
    · exact absurd ⟨by omega, by simp [letteredControls, *]⟩ hunit

/-- A printed text spells the pieces of its characters. -/
lemma writtenPieces_flatMap (cs : List Char) :
    WrittenPieces (cs.map pieceOf) (cs.flatMap escapeChar ++ ['"']) := by
  induction cs with
  | nil => exact .close
  | cons c cs ih =>
    rw [List.flatMap_cons, List.append_assoc]
    exact writtenPieces_escapeChar c ih

/-- A unit that is no half of a pair denotes its character. -/
lemma denote_unit {n : Nat} (high : isHigh n = false) (low : isLow n = false)
    (pieces : List Piece) (done : List Char) :
    denote (.unit n :: pieces) done = denote pieces (Char.ofNat n :: done) := by
  rcases pieces with - | ⟨c | m, pieces⟩ <;> simp [denote, high, low]

/-- The piece of a printed character denotes that character. -/
lemma denote_pieceOf (c : Char) (pieces : List Piece) (done : List Char) :
    denote (pieceOf c :: pieces) done = denote pieces (c :: done) := by
  unfold pieceOf
  split_ifs with hunit
  · have hhigh : isHigh c.toNat = false := by
      simp only [isHigh, Bool.and_eq_false_iff, decide_eq_false_iff_not]
      omega
    have hlow : isLow c.toNat = false := by
      simp only [isLow, Bool.and_eq_false_iff, decide_eq_false_iff_not]
      omega
    rw [denote_unit hhigh hlow, Char.ofNat_toNat]
  · rfl

/-- The pieces of printed characters denote those characters. -/
lemma denote_map_pieceOf (cs done : List Char) :
    denote (cs.map pieceOf) done = some (done.reverse ++ cs) := by
  induction cs generalizing done with
  | nil => simp [denote]
  | cons c cs ih =>
    rw [List.map_cons, denote_pieceOf, ih]
    simp

/-- A printed literal spells the literal. -/
lemma exists_pieces (l : Literal) : ∃ pieces key, literalChars l = '"' :: key ∧
    WrittenPieces pieces key ∧ literalOf pieces = l := by
  cases l with
  | text s =>
    refine ⟨s.toList.map pieceOf, _, rfl, writtenPieces_flatMap s.toList, ?_⟩
    simp [literalOf, denote_map_pieceOf]
  | unpaired =>
    have hunit : unit? 'd' '8' '0' '0' = some 0xD800 := by decide
    exact ⟨[.unit 0xD800], _, rfl, .unit hunit .close, rfl⟩

/-! ### Values -/

mutual

/-- Whether every number in a value is one. -/
def IsPrintable : Json → Prop
  | .number digits => IsNumber digits.toList
  | .array items => ArePrintable items
  | .object members => HavePrintable members
  | _ => True

/-- Whether every number in some items is one. -/
def ArePrintable : List Json → Prop
  | [] => True
  | v :: rest => IsPrintable v ∧ ArePrintable rest

/-- Whether every number in some members is one. -/
def HavePrintable : List (Literal × Json) → Prop
  | [] => True
  | (_, v) :: rest => IsPrintable v ∧ HavePrintable rest

end

lemma isPrintable_array_iff {items : List Json} :
    (Json.array items).IsPrintable ↔ ∀ v ∈ items, v.IsPrintable := by
  rw [IsPrintable]
  induction items with
  | nil => simp [ArePrintable]
  | cons v rest ih => simp [ArePrintable, ih]

lemma isPrintable_object_iff {members : List (Literal × Json)} :
    (Json.object members).IsPrintable ↔ ∀ m ∈ members, m.2.IsPrintable := by
  rw [IsPrintable]
  induction members with
  | nil => simp [HavePrintable]
  | cons m rest ih => simp [HavePrintable, ih]

/-! ### The compact form -/

mutual

/-- The compact form of a value spells it. -/
theorem written_compactChars : ∀ {v : Json}, v.IsPrintable → Written v (compactChars v)
  | .null, _ => .null
  | .bool true, _ => .yes
  | .bool false, _ => .no
  | .number digits, h => .number h
  | .string l, _ => by
    obtain ⟨pieces, key, heq, hkey, rfl⟩ := exists_pieces l
    rw [compactChars, heq]
    exact .string hkey
  | .array [], _ => .noItems .nil
  | .array (v :: rest), h => .array (writtenItems_compactItems (by simp) h)
  | .object [], _ => .noMembers .nil
  | .object (m :: rest), h => .object (writtenMembers_compactMembers (by simp) h)

/-- The compact form of items spells them. -/
theorem writtenItems_compactItems : ∀ {items : List Json}, items ≠ [] → ArePrintable items →
    WrittenItems items (compactItems items ++ [']'])
  | [v], _, h => .last (written_compactChars h.1) .nil
  | v :: w :: rest, _, h => by
    have hrest := writtenItems_compactItems (List.cons_ne_nil w rest) h.2
    have hnext := WrittenItems.next (written_compactChars h.1) .nil hrest
    simpa [compactItems] using hnext

/-- The compact form of members spells them. -/
theorem writtenMembers_compactMembers : ∀ {members : List (Literal × Json)}, members ≠ [] →
    HavePrintable members → WrittenMembers members (compactMembers members ++ ['\x7d'])
  | [(k, v)], _, h => by
    obtain ⟨pieces, key, heq, hkey, rfl⟩ := exists_pieces k
    have hlast := WrittenMembers.last .nil hkey .nil (written_compactChars h.1) .nil
    simpa [compactMembers, heq] using hlast
  | (k, v) :: m :: rest, _, h => by
    obtain ⟨pieces, key, heq, hkey, rfl⟩ := exists_pieces k
    have hrest := writtenMembers_compactMembers (List.cons_ne_nil m rest) h.2
    have hnext := WrittenMembers.next .nil hkey .nil (written_compactChars h.1) .nil hrest
    simpa [compactMembers, heq] using hnext

end

/-- The compact text of a value is read back as that value. -/
theorem parse?_compact {v : Json} (h : v.IsPrintable) : parse? v.compact = some v := by
  have hread := parseChars?_of_written (written_compactChars h) .nil
  simpa [parse?, compact] using hread

/-! ### The pretty form -/

/-- A line break with its indentation is white space. -/
lemma isGap_breakChars (level : Nat) : IsGap (breakChars level) := by
  intro c hc
  rcases List.mem_cons.mp hc with rfl | hc
  · decide
  · rw [List.eq_of_mem_replicate hc]
    decide

mutual

/-- The pretty form of a value spells it. -/
theorem written_prettyChars : ∀ (level : Nat) {v : Json}, v.IsPrintable →
    Written v (prettyChars level v)
  | _, .null, _ => .null
  | _, .bool true, _ => .yes
  | _, .bool false, _ => .no
  | _, .number digits, h => .number h
  | _, .string l, _ => by
    obtain ⟨pieces, key, heq, hkey, rfl⟩ := exists_pieces l
    rw [prettyChars, heq]
    exact .string hkey
  | _, .array [], _ => .noItems .nil
  | level, .array (v :: rest), h => by
    have hitems := writtenItems_prettyItems (level + 1) (by simp) h (isGap_breakChars level)
    have hitems := hitems.of_gap (isGap_breakChars (level + 1))
    simpa [prettyChars] using Written.array hitems
  | _, .object [], _ => .noMembers .nil
  | level, .object (m :: rest), h => by
    have hmembers := writtenMembers_prettyMembers (level + 1) (by simp) h (isGap_breakChars level)
    have hmembers := hmembers.of_gap (isGap_breakChars (level + 1))
    simpa [prettyChars] using Written.object hmembers

/-- The pretty form of items spells them. -/
theorem writtenItems_prettyItems : ∀ (level : Nat) {items : List Json} {ws : List Char},
    items ≠ [] → ArePrintable items → IsGap ws →
    WrittenItems items (prettyItems level items ++ (ws ++ [']']))
  | level, [v], ws, _, h, gap => .last (written_prettyChars level h.1) gap
  | level, v :: w :: rest, ws, _, h, gap => by
    have hrest := writtenItems_prettyItems level (List.cons_ne_nil w rest) h.2 gap
    have hnext := WrittenItems.next (written_prettyChars level h.1) .nil
      (hrest.of_gap (isGap_breakChars level))
    simpa [prettyItems] using hnext

/-- The pretty form of members spells them. -/
theorem writtenMembers_prettyMembers : ∀ (level : Nat) {members : List (Literal × Json)}
    {ws : List Char}, members ≠ [] → HavePrintable members → IsGap ws →
    WrittenMembers members (prettyMembers level members ++ (ws ++ ['\x7d']))
  | level, [(k, v)], ws, _, h, gap => by
    obtain ⟨pieces, key, heq, hkey, rfl⟩ := exists_pieces k
    have hvalue : Written v (' ' :: prettyChars level v) :=
      .gap rfl (written_prettyChars level h.1)
    simpa [prettyMembers, heq] using WrittenMembers.last .nil hkey .nil hvalue gap
  | level, (k, v) :: m :: rest, ws, _, h, gap => by
    obtain ⟨pieces, key, heq, hkey, rfl⟩ := exists_pieces k
    have hvalue : Written v (' ' :: prettyChars level v) :=
      .gap rfl (written_prettyChars level h.1)
    have hrest := writtenMembers_prettyMembers level (List.cons_ne_nil m rest) h.2 gap
    have hnext := WrittenMembers.next .nil hkey .nil hvalue .nil
      (hrest.of_gap (isGap_breakChars level))
    simpa [prettyMembers, heq] using hnext

end

/-- The pretty text of a value is read back as that value. -/
theorem parse?_pretty {v : Json} (h : v.IsPrintable) : parse? v.pretty = some v := by
  have hread := parseChars?_of_written (written_prettyChars 0 h) .nil
  simpa [parse?, pretty] using hread

/-- So is the pretty text on a line of its own. -/
theorem parse?_pretty_line {v : Json} (h : v.IsPrintable) : parse? (v.pretty ++ "\n") = some v := by
  have gap : IsGap ['\n'] := by simp [IsGap, isSpace]
  have hread := parseChars?_of_written (written_prettyChars 0 h) gap
  simpa [parse?, pretty] using hread

end SnippetForge.Json
