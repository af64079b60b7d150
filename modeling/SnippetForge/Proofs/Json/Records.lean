import SnippetForge.Proofs.Json.Printing

/-!
# Values as JSON records

A type is *faithful* in JSON if every value of it has a printable JSON value that is read back as
that value. Texts, lists of a faithful type and records of faithful fields are faithful; a record
gives each of its fields under its name, as long as no two names are the same.

From faithfulness alone it follows that both printed forms lose nothing: each is read back, no two
values print alike, and printing what has been read settles a text for good.
-/

namespace SnippetForge.Json

/-! ### Records and lists -/

lemma mapM_key?_record (members : List (String × Json)) :
    (members.map fun m => ((Literal.text m.1, m.2) : Literal × Json)).mapM Literal.key?
      = some members := by
  induction members with
  | nil => rfl
  | cons m members ih => simp [List.mapM_cons, Literal.key?, ih]

/-- Keys that are texts are kept with their values. -/
lemma map_text_of_mapM_key? {members : List (Literal × Json)} {keyed : List (String × Json)}
    (h : members.mapM Literal.key? = some keyed) :
    members = keyed.map fun m => (Literal.text m.1, m.2) := by
  induction members generalizing keyed with
  | nil =>
    obtain rfl : keyed = [] := by simpa using h.symm
    rfl
  | cons m members ih =>
    obtain ⟨literal, v⟩ := m
    rw [List.mapM_cons] at h
    cases literal with
    | unpaired => simp [Literal.key?] at h
    | text name =>
      cases hrest : members.mapM Literal.key? with
      | none => simp [Literal.key?, hrest] at h
      | some rest =>
        obtain rfl : (name, v) :: rest = keyed := by simpa [Literal.key?, hrest] using h
        rw [List.map_cons, ← ih hrest]

/-- All keys are texts exactly in a record. -/
lemma mapM_key?_eq_some_iff {members : List (Literal × Json)} {keyed : List (String × Json)} :
    members.mapM Literal.key? = some keyed ↔ object members = record keyed := by
  constructor
  · intro h
    rw [map_text_of_mapM_key? h, record]
  · intro h
    rw [object.inj h, mapM_key?_record]

/-- A name that stands for one member gives its value. -/
lemma unique?_of_mem {members : List (String × Json)} (distinct : (members.map Prod.fst).Nodup)
    {m : String × Json} (h : m ∈ members) : unique? m.1 members = some (some m.2) := by
  have hfilter : (members.filter fun n => n.1 == m.1) = [m] := by
    induction members with
    | nil => simp at h
    | cons n members ih =>
      rw [List.map_cons, List.nodup_cons] at distinct
      rcases List.mem_cons.mp h with rfl | h
      · have hnone : (members.filter fun n => n.1 == m.1) = [] := by
          rw [List.filter_eq_nil_iff]
          intro n hn heq
          exact distinct.1 (List.mem_map.mpr ⟨n, hn, by simpa using heq⟩)
        simp [hnone]
      · have hne : (n.1 == m.1) = false := by
          rw [beq_eq_false_iff_ne]
          exact fun heq => distinct.1 (List.mem_map.mpr ⟨m, h, heq.symm⟩)
        rw [List.filter_cons, hne]
        exact ih distinct.2 h
  rw [unique?, hfilter]

/-- A record gives each of its fields under its name. -/
lemma fields?_record {members : List (String × Json)} (distinct : (members.map Prod.fst).Nodup) :
    (record members).fields? (members.map Prod.fst) = some (members.map fun m => some m.2) := by
  have hall : ∀ names : List (String × Json), (∀ m ∈ names, m ∈ members) →
      (names.map Prod.fst).mapM (fun name => unique? name members)
        = some (names.map fun m => some m.2) := by
    intro names hnames
    induction names with
    | nil => rfl
    | cons m names ih =>
      simp [List.mapM_cons, unique?_of_mem distinct (hnames m List.mem_cons_self),
        ih fun n hn => hnames n (List.mem_cons_of_mem _ hn)]
  rw [record, fields?, mapM_key?_record]
  exact hall members fun _ h => h

/-- An array of values that are read back is read back. -/
lemma list?_array_map {α : Type} {toJson : α → Json} {read? : Json → Option α}
    (h : ∀ a, read? (toJson a) = some a) (as : List α) :
    list? read? (.array (as.map toJson)) = some as := by
  rw [list?, items?, Option.bind_some]
  induction as with
  | nil => rfl
  | cons a as ih => simp [List.mapM_cons, h, ih]

lemma texts?_ofTexts (texts : List String) : texts? (ofTexts texts) = some texts := by
  have htext : ∀ s, text? (ofText s) = some s := fun _ => rfl
  exact list?_array_map htext texts

/-- Only an array of texts is read as texts. -/
lemma texts?_eq_some_iff {v : Json} {texts : List String} :
    v.texts? = some texts ↔ v = ofTexts texts := by
  constructor
  · intro h
    cases v with
    | array items =>
      change items.mapM text? = some texts at h
      suffices hitems : items = texts.map ofText by rw [hitems, ofTexts]
      induction items generalizing texts with
      | nil =>
        obtain rfl : texts = [] := by simpa using h.symm
        rfl
      | cons item items ih =>
        rw [List.mapM_cons] at h
        obtain ⟨first, hfirst, h⟩ := Option.bind_eq_some_iff.mp h
        obtain ⟨rest, hrest, h⟩ := Option.bind_eq_some_iff.mp h
        obtain rfl := Option.some.inj h
        rw [List.map_cons, ih hrest]
        unfold text? at hfirst
        split at hfirst
        · rw [Option.some.inj hfirst, ofText]
        · cases hfirst
    | _ => cases h
  · rintro rfl
    exact texts?_ofTexts texts

lemma isPrintable_ofText (s : String) : (ofText s).IsPrintable :=
  trivial

lemma isPrintable_ofTexts (texts : List String) : (ofTexts texts).IsPrintable := by
  rw [ofTexts, isPrintable_array_iff]
  intro v hv
  obtain ⟨s, -, rfl⟩ := List.mem_map.mp hv
  exact isPrintable_ofText s

/-- The digits of a natural number start with a zero only if it is zero. -/
lemma head?_toDigits {n : Nat} (h : n ≠ 0) : (Nat.toDigits 10 n).head? ≠ some '0' := by
  induction n using Nat.strongRecOn with
  | ind n ih =>
    rcases Nat.lt_or_ge n 10 with hlt | hge
    · rw [Nat.toDigits_of_lt_base hlt]
      interval_cases n <;> first | exact absurd rfl h | decide
    · rw [Nat.toDigits_of_base_le (by decide) hge, List.head?_append_of_ne_nil _ Nat.toDigits_ne_nil]
      exact ih (n / 10) (by omega) (by omega)

/-- The digits of a natural number are the whole part of one. -/
lemma isWhole_toDigits (n : Nat) : IsWhole (Nat.toDigits 10 n) := by
  rcases eq_or_ne n 0 with rfl | hne
  · exact .zero
  · have hhead := head?_toDigits hne
    have hdigits : AreDigits (Nat.toDigits 10 n) := ⟨Nat.toDigits_ne_nil, fun c hc =>
      Nat.isDigit_of_mem_toDigits (by decide) (by decide) hc⟩
    cases hcs : Nat.toDigits 10 n with
    | nil => exact absurd hcs Nat.toDigits_ne_nil
    | cons c cs =>
      rw [hcs] at hhead hdigits
      exact .digits (by simpa using hhead) hdigits

/-- The digits of a natural number are a number. -/
lemma isNumber_toDigits (n : Nat) : IsNumber (Nat.toDigits 10 n) := by
  simpa using IsNumber.positive (isWhole_toDigits n) .none .none

lemma isPrintable_ofNat (n : Nat) : (ofNat n).IsPrintable := by
  rw [ofNat, IsPrintable, String.toList_ofList]
  exact isNumber_toDigits n

lemma isPrintable_record {members : List (String × Json)}
    (h : ∀ m ∈ members, m.2.IsPrintable) : (record members).IsPrintable := by
  rw [record, isPrintable_object_iff]
  intro m hm
  obtain ⟨n, hn, rfl⟩ := List.mem_map.mp hm
  exact h n hn

/-! ### Faithful types -/

/-- Every value of a type has a printable JSON value that is read back as that value. -/
structure IsFaithful {α : Type} (toJson : α → Json) (ofJson? : Json → Option α) : Prop where
  isPrintable : ∀ a, (toJson a).IsPrintable
  ofJson?_toJson : ∀ a, ofJson? (toJson a) = some a

/-- A list of values of a faithful type is faithful. -/
lemma IsFaithful.list {α : Type} {toJson : α → Json} {ofJson? : Json → Option α}
    (h : IsFaithful toJson ofJson?) :
    IsFaithful (fun as => .array (as.map toJson)) (list? ofJson?) where
  isPrintable as := by
    rw [isPrintable_array_iff]
    intro v hv
    obtain ⟨a, -, rfl⟩ := List.mem_map.mp hv
    exact h.isPrintable a
  ofJson?_toJson := list?_array_map h.ofJson?_toJson

/-- Texts of a type, in any of some printed forms, stand for its values without loss: every value
is read back from each of its forms, no two values have the same form, and a text that has been
read and printed again is printed the same from then on. -/
structure IsLossless {α : Type} (forms : List (Json → String)) (toJson : α → Json)
    (ofText? : String → Option α) : Prop where
  ofText?_form : ∀ form ∈ forms, ∀ a, ofText? (form (toJson a)) = some a
  injective : ∀ form ∈ forms, Function.Injective fun a => form (toJson a)
  settled : ∀ form ∈ forms, ∀ text text',
    (ofText? text).map (fun a => form (toJson a)) = some text' →
    (ofText? text').map (fun a => form (toJson a)) = some text'

/-- Both printed forms of a faithful type are lossless. -/
lemma IsFaithful.isLossless {α : Type} {toJson : α → Json} {ofJson? : Json → Option α}
    (h : IsFaithful toJson ofJson?) :
    IsLossless [compact, pretty] toJson fun text => (parse? text).bind ofJson? := by
  have hread : ∀ form ∈ [compact, pretty], ∀ a,
      (parse? (form (toJson a))).bind ofJson? = some a := by
    intro form hform a
    have hparse : parse? (form (toJson a)) = some (toJson a) := by
      rcases List.mem_pair.mp hform with rfl | rfl
      · exact parse?_compact (h.isPrintable a)
      · exact parse?_pretty (h.isPrintable a)
    rw [hparse]
    exact h.ofJson?_toJson a
  refine ⟨hread, fun form hform a b heq => ?_, fun form hform text text' heq => ?_⟩
  · have hback := hread form hform a
    rw [show form (toJson a) = form (toJson b) from heq, hread form hform b] at hback
    exact (Option.some.inj hback).symm
  · obtain ⟨a, -, rfl⟩ := Option.map_eq_some_iff.mp heq
    rw [hread form hform a]
    rfl

end SnippetForge.Json
