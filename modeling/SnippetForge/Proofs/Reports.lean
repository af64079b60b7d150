import SnippetForge.Proofs.Json.Records
import SnippetForge.Proofs.Json.Spelling
import SnippetForge.Proofs.Text.Lines
import SnippetForge.Report

/-!
# What counts as a report

A toolchain may say anything. This file says which texts are taken for a report, and what becomes of
the others, without a reader: a report is an object in which each of the two lists stands once at
most under its name, spelled in any of the ways that the grammar of JSON allows, with any members
beside them. All other objects are kept as a warning with the whole text.

An array that gives the two lists by their places is taken for a report, too, even one that stops
before the first of them. So a text that is neither blank nor an object can leave nothing behind, or
bring up an error. Whatever is neither object nor array is kept.
-/

namespace SnippetForge.Report

open Json (Written)

/-! ### Lists by their names -/

/-- The values that members have under a name. -/
def valuesUnder (name : String) (members : List (String × Json)) : List Json :=
  (members.filter fun m => m.1 == name).map Prod.snd

/-- Members list some texts under a name. -/
inductive Lists (name : String) (members : List (String × Json)) : List String → Prop
  /-- The name stands once, for an array of these texts and nothing else. -/
  | once {texts : List String} (h : valuesUnder name members = [Json.ofTexts texts]) :
      Lists name members texts
  /-- The name does not stand there, which counts as no texts. -/
  | never (h : valuesUnder name members = []) : Lists name members []

/-- A name stands for one value, for none, or too often. -/
lemma unique?_eq (name : String) (members : List (String × Json)) :
    Json.unique? name members =
      match valuesUnder name members with
      | [] => some none
      | [v] => some (some v)
      | _ => none := by
  unfold Json.unique? valuesUnder
  generalize members.filter (fun m => m.1 == name) = named
  rcases named with _ | ⟨m, _ | ⟨n, rest⟩⟩ <;> rfl

/-- A list that may be missing is read exactly if it is listed under its name. -/
lemma lists_iff {name : String} {members : List (String × Json)} {texts : List String} :
    Lists name members texts ↔
      ∃ field, Json.unique? name members = some field ∧
        Json.optional? Json.texts? [] field = some texts := by
  rw [unique?_eq]
  constructor
  · rintro (h | h)
    · exact ⟨some (Json.ofTexts texts), by rw [h], Json.texts?_ofTexts texts⟩
    · exact ⟨none, by rw [h], rfl⟩
  · rintro ⟨field, hunique, hread⟩
    split at hunique
    · next hnone =>
      obtain rfl := Option.some.inj hunique
      obtain rfl := Option.some.inj hread
      exact .never hnone
    · next v hone =>
      obtain rfl := Option.some.inj hunique
      rw [Json.texts?_eq_some_iff.mp hread] at hone
      exact .once hone
    · cases hunique

/-! ### Lists by their places -/

/-- Items are up to two arrays of texts, of which the first counts as errors. -/
inductive InOrder : List Json → List String → List String → Prop
  | none : InOrder [] [] []
  | errors (errors : List String) : InOrder [Json.ofTexts errors] errors []
  | both (errors warnings : List String) :
      InOrder [Json.ofTexts errors, Json.ofTexts warnings] errors warnings

/-! ### Reports as values -/

/-- A value reports errors and warnings. -/
inductive Says : Json → List String → List String → Prop
  | object {members : List (String × Json)} {errors warnings : List String}
      (hasErrors : Lists "errors" members errors)
      (hasWarnings : Lists "warnings" members warnings) :
      Says (Json.record members) errors warnings
  | array {items : List Json} {errors warnings : List String}
      (inOrder : InOrder items errors warnings) : Says (.array items) errors warnings

/-- Both fields of a record that reports are read. -/
lemma ofJson?_of_fields? {v : Json} {first second : Option Json}
    (h : v.fields? ["errors", "warnings"] = some [first, second]) {report : Report} :
    ofJson? v = some report ↔ ∃ errors warnings,
      Json.optional? Json.texts? [] first = some errors ∧
        Json.optional? Json.texts? [] second = some warnings ∧
        report = ofMessages errors warnings := by
  unfold ofJson?
  simp only [h]
  cases Json.optional? Json.texts? [] first <;> cases Json.optional? Json.texts? [] second <;>
    simp [eq_comm]

/-- An object is read as a report exactly if it reports. -/
lemma ofJson?_object {lits : List (Literal × Json)} {report : Report} :
    ofJson? (.object lits) = some report ↔ ∃ errors warnings,
      Says (.object lits) errors warnings ∧ report = ofMessages errors warnings := by
  constructor
  · intro h
    cases hfields : (Json.object lits).fields? ["errors", "warnings"] with
    | none =>
      unfold ofJson? at h
      simp only [hfields] at h
      cases h
    | some fields =>
      obtain ⟨members, hkeys, hall⟩ := Option.bind_eq_some_iff.mp hfields
      rw [Json.mapM_key?_eq_some_iff] at hkeys
      simp only [List.mapM_cons, List.mapM_nil, Option.pure_def, Option.bind_eq_bind,
        Option.bind_eq_some_iff, Option.some.injEq] at hall
      obtain ⟨first, hfirst, -, ⟨second, hsecond, -, rfl, rfl⟩, rfl⟩ := hall
      obtain ⟨errors, warnings, herrors, hwarnings, rfl⟩ := (ofJson?_of_fields? hfields).mp h
      refine ⟨errors, warnings, ?_, rfl⟩
      rw [hkeys]
      exact .object (lists_iff.mpr ⟨first, hfirst, herrors⟩)
        (lists_iff.mpr ⟨second, hsecond, hwarnings⟩)
  · rintro ⟨errors, warnings, htold, rfl⟩
    generalize hv : Json.object lits = v at htold
    cases htold with
    | array => cases hv
    | @object members _ _ hasErrors hasWarnings =>
      obtain ⟨first, hfirst, herrors⟩ := lists_iff.mp hasErrors
      obtain ⟨second, hsecond, hwarnings⟩ := lists_iff.mp hasWarnings
      have hfields : (Json.record members).fields? ["errors", "warnings"]
          = some [first, second] := by
        rw [Json.record, Json.fields?, Json.mapM_key?_record]
        simp [List.mapM_cons, hfirst, hsecond]
      exact (ofJson?_of_fields? hfields).mpr ⟨errors, warnings, herrors, hwarnings, rfl⟩

/-- So is an array. -/
lemma ofJson?_array {items : List Json} {report : Report} :
    ofJson? (.array items) = some report ↔ ∃ errors warnings,
      Says (.array items) errors warnings ∧ report = ofMessages errors warnings := by
  have htold : ∀ {errors warnings}, Says (.array items) errors warnings ↔
      InOrder items errors warnings := by
    refine fun {errors warnings} => ⟨fun h => ?_, .array⟩
    generalize hv : Json.array items = v at h
    cases h with
    | object => cases hv
    | array inOrder => rwa [Json.array.inj hv]
  simp only [htold]
  rcases items with _ | ⟨first, _ | ⟨second, _ | ⟨third, rest⟩⟩⟩
  · rw [@ofJson?_of_fields? _ none none rfl]
    constructor
    · rintro ⟨errors, warnings, herrors, hwarnings, rfl⟩
      obtain rfl := Option.some.inj herrors
      obtain rfl := Option.some.inj hwarnings
      exact ⟨[], [], .none, rfl⟩
    · rintro ⟨errors, warnings, hlists, rfl⟩
      cases hlists
      exact ⟨[], [], rfl, rfl, rfl⟩
  · rw [@ofJson?_of_fields? _ (some first) none rfl]
    constructor
    · rintro ⟨errors, warnings, herrors, hwarnings, rfl⟩
      obtain rfl := Json.texts?_eq_some_iff.mp herrors
      obtain rfl := Option.some.inj hwarnings
      exact ⟨errors, [], .errors errors, rfl⟩
    · rintro ⟨errors, warnings, hlists, rfl⟩
      cases hlists
      exact ⟨errors, [], Json.texts?_ofTexts errors, rfl, rfl⟩
  · rw [@ofJson?_of_fields? _ (some first) (some second) rfl]
    constructor
    · rintro ⟨errors, warnings, herrors, hwarnings, rfl⟩
      obtain rfl := Json.texts?_eq_some_iff.mp herrors
      obtain rfl := Json.texts?_eq_some_iff.mp hwarnings
      exact ⟨errors, warnings, .both errors warnings, rfl⟩
    · rintro ⟨errors, warnings, hlists, rfl⟩
      cases hlists
      exact ⟨errors, warnings, Json.texts?_ofTexts errors, Json.texts?_ofTexts warnings, rfl⟩
  · constructor
    · intro h
      have hlong : (Json.array (first :: second :: third :: rest)).fields? ["errors", "warnings"]
          = none := by
        rw [Json.fields?, if_neg (by simp)]
      unfold ofJson? at h
      simp only [hlong] at h
      cases h
    · rintro ⟨errors, warnings, hlists, -⟩
      cases hlists

/-- A value is read as a report exactly if it reports. -/
lemma ofJson?_eq_some_iff {v : Json} {report : Report} :
    ofJson? v = some report ↔ ∃ errors warnings,
      Says v errors warnings ∧ report = ofMessages errors warnings := by
  cases v with
  | object lits => exact ofJson?_object
  | array items => exact ofJson?_array
  | _ =>
    refine iff_of_false (fun h => by cases h) ?_
    rintro ⟨errors, warnings, htold, -⟩
    cases htold

/-! ### Reports as texts -/

/-- A text reports errors and warnings as an object. -/
inductive ObjectSays (text : String) (errors warnings : List String) : Prop
  | intro {members : List (String × Json)}
      (spelled : Written (Json.record members) text.toList)
      (hasErrors : Lists "errors" members errors)
      (hasWarnings : Lists "warnings" members warnings)

/-- A text reports errors and warnings as an array. -/
inductive ArraySays (text : String) (errors warnings : List String) : Prop
  | intro {items : List Json} (spelled : Written (.array items) text.toList)
      (inOrder : InOrder items errors warnings)

/-- A text is read as a report exactly if it reports in one of the two ways. -/
lemma bind_ofJson?_eq_some_iff {output : String} {report : Report} :
    (Json.parse? (Text.trim output)).bind ofJson? = some report ↔ ∃ errors warnings,
      (ObjectSays (Text.trim output) errors warnings ∨
        ArraySays (Text.trim output) errors warnings) ∧
      report = ofMessages errors warnings := by
  simp only [Option.bind_eq_some_iff,
    Json.parse?_eq_some_iff_of_trimmed Text.isBlank_getLast?_trim, ofJson?_eq_some_iff]
  constructor
  · rintro ⟨v, spelled, errors, warnings, htold, rfl⟩
    refine ⟨errors, warnings, ?_, rfl⟩
    cases htold with
    | object hasErrors hasWarnings => exact .inl ⟨spelled, hasErrors, hasWarnings⟩
    | array inOrder => exact .inr ⟨spelled, inOrder⟩
  · rintro ⟨errors, warnings, ⟨spelled, hasErrors, hasWarnings⟩ | ⟨spelled, inOrder⟩, rfl⟩
    · exact ⟨_, spelled, errors, warnings, .object hasErrors hasWarnings, rfl⟩
    · exact ⟨_, spelled, errors, warnings, .array inOrder, rfl⟩

/-- Text that reports is taken for what it reports, and other text that is not blank is kept as a
warning. -/
lemma ofText_cases {output : String} (visible : Text.isBlankText output = false) :
    (∃ errors warnings, (ObjectSays (Text.trim output) errors warnings ∨
        ArraySays (Text.trim output) errors warnings) ∧
      ofText output = ofMessages errors warnings) ∨
    ((∀ errors warnings, ¬ObjectSays (Text.trim output) errors warnings) ∧
      (∀ errors warnings, ¬ArraySays (Text.trim output) errors warnings) ∧
      ofText output = ⟨[⟨.warning, Text.trim output⟩]⟩) := by
  have hne : Text.trim output ≠ "" := by
    rw [ne_eq, Text.trim_eq_empty_iff, visible]
    exact Bool.false_ne_true
  unfold ofText
  simp only [if_neg hne]
  cases hread : (Json.parse? (Text.trim output)).bind ofJson? with
  | some report =>
    obtain ⟨errors, warnings, htold, rfl⟩ := bind_ofJson?_eq_some_iff.mp hread
    exact .inl ⟨errors, warnings, htold, rfl⟩
  | none =>
    refine .inr ⟨fun errors warnings htold => ?_, fun errors warnings htold => ?_, rfl⟩
    · rw [bind_ofJson?_eq_some_iff.mpr ⟨errors, warnings, .inl htold, rfl⟩] at hread
      cases hread
    · rw [bind_ofJson?_eq_some_iff.mpr ⟨errors, warnings, .inr htold, rfl⟩] at hread
      cases hread

/-- What a text reports is definite. -/
lemma ofText_eq_ofMessages {output : String} {errors warnings : List String}
    (h : ObjectSays (Text.trim output) errors warnings ∨
      ArraySays (Text.trim output) errors warnings) :
    ofText output = ofMessages errors warnings := by
  have hread := bind_ofJson?_eq_some_iff.mpr ⟨errors, warnings, h, rfl⟩
  have hne : Text.trim output ≠ "" := by
    intro hempty
    rw [hempty] at hread
    cases hread
  unfold ofText
  simp only [if_neg hne, hread]

/-! ### Objects -/

/-- What begins like an object spells nothing else. -/
lemma not_arraySays_of_opened {text : String} (opened : text.toList.head? = some '\x7b')
    (errors warnings : List String) : ¬ArraySays text errors warnings := by
  rintro ⟨spelled, -⟩
  obtain ⟨tail, htail⟩ := List.head?_eq_some_iff.mp opened
  rw [htail] at spelled
  cases spelled with
  | gap space _ => exact absurd space (by decide)

/-- Whether and what an object reports is decided by the values under the two names alone. -/
lemma objectSays_congr {text text' : String} {members members' : List (String × Json)}
    (spelled : Written (Json.record members) text.toList)
    (spelled' : Written (Json.record members') text'.toList)
    (same : ∀ name ∈ ["errors", "warnings"], valuesUnder name members = valuesUnder name members')
    {errors warnings : List String} (h : ObjectSays text errors warnings) :
    ObjectSays text' errors warnings := by
  have hlists : ∀ {name texts}, valuesUnder name members = valuesUnder name members' →
      Lists name members texts → Lists name members' texts := by
    rintro name texts heq (h | h)
    · exact .once (heq ▸ h)
    · exact .never (heq ▸ h)
  obtain ⟨found, hasErrors, hasWarnings⟩ := h
  have heq := Json.mapM_key?_eq_some_iff.mpr (found.unique spelled)
  rw [Json.mapM_key?_record] at heq
  obtain rfl := Option.some.inj heq
  exact ⟨spelled', hlists (same _ (by simp)) hasErrors, hlists (same _ (by simp)) hasWarnings⟩

/-- Text that begins like an object is taken for a report exactly if it is an object, with texts for
its keys, that lists errors and warnings under their names: each name stands once at most, for an
array of texts. The report then has the errors in order and after them the warnings in order. Any
other such text is kept whole as one warning. Nothing else about the object matters: neither the
order of its members, nor how it is spelled, nor what other members it has. -/
theorem ofText_opened (output : String)
    (opened : (Text.trim output).toList.head? = some '\x7b') :
    (∀ report, (Json.parse? (Text.trim output)).bind ofJson? = some report ↔
      ∃ errors warnings, ObjectSays (Text.trim output) errors warnings ∧
        report = ofMessages errors warnings) ∧
    (∀ errors warnings, ObjectSays (Text.trim output) errors warnings →
      (ofText output).diagnostics =
        errors.map (Diagnostic.mk .error) ++ warnings.map (Diagnostic.mk .warning)) ∧
    ((∀ errors warnings, ¬ObjectSays (Text.trim output) errors warnings) →
      (ofText output).diagnostics = [⟨.warning, Text.trim output⟩]) ∧
    ∀ (other : String) (members members' : List (String × Json)),
      Written (Json.record members) (Text.trim output).toList →
      Written (Json.record members') (Text.trim other).toList →
      (∀ name ∈ ["errors", "warnings"],
        valuesUnder name members = valuesUnder name members') →
      ∀ errors warnings, ObjectSays (Text.trim output) errors warnings ↔
        ObjectSays (Text.trim other) errors warnings := by
  have hnever := not_arraySays_of_opened opened
  refine ⟨fun report => ?_, fun errors warnings htold => ?_, fun hsilent => ?_,
    fun other members members' spelled spelled' same errors warnings => ⟨?_, ?_⟩⟩
  · simp only [bind_ofJson?_eq_some_iff, hnever, or_false]
  · rw [ofText_eq_ofMessages (.inl htold)]
    rfl
  · have visible : Text.isBlankText output = false := by
      rw [← Bool.not_eq_true, ← Text.trim_eq_empty_iff]
      intro hempty
      rw [hempty] at opened
      cases opened
    rcases ofText_cases visible with ⟨errors, warnings, htold | htold, -⟩ | ⟨-, -, hkept⟩
    · exact absurd htold (hsilent errors warnings)
    · exact absurd htold (hnever errors warnings)
    · rw [hkept]
  · exact objectSays_congr spelled spelled' same
  · exact objectSays_congr spelled' spelled fun name hname => (same name hname).symm

/-- A report with its lists the other way round, an escape in a key, and a value that nobody reads. -/
def mixedReport : String :=
  "\t\x7b \"other\": [[\x7b\"\\ud800\": 1e999\x7d], null],\r\n  \"warnings\" :[\"w\"],\"err\\u006frs\":[\"a\\nb\", \"\"] \x7d\n"

theorem ofText_opened_mixed :
    (Text.trim mixedReport).toList.head? = some '\x7b' ∧
      ObjectSays (Text.trim mixedReport) ["a\nb", ""] ["w"] ∧
      (ofText mixedReport).diagnostics = [⟨.error, "a\nb"⟩, ⟨.error, ""⟩, ⟨.warning, "w"⟩] := by
  have opened : (Text.trim mixedReport).toList.head? = some '\x7b' := by decide +kernel
  have hread : Json.parse? (Text.trim mixedReport) = some (Json.record
      [("other", .array [.array [.object [(.unpaired, .number "1e999")]], .null]),
        ("warnings", Json.ofTexts ["w"]), ("errors", Json.ofTexts ["a\nb", ""])]) := by
    cbv
  have htold : ObjectSays (Text.trim mixedReport) ["a\nb", ""] ["w"] :=
    ⟨(Json.parse?_eq_some_iff_of_trimmed Text.isBlank_getLast?_trim).mp hread, .once rfl, .once rfl⟩
  exact ⟨opened, htold, (ofText_opened mixedReport opened).2.1 _ _ htold⟩

/-! ### Anything else -/

/-- There is nothing to report exactly in a report without errors and warnings. -/
lemma diagnostics_ofMessages_eq_nil_iff {errors warnings : List String} :
    (ofMessages errors warnings).diagnostics = [] ↔ errors = [] ∧ warnings = [] := by
  rw [ofMessages, List.append_eq_nil_iff, List.map_eq_nil_iff, List.map_eq_nil_iff]

/-- An error is reported exactly in a report with errors. -/
lemma hasErrors_ofMessages (errors warnings : List String) :
    (ofMessages errors warnings).hasErrors = true ↔ errors ≠ [] := by
  rw [hasErrors, ofMessages, List.any_append, Bool.or_eq_true]
  cases errors <;> simp

/-- Blank text reports nothing. -/
lemma ofText_of_isBlankText {output : String} (blank : Text.isBlankText output = true) :
    ofText output = empty := by
  unfold ofText
  rw [Text.trim_eq_empty_iff.mpr blank]
  rfl

/-- Text that is neither blank nor an object is kept whole as one warning, unless it is an array of
at most two lists: these count as errors and warnings. So nothing is left of a text exactly if it is
blank or reports two empty lists, as an object or as an array, and an error comes up exactly if one
is reported in one of these two ways. -/
theorem ofText_unless_object (output : String) :
    (Text.isBlankText output = false →
      (∀ members, ¬Written (.object members) (Text.trim output).toList) →
      (∀ errors warnings, ¬ArraySays (Text.trim output) errors warnings) →
        (ofText output).diagnostics = [⟨.warning, Text.trim output⟩]) ∧
    (∀ errors warnings, ArraySays (Text.trim output) errors warnings →
      (ofText output).diagnostics =
        errors.map (Diagnostic.mk .error) ++ warnings.map (Diagnostic.mk .warning)) ∧
    ((ofText output).diagnostics = [] ↔ Text.isBlankText output = true ∨
      ObjectSays (Text.trim output) [] [] ∨ ArraySays (Text.trim output) [] []) ∧
    ((ofText output).hasErrors = true ↔ ∃ errors warnings, errors ≠ [] ∧
      (ObjectSays (Text.trim output) errors warnings ∨
        ArraySays (Text.trim output) errors warnings)) := by
  refine ⟨fun visible hobject harray => ?_, fun errors warnings htold => ?_, ⟨fun hnone => ?_, ?_⟩,
    ⟨fun herrors => ?_, ?_⟩⟩
  · rcases ofText_cases visible with ⟨errors, warnings, htold | htold, -⟩ | ⟨-, -, hkept⟩
    · obtain ⟨spelled, -, -⟩ := htold
      exact absurd spelled (hobject _)
    · exact absurd htold (harray errors warnings)
    · rw [hkept]
  · rw [ofText_eq_ofMessages (.inr htold)]
    rfl
  · cases visible : Text.isBlankText output with
    | true => exact .inl rfl
    | false =>
      rcases ofText_cases visible with ⟨errors, warnings, htold, hread⟩ | ⟨-, -, hkept⟩
      · rw [hread, diagnostics_ofMessages_eq_nil_iff] at hnone
        obtain ⟨rfl, rfl⟩ := hnone
        exact .inr htold
      · rw [hkept] at hnone
        cases hnone
  · rintro (blank | htold)
    · rw [ofText_of_isBlankText blank]
      rfl
    · rw [ofText_eq_ofMessages htold]
      rfl
  · cases visible : Text.isBlankText output with
    | true =>
      rw [ofText_of_isBlankText visible] at herrors
      cases herrors
    | false =>
      rcases ofText_cases visible with ⟨errors, warnings, htold, hread⟩ | ⟨-, -, hkept⟩
      · rw [hread, hasErrors_ofMessages] at herrors
        exact ⟨errors, warnings, herrors, htold⟩
      · rw [hkept] at herrors
        cases herrors
  · rintro ⟨errors, warnings, hne, htold⟩
    rw [ofText_eq_ofMessages htold, hasErrors_ofMessages]
    exact hne

/-- An array of texts gives no lists, so it is kept. -/
theorem ofText_unless_object_texts :
    Text.isBlankText " [\"a\"]\n" = false ∧
      (ofText " [\"a\"]\n").diagnostics = [⟨.warning, "[\"a\"]"⟩] := by
  have visible : Text.isBlankText " [\"a\"]\n" = false := by decide
  have htrim : Text.trim " [\"a\"]\n" = "[\"a\"]" := by decide +kernel
  have hread : Json.parse? (Text.trim " [\"a\"]\n") = some (Json.ofTexts ["a"]) := by
    cbv
  rw [Json.parse?_eq_some_iff_of_trimmed Text.isBlank_getLast?_trim] at hread
  have hobject : ∀ members, ¬Written (.object members) (Text.trim " [\"a\"]\n").toList := by
    intro members spelled
    cases spelled.unique hread
  have harray : ∀ errors warnings, ¬ArraySays (Text.trim " [\"a\"]\n") errors warnings := by
    rintro errors warnings ⟨spelled, inOrder⟩
    rw [Json.array.inj (spelled.unique hread)] at inOrder
    generalize hitems : ["a"].map Json.ofText = items at inOrder
    cases inOrder <;> cases hitems
  have hkept := (ofText_unless_object " [\"a\"]\n").1 visible hobject harray
  rw [htrim] at hkept
  exact ⟨visible, hkept⟩

/-- An array of nothing is neither blank nor an object, and nothing is left of it; an array can bring
up an error. -/
theorem ofText_empty_array :
    Text.isBlankText "[]" = false ∧
      (∀ members, ¬Written (.object members) (Text.trim "[]").toList) ∧
      (ofText "[]").diagnostics = [] ∧ (ofText "[[\"boom\"]]").hasErrors = true := by
  refine ⟨by decide, fun members spelled => ?_, by decide +kernel, by decide +kernel⟩
  have hread : Json.parse? (Text.trim "[]") = some (.array []) := by
    cbv
  rw [Json.parse?_eq_some_iff_of_trimmed Text.isBlank_getLast?_trim] at hread
  cases spelled.unique hread

end SnippetForge.Report
