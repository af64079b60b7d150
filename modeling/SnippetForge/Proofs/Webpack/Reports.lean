import SnippetForge.Proofs.Json.OneLine
import SnippetForge.Proofs.Reports
import SnippetForge.Webpack.Supervision

/-!
# The report of a driver

The driver script writes its report as the compact form of a record of errors and warnings, on a
line of its own. Whatever the messages are made of, that line is one line, it neither starts nor
ends with a blank, and it is read back as the messages. Since the report is taken from the last
line that is not blank, neither chatter before it nor blank lines after it change what is read.
-/

namespace SnippetForge

open Text (EndsLine)

/-! ### The report line -/

namespace Report

/-- The line that reports errors and warnings: one record in its compact form. -/
def lineOf (errors warnings : List String) : String :=
  (Json.record [("errors", Json.ofTexts errors), ("warnings", Json.ofTexts warnings)]).compact

example : lineOf ["a\n\"b\""] ["\u0001\u2028"]
    = "\x7b\"errors\":[\"a\\n\\\"b\\\"\"],\"warnings\":[\"\\u0001\u2028\"]\x7d" := by
  decide +kernel

lemma isPrintable_messages (errors warnings : List String) :
    (Json.record [("errors", Json.ofTexts errors),
      ("warnings", Json.ofTexts warnings)]).IsPrintable :=
  Json.isPrintable_record (by simp [Json.isPrintable_ofTexts])

lemma newline_notMem_lineOf (errors warnings : List String) :
    '\n' ∉ (lineOf errors warnings).toList := by
  have h := Json.areVisible_compactChars (isPrintable_messages errors warnings)
  simpa [lineOf, Json.compact] using h.newline_notMem

/-- The line is trimmed already. -/
lemma trim_lineOf (errors warnings : List String) :
    Text.trim (lineOf errors warnings) = lineOf errors warnings := by
  have hopen : Text.isBlank '\x7b' = false := by decide
  have hclose : Text.isBlank '\x7d' = false := by decide
  rw [Text.trim, lineOf, Json.compact, String.toList_ofList, Json.record, Json.compactChars,
    Text.trimChars_of_ends hopen hclose]

lemma isBlankText_lineOf (errors warnings : List String) :
    Text.isBlankText (lineOf errors warnings) = false := by
  have hopen : Text.isBlank '\x7b' = false := by decide
  simp [Text.isBlankText, Text.allBlank, lineOf, Json.compact, Json.record, Json.compactChars,
    hopen]

lemma ofJson?_messages (errors warnings : List String) :
    ofJson? (Json.record [("errors", Json.ofTexts errors), ("warnings", Json.ofTexts warnings)])
      = some (ofMessages errors warnings) := by
  have hfields : (Json.record [("errors", Json.ofTexts errors),
      ("warnings", Json.ofTexts warnings)]).fields? ["errors", "warnings"]
        = some [some (Json.ofTexts errors), some (Json.ofTexts warnings)] :=
    Json.fields?_record (by simp)
  rw [ofJson?, hfields]
  simp [Json.optional?, Json.texts?_ofTexts]

/-- The report of a text depends on it only up to blanks at its ends. -/
lemma ofText_congr {a b : String} (h : Text.trim a = Text.trim b) : ofText a = ofText b := by
  rw [ofText, ofText, h]

/-- The line is read back as its messages. -/
lemma ofText_lineOf (errors warnings : List String) :
    ofText (lineOf errors warnings) = ofMessages errors warnings := by
  have hne : lineOf errors warnings ≠ "" := by
    intro heq
    have hblank := isBlankText_lineOf errors warnings
    rw [heq] at hblank
    exact absurd hblank (by decide)
  have hparse := Json.parse?_compact (isPrintable_messages errors warnings)
  unfold ofText
  rw [trim_lineOf, if_neg hne, lineOf, hparse, Option.bind_some, ofJson?_messages]

end Report

/-! ### Finding the report line -/

namespace Webpack

/-- The last line that is not blank is the report line, whatever lines end before it. -/
lemma reportLine?_append {chatter line rest : String} (hchatter : EndsLine chatter.toList)
    (hline : '\n' ∉ line.toList) (hblank : Text.isBlankText line = false)
    (hrest : ∀ l ∈ Text.lines rest, Text.isBlankText l = true) :
    ∃ before, reportLine? (chatter ++ line ++ "\n" ++ rest)
      = some (before, String.ofList (Text.withoutReturn line.toList)) := by
  have hcut : Text.lines (chatter ++ line ++ "\n" ++ rest)
      = Text.lines chatter ++ String.ofList (Text.withoutReturn line.toList)
        :: Text.lines rest := by
    have hchars : (chatter ++ line ++ "\n" ++ rest).toList
        = chatter.toList ++ (line.toList ++ '\n' :: rest.toList) := by simp
    rw [Text.lines, hchars, Text.lineChars_append hchatter, Text.lineChars_line hline,
      List.map_append, List.map_cons]
    rfl
  have hkept : (!Text.isBlankText (String.ofList (Text.withoutReturn line.toList))) = true := by
    rw [Text.isBlankText, String.toList_ofList, Text.allBlank_withoutReturn]
    simpa [Text.isBlankText] using hblank
  have hnone : (Text.lines rest).filter (fun l => !Text.isBlankText l) = [] := by
    rw [List.filter_eq_nil_iff]
    intro l hl
    simpa using hrest l hl
  have hlines : (Text.lines (chatter ++ line ++ "\n" ++ rest)).filter
      (fun l => !Text.isBlankText l)
        = (Text.lines chatter).filter (fun l => !Text.isBlankText l)
          ++ [String.ofList (Text.withoutReturn line.toList)] := by
    rw [hcut, List.filter_append, List.filter_cons, if_pos hkept, hnone]
  -- Of the lines that are kept, all but the last are chatter.
  refine ⟨(Text.lines chatter).filter fun l => !Text.isBlankText l, ?_⟩
  rw [reportLine?, hlines, List.getLast?_concat, List.dropLast_concat]

/-- The report is read from that line alone. -/
lemma reportOf_append {chatter line rest : String} (hchatter : EndsLine chatter.toList)
    (hline : '\n' ∉ line.toList) (hblank : Text.isBlankText line = false)
    (hrest : ∀ l ∈ Text.lines rest, Text.isBlankText l = true) :
    reportOf (chatter ++ line ++ "\n" ++ rest) = Report.ofText line := by
  obtain ⟨before, hfound⟩ := reportLine?_append hchatter hline hblank hrest
  rw [reportOf, hfound]
  apply Report.ofText_congr
  rw [Text.trim, String.toList_ofList, Text.trimChars_withoutReturn, Text.trim]

/-- What a driver reports is read back from its output: the errors in order, then the warnings in
order, every message as it was, between any chatter and any blank lines. -/
theorem reportOf_driver_output (errors warnings : List String) {chatter rest : String}
    (hchatter : EndsLine chatter.toList)
    (hrest : ∀ l ∈ Text.lines rest, Text.isBlankText l = true) :
    (reportOf (chatter ++ Report.lineOf errors warnings ++ "\n" ++ rest)).diagnostics
        = errors.map (fun message => ⟨.error, message⟩)
          ++ warnings.map (fun message => ⟨.warning, message⟩) ∧
      ((reportOf (chatter ++ Report.lineOf errors warnings ++ "\n" ++ rest)).hasErrors = true
        ↔ errors ≠ []) := by
  have hread : reportOf (chatter ++ Report.lineOf errors warnings ++ "\n" ++ rest)
      = Report.ofMessages errors warnings := by
    rw [reportOf_append hchatter (Report.newline_notMem_lineOf errors warnings)
      (Report.isBlankText_lineOf errors warnings) hrest, Report.ofText_lineOf]
  rw [hread]
  exact ⟨rfl, Report.hasErrors_ofMessages errors warnings⟩

/-- Chatter that looks like a report, messages that have to be escaped, and blank lines after them
change nothing. -/
theorem reportOf_driver_output_quoted :
    (reportOf ("\x7b\"errors\":[\"old\"]\x7d\r\n\x7bbroken\n"
        ++ Report.lineOf ["a\r\n\"\\", "\u2028\x7b\x7d"] ["\u0001\t"] ++ "\n"
        ++ " \r\n\t")).diagnostics
      = [⟨.error, "a\r\n\"\\"⟩, ⟨.error, "\u2028\x7b\x7d"⟩, ⟨.warning, "\u0001\t"⟩] := by
  have hchatter : EndsLine "\x7b\"errors\":[\"old\"]\x7d\r\n\x7bbroken\n".toList :=
    .inr ⟨"\x7b\"errors\":[\"old\"]\x7d\r\n\x7bbroken".toList, by decide⟩
  have hrest : ∀ l ∈ Text.lines " \r\n\t", Text.isBlankText l = true := by decide
  exact (reportOf_driver_output ["a\r\n\"\\", "\u2028\x7b\x7d"] ["\u0001\t"] hchatter hrest).1

end Webpack

end SnippetForge
