import Reckoner.Proofs.CommandLine.Lines
import Reckoner.Proofs.Scanning.Tiling

/-! # Which texts become expressions

Of the texts that the preferred source offers, a run keeps those that are not blank. Whether a text
is blank is decided before it is scanned, by trimming it; the scan drops its blanks one by one.
Both find the same texts empty (`Text.trimmed_eq_empty_iff`, `Lexemes.isEndAlone_iff`), so a run
keeps exactly the texts in which the scan finds a token or a fault. What the other sources hold does
not matter (`Source.expressions_of_sameSource`).
-/

namespace Reckoner

/-- Nothing is left of a text by trimming if and only if it holds nothing but blanks. -/
theorem Text.trimmed_eq_empty_iff {text : String} :
    trimmed text = "" ↔ isBlankText text = true := by
  rw [← isEmpty_trimmed, String.isEmpty_iff]

namespace Lexemes

/-- The end of the input is the only token of a text. -/
def IsEndAlone (text : String) : Prop :=
  ∃ row, scan text = .ok row ∧ Lexeme.tokens row.toList = [.endOfInput]

instance (text : String) : Decidable (IsEndAlone text) :=
  match scanned : scan text with
  | .ok row => decidable_of_iff (Lexeme.tokens row.toList = [.endOfInput]) (by
      simp [IsEndAlone, scanned])
  | .error _ => .isFalse (by simp [IsEndAlone, scanned])

/-- The scan sees nothing in a text if and only if it holds nothing but blanks. -/
theorem isEndAlone_iff {text : String} : IsEndAlone text ↔ Text.isBlankText text = true := by
  rw [Text.isBlankText, List.all_eq_true]
  constructor
  · rintro ⟨row, scanned, only⟩
    obtain ⟨lead, tiles, tiling, body, -⟩ := exists_tiling_of_scan scanned
    have empty : tiles = [] := by simpa [toList, body, Lexeme.tokens, Lexeme.atEnd] using only
    subst empty
    have whole : lead = text.toList := by simpa using tiling.whole
    exact whole ▸ tiling.separates
  · intro blanks
    have scanned : scan text = .ok ⟨[], Location.start.advance text.toList⟩ := by
      have passed := @scanFrom_blanks [] .start text.toList [] blanks
      rwa [List.append_nil, scanFrom_nil] at passed
    exact ⟨_, scanned, rfl⟩

/-- The scan sees something in a text if it finds a fault or a token. -/
theorem not_isEndAlone_iff {text : String} :
    ¬ IsEndAlone text ↔
      (∃ fault, scan text = .error fault) ∨ ∃ row, scan text = .ok row ∧ row.body ≠ [] := by
  unfold IsEndAlone
  cases scan text with
  | error fault => simp
  | ok row => simp [toList, Lexeme.tokens, Lexeme.atEnd]

end Lexemes

namespace Options

/-- The texts that a run may choose from: the lines of the file if one is named, else the
expressions among the arguments if there are any, else the lines of the input. -/
inductive Offers (options : Options) (surroundings : Surroundings) : List String → Prop where
  | file {path : String} {bytes : ByteArray} {texts : List String}
    (named : options.file = some path) (content : surroundings.file? path = some bytes)
    (lines : Text.Lines.HasLines bytes texts) : Offers options surroundings texts
  | arguments (unnamed : options.file = none) (given : options.expressions ≠ []) :
    Offers options surroundings options.expressions
  | input {texts : List String} (unnamed : options.file = none)
    (bare : options.expressions = []) (lines : Text.Lines.HasLines surroundings.input texts) :
    Offers options surroundings texts

/-- Two runs find the same at the source that they prefer, whatever else they are given: the same
content of the same file, or the same expressions without a file, or without either the same
input. -/
inductive SameSource (first second : Options) (before after : Surroundings) : Prop where
  | file {path : String} (named : first.file = some path) (again : second.file = some path)
    (content : before.file? path = after.file? path)
  | arguments (unnamed : first.file = none) (again : second.file = none)
    (given : first.expressions ≠ []) (same : first.expressions = second.expressions)
  | input (unnamed : first.file = none) (again : second.file = none)
    (bare : first.expressions = []) (same : first.expressions = second.expressions)
    (content : before.input = after.input)

end Options

namespace Source

variable {options first second : Options} {surroundings before after : Surroundings}
  {texts : List String}

/-- A file offers the lines of its content. -/
theorem candidates_file_eq_ok_iff {path : String} :
    (Source.file path).candidates surroundings = .ok texts ↔
      ∃ bytes, surroundings.file? path = some bytes ∧ Text.Lines.HasLines bytes texts := by
  simp only [candidates, ← Text.Lines.ofContent?_eq_some_iff, ← Option.bind_eq_some_iff]
  cases (surroundings.file? path).bind Text.Lines.ofContent? <;> simp

/-- The standard input offers the lines of its bytes. -/
theorem candidates_standardInput_eq_ok_iff :
    Source.standardInput.candidates surroundings = .ok texts ↔
      Text.Lines.HasLines surroundings.input texts := by
  rw [candidates, Text.Lines.ofStream?_eq_ofContent?, ← Text.Lines.ofContent?_eq_some_iff]
  cases Text.Lines.ofContent? surroundings.input <;> simp

/-- The source that the options choose has the texts that they offer. -/
theorem candidates_eq_ok_iff :
    options.source.candidates surroundings = .ok texts ↔ options.Offers surroundings texts := by
  constructor
  · intro found
    cases named : options.file with
    | some path =>
      rw [Options.source_of_file named, candidates_file_eq_ok_iff] at found
      obtain ⟨bytes, content, lines⟩ := found
      exact .file named content lines
    | none =>
      by_cases bare : options.expressions = []
      · rw [Options.source_of_neither named bare, candidates_standardInput_eq_ok_iff] at found
        exact .input named bare found
      · rw [Options.source_of_arguments named bare] at found
        cases found
        exact .arguments named bare
  · intro offers
    cases offers with
    | file named content lines =>
      rw [Options.source_of_file named, candidates_file_eq_ok_iff]
      exact ⟨_, content, lines⟩
    | arguments unnamed given =>
      rw [Options.source_of_arguments unnamed given]
      rfl
    | input unnamed bare lines =>
      rw [Options.source_of_neither unnamed bare, candidates_standardInput_eq_ok_iff]
      exact lines

/-- What a run keeps are the texts that the scan does not find empty. -/
theorem expressions_eq_map_filter (source : Source) (surroundings : Surroundings) :
    source.expressions surroundings = (source.candidates surroundings).map
      (List.filter fun text => ¬ Lexemes.IsEndAlone text) := by
  have same (text : String) :
      (!(Text.trimmed text).isEmpty) = decide (¬ Lexemes.IsEndAlone text) := by
    simp [Text.isEmpty_trimmed, Lexemes.isEndAlone_iff]
  simp only [expressions, same]

/-- The other sources have no influence. -/
theorem expressions_of_sameSource (same : Options.SameSource first second before after) :
    first.source.expressions before = second.source.expressions after := by
  cases same with
  | file named again content =>
    simp only [Options.source_of_file named, Options.source_of_file again, expressions, candidates,
      content]
  | arguments unnamed again given same =>
    rw [Options.source_of_arguments unnamed given,
      Options.source_of_arguments again (same ▸ given), same]
    rfl
  | input unnamed again bare same content =>
    simp only [Options.source_of_neither unnamed bare,
      Options.source_of_neither again (same ▸ bare), expressions, candidates, content]

/-- **Selection.** A run has expressions exactly if its options offer texts, and then they are the
texts in which the scan does not find the end of the input alone, each as often as it is offered and
in the order in which they are offered. A run that finds the same at the preferred source has the
same outcome. The test for blank texts agrees with the scan: trimming leaves nothing of a text if
the scan finds its end alone, and something if the scan finds a fault or a token. -/
theorem expressions_with_content (options : Options) (surroundings : Surroundings) :
    (∀ texts, options.source.expressions surroundings = .ok texts ↔
      ∃ offered, options.Offers surroundings offered ∧
        texts = offered.filter fun text => ¬ Lexemes.IsEndAlone text) ∧
    (∀ other others, options.SameSource other surroundings others →
      options.source.expressions surroundings = other.source.expressions others) ∧
    ∀ text, (Text.trimmed text = "" ↔ Lexemes.IsEndAlone text) ∧
      (Text.trimmed text ≠ "" ↔ (∃ fault, Lexemes.scan text = .error fault) ∨
        ∃ row, Lexemes.scan text = .ok row ∧ row.body ≠ []) := by
  have agrees (text : String) : Text.trimmed text = "" ↔ Lexemes.IsEndAlone text := by
    rw [Text.trimmed_eq_empty_iff, Lexemes.isEndAlone_iff]
  refine ⟨fun texts => ?_, fun other others => expressions_of_sameSource, fun text => ?_⟩
  · rw [expressions_eq_map_filter]
    simp only [← candidates_eq_ok_iff]
    cases options.source.candidates surroundings with
    | error fault => simp [Except.map]
    | ok offered => simp [Except.map, eq_comm]
  · exact ⟨agrees text, by rw [ne_eq, agrees, Lexemes.not_isEndAlone_iff]⟩

/-- Expressions that are all blank still keep the input from being read. -/
example : (⟨[" ", "\t"], none, false, false⟩ : Options).source.expressions
    ⟨fun _ => none, "1 + 2".toByteArray⟩ = .ok [] := by
  rfl

end Source

end Reckoner
