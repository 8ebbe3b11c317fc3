import Mathlib.Data.List.Basic
import Mathlib.Data.List.TakeWhile
import Reckoner.CommandLine.Run

/-! # The lines of a file and the lines of a stream

A file is decoded as a whole and then cut into lines; a stream is cut into lines and each of them is
decoded on its own. In UTF-8 the two bytes that end lines are the codes of two characters and part
of no other code, so that cutting commutes with decoding (`cut_flatMap`), and a stream whose lines
are valid is valid itself (`isValidUTF8_of_cut`). So it makes no difference which way the same bytes
come in (`Source.expressions_of_same_bytes`).
-/

namespace Reckoner

/-- Trimming leaves nothing of a text if and only if it holds nothing but blanks. -/
theorem Text.isEmpty_trimmed (text : String) : (trimmed text).isEmpty = isBlankText text := by
  rw [Bool.eq_iff_iff, String.isEmpty_iff, trimmed, String.ofList_eq_empty_iff,
    List.reverse_eq_nil_iff, List.dropWhile_eq_nil_iff, isBlankText, List.all_eq_true]
  constructor
  · intro blanks c inside
    by_cases front : c ∈ text.toList.takeWhile isBlank
    · exact List.mem_takeWhile_imp front
    · rw [← List.takeWhile_append_dropWhile (p := isBlank) (l := text.toList)] at inside
      exact blanks c (List.mem_reverse.mpr ((List.mem_append.mp inside).resolve_left front))
  · intro blanks c inside
    exact blanks c ((List.dropWhile_sublist isBlank).mem (List.mem_reverse.mp inside))

namespace Text.Lines

/-! ## Cutting a text line by line -/

section

variable {α : Type} [DecidableEq α] {lineFeed carriageReturn : α} {line rest : List α}

/-- The empty text has no lines. -/
theorem cut_nil : cut lineFeed carriageReturn [] = [] := by
  rw [cut]

/-- Without a line feed everything is one line, a carriage return at its end included. -/
theorem cut_of_notMem (nonempty : line ≠ []) (unended : lineFeed ∉ line) :
    cut lineFeed carriageReturn line = [line] := by
  cases line with
  | nil => exact absurd rfl nonempty
  | cons first more =>
    rw [cut]
    simp only [unended, ↓reduceIte]

/-- The first line goes up to the first line feed. -/
theorem cut_append (free : lineFeed ∉ line) :
    cut lineFeed carriageReturn (line ++ lineFeed :: rest) =
      withoutReturn carriageReturn line :: cut lineFeed carriageReturn rest := by
  have before : ∀ c ∈ line, decide (c ≠ lineFeed) = true := by
    intro c inside
    exact decide_eq_true (ne_of_mem_of_not_mem inside free)
  have taken : (line ++ lineFeed :: rest).takeWhile (· ≠ lineFeed) = line := by
    rw [List.takeWhile_append_of_pos before]
    simp
  have left : (line ++ lineFeed :: rest).dropWhile (· ≠ lineFeed) = lineFeed :: rest := by
    rw [List.dropWhile_append_of_pos before]
    simp
  cases split : line ++ lineFeed :: rest with
  | nil => simp at split
  | cons first more =>
    have inside : lineFeed ∈ first :: more := by simp [← split]
    rw [cut]
    simp only [inside, ↓reduceIte]
    rw [← split, taken, left, List.tail_cons]

/-- **Induction over lines.** What holds of the empty text and of a last line without its end, and
carries over from behind a line feed to in front of its line, holds of every text. -/
@[elab_as_elim]
theorem lineInduction {motive : List α → Prop} (lineFeed : α) (empty : motive [])
    (last : ∀ line, line ≠ [] → lineFeed ∉ line → motive line)
    (ended : ∀ line rest, lineFeed ∉ line → motive rest → motive (line ++ lineFeed :: rest))
    (text : List α) : motive text := by
  induction length : text.length using Nat.strongRecOn generalizing text with
  | ind size ih =>
    by_cases inside : lineFeed ∈ text
    · obtain ⟨line, rest, rfl, free⟩ := List.eq_append_cons_of_mem inside
      refine ended line rest free (ih rest.length ?_ rest rfl)
      simp only [← length, List.length_append, List.length_cons]
      omega
    · by_cases nonempty : text = []
      · rwa [nonempty]
      · exact last text nonempty inside

/-- A carriage return at the end of a line is dropped. -/
theorem withoutReturn_concat (carriageReturn : α) (line : List α) :
    withoutReturn carriageReturn (line ++ [carriageReturn]) = line := by
  simp [withoutReturn]

/-- A line without one stays as it is. -/
theorem withoutReturn_of_getLast?_ne (other : line.getLast? ≠ some carriageReturn) :
    withoutReturn carriageReturn line = line :=
  if_neg other

/-- A line is what is left of it without the carriage return, and that return if there was one. -/
theorem withoutReturn_cases (carriageReturn : α) (line : List α) :
    line = withoutReturn carriageReturn line ∨
      line = withoutReturn carriageReturn line ++ [carriageReturn] := by
  by_cases last : line.getLast? = some carriageReturn
  · obtain ⟨before, rfl⟩ := List.getLast?_eq_some_iff.mp last
    exact .inr (by rw [withoutReturn_concat])
  · exact .inl (withoutReturn_of_getLast?_ne last).symm

end

/-! ## The lines of a text -/

/-- A text splits into lines. Each ends with a line feed, or with a carriage return and a line feed,
and does not contain its ending. The last one may lack it, and then a carriage return belongs to the
line; nothing follows an ending at the very end. -/
inductive Splits : List Char → List (List Char) → Prop where
  | nil : Splits [] []
  | last {line : List Char} (filled : line ≠ []) (unended : '\n' ∉ line) : Splits line [line]
  | feed {line rest : List Char} {lines : List (List Char)} (unended : '\n' ∉ line)
    (other : line.getLast? ≠ some '\r') (others : Splits rest lines) :
    Splits (line ++ '\n' :: rest) (line :: lines)
  | returnFeed {line rest : List Char} {lines : List (List Char)} (unended : '\n' ∉ line)
    (others : Splits rest lines) : Splits (line ++ '\r' :: '\n' :: rest) (line :: lines)

/-- Cutting splits a text into lines. -/
theorem splits_cut (text : List Char) : Splits text (cut '\n' '\r' text) := by
  induction text using lineInduction '\n' with
  | empty =>
    rw [cut_nil]
    exact .nil
  | last line filled unended =>
    rw [cut_of_notMem filled unended]
    exact .last filled unended
  | ended line rest free ih =>
    rw [cut_append free]
    by_cases returned : line.getLast? = some '\r'
    · obtain ⟨before, rfl⟩ := List.getLast?_eq_some_iff.mp returned
      rw [withoutReturn_concat, List.append_assoc, List.singleton_append]
      exact .returnFeed (fun inside => free (List.mem_append_left _ inside)) ih
    · rw [withoutReturn_of_getLast?_ne returned]
      exact .feed free returned ih

/-- A text splits in one way, and cutting finds it. -/
theorem splits_iff {text : List Char} {lines : List (List Char)} :
    Splits text lines ↔ cut '\n' '\r' text = lines := by
  constructor
  · intro split
    induction split with
    | nil => exact cut_nil
    | last filled unended => exact cut_of_notMem filled unended
    | feed unended other _ ih =>
      rw [cut_append unended, withoutReturn_of_getLast?_ne other, ih]
    | @returnFeed line rest lines unended _ ih =>
      have free : '\n' ∉ line ++ ['\r'] := by simpa using unended
      rw [List.append_cons, cut_append free, withoutReturn_concat, ih]
  · rintro rfl
    exact splits_cut text

/-! ## Lines under an encoding -/

/-- The unit is the whole code of one character and no part of the code of another. -/
structure IsCodeOf {α β : Type} (encode : α → List β) (unit : β) (c : α) : Prop where
  alone : encode c = [unit]
  unique {other : α} : unit ∈ encode other → other = c

section

variable {α β : Type} {encode : α → List β} {unit : β} {c : α}

/-- The unit occurs in an encoded text where the character occurs in the text. -/
theorem IsCodeOf.mem_flatMap_iff (code : IsCodeOf encode unit c) {text : List α} :
    unit ∈ text.flatMap encode ↔ c ∈ text := by
  rw [List.mem_flatMap]
  constructor
  · rintro ⟨other, inside, part⟩
    exact code.unique part ▸ inside
  · intro inside
    exact ⟨c, inside, by simp [code.alone]⟩

variable [DecidableEq α] [DecidableEq β] {lineFeed carriageReturn : α} {feedUnit returnUnit : β}

/-- The unit of the carriage return is dropped where the character is. -/
theorem withoutReturn_flatMap (code : IsCodeOf encode returnUnit carriageReturn)
    (nonempty : ∀ c, encode c ≠ []) (line : List α) :
    withoutReturn returnUnit (line.flatMap encode) =
      (withoutReturn carriageReturn line).flatMap encode := by
  rcases List.eq_nil_or_concat line with rfl | ⟨before, last, rfl⟩
  · rfl
  rw [List.concat_eq_append]
  by_cases returns : last = carriageReturn
  · subst returns
    rw [List.flatMap_append, List.flatMap_singleton, code.alone, withoutReturn_concat,
      withoutReturn_concat]
  · have other : (before ++ [last]).getLast? ≠ some carriageReturn := by simpa using returns
    -- The last unit is part of the code of a character that is no carriage return.
    have coded : ((before ++ [last]).flatMap encode).getLast? ≠ some returnUnit := by
      rw [List.flatMap_append, List.flatMap_singleton,
        List.getLast?_append_of_ne_nil _ (nonempty last)]
      exact fun same => returns (code.unique (List.mem_of_getLast? same))
    rw [withoutReturn_of_getLast?_ne other, withoutReturn_of_getLast?_ne coded]

/-- **Cutting commutes with encoding.** -/
theorem cut_flatMap (feeds : IsCodeOf encode feedUnit lineFeed)
    (returns : IsCodeOf encode returnUnit carriageReturn) (nonempty : ∀ c, encode c ≠ [])
    (text : List α) :
    cut feedUnit returnUnit (text.flatMap encode) =
      (cut lineFeed carriageReturn text).map fun line => line.flatMap encode := by
  induction text using lineInduction lineFeed with
  | empty => simp [cut_nil]
  | last line filled unended =>
    have coded : line.flatMap encode ≠ [] := by
      cases line with
      | nil => exact absurd rfl filled
      | cons c rest => simp [nonempty c]
    rw [cut_of_notMem filled unended, cut_of_notMem coded (mt feeds.mem_flatMap_iff.mp unended)]
    rfl
  | ended line rest free ih =>
    rw [List.flatMap_append, List.flatMap_cons, feeds.alone, List.singleton_append,
      cut_append (mt feeds.mem_flatMap_iff.mp free), cut_append free, ih,
      withoutReturn_flatMap returns nonempty, List.map_cons]

end

/-! ## UTF-8 -/

/-- A byte below 128 in the code of a character is the number of that character. -/
theorem toNat_eq_of_mem_utf8EncodeChar {c : Char} {byte : UInt8} (ascii : byte.toNat < 128)
    (inside : byte ∈ String.utf8EncodeChar c) : c.toNat = byte.toNat := by
  have number : c.toNat = c.val.toNat := rfl
  revert inside
  fun_cases String.utf8EncodeChar c with
  | case1 v small =>
    intro inside
    rw [List.mem_singleton] at inside
    rw [inside, UInt8.toNat_ofNat']
    omega
  | case2 | case3 | case4 =>
    intro inside
    -- Every byte of a longer code is 128 or more.
    simp only [List.mem_cons, List.not_mem_nil, or_false, ← UInt8.toNat_inj,
      UInt8.toNat_ofNat'] at inside
    omega

/-- In UTF-8 a character of a single byte is that byte, which is part of no other code. -/
theorem isCodeOf_utf8 (c : Char) (ascii : c.toNat < 128) :
    IsCodeOf String.utf8EncodeChar (UInt8.ofNat c.toNat) c where
  alone := by
    unfold String.utf8EncodeChar
    exact if_pos (Nat.le_of_lt_succ ascii)
  unique := by
    intro other inside
    have small : (UInt8.ofNat c.toNat).toNat = c.toNat := by
      simp only [UInt8.toNat_ofNat']
      omega
    have same := toNat_eq_of_mem_utf8EncodeChar (by omega) inside
    exact Char.toNat_inj.mp (same.trans small)

/-- Bytes are the code of a text exactly if they decode to it. -/
theorem decode?_eq_some_iff {bytes : List UInt8} {text : String} :
    decode? bytes = some text ↔ bytes.toByteArray = text.toByteArray := by
  unfold decode? String.fromUTF8?
  split
  · rename_i valid
    simp [← String.toByteArray_inj, String.fromUTF8, eq_comm]
  · rename_i invalid
    exact iff_of_false (by simp) fun same => invalid (same ▸ text.isValidUTF8)

/-- A line that was encoded is decoded as itself. -/
theorem decode?_flatMap (line : List Char) :
    decode? (line.flatMap String.utf8EncodeChar) = some (String.ofList line) := by
  rw [decode?_eq_some_iff, String.toByteArray_ofList, List.utf8Encode]

/-- So are several. -/
theorem mapM_decode?_map (lines : List (List Char)) :
    (lines.map fun line => line.flatMap String.utf8EncodeChar).mapM decode? =
      some (lines.map String.ofList) := by
  induction lines with
  | nil => rfl
  | cons line lines ih => simp [decode?_flatMap, ih]

/-- Lines that are decoded one by one are valid. -/
theorem isValidUTF8_of_mapM_decode? {lines : List (List UInt8)} {texts : List String}
    (decoded : lines.mapM decode? = some texts) :
    ∀ line ∈ lines, line.toByteArray.IsValidUTF8 := by
  induction lines generalizing texts with
  | nil => simp
  | cons line lines ih =>
    simp only [List.mapM_cons, Option.pure_def, Option.bind_eq_bind,
      Option.bind_eq_some_iff] at decoded
    obtain ⟨text, first, others, rest, -⟩ := decoded
    rw [List.forall_mem_cons]
    exact ⟨decode?_eq_some_iff.mp first ▸ text.isValidUTF8, ih rest⟩

/-- Bytes are valid if their lines are. -/
theorem isValidUTF8_of_cut {bytes : List UInt8}
    (valid : ∀ line ∈ cut 10 13 bytes, line.toByteArray.IsValidUTF8) :
    bytes.toByteArray.IsValidUTF8 := by
  induction bytes using lineInduction (10 : UInt8) with
  | empty => exact ByteArray.isValidUTF8_empty
  | last line filled unended =>
    rw [cut_of_notMem filled unended, List.forall_mem_singleton] at valid
    exact valid
  | ended line rest free ih =>
    rw [cut_append free, List.forall_mem_cons] at valid
    have feeds : [10].toByteArray.IsValidUTF8 := .intro ['\n'] rfl
    have returns : [13].toByteArray.IsValidUTF8 := .intro ['\r'] rfl
    have whole : line.toByteArray.IsValidUTF8 := by
      rcases withoutReturn_cases 13 line with same | split
      · rw [same]
        exact valid.1
      · rw [split, List.toByteArray_append]
        exact valid.1.append returns
    rw [← List.singleton_append, List.toByteArray_append, List.toByteArray_append]
    exact whole.append (feeds.append (ih valid.2))

/-- The content of a file with a text has the lines of this text. -/
theorem ofContent?_toByteArray (text : String) :
    ofContent? text.toByteArray = some ((cut '\n' '\r' text.toList).map String.ofList) := by
  simp [ofContent?, String.fromUTF8?, String.fromUTF8, text.isValidUTF8]

/-- A content without lines is no UTF-8. -/
theorem ofContent?_eq_none_iff {bytes : ByteArray} :
    ofContent? bytes = none ↔ ¬ bytes.IsValidUTF8 := by
  simp [ofContent?, String.fromUTF8?]

/-- Bytes that are the UTF-8 code of a text have its lines. -/
def HasLines (bytes : ByteArray) (texts : List String) : Prop :=
  ∃ (text : String) (lines : List (List Char)), bytes = text.toByteArray ∧
    Splits text.toList lines ∧ texts = lines.map String.ofList

/-- A content has the lines of the text that it encodes. -/
theorem ofContent?_eq_some_iff {bytes : ByteArray} {texts : List String} :
    ofContent? bytes = some texts ↔ HasLines bytes texts := by
  constructor
  · intro decoded
    by_cases valid : bytes.IsValidUTF8
    · have found := ofContent?_toByteArray ⟨bytes, valid⟩
      exact ⟨_, _, rfl, splits_cut _, Option.some.inj (decoded.symm.trans found)⟩
    · rw [ofContent?_eq_none_iff.mpr valid] at decoded
      cases decoded
  · rintro ⟨text, lines, rfl, split, rfl⟩
    rw [ofContent?_toByteArray, splits_iff.mp split]

/-- **Lines of bytes.** A stream has the lines that a file with the same bytes has. -/
theorem ofStream?_eq_ofContent? (bytes : ByteArray) : ofStream? bytes = ofContent? bytes := by
  by_cases valid : bytes.IsValidUTF8
  · obtain ⟨text, rfl⟩ := valid
    have content := ofContent?_toByteArray (String.ofList text)
    rw [String.toByteArray_ofList, String.toList_ofList] at content
    have bytes : text.utf8Encode.data.toList = text.flatMap String.utf8EncodeChar := by
      simp [List.utf8Encode]
    have feeds : IsCodeOf String.utf8EncodeChar 10 '\n' := isCodeOf_utf8 '\n' (by decide)
    have returns : IsCodeOf String.utf8EncodeChar 13 '\r' := isCodeOf_utf8 '\r' (by decide)
    rw [content, ofStream?, bytes,
      cut_flatMap feeds returns fun _ => String.utf8EncodeChar_ne_nil, mapM_decode?_map]
  · rw [ofContent?_eq_none_iff.mpr valid, ofStream?]
    refine Option.eq_none_iff_forall_ne_some.mpr fun texts decoded => valid ?_
    have whole : bytes.data.toList.toByteArray = bytes := ByteArray.ext (by simp)
    rw [← whole]
    exact isValidUTF8_of_cut (isValidUTF8_of_mapM_decode? decoded)

end Text.Lines

namespace Source

/-- **The same bytes, the same expressions.** The bytes of a file that is named, whatever
expressions and input there are beside it, and the same bytes as the input of a run with neither a
file nor expressions have the same effect: if they are the UTF-8 code of a text, both runs get the
lines of this text that are not blank, and if they are not, both fail. -/
theorem expressions_of_same_bytes {withFile withInput : Options} {path : String}
    {first second : Surroundings} {bytes : ByteArray} (named : withFile.file = some path)
    (content : first.file? path = some bytes) (unnamed : withInput.file = none)
    (bare : withInput.expressions = []) (input : second.input = bytes) :
    (¬ bytes.IsValidUTF8 ∧
      withFile.source.expressions first = .error (.unreadableFile path) ∧
      withInput.source.expressions second = .error .unreadableInput) ∨
    ∃ text : String, text.toByteArray = bytes ∧
      ∃ texts, texts = ((Text.Lines.cut '\n' '\r' text.toList).map String.ofList).filter
          (fun line => !Text.isBlankText line) ∧
        withFile.source.expressions first = .ok texts ∧
        withInput.source.expressions second = .ok texts := by
  have fromFile : withFile.source = .file path := by simp only [Options.source, named]
  have fromInput : withInput.source = .standardInput := by simp only [Options.source, unnamed, bare]
  have same := Text.Lines.ofStream?_eq_ofContent? bytes
  by_cases valid : bytes.IsValidUTF8
  · let text : String := ⟨bytes, valid⟩
    have lines : Text.Lines.ofContent? bytes = _ := Text.Lines.ofContent?_toByteArray text
    refine .inr ⟨text, rfl, _, rfl, ?_, ?_⟩
    · simp only [fromFile, expressions, candidates, content, Option.bind_some, lines,
        Text.isEmpty_trimmed]
      rfl
    · simp only [fromInput, expressions, candidates, input, same, lines, Text.isEmpty_trimmed]
      rfl
  · have nothing := Text.Lines.ofContent?_eq_none_iff.mpr valid
    refine .inl ⟨valid, ?_, ?_⟩
    · simp only [fromFile, expressions, candidates, content, Option.bind_some, nothing]
      rfl
    · simp only [fromInput, expressions, candidates, input, same, nothing]
      rfl

/-- The file is read although there is an expression, a line ends with two characters and one is
blank, and the last one keeps its carriage return. -/
theorem expressions_of_same_bytes_of_three_lines :
    ∃ withFile withInput : Options, ∃ first second : Surroundings, ∃ bytes : ByteArray,
      bytes = "1 + 2\r\n \n÷\r".toByteArray ∧ withFile.file = some "in.txt" ∧
      first.file? "in.txt" = some bytes ∧ withInput.file = none ∧ withInput.expressions = [] ∧
      second.input = bytes ∧
      withFile.source.expressions first = .ok ["1 + 2", "÷\r"] ∧
      withInput.source.expressions second = .ok ["1 + 2", "÷\r"] := by
  let text := "1 + 2\r\n \n÷\r"
  refine ⟨⟨["ignored"], some "in.txt", false, false⟩, ⟨[], none, false, false⟩,
    ⟨fun _ => some text.toByteArray, .empty⟩, ⟨fun _ => none, text.toByteArray⟩, _, rfl, rfl, rfl,
    rfl, rfl, rfl, ?_⟩
  rcases @expressions_of_same_bytes ⟨["ignored"], some "in.txt", false, false⟩
    ⟨[], none, false, false⟩ "in.txt" ⟨fun _ => some text.toByteArray, .empty⟩
    ⟨fun _ => none, text.toByteArray⟩ _ rfl rfl rfl rfl rfl with
    ⟨invalid, -⟩ | ⟨decoded, code, texts, lines, read⟩
  · exact absurd text.isValidUTF8 invalid
  · obtain rfl : decoded = text := String.toByteArray_inj.mp code
    have found : texts = ["1 + 2", "÷\r"] := lines.trans (by decide +kernel)
    rwa [found] at read

end Source

end Reckoner
