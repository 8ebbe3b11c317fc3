/-! # Texts

What the rest needs to know of characters and bytes. Blanks are the characters that Unicode gives
the property `White_Space`; those that core knows are among them (`isBlank_of_isWhitespace`). A text
is sliced at byte offsets, and only between two of its characters (`suffixFrom?_append`,
`slice?_append`). A text or a row of bytes is cut into lines.
-/

namespace Reckoner.Text

/-! ## Blanks -/

/-- The ranges of code points with the property `White_Space`, both ends included. -/
def blankRanges : List (Nat × Nat) :=
  [(0x09, 0x0D), (0x20, 0x20), (0x85, 0x85), (0xA0, 0xA0), (0x1680, 0x1680), (0x2000, 0x200A),
    (0x2028, 0x2029), (0x202F, 0x202F), (0x205F, 0x205F), (0x3000, 0x3000)]

/-- Whether a character only separates. -/
def isBlank (c : Char) : Bool :=
  blankRanges.any fun (low, high) => low ≤ c.toNat && c.toNat ≤ high

/-- Whether a text holds nothing but blanks. -/
def isBlankText (text : String) : Bool :=
  text.toList.all isBlank

/-- A text without the blanks at its beginning and at its end. -/
def trimmed (text : String) : String :=
  String.ofList ((text.toList.dropWhile isBlank).reverse.dropWhile isBlank).reverse

/-- What core takes for a blank is one. -/
theorem isBlank_of_isWhitespace {c : Char} (known : c.isWhitespace = true) : isBlank c = true := by
  simp only [Char.isWhitespace, Bool.or_eq_true, decide_eq_true_eq] at known
  rcases known with ((rfl | rfl) | rfl) | rfl <;> decide

/-- A digit is no blank. -/
theorem isBlank_eq_false_of_isDigit {c : Char} (digit : c.isDigit = true) : isBlank c = false := by
  have low : 48 ≤ c.toNat := by
    simp only [Char.isDigit, Bool.and_eq_true, decide_eq_true_eq] at digit
    exact UInt32.le_iff_toNat_le.mp digit.1
  have high : c.toNat ≤ 57 := by
    simp only [Char.isDigit, Bool.and_eq_true, decide_eq_true_eq] at digit
    exact UInt32.le_iff_toNat_le.mp digit.2
  simp [isBlank, blankRanges]
  omega

/-! ## Slices -/

/-- The text from a byte offset on, if the offset lies between two characters of the text or at
one of its ends. -/
def suffixFrom? : Nat → List Char → Option (List Char)
  | 0, text => some text
  | _ + 1, [] => none
  | offset + 1, c :: rest =>
    if c.utf8Size ≤ offset + 1 then suffixFrom? (offset + 1 - c.utf8Size) rest else none

/-- The characters in so many bytes at the beginning of a text, if these end between two characters
or with the text. -/
def prefixTo? : Nat → List Char → Option (List Char)
  | 0, _ => some []
  | _ + 1, [] => none
  | width + 1, c :: rest =>
    if c.utf8Size ≤ width + 1 then (prefixTo? (width + 1 - c.utf8Size) rest).map (c :: ·)
    else none

/-- The text between two byte offsets, if they are in order and cut no character in two. -/
def slice? (first last : Nat) (text : List Char) : Option (List Char) :=
  if first ≤ last then (suffixFrom? first text).bind (prefixTo? (last - first)) else none

/-- The first character of a text takes its bytes. -/
theorem utf8ByteSize_ofList_cons (c : Char) (rest : List Char) :
    (String.ofList (c :: rest)).utf8ByteSize =
      c.utf8Size + (String.ofList rest).utf8ByteSize := by
  have first : (String.ofList [c]).utf8ByteSize = c.utf8Size := by simp
  rw [← List.singleton_append, String.ofList_append, String.utf8ByteSize_append, first]

/-- An offset behind the first character is one into the rest. -/
theorem suffixFrom?_cons (c : Char) (offset : Nat) (rest : List Char) :
    suffixFrom? (c.utf8Size + offset) (c :: rest) = suffixFrom? offset rest := by
  obtain ⟨width, size⟩ := Nat.exists_eq_add_one.mpr c.utf8Size_pos
  have positive : c.utf8Size + offset = width + offset + 1 := by omega
  have left : width + offset + 1 - c.utf8Size = offset := by omega
  rw [positive, suffixFrom?, if_pos (by omega), left]

/-- An offset between two parts of a text leads to the second part. -/
theorem suffixFrom?_append (before after : List Char) :
    suffixFrom? (String.ofList before).utf8ByteSize (before ++ after) = some after := by
  induction before with
  | nil => simp [suffixFrom?]
  | cons c rest ih =>
    rw [utf8ByteSize_ofList_cons, List.cons_append, suffixFrom?_cons, ih]

/-- More bytes than the first character has reach into the rest. -/
theorem prefixTo?_cons (c : Char) (width : Nat) (rest : List Char) :
    prefixTo? (c.utf8Size + width) (c :: rest) = (prefixTo? width rest).map (c :: ·) := by
  obtain ⟨others, size⟩ := Nat.exists_eq_add_one.mpr c.utf8Size_pos
  have positive : c.utf8Size + width = others + width + 1 := by omega
  have left : others + width + 1 - c.utf8Size = width := by omega
  rw [positive, prefixTo?, if_pos (by omega), left]

/-- The bytes of the first part of a text hold this part. -/
theorem prefixTo?_append (before after : List Char) :
    prefixTo? (String.ofList before).utf8ByteSize (before ++ after) = some before := by
  induction before with
  | nil => simp [prefixTo?]
  | cons c rest ih =>
    rw [utf8ByteSize_ofList_cons, List.cons_append, prefixTo?_cons, ih, Option.map_some]

/-- The offsets of the two ends of a part lead to this part. -/
theorem slice?_append (before middle after : List Char) :
    slice? (String.ofList before).utf8ByteSize
      ((String.ofList before).utf8ByteSize + (String.ofList middle).utf8ByteSize)
      (before ++ (middle ++ after)) = some middle := by
  rw [slice?, if_pos (Nat.le_add_right _ _), suffixFrom?_append, Option.bind_some,
    Nat.add_sub_cancel_left, prefixTo?_append]

/-! ## Lines of UTF-8 text

A line ends with a line feed, or with a carriage return and a line feed; the last one may lack its
ending, and then a carriage return belongs to it. Bytes become lines in two ways: the content of a
file is decoded as a whole and then cut, an input stream is cut at its line feeds and each line
is decoded on its own. Either way there are no lines if something is not UTF-8.
-/

namespace Lines

variable {α : Type} [DecidableEq α]

/-- A line without the carriage return at its end, if there is one. -/
def withoutReturn (carriageReturn : α) (line : List α) : List α :=
  if line.getLast? = some carriageReturn then line.dropLast else line

/-- Cuts at every line feed. Nothing comes after a line feed at the very end. -/
def cut (lineFeed carriageReturn : α) : List α → List (List α)
  | [] => []
  | first :: rest =>
    let text := first :: rest
    if lineFeed ∈ text then
      withoutReturn carriageReturn (text.takeWhile (· ≠ lineFeed)) ::
        cut lineFeed carriageReturn (text.dropWhile (· ≠ lineFeed)).tail
    else [text]
termination_by text => text.length
decreasing_by
  have shorter := (List.dropWhile_sublist (l := first :: rest) (· ≠ lineFeed)).length_le
  simp only [List.length_tail, List.length_cons] at shorter ⊢
  omega

/-- The text that some bytes encode. -/
def decode? (bytes : List UInt8) : Option String :=
  String.fromUTF8? bytes.toByteArray

/-- The lines of a file's content. -/
def ofContent? (bytes : ByteArray) : Option (List String) :=
  (String.fromUTF8? bytes).map fun text => (cut '\n' '\r' text.toList).map String.ofList

/-- The lines of an input stream. -/
def ofStream? (bytes : ByteArray) : Option (List String) :=
  (cut 10 13 bytes.data.toList).mapM decode?

example : (cut '\n' '\r' "a\r\n\nb\r".toList).map String.ofList = ["a", "", "b\r"] := by
  decide +kernel

end Lines

end Reckoner.Text
