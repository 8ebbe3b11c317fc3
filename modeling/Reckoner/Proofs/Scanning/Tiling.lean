import Mathlib.Data.List.Chain
import Reckoner.Proofs.Scanning.Places

/-! # Lexemes tile their text

A text is made of the raw texts of its lexemes and of the blanks between them, and of nothing else.
Which rows of lexemes a text has is said here without scanning it: as a tiling, whose tiles decode
to their tokens, stand where the characters before them end, and do not cut a run of digits in two.
The scan succeeds with exactly the row of a tiling (`Lexemes.scan_eq_ok_iff`), and the raw text of
a lexeme is a slice of the text at its offsets (`Lexemes.slice?_of_scan`).
-/

namespace Reckoner

/-- Some characters write a token: the symbol of an operator, a parenthesis, or decimal digits whose
value is the number. -/
inductive Writes : List Char → Token → Prop where
  | operator (op : Operator) : Writes [op.symbol] (.operator op)
  | openParen : Writes ['('] .openParen
  | closeParen : Writes [')'] .closeParen
  | number {digits : List Char} {value : Int64} (nonempty : digits ≠ [])
    (decimal : ∀ c ∈ digits, c.isDigit = true)
    (means : value.toInt = Nat.ofDigitChars 10 digits 0) : Writes digits (.number value)

namespace Writes

/-- A symbol writes the token that it is looked up for. -/
theorem of_ofSymbol? {c : Char} {token : Token} (known : Token.ofSymbol? c = some token) :
    Writes [c] token := by
  have carried := Token.ofSymbol?_eq_some_iff.mp known
  cases token with
  | operator op =>
    obtain rfl : op.symbol = c := by simpa [Token.content?] using carried
    exact .operator op
  | openParen =>
    obtain rfl : '(' = c := by simpa [Token.content?] using carried
    exact .openParen
  | closeParen =>
    obtain rfl : ')' = c := by simpa [Token.content?] using carried
    exact .closeParen
  | number value => simp [Token.content?] at carried
  | endOfInput => simp [Token.content?] at carried

/-- A token is written by its symbol, or by digits that make a literal of it. -/
theorem symbol_or_literal {raw : List Char} {token : Token} (writes : Writes raw token) :
    (∃ c, raw = [c] ∧ Token.ofSymbol? c = some token) ∨
      ∃ value, token = .number value ∧ raw ≠ [] ∧ (∀ c ∈ raw, c.isDigit = true) ∧
        Literal.ofDigits? raw = some value := by
  cases writes with
  | operator op => exact .inl ⟨_, rfl, Token.ofSymbol?_eq_some_iff.mpr rfl⟩
  | openParen => exact .inl ⟨_, rfl, Token.ofSymbol?_eq_some_iff.mpr rfl⟩
  | closeParen => exact .inl ⟨_, rfl, Token.ofSymbol?_eq_some_iff.mpr rfl⟩
  | @number _ value nonempty decimal means =>
    exact .inr ⟨value, rfl, nonempty, decimal, Literal.ofDigits?_eq_some_iff.mpr means⟩

/-- No token is written by nothing. -/
theorem ne_nil {raw : List Char} {token : Token} (writes : Writes raw token) : raw ≠ [] := by
  rcases writes.symbol_or_literal with ⟨c, rfl, -⟩ | ⟨value, -, nonempty, -⟩
  · simp
  · exact nonempty

/-- No token is written with blanks. -/
theorem isBlank_eq_false {raw : List Char} {token : Token} (writes : Writes raw token) :
    ∀ c ∈ raw, Text.isBlank c = false := by
  rcases writes.symbol_or_literal with ⟨c, rfl, known⟩ | ⟨value, -, -, digits, -⟩
  · simpa using Token.isBlank_eq_false_of_ofSymbol? known
  · exact fun c inside => Text.isBlank_eq_false_of_isDigit (digits c inside)

/-- The end of the input is never written. -/
theorem ne_endOfInput {raw : List Char} {token : Token} (writes : Writes raw token) :
    token ≠ .endOfInput := by
  cases writes <;> simp

/-- Only one text writes an opening parenthesis, -/
theorem eq_of_openParen {raw : List Char} (writes : Writes raw .openParen) : raw = ['('] := by
  cases writes
  rfl

/-- and one a closing parenthesis. -/
theorem eq_of_closeParen {raw : List Char} (writes : Writes raw .closeParen) : raw = [')'] := by
  cases writes
  rfl

/-- What starts with a digit is digits throughout. -/
theorem isDigit_of_head {c : Char} {raw : List Char} {token : Token}
    (writes : Writes (c :: raw) token) (digit : c.isDigit = true) :
    ∀ d ∈ c :: raw, d.isDigit = true := by
  rcases writes.symbol_or_literal with ⟨symbol, same, known⟩ | ⟨value, -, -, digits, -⟩
  · cases same
    rw [Token.isDigit_eq_false_of_ofSymbol? known] at digit
    cases digit
  · exact digits

end Writes

/-- A lexeme and the blanks behind it. -/
structure Tile where
  lexeme : Lexeme
  gap : List Char

namespace Tile

/-- The characters of the lexeme. -/
def raw (tile : Tile) : List Char :=
  tile.lexeme.raw.toList

/-- All characters of the tile. -/
def written (tile : Tile) : List Char :=
  tile.raw ++ tile.gap

/-- The lexeme is a mark of the text and not its end, its raw text is not empty, has no blank in it
and decodes to its token; behind it come blanks only. -/
structure IsMark (tile : Tile) : Prop where
  nonempty : tile.raw ≠ []
  solid : ∀ c ∈ tile.raw, Text.isBlank c = false
  decodes : Writes tile.raw tile.lexeme.token
  inside : tile.lexeme.token ≠ .endOfInput
  separates : ∀ c ∈ tile.gap, Text.isBlank c = true

/-- A lexeme that is decoded from its raw text makes a tile with any blanks behind it. -/
theorem isMark_of_writes {tile : Tile} (decodes : Writes tile.raw tile.lexeme.token)
    (separates : ∀ c ∈ tile.gap, Text.isBlank c = true) : tile.IsMark :=
  ⟨decodes.ne_nil, decodes.isBlank_eq_false, decodes, decodes.ne_endOfInput, separates⟩

/-- Two tiles in a row that are both digits have a blank between them. -/
def Apart (first second : Tile) : Prop :=
  (∀ c ∈ first.raw, c.isDigit = true) → (∀ c ∈ second.raw, c.isDigit = true) → first.gap ≠ []

end Tile

/-- A text that stands behind the characters `passed` consists of some blanks and of tiles one after
the other. Each lexeme is located behind all the characters before it, and no run of digits is
spread over two tiles. -/
structure IsTiling (passed text lead : List Char) (tiles : List Tile) : Prop where
  whole : lead ++ tiles.flatMap Tile.written = text
  separates : ∀ c ∈ lead, Text.isBlank c = true
  marks : ∀ tile ∈ tiles, tile.IsMark
  located : ∀ (index : Nat) (tile : Tile), tiles[index]? = some tile →
    tile.lexeme.location =
      Location.behind (passed ++ lead ++ (tiles.take index).flatMap Tile.written)
  apart : tiles.IsChain Tile.Apart

namespace IsTiling

variable {passed text lead rest : List Char} {tile : Tile} {tiles : List Tile}

/-- Blanks alone are tiled by nothing. -/
theorem nil (separates : ∀ c ∈ lead, Text.isBlank c = true) : IsTiling passed lead lead [] :=
  ⟨by simp, separates, by simp, by simp, .nil⟩

/-- The first tile and the tiling of what comes behind its raw text make a tiling. -/
theorem cons (separates : ∀ c ∈ lead, Text.isBlank c = true)
    (located : tile.lexeme.location = Location.behind (passed ++ lead))
    (decodes : Writes tile.raw tile.lexeme.token)
    (apart : (∀ c ∈ tile.raw, c.isDigit = true) → Text.NoDigitNext rest)
    (others : IsTiling (passed ++ lead ++ tile.raw) rest tile.gap tiles) :
    IsTiling passed (lead ++ tile.raw ++ rest) lead (tile :: tiles) where
  whole := by simp [← others.whole, Tile.written]
  separates := separates
  marks := by simpa using ⟨Tile.isMark_of_writes decodes others.separates, others.marks⟩
  located := by
    intro index other stands
    cases index with
    | zero =>
      obtain rfl : tile = other := by simpa using stands
      simpa using located
    | succ index =>
      have later := others.located index other (by simpa using stands)
      simpa [Tile.written] using later
  apart := by
    cases tiles with
    | nil => exact .singleton tile
    | cons next tiles =>
      refine .cons_cons ?_ others.apart
      intro digits next_digits nothing
      -- Without a gap the next tile stands where no digit may stand.
      have ends := apart digits
      have mark := others.marks next List.mem_cons_self
      rw [← others.whole, nothing, List.nil_append, List.flatMap_cons, Tile.written] at ends
      cases written : next.raw with
      | nil => exact mark.nonempty written
      | cons c raw =>
        have digit := next_digits c (by simp [written])
        simp [written, digit] at ends

/-- A blank in front of a tiling belongs to its lead. -/
theorem blank {c : Char} (separates : Text.isBlank c = true)
    (tiling : IsTiling (passed ++ [c]) rest lead tiles) :
    IsTiling passed (c :: rest) (c :: lead) tiles where
  whole := by simp [tiling.whole]
  separates := by simpa using ⟨separates, tiling.separates⟩
  marks := tiling.marks
  located := by simpa using tiling.located
  apart := tiling.apart

/-- A mark in front of a tiling is its first tile. -/
theorem mark {raw : List Char} {token : Token} (writes : Writes raw token)
    (apart : (∀ c ∈ raw, c.isDigit = true) → Text.NoDigitNext rest)
    (tiling : IsTiling (passed ++ raw) rest lead tiles) :
    IsTiling passed (raw ++ rest) []
      (⟨⟨token, Location.behind passed, String.ofList raw⟩, lead⟩ :: tiles) := by
  let tile : Tile := ⟨⟨token, Location.behind passed, String.ofList raw⟩, lead⟩
  have same : tile.raw = raw := String.toList_ofList
  have first := @cons passed [] rest tile tiles (by simp) (by simp [tile])
    (by rwa [same]) (by rwa [same]) (by rwa [same, List.append_nil])
  rwa [same, List.nil_append] at first

/-- The first tile ends where its raw text ends, and what comes behind has a tiling of its own. -/
theorem of_cons (tiling : IsTiling passed rest lead (tile :: tiles)) :
    ∃ later, rest = lead ++ (tile.raw ++ later) ∧
      tile.lexeme.location = Location.behind (passed ++ lead) ∧
      ((∀ c ∈ tile.raw, c.isDigit = true) → Text.NoDigitNext later) ∧
      IsTiling (passed ++ lead ++ tile.raw) later tile.gap tiles := by
  have first := tiling.marks tile List.mem_cons_self
  refine ⟨tile.gap ++ tiles.flatMap Tile.written, ?_, ?_, ?_, ?_⟩
  · simp [← tiling.whole, Tile.written]
  · simpa using tiling.located 0 tile rfl
  · intro digits
    cases gap : tile.gap with
    | cons c gap =>
      have separates := first.separates c (by simp [gap])
      cases digit : c.isDigit with
      | false => simpa using digit
      | true => simp [Text.isBlank_eq_false_of_isDigit digit] at separates
    | nil =>
      cases tiles with
      | nil => simp
      | cons next tiles =>
        have apart := (List.isChain_cons_cons.mp tiling.apart).1
        have mark := tiling.marks next (by simp)
        have decodes := mark.decodes
        cases written : next.raw with
        | nil => exact absurd written mark.nonempty
        | cons c raw =>
          rw [written] at decodes
          cases digit : c.isDigit with
          | false => simpa [Tile.written, written] using digit
          | true =>
            have digits_next := decodes.isDigit_of_head digit
            rw [← written] at digits_next
            exact absurd gap (apart digits digits_next)
  · refine ⟨rfl, first.separates, fun other inside => ?_, fun index other stands => ?_, ?_⟩
    · exact tiling.marks other (List.mem_cons_of_mem tile inside)
    · have located := tiling.located (index + 1) other (by simpa using stands)
      simpa [Tile.written] using located
    · cases tiles with
      | nil => exact .nil
      | cons next tiles => exact (List.isChain_cons_cons.mp tiling.apart).2

/-- The tiles at the front of a tiling are a tiling of what they cover. -/
theorem of_append {earlier later : List Tile}
    (tiling : IsTiling passed text lead (earlier ++ later)) :
    IsTiling passed (lead ++ earlier.flatMap Tile.written) lead earlier where
  whole := rfl
  separates := tiling.separates
  marks := fun tile inside => tiling.marks tile (List.mem_append_left later inside)
  located := by
    intro index tile stands
    have bounded := (List.getElem?_eq_some_iff.mp stands).1
    have located := tiling.located index tile (by rwa [List.getElem?_append_left bounded])
    rwa [List.take_append_of_le_length (Nat.le_of_lt bounded)] at located
  apart := tiling.apart.left_of_append

/-- A lexeme of a tiling stands in the text, behind the characters of its location. -/
theorem exists_split (tiling : IsTiling passed text lead tiles) (inside : tile ∈ tiles) :
    ∃ before after, before ++ (tile.raw ++ after) = text ∧
      tile.lexeme.location = Location.behind (passed ++ before) := by
  obtain ⟨earlier, later, rfl⟩ := List.append_of_mem inside
  refine ⟨lead ++ earlier.flatMap Tile.written, tile.gap ++ later.flatMap Tile.written, ?_, ?_⟩
  · simp [← tiling.whole, Tile.written]
  · simpa using tiling.located earlier.length tile (by simp)

end IsTiling

namespace Lexemes

/-- A mark at the front of a text is scanned as its token. -/
theorem scanFrom_mark {found : List Lexeme} {here : Location} {raw rest : List Char}
    {token : Token} (writes : Writes raw token)
    (apart : (∀ c ∈ raw, c.isDigit = true) → Text.NoDigitNext rest) :
    scanFrom found here (raw ++ rest) =
      scanFrom (⟨token, here, String.ofList raw⟩ :: found) (here.advance raw) rest := by
  rcases writes.symbol_or_literal with ⟨c, rfl, known⟩ | ⟨value, rfl, nonempty, digits, literal⟩
  · rw [List.singleton_append, scanFrom_symbol known]
    rfl
  · rw [scanFrom_literal ⟨nonempty, digits, apart digits⟩ literal]

/-- Blanks only move the location. -/
theorem scanFrom_blanks {found : List Lexeme} {here : Location} {lead rest : List Char}
    (separates : ∀ c ∈ lead, Text.isBlank c = true) :
    scanFrom found here (lead ++ rest) = scanFrom found (here.advance lead) rest := by
  induction lead generalizing here with
  | nil => rfl
  | cons c lead ih =>
    obtain ⟨blank, blanks⟩ := List.forall_mem_cons.mp separates
    rw [List.cons_append, scanFrom_blank blank, ih blanks, Location.advance_cons]

/-- What is scanned has a tiling. -/
theorem exists_tiling_of_scanFrom {found : List Lexeme} {passed text : List Char} {row : Lexemes}
    (scanned : scanFrom found (Location.behind passed) text = .ok row) :
    ∃ lead tiles, IsTiling passed text lead tiles ∧
      row = ⟨found.reverse ++ tiles.map Tile.lexeme, Location.behind (passed ++ text)⟩ := by
  induction text using Text.pieceInduction generalizing found passed with
  | empty =>
    rw [scanFrom_nil] at scanned
    cases scanned
    exact ⟨[], [], .nil (by simp), by simp⟩
  | blank c rest separates ih =>
    rw [scanFrom_blank separates, ← Location.behind_concat] at scanned
    obtain ⟨lead, tiles, tiling, rfl⟩ := ih scanned
    exact ⟨c :: lead, tiles, tiling.blank separates, by simp⟩
  | run digits rest run ih =>
    cases literal : Literal.ofDigits? digits with
    | none =>
      rw [scanFrom_tooLarge run literal] at scanned
      cases scanned
    | some value =>
      rw [scanFrom_literal run literal, ← Location.behind_append] at scanned
      obtain ⟨lead, tiles, tiling, rfl⟩ := ih scanned
      have means := Literal.ofDigits?_eq_some_iff.mp literal
      exact ⟨[], _, tiling.mark (.number run.nonempty run.digits means) fun _ => run.ends,
        by simp⟩
  | symbol c rest token known ih =>
    rw [scanFrom_symbol known, ← Location.behind_concat] at scanned
    obtain ⟨lead, tiles, tiling, rfl⟩ := ih scanned
    have other := Token.isDigit_eq_false_of_ofSymbol? known
    exact ⟨[], _, tiling.mark (.of_ofSymbol? known) (by simp [other]), by simp⟩
  | foreign c rest solid other unknown =>
    rw [scanFrom_foreign solid other unknown] at scanned
    cases scanned

/-- The lexemes of a text have a tiling, and the row ends where the text ends. -/
theorem exists_tiling_of_scan {text : String} {row : Lexemes} (scanned : scan text = .ok row) :
    ∃ lead tiles, IsTiling [] text.toList lead tiles ∧ row.body = tiles.map Tile.lexeme ∧
      row.finish = Location.behind text.toList := by
  have anew : scanFrom [] (Location.behind []) text.toList = .ok row := scanned
  obtain ⟨lead, tiles, tiling, rfl⟩ := exists_tiling_of_scanFrom anew
  exact ⟨lead, tiles, tiling, rfl, rfl⟩

/-- Every lexeme in front of the end of the input is written by its raw text. -/
theorem writes_of_scan {text : String} {row : Lexemes} (scanned : scan text = .ok row) :
    ∀ lexeme ∈ row.body, Writes lexeme.raw.toList lexeme.token := by
  obtain ⟨lead, tiles, tiling, body, -⟩ := exists_tiling_of_scan scanned
  rw [body]
  intro lexeme inside
  obtain ⟨tile, known, rfl⟩ := List.mem_map.mp inside
  exact (tiling.marks tile known).decodes

/-- No lexeme but the last is the end of the input. -/
def IsSolid (row : Lexemes) : Prop :=
  ∀ lexeme ∈ row.body, lexeme.token ≠ .endOfInput

/-- The row of a text is solid. -/
theorem isSolid_of_scan {text : String} {row : Lexemes} (scanned : scan text = .ok row) :
    row.IsSolid :=
  fun lexeme inside => (writes_of_scan scanned lexeme inside).ne_endOfInput

/-- A lexeme of a text, the end of the input included, stands in it with its raw text, behind the
characters of its location. -/
theorem exists_split_of_scan {text : String} {row : Lexemes} (scanned : scan text = .ok row)
    {lexeme : Lexeme} (inside : lexeme ∈ row.toList) :
    ∃ before after, before ++ (lexeme.raw.toList ++ after) = text.toList ∧
      lexeme.location = Location.behind before := by
  obtain ⟨lead, tiles, tiling, body, finish⟩ := exists_tiling_of_scan scanned
  rcases List.mem_append.mp inside with stands | last
  · obtain ⟨tile, known, rfl⟩ := List.mem_map.mp (body ▸ stands)
    exact tiling.exists_split known
  · obtain rfl := List.mem_singleton.mp last
    exact ⟨text.toList, [], by simp [Lexeme.atEnd], finish⟩

/-- **Raw texts are slices.** The raw text of a lexeme is the slice of the text from the offset of
the lexeme to the offset behind its characters. Neither offset cuts a character in two, so there is
such a slice. -/
theorem slice?_of_scan {text : String} {row : Lexemes} (scanned : scan text = .ok row)
    {lexeme : Lexeme} (inside : lexeme ∈ row.toList) :
    Text.slice? lexeme.location.offset (lexeme.location.advance lexeme.raw.toList).offset
      text.toList = some lexeme.raw.toList := by
  obtain ⟨before, after, split, located⟩ := exists_split_of_scan scanned inside
  rw [located, Location.offset_advance, ← split]
  exact Text.slice?_append before lexeme.raw.toList after

/-- What has a tiling is scanned. -/
theorem scanFrom_of_tiling {found : List Lexeme} {passed text lead : List Char}
    {tiles : List Tile} (tiling : IsTiling passed text lead tiles) :
    scanFrom found (Location.behind passed) text =
      .ok ⟨found.reverse ++ tiles.map Tile.lexeme, Location.behind (passed ++ text)⟩ := by
  induction tiles generalizing found passed text lead with
  | nil =>
    obtain rfl : lead = text := by simpa using tiling.whole
    have blanks : scanFrom found (Location.behind passed) (lead ++ []) =
        scanFrom found ((Location.behind passed).advance lead) [] :=
      scanFrom_blanks tiling.separates
    rw [List.append_nil, scanFrom_nil, ← Location.behind_append] at blanks
    simpa using blanks
  | cons tile tiles ih =>
    obtain ⟨later, rfl, located, apart, others⟩ := tiling.of_cons
    have decodes := (tiling.marks tile List.mem_cons_self).decodes
    have lexeme : ⟨tile.lexeme.token, Location.behind (passed ++ lead), String.ofList tile.raw⟩ =
        tile.lexeme := by
      rw [← located, Tile.raw, String.ofList_toList]
    rw [scanFrom_blanks tiling.separates, ← Location.behind_append, scanFrom_mark decodes apart,
      ← Location.behind_append, lexeme, ih others]
    simp

/-- **Tiling.** A text is cut into a row of lexemes exactly when these tile the text: blanks and
raw texts in turn are the whole text, every lexeme is decoded from its raw text and located behind
what comes before it, and the row ends with the end of the input, behind all of the text. -/
theorem scan_eq_ok_iff {text : String} {row : Lexemes} :
    scan text = .ok row ↔
      ∃ lead tiles finish, IsTiling [] text.toList lead tiles ∧
        row.toList = tiles.map Tile.lexeme ++ [⟨.endOfInput, finish, ""⟩] ∧
        finish = Location.behind text.toList ∧ finish.offset = text.utf8ByteSize := by
  have size : (Location.behind text.toList).offset = text.utf8ByteSize := by
    rw [Location.behind, String.ofList_toList]
  constructor
  · intro scanned
    have anew : scanFrom [] (Location.behind []) text.toList = .ok row := scanned
    obtain ⟨lead, tiles, tiling, rfl⟩ := exists_tiling_of_scanFrom anew
    exact ⟨lead, tiles, _, tiling, rfl, rfl, size⟩
  · rintro ⟨lead, tiles, finish, tiling, lexemes, rfl, -⟩
    obtain ⟨body, finish⟩ := row
    obtain ⟨rfl, last⟩ := List.append_inj' lexemes rfl
    obtain rfl : finish = Location.behind text.toList := by simpa [Lexeme.atEnd] using last
    exact scanFrom_of_tiling tiling

end Lexemes

end Reckoner
