import Reckoner.Proofs.Scanning.Pieces

/-! # Places of a text

A location that is kept up to date character by character says what counting anew from the start
of the text would say (`Location.behind_append`), whichever characters were passed. So every
location that a scan hands out is a place of its text (`Lexemes.isPlaceOf_scan`): it lies behind
some of its first characters, and its offset, line and column are theirs. Every lexeme takes at
least one character, so the offsets of the lexemes of a text grow strictly up to the end of the text
(`Lexemes.offsets_scan`), and no two of them share a location (`Lexemes.location_iff_index`).
-/

namespace Reckoner

namespace Location

/-- The location behind the first characters of a text, counted anew: the bytes of these
characters, one line more than they have line feeds, and one column more than they have characters
behind the last line feed. -/
def behind (before : List Char) : Location where
  offset := (String.ofList before).utf8ByteSize
  line := 1 + before.count '\n'
  column := 1 + (before.reverse.takeWhile (· ≠ '\n')).length

/-- A location lies between two characters of a text, or at one of its ends. -/
def IsPlaceOf (text : String) (here : Location) : Prop :=
  ∃ before after, before ++ after = text.toList ∧ here = behind before

/-- One more character is one more step. -/
theorem behind_concat (before : List Char) (c : Char) :
    behind (before ++ [c]) = (behind before).step c := by
  by_cases newline : c = '\n'
  · subst newline
    simp [behind, step, String.ofList_append, Nat.add_assoc]
    rfl
  · simp [behind, step, newline, String.ofList_append, Nat.add_assoc]

/-- Counting on is counting anew. -/
theorem behind_append (before more : List Char) :
    behind (before ++ more) = (behind before).advance more := by
  induction more generalizing before with
  | nil => simp
  | cons c more ih =>
    rw [advance_cons, ← behind_concat, ← ih]
    simp

/-- A place of a text lies at most at its end. -/
theorem IsPlaceOf.offset_le {text : String} {here : Location} (place : here.IsPlaceOf text) :
    here.offset ≤ text.utf8ByteSize := by
  obtain ⟨before, after, split, rfl⟩ := place
  have whole := congrArg String.ofList split
  rw [String.ofList_append, String.ofList_toList] at whole
  rw [← whole, String.utf8ByteSize_append]
  exact Nat.le_add_right _ _

end Location

namespace Lexemes

open Location

/-- The locations that a scan hands out: those of all lexemes, or that of the fault. -/
def handedOut : Except ScanFault Lexemes → List Location
  | .ok row => row.toList.map Lexeme.location
  | .error fault => [fault.location]

/-- Every location that a scan hands out from some place on is a place of the text. -/
theorem handedOut_scanFrom {text : String} {found : List Lexeme} {before rest : List Char}
    (split : before ++ rest = text.toList)
    (earlier : ∀ lexeme ∈ found, lexeme.location.IsPlaceOf text) :
    ∀ here ∈ handedOut (scanFrom found (behind before) rest), here.IsPlaceOf text := by
  have standing : (behind before).IsPlaceOf text := ⟨before, rest, split, rfl⟩
  induction rest using Text.pieceInduction generalizing found before with
  | empty =>
    intro here inside
    rw [scanFrom_nil] at inside
    simp only [handedOut, toList, Lexeme.atEnd, List.map_append, List.map_reverse, List.map_cons,
      List.map_nil, List.mem_append, List.mem_reverse, List.mem_map, List.mem_singleton] at inside
    rcases inside with ⟨lexeme, known, rfl⟩ | rfl
    · exact earlier lexeme known
    · exact standing
  | blank c rest separates ih =>
    have next : (before ++ [c]) ++ rest = text.toList := by simpa using split
    rw [scanFrom_blank separates, ← behind_concat]
    exact ih next earlier ⟨_, _, next, rfl⟩
  | run digits rest run ih =>
    have next : (before ++ digits) ++ rest = text.toList := by simpa using split
    cases literal : Literal.ofDigits? digits with
    | none =>
      rw [scanFrom_tooLarge run literal]
      simpa [handedOut, ScanFault.location] using standing
    | some value =>
      rw [scanFrom_literal run literal, ← behind_append]
      exact ih next (by simpa using ⟨standing, earlier⟩) ⟨_, _, next, rfl⟩
  | symbol c rest token known ih =>
    have next : (before ++ [c]) ++ rest = text.toList := by simpa using split
    rw [scanFrom_symbol known, ← behind_concat]
    exact ih next (by simpa using ⟨standing, earlier⟩) ⟨_, _, next, rfl⟩
  | foreign c rest solid other unknown =>
    rw [scanFrom_foreign solid other unknown]
    simpa [handedOut, ScanFault.location] using standing

/-- Every location of a scan is a place of its text. -/
theorem isPlaceOf_scan (text : String) :
    ∀ here ∈ handedOut (scan text), here.IsPlaceOf text :=
  @handedOut_scanFrom text [] [] text.toList (List.nil_append _) (by simp)

end Lexemes

/-! ## The order of places -/

/-- Every character has a byte at least. -/
theorem Location.offset_lt_step (here : Location) (c : Char) :
    here.offset < (here.step c).offset := by
  have wide := c.utf8Size_pos
  rw [Location.offset_step]
  omega

/-- So has every run of characters that is not empty. -/
theorem Location.offset_lt_advance_cons (here : Location) (c : Char) (passed : List Char) :
    here.offset < (here.advance (c :: passed)).offset := by
  rw [Location.advance_cons, Location.offset_advance]
  exact Nat.lt_of_lt_of_le (here.offset_lt_step c) (Nat.le_add_right _ _)

namespace Lexemes

/-- The offsets of the lexemes found so far, the latest first, fall from `here` on. -/
def Falling (here : Location) (found : List Lexeme) : Prop :=
  (here.offset :: found.map fun lexeme => lexeme.location.offset).Pairwise (· > ·)

/-- The offsets still fall when the location moves on. -/
theorem Falling.move {here there : Location} {found : List Lexeme} (falling : Falling here found)
    (later : here.offset < there.offset) : Falling there found := by
  obtain ⟨below, rest⟩ := List.pairwise_cons.mp falling
  refine List.pairwise_cons.mpr ⟨?_, rest⟩
  intro offset inside
  exact Nat.lt_trans (below offset inside) later

/-- They still fall with one more lexeme at the location that is left. -/
theorem Falling.cons {here there : Location} {found : List Lexeme} (falling : Falling here found)
    (later : here.offset < there.offset) (token : Token) (raw : String) :
    Falling there (⟨token, here, raw⟩ :: found) := by
  refine List.pairwise_cons.mpr ⟨?_, falling⟩
  obtain ⟨below, _⟩ := List.pairwise_cons.mp falling
  intro offset inside
  rcases List.mem_cons.mp inside with rfl | before
  · exact later
  · exact Nat.lt_trans (below offset before) later

/-- A scan that starts behind its lexemes hands them out in the order of their offsets. -/
theorem offsets_scanFrom {found : List Lexeme} {here : Location} {text : List Char} {row : Lexemes}
    (falling : Falling here found) (scanned : scanFrom found here text = .ok row) :
    (row.toList.map fun lexeme => lexeme.location.offset).Pairwise (· < ·) := by
  fun_induction scanFrom found here text with
  | case1 found here =>
    cases scanned
    have rising := List.pairwise_reverse.mpr falling
    simpa [toList, Lexeme.atEnd] using rising
  | case2 found here c rest blank ih =>
    exact ih (falling.move (here.offset_lt_step c)) scanned
  | case3 found here c rest solid digit digits value literal ih =>
    exact ih (falling.cons (here.offset_lt_advance_cons c _) _ _) scanned
  | case4 => cases scanned
  | case5 found here c rest solid digit token known ih =>
    exact ih (falling.cons (here.offset_lt_step c) _ _) scanned
  | case6 => cases scanned

/-- **Order.** From one lexeme of a text to the next, the offset grows, also to the end of the
input. -/
theorem offsets_scan {text : String} {row : Lexemes} (scanned : scan text = .ok row) :
    (row.toList.map fun lexeme => lexeme.location.offset).Pairwise (· < ·) := by
  have nothing : Falling Location.start [] := List.pairwise_singleton (· > ·) _
  exact offsets_scanFrom nothing scanned

/-- No two lexemes of a text share a location. -/
theorem nodup_locations {text : String} {row : Lexemes} (scanned : scan text = .ok row) :
    (row.toList.map Lexeme.location).Nodup := by
  have increasing := List.pairwise_map.mp (offsets_scan scanned)
  refine List.pairwise_map.mpr (increasing.imp ?_)
  intro first second before same
  rw [same] at before
  exact Nat.lt_irrefl _ before

/-- A location belongs to one lexeme of a text only. -/
theorem location_iff_index {text : String} {row : Lexemes} (scanned : scan text = .ok row)
    {lexeme : Lexeme} {index : Nat} (stands : row.toList[index]? = some lexeme) (other : Nat) :
    row.toList[other]?.map Lexeme.location = some lexeme.location ↔ other = index := by
  have here : (row.toList.map Lexeme.location)[index]? = some lexeme.location := by
    rw [List.getElem?_map, stands, Option.map_some]
  have inside := (List.getElem?_eq_some_iff.mp here).1
  rw [← List.getElem?_map, ← here, eq_comm,
    List.getElem?_inj inside (nodup_locations scanned)]
  exact eq_comm

end Lexemes

end Reckoner
