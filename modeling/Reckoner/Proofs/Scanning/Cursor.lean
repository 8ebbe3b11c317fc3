import Reckoner.Lexeme.Reader
import Reckoner.Proofs.Scanning.Tiling

/-! # Readers after any requests

A reader may be asked to take, to look, to skip and to put back in any order and any number of
times. Each request keeps its cursor and the place that it remembers in the row
(`Reader.StaysOn.respond?`), so no request breaks off, and a reader puts back exactly if its last
move was a taking (`Reader.lastTaken_of_after?`). What each request then does is said in terms of
the cursor alone (`Reader.contract_ofLexemes`).
-/

namespace Reckoner

namespace Reader

/-! ## Single requests on a row -/

/-- The cursor one lexeme further on a row, which ends with the end of the input. -/
def following (row : Lexemes) (cursor : Nat) : Nat :=
  if cursor = row.body.length then cursor else cursor + 1

/-- From inside a row, the end of the input is not left. -/
theorem following_le {row : Lexemes} {cursor : Nat} (inside : cursor ≤ row.body.length) :
    following row cursor ≤ row.body.length := by
  unfold following
  split
  · exact inside
  · next other => exact Nat.lt_of_le_of_ne inside other

/-- A reader has the lexemes of a row. Its cursor is in the row, and so is the place to which it
would go back. The end of the input is at place `row.body.length`. -/
structure StaysOn (row : Lexemes) (reader : Reader) : Prop where
  lexemes : reader.lexemes = row.toList
  inside : reader.cursor ≤ row.body.length
  taken : ∀ index, reader.lastTaken = some index → index ≤ row.body.length

/-- A new reader stands at the first lexeme of its row. -/
theorem staysOn_ofLexemes (row : Lexemes) : (ofLexemes row).StaysOn row :=
  ⟨rfl, Nat.zero_le _, by simp [ofLexemes]⟩

namespace StaysOn

variable {row : Lexemes} {reader : Reader}

/-- A reader on a row has a lexeme to look at. -/
theorem exists_look? (stays : reader.StaysOn row) :
    ∃ lexeme, row.toList[reader.cursor]? = some lexeme ∧ reader.look? = some lexeme := by
  have found : reader.look? ≠ none := by
    intro vain
    have beyond := look?_eq_none_iff.mp vain
    have inside := stays.inside
    rw [stays.lexemes, Lexemes.length_toList, Lexemes.size] at beyond
    omega
  obtain ⟨lexeme, known⟩ := Option.ne_none_iff_exists'.mp found
  refine ⟨lexeme, ?_, known⟩
  rw [← known, look?, stays.lexemes]

/-- Only the last lexeme of a row is its end. -/
theorem atEnd?_eq (stays : reader.StaysOn row) (solid : row.IsSolid) :
    reader.atEnd? = some (decide (reader.cursor = row.body.length)) := by
  obtain ⟨lexeme, here, found⟩ := stays.exists_look?
  have answer : reader.atEnd? = some lexeme.token.isEnd := by rw [atEnd?, found]; rfl
  rw [Lexemes.toList] at here
  rw [answer, Option.some.injEq, Bool.eq_iff_iff, Token.isEnd_iff, decide_eq_true_iff]
  constructor
  · intro finished
    refine Nat.le_antisymm stays.inside (Nat.not_lt.mp fun inside => ?_)
    rw [List.getElem?_append_left inside] at here
    exact solid _ (List.mem_of_getElem? here) finished
  · intro last
    rw [last, List.getElem?_concat_length, Option.some.injEq] at here
    rw [← here]
    rfl

/-- A step is one lexeme to the right, except at the end of the input. -/
theorem step?_eq (stays : reader.StaysOn row) (solid : row.IsSolid) :
    reader.step? = some ⟨row.toList, following row reader.cursor, reader.lastTaken⟩ := by
  rw [step?, stays.atEnd?_eq solid, ← stays.lexemes]
  by_cases last : reader.cursor = row.body.length
  · simp only [last, following, decide_true, ↓reduceIte]
    rw [← last]
    rfl
  · simp only [last, following, decide_false, ↓reduceIte]
    rfl

/-- Looking hands out the lexeme at the cursor and changes nothing. -/
theorem respond?_look (stays : reader.StaysOn row) :
    ∃ lexeme, row.toList[reader.cursor]? = some lexeme ∧
      reader.respond? .look = some (.lexeme lexeme, reader) := by
  obtain ⟨lexeme, here, found⟩ := stays.exists_look?
  exact ⟨lexeme, here, by rw [respond?, found]; rfl⟩

/-- Taking hands out the lexeme at the cursor, remembers where it was and moves on. -/
theorem respond?_take (stays : reader.StaysOn row) (solid : row.IsSolid) :
    ∃ lexeme, row.toList[reader.cursor]? = some lexeme ∧
      reader.respond? .take =
        some (.lexeme lexeme, ⟨row.toList, following row reader.cursor, some reader.cursor⟩) := by
  obtain ⟨lexeme, here, -⟩ := stays.exists_look?
  refine ⟨lexeme, here, ?_⟩
  simp [respond?, take?, stays.step?_eq solid, here]

/-- Skipping moves on and leaves nothing to put back. -/
theorem respond?_skip (stays : reader.StaysOn row) (solid : row.IsSolid) :
    reader.respond? .skip =
      some (.done, ⟨row.toList, following row reader.cursor, none⟩) := by
  have forgetful : { reader with lastTaken := none }.StaysOn row :=
    ⟨stays.lexemes, stays.inside, by simp⟩
  rw [respond?, skip?, forgetful.step?_eq solid]
  rfl

end StaysOn

/-- A reader that remembers a place goes back to it. -/
theorem respond?_putBack_of_some {reader : Reader} {index : Nat}
    (taken : reader.lastTaken = some index) :
    reader.respond? .putBack = some (.done, ⟨reader.lexemes, index, none⟩) := by
  simp only [respond?, putBack, taken]

/-- A reader that remembers none stays as it is. -/
theorem respond?_putBack_of_none {reader : Reader} (fresh : reader.lastTaken = none) :
    reader.respond? .putBack = some (.refused .nothingTaken, reader) := by
  obtain ⟨row, cursor, _⟩ := reader
  obtain rfl := fresh
  rfl

/-- **One request.** No request breaks off, and none takes a reader off its row. -/
theorem StaysOn.respond? {row : Lexemes} {reader : Reader} (stays : reader.StaysOn row)
    (solid : row.IsSolid) (request : Request) :
    ∃ reply next, reader.respond? request = some (reply, next) ∧ next.StaysOn row := by
  have onward := following_le stays.inside
  cases request with
  | take =>
    obtain ⟨lexeme, -, answered⟩ := stays.respond?_take solid
    exact ⟨_, _, answered, rfl, onward, by simpa using stays.inside⟩
  | skip => exact ⟨_, _, stays.respond?_skip solid, rfl, onward, by simp⟩
  | putBack =>
    cases taken : reader.lastTaken with
    | none => exact ⟨_, _, respond?_putBack_of_none taken, stays⟩
    | some index =>
      exact ⟨_, _, respond?_putBack_of_some taken, stays.lexemes, stays.taken index taken, by simp⟩
  | look =>
    obtain ⟨lexeme, -, answered⟩ := stays.respond?_look
    exact ⟨_, _, answered, stays⟩
  | texts => exact ⟨_, _, rfl, stays⟩
  | count kind => exact ⟨_, _, rfl, stays⟩

/-! ## Histories -/

/-- The reader after requests made one after the other, unless one of them breaks off. -/
def after? (reader : Reader) (history : List Request) : Option Reader :=
  history.foldlM (fun reader request => (reader.respond? request).map Prod.snd) reader

/-- The first request is answered by the reader itself, the others by what it has become. -/
theorem after?_cons_eq_some_iff {reader reached : Reader} {request : Request}
    {history : List Request} :
    reader.after? (request :: history) = some reached ↔
      ∃ reply next, reader.respond? request = some (reply, next) ∧
        next.after? history = some reached := by
  constructor
  · intro run
    obtain ⟨next, moved, onward⟩ := Option.bind_eq_some_iff.mp run
    obtain ⟨⟨reply, _⟩, answered, rfl⟩ := Option.map_eq_some_iff.mp moved
    exact ⟨reply, _, answered, onward⟩
  · rintro ⟨reply, next, answered, onward⟩
    simpa [after?, answered] using onward

/-- The last request is answered by the reader as the others left it. -/
theorem after?_concat_eq_some_iff {reader reached : Reader} {history : List Request}
    {request : Request} :
    reader.after? (history ++ [request]) = some reached ↔
      ∃ middle reply, reader.after? history = some middle ∧
        middle.respond? request = some (reply, reached) := by
  simp [after?, Option.bind_eq_some_iff]

/-- **Any requests.** Whatever a reader on a row is asked, it never breaks off and stays on the
row. -/
theorem StaysOn.after? {row : Lexemes} {reader : Reader} (stays : reader.StaysOn row)
    (solid : row.IsSolid) (history : List Request) :
    ∃ reached, reader.after? history = some reached ∧ reached.StaysOn row := by
  induction history using List.reverseRecOn with
  | nil => exact ⟨reader, rfl, stays⟩
  | append_singleton history request ih =>
    obtain ⟨middle, reaches, middle_stays⟩ := ih
    obtain ⟨reply, next, answered, next_stays⟩ := middle_stays.respond? solid request
    exact ⟨next, after?_concat_eq_some_iff.mpr ⟨middle, reply, reaches, answered⟩, next_stays⟩

/-- The last reply to a row of requests is that of the reader as the others left it. -/
theorem replies?_of_after? {reader reached : Reader} {history : List Request}
    (reaches : reader.after? history = some reached) :
    ∃ earlier, reader.replies? history = some earlier ∧
      ∀ request response, reached.respond? request = some response →
        reader.replies? (history ++ [request]) = some (earlier ++ [response]) := by
  induction history generalizing reader with
  | nil =>
    obtain rfl := Option.some.inj reaches
    exact ⟨[], rfl, fun request response answered => by simp [replies?, answered]⟩
  | cons first history ih =>
    obtain ⟨reply, next, answered, onward⟩ := after?_cons_eq_some_iff.mp reaches
    obtain ⟨earlier, known, last⟩ := ih onward
    refine ⟨(reply, next) :: earlier, by simp [replies?, answered, known], ?_⟩
    intro request response final
    simp [replies?, answered, last request response final]

/-! ## The last move -/

/-- Requests that may change the reader. -/
def Request.isMove : Request → Bool
  | .take | .skip | .putBack => true
  | .look | .texts | .count _ => false

/-- The others leave it as it is. -/
theorem eq_of_not_isMove {reader next : Reader} {request : Request} {reply : Reply}
    (still : request.isMove = false) (answered : reader.respond? request = some (reply, next)) :
    next = reader := by
  cases request with
  | take | skip | putBack => cases still
  | look =>
    obtain ⟨lexeme, -, same⟩ := Option.bind_eq_some_iff.mp answered
    exact (Prod.mk.inj (Option.some.inj same)).2.symm
  | texts | count => exact (Prod.mk.inj (Option.some.inj answered)).2.symm

/-- Any number of them does. -/
theorem eq_of_all_not_isMove {reader reached : Reader} {requests : List Request}
    (still : ∀ request ∈ requests, request.isMove = false)
    (reaches : reader.after? requests = some reached) : reached = reader := by
  induction requests generalizing reader with
  | nil => exact (Option.some.inj reaches).symm
  | cons request requests ih =>
    obtain ⟨reply, next, answered, onward⟩ := after?_cons_eq_some_iff.mp reaches
    rw [List.forall_mem_cons] at still
    rw [ih still.2 onward]
    exact eq_of_not_isMove still.1 answered

/-- The last move of a history is a taking, made when the requests `before` had been answered. -/
def TookLast (before history : List Request) : Prop :=
  ∃ still, history = before ++ .take :: still ∧ ∀ request ∈ still, request.isMove = false

/-- Without requests nothing is taken. -/
theorem not_tookLast_nil {before : List Request} : ¬ TookLast before [] := by
  rintro ⟨still, split, -⟩
  simp at split

/-- One more request is the last move itself, or it is no move. -/
theorem tookLast_concat {before history : List Request} {request : Request} :
    TookLast before (history ++ [request]) ↔
      (request = .take ∧ before = history) ∨
        (request.isMove = false ∧ TookLast before history) := by
  constructor
  · rintro ⟨still, split, quiet⟩
    rcases List.eq_nil_or_concat still with rfl | ⟨others, last, rfl⟩
    · obtain ⟨rfl, same⟩ := List.append_inj' split rfl
      exact .inl ⟨List.singleton_inj.mp same, rfl⟩
    · rw [List.concat_eq_append, ← List.cons_append, ← List.append_assoc] at split
      obtain ⟨rfl, same⟩ := List.append_inj' split rfl
      obtain rfl := List.singleton_inj.mp same
      rw [List.concat_eq_append, List.forall_mem_append, List.forall_mem_singleton] at quiet
      exact .inr ⟨quiet.2, others, rfl, quiet.1⟩
  · rintro (⟨rfl, rfl⟩ | ⟨quiet, still, rfl, others⟩)
    · exact ⟨[], rfl, by simp⟩
    · refine ⟨still ++ [request], by simp, ?_⟩
      rw [List.forall_mem_append, List.forall_mem_singleton]
      exact ⟨others, quiet⟩

/-- A step does not change what a reader remembers. -/
theorem lastTaken_of_step? {reader next : Reader} (stepped : reader.step? = some next) :
    next.lastTaken = reader.lastTaken := by
  obtain ⟨ended, -, moved⟩ := Option.bind_eq_some_iff.mp stepped
  cases ended <;> cases moved <;> rfl

/-- What is taken is remembered by its place. -/
theorem lastTaken_of_take? {reader next : Reader} {lexeme : Lexeme}
    (taken : reader.take? = some (lexeme, next)) : next.lastTaken = some reader.cursor := by
  obtain ⟨moved, -, found⟩ := Option.bind_eq_some_iff.mp taken
  obtain ⟨same, -, handed⟩ := Option.bind_eq_some_iff.mp found
  cases handed
  rfl

/-- A reader that puts back has forgotten what it took. -/
theorem lastTaken_putBack (reader : Reader) : reader.putBack.2.lastTaken = none := by
  unfold putBack
  split <;> rfl

/-- Every move but a taking makes a reader forget. -/
theorem lastTaken_of_isMove {reader next : Reader} {request : Request} {reply : Reply}
    (moves : request.isMove = true) (other : request ≠ .take)
    (answered : reader.respond? request = some (reply, next)) : next.lastTaken = none := by
  cases request with
  | take => exact absurd rfl other
  | skip =>
    obtain ⟨moved, skipped, same⟩ := Option.bind_eq_some_iff.mp answered
    cases same
    exact lastTaken_of_step? skipped
  | putBack =>
    have forgotten := lastTaken_putBack reader
    simp only [respond?] at answered
    split at answered <;> cases answered <;> simp_all
  | look | texts | count => cases moves

/-- **The last move.** A reader remembers a place exactly if its last move was a taking: the place
where its cursor stood then. -/
theorem lastTaken_of_after? {reader reached : Reader} (fresh : reader.lastTaken = none)
    {history : List Request} (reaches : reader.after? history = some reached) (index : Nat) :
    reached.lastTaken = some index ↔
      ∃ before earlier, TookLast before history ∧ reader.after? before = some earlier ∧
        earlier.cursor = index := by
  induction history using List.reverseRecOn generalizing reached with
  | nil =>
    obtain rfl := Option.some.inj reaches
    simp [fresh, not_tookLast_nil]
  | append_singleton history request ih =>
    obtain ⟨middle, reply, earlier, answered⟩ := after?_concat_eq_some_iff.mp reaches
    simp only [tookLast_concat]
    by_cases moves : request.isMove = true
    · by_cases takes : request = .take
      · subst takes
        obtain ⟨⟨lexeme, next⟩, taken, same⟩ := Option.bind_eq_some_iff.mp answered
        cases same
        simp [lastTaken_of_take? taken, earlier, Request.isMove]
      · simp [lastTaken_of_isMove moves takes answered, moves, takes]
    · rw [Bool.not_eq_true] at moves
      obtain rfl := eq_of_not_isMove moves answered
      rw [ih earlier]
      have other : request ≠ .take := by
        rintro rfl
        cases moves
      simp [moves, other]

/-! ## The contract of a reader -/

/-- What holds of a reader that started on a row once it is `reached` by the requests of a history,
and what it then does when asked for more. The lexeme at place `row.body.length` is the end of the
input. -/
structure Contract (row : Lexemes) (reader : Reader) (history : List Request)
    (reached : Reader) : Prop where
  /-- No request has broken off, -/
  reaches : reader.after? history = some reached
  /-- and the next one does not either: its answer comes behind those to the history. -/
  replied : ∃ earlier, reader.replies? history = some earlier ∧
    ∀ request, ∃ response, reached.respond? request = some response ∧
      reader.replies? (history ++ [request]) = some (earlier ++ [response])
  inside : reached.cursor ≤ row.body.length
  look : ∃ lexeme, row.toList[reached.cursor]? = some lexeme ∧
    reached.respond? .look = some (.lexeme lexeme, reached)
  take : ∃ lexeme next, row.toList[reached.cursor]? = some lexeme ∧
    reached.respond? .take = some (.lexeme lexeme, next) ∧
      next.cursor = following row reached.cursor
  skip : ∃ next, reached.respond? .skip = some (.done, next) ∧
    next.cursor = following row reached.cursor
  atEnd : reached.atEnd? = some (decide (reached.cursor = row.body.length))
  lexemes : reached.lexemes = row.toList
  texts : reached.respond? .texts =
    some (.texts (row.toList.map fun lexeme => lexeme.token.text), reached)
  count : ∀ kind, reached.respond? (.count kind) =
    some (.count (row.toList.countP fun lexeme => kind lexeme.token), reached)
  putBack_iff : (∃ next, reached.respond? .putBack = some (.done, next)) ↔
    ∃ before, TookLast before history
  /-- What was put back is taken again, whatever is looked at before. -/
  putBack : ∀ before, TookLast before history → ∃ earlier next,
    reader.after? before = some earlier ∧ reached.respond? .putBack = some (.done, next) ∧
      next.cursor = earlier.cursor ∧
      ∀ still, (∀ request ∈ still, request.isMove = false) →
        ∃ latest, next.after? still = some latest ∧
          latest.respond? .take = earlier.respond? .take
  refused : ∀ reply next, reached.respond? .putBack = some (reply, next) → reply ≠ .done →
    reply = .refused .nothingTaken ∧ next = reached

/-- A reader of a row with a single end keeps the contract, whatever it is asked. -/
theorem contract_ofLexemes {row : Lexemes} (solid : row.IsSolid) (history : List Request) :
    ∃ reached, (ofLexemes row).Contract row history reached := by
  have start := staysOn_ofLexemes row
  have fresh : (ofLexemes row).lastTaken = none := rfl
  obtain ⟨reached, reaches, stays⟩ := start.after? solid history
  obtain ⟨earlier, known, last⟩ := replies?_of_after? reaches
  have remembers := lastTaken_of_after? fresh reaches
  refine ⟨reached,
    { reaches := reaches
      replied := ⟨earlier, known, ?_⟩
      inside := stays.inside
      look := stays.respond?_look
      take := ?_
      skip := ⟨_, stays.respond?_skip solid, rfl⟩
      atEnd := stays.atEnd?_eq solid
      lexemes := stays.lexemes
      texts := by rw [respond?, stays.lexemes]
      count := fun kind => by rw [respond?, Reader.count, stays.lexemes]
      putBack_iff := ?_
      putBack := ?_
      refused := ?_ }⟩
  · intro request
    obtain ⟨reply, next, answered, -⟩ := stays.respond? solid request
    exact ⟨_, answered, last request _ answered⟩
  · obtain ⟨lexeme, here, taken⟩ := stays.respond?_take solid
    exact ⟨lexeme, _, here, taken, rfl⟩
  · constructor
    · rintro ⟨next, done⟩
      cases memory : reached.lastTaken with
      | none =>
        rw [respond?_putBack_of_none memory] at done
        cases done
      | some index =>
        obtain ⟨before, -, took, -⟩ := (remembers index).mp memory
        exact ⟨before, took⟩
    · rintro ⟨before, took⟩
      obtain ⟨place, come, -⟩ := start.after? solid before
      have memory := (remembers place.cursor).mpr ⟨before, place, took, come, rfl⟩
      exact ⟨_, respond?_putBack_of_some memory⟩
  · intro before took
    obtain ⟨place, come, place_stays⟩ := start.after? solid before
    have memory := (remembers place.cursor).mpr ⟨before, place, took, come, rfl⟩
    have back : Reader.StaysOn row ⟨reached.lexemes, place.cursor, none⟩ :=
      ⟨stays.lexemes, place_stays.inside, by simp⟩
    refine ⟨place, _, come, respond?_putBack_of_some memory, rfl, ?_⟩
    intro still quiet
    obtain ⟨latest, waited, -⟩ := back.after? solid still
    obtain rfl := eq_of_all_not_isMove quiet waited
    obtain ⟨lexeme, here, taken⟩ := place_stays.respond?_take solid
    obtain ⟨again, there, repeated⟩ := back.respond?_take solid
    obtain rfl : lexeme = again := Option.some.inj (here.symm.trans there)
    exact ⟨_, waited, repeated.trans taken.symm⟩
  · intro reply next answered failed
    cases memory : reached.lastTaken with
    | none =>
      rw [respond?_putBack_of_none memory] at answered
      cases answered
      exact ⟨rfl, rfl⟩
    | some index =>
      rw [respond?_putBack_of_some memory] at answered
      cases answered
      exact absurd rfl failed

/-- **The contract of a reader.** A text that can be cut into lexemes has a reader, and whatever
this was asked, no request has broken off, its cursor is in its row, looking changes nothing, taking
and skipping go one lexeme further but never behind the end, and putting back succeeds exactly if
the last move was a taking, which it undoes. -/
theorem contract_ofText {text : String} {row : Lexemes} (scanned : Lexemes.scan text = .ok row)
    (history : List Request) :
    ∃ reader reached, ofText text = .ok reader ∧ reader.cursor = 0 ∧
      reader.Contract row history reached := by
  obtain ⟨reached, contract⟩ := contract_ofLexemes (Lexemes.isSolid_of_scan scanned) history
  exact ⟨ofLexemes row, reached, by rw [ofText, scanned]; rfl, rfl, contract⟩

/-- The end of the input is taken twice, looked at and put back once. -/
theorem contract_ofText_at_end :
    ∃ row, Lexemes.scan "4" = .ok row ∧
      TookLast [.take, .take] [.take, .take, .take, .look] ∧
      ∃ reader reached, ofText "4" = .ok reader ∧ reader.cursor = 0 ∧
        reader.Contract row [.take, .take, .take, .look] reached := by
  have scanned : Lexemes.scan "4" = .ok ⟨[⟨.number 4, ⟨0, 1, 1⟩, "4"⟩], ⟨1, 1, 2⟩⟩ := by
    decide +kernel
  have took : TookLast [.take, .take] [.take, .take, .take, .look] :=
    ⟨[.look], rfl, by simp [Request.isMove]⟩
  exact ⟨_, scanned, took, contract_ofText scanned _⟩

end Reader

end Reckoner
