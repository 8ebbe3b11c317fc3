import Mathlib.Data.List.Induction
import Reckoner.Meaning

/-! # The history of a session

A session is asked for numbers and trees in any order. A request does no more than its reply and its
text tell (`respond_eq`): the reply is what the text means on its own, and the text is remembered if
it means something. So the only trace of a history is the last text that was accepted
(`replies_and_source_of_calls`).
-/

namespace Reckoner

namespace Session

/-! ## Requests -/

/-- What a session is asked for. -/
inductive Request where
  | value (text : String)
  | tree (text : String)
  deriving DecidableEq, Repr

/-- What a session replies. -/
inductive Reply where
  | value (result : Except Fault Float)
  | tree (result : Except Fault Tree)

/-- The reply to a request, and the session afterwards. -/
def respond (session : Session) : Request → Reply × Session
  | .value text => (.value (session.value text).1, (session.value text).2)
  | .tree text => (.tree (session.tree text).1, (session.tree text).2)

/-- The replies to requests made one after the other. -/
def replies (session : Session) : List Request → List Reply
  | [] => []
  | request :: calls => (session.respond request).1 :: (session.respond request).2.replies calls

/-- The session after requests made one after the other. -/
def afterAll (session : Session) (calls : List Request) : Session :=
  calls.foldl (fun session request => (session.respond request).2) session

/-- Whether the text was without a fault. -/
def Reply.isAccepted : Reply → Bool
  | .value result => result.isOk
  | .tree result => result.isOk

namespace Request

def text : Request → String
  | .value text => text
  | .tree text => text

/-- What the text of a request means on its own. -/
def meaning : Request → Reply
  | .value text => .value (valueOf text)
  | .tree text => .tree (treeOf text)

/-- The text of the last request whose text has a meaning. -/
def lastAccepted? (calls : List Request) : Option String :=
  (calls.filter fun request => request.meaning.isAccepted).getLast?.map text

/-- The last call decides on the text that is remembered, if it is accepted. -/
theorem lastAccepted?_concat (calls : List Request) (request : Request) :
    lastAccepted? (calls ++ [request]) =
      if request.meaning.isAccepted then some request.text else lastAccepted? calls := by
  unfold lastAccepted?
  by_cases accepted : request.meaning.isAccepted = true
  · simp [accepted]
  · simp [accepted]

end Request

/-! ## One request and many -/

/-- A session changes exactly if the text is accepted. -/
theorem after_eq {α : Type} (session : Session) (text : String) (result : Except Fault α) :
    session.after text result = if result.isOk then ⟨text⟩ else session := by
  cases result <;> rfl

/-- All that a request does: it is answered from its text, and the text is remembered if that was
accepted. -/
theorem respond_eq (session : Session) (request : Request) :
    session.respond request =
      (request.meaning, if request.meaning.isAccepted then ⟨request.text⟩ else session) := by
  cases request with
  | value text =>
    simp only [respond, value, read, after_eq]
    rfl
  | tree text =>
    simp only [respond, tree, read, after_eq]
    rfl

/-- The last call is made on the session that the others left. -/
theorem afterAll_concat (session : Session) (calls : List Request) (request : Request) :
    session.afterAll (calls ++ [request]) = ((session.afterAll calls).respond request).2 := by
  rw [afterAll, List.foldl_append]
  rfl

/-- A request that is refused leaves the session as it was. -/
theorem respond_of_refused {session : Session} {request : Request}
    (refused : (session.respond request).1.isAccepted = false) :
    (session.respond request).2 = session := by
  rw [respond_eq] at refused ⊢
  simp only [refused, Bool.false_eq_true, ↓reduceIte]

/-- Every reply is what the call means on its own. -/
theorem replies_eq_map (session : Session) (calls : List Request) :
    session.replies calls = calls.map Request.meaning := by
  induction calls generalizing session with
  | nil => rfl
  | cons request calls ih => rw [replies, ih, respond_eq, List.map_cons]

/-- A session has the source of the last call that was accepted, or still its own. -/
theorem source_afterAll (session : Session) (calls : List Request) :
    (session.afterAll calls).source = (Request.lastAccepted? calls).getD session.source := by
  induction calls using List.reverseRecOn with
  | nil => rfl
  | append_singleton calls request ih =>
    rw [afterAll_concat, respond_eq, Request.lastAccepted?_concat]
    by_cases accepted : request.meaning.isAccepted = true
    · simp only [accepted, ↓reduceIte, Option.getD_some]
    · simp only [accepted, ↓reduceIte, ih, Bool.false_eq_true]

/-- **The history of a session.** Whatever a new session is asked for, in any order, each reply is
what the text means on its own. In the end the session remembers the last text that was accepted,
and nothing if there was none. A request that is refused leaves the session as it was, at any
time. -/
theorem replies_and_source_of_calls (calls : List Request) :
    start.replies calls = calls.map Request.meaning ∧
      (start.afterAll calls).source = (Request.lastAccepted? calls).getD "" ∧
      (start.afterAll calls).text = (Request.lastAccepted? calls).getD "" ∧
      ∀ before request, ((start.afterAll before).respond request).1.isAccepted = false →
        start.afterAll (before ++ [request]) = start.afterAll before := by
  refine ⟨start.replies_eq_map calls, start.source_afterAll calls, start.source_afterAll calls, ?_⟩
  intro before request refused
  rw [afterAll_concat, respond_of_refused refused]

example : (start.afterAll [.value "1 + 1", .tree "(1 2)", .value "1 x"]).source = "1 + 1" := by
  decide +kernel

end Session

end Reckoner
