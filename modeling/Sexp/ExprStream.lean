import Sexp.Event
import Sexp.ExprStream.Step
import Sexp.TokenStream

set_option autoImplicit false
set_option relaxedAutoImplicit false

/-!
# Expression streams

An expression stream reads the expressions of a source one after another and looks one token ahead.
The end of the source and a defect are final: what was the answer then is the answer ever after.
-/

namespace Sexp

inductive ExprStream.Status where
  | ready
  | failed (d : Defect)
  | done
deriving DecidableEq

/-- The state of reading expressions: the token stream, the token taken from it and not used yet,
the limit on nesting, if one is chosen, and what has been noted so far. -/
structure ExprStream where
  tokens : TokenStream
  lookahead : Token
  maxDepth : Option Int
  status : ExprStream.Status := .ready
  log : List Event := []

namespace ExprStream

/-- The stream at the start of a source, with the first token taken. -/
def ofSource (source : String) (maxDepth : Option Int) : ExprStream :=
  let (token, tokens) := (TokenStream.ofSource source).next
  { tokens, lookahead := token, maxDepth, log := token.event?.toList }

def hasFailed (s : ExprStream) : Bool :=
  match s.status with
  | .failed _ => true
  | _ => false

def advance (s : ExprStream) : ExprStream :=
  let (token, tokens) := s.tokens.next
  { s with tokens, lookahead := token, log := s.log ++ token.event?.toList }

/-- How much is still to be used: the rest of the source, and the token ahead unless it is terminal.
-/
def remaining (s : ExprStream) : Nat :=
  s.tokens.rest.length + (!s.lookahead.isTerminal).toNat

theorem remaining_advance_lt {s : ExprStream} (going : s.lookahead.isTerminal = false) :
    s.advance.remaining < s.remaining := by
  have shorter := s.tokens.length_rest_read_le
  have less := TokenStream.length_rest_read_lt (s := s.tokens)
  simp only [remaining, advance, going, TokenStream.rest_next, TokenStream.next_fst]
  cases ahead : s.tokens.read.1.isTerminal
  · have := less ahead
    simp
    omega
  · simp
    omega

variable [Capacity]

/-- Reads on to the end of an expression, where some lists are open. -/
def readFrom (lists : List OpenList) (s : ExprStream) :
    Except ReadError (Option Expr) × ExprStream :=
  match _used : Step.ofToken s.maxDepth lists s.lookahead with
  | .shift lists => readFrom lists s.advance
  | .deliver e => (.ok (some e), s.advance)
  | .finish =>
    (.ok none, { s with status := .done, log := s.log ++ [.reachedEnd s.lookahead.position] })
  | .refuse (.defect d) =>
    (.error (.defect d),
      { s with status := .failed d, log := s.log ++ [.readFailed d.diagnostic.message] })
  | .refuse (.overlongInteger conversion) => (.error (.overlongInteger conversion), s)
termination_by s.remaining
decreasing_by exact remaining_advance_lt (Step.not_isTerminal_of_shift _used)

/-- Reads the next expression outside all lists, or finds that there is none. -/
def read (s : ExprStream) : Except ReadError (Option Expr) × ExprStream :=
  match s.status with
  | .ready => readFrom [] s
  | .failed d => (.error (.defect d), s)
  | .done => (.ok none, s)

theorem remaining_readFrom_lt {lists : List OpenList} {s : ExprStream} {e : Expr}
    (found : (readFrom lists s).1 = .ok (some e)) :
    (readFrom lists s).2.remaining < s.remaining := by
  fun_induction readFrom lists s with
  | case1 lists s lists' used ih =>
    exact Nat.lt_trans (ih found) (remaining_advance_lt (Step.not_isTerminal_of_shift used))
  | case2 lists s e used => exact remaining_advance_lt (Step.not_isTerminal_of_deliver used)
  | case3 | case4 | case5 => simp at found

theorem remaining_read_lt {s : ExprStream} {e : Expr} (found : s.read.1 = .ok (some e)) :
    s.read.2.remaining < s.remaining := by
  unfold read at found ⊢
  split
  · rename_i ready
    rw [ready] at found
    exact remaining_readFrom_lt found
  · simp_all
  · simp_all

/-- Reads the remaining expressions, where `taken` are those before, the last one first. -/
private def readAllFrom (taken : List Expr) (s : ExprStream) :
    Except ReadError (List Expr) × ExprStream :=
  match _found : s.read.1 with
  | .ok (some e) => readAllFrom (e :: taken) s.read.2
  | .ok none => (.ok taken.reverse, s.read.2)
  | .error error => (.error error, s.read.2)
termination_by s.remaining
decreasing_by exact remaining_read_lt _found

/-- Reads all remaining expressions; if one cannot be read, those before it are dropped. -/
def readAll (s : ExprStream) : Except ReadError (List Expr) × ExprStream := readAllFrom [] s

private theorem readAllFrom_step (taken : List Expr) (s : ExprStream) :
    readAllFrom taken s =
      match s.read.1 with
      | .ok (some e) => readAllFrom (e :: taken) s.read.2
      | .ok none => (.ok taken.reverse, s.read.2)
      | .error error => (.error error, s.read.2) := by
  rw [readAllFrom]
  split <;> rename_i found <;> rw [found]

private theorem readAllFrom_eq (taken : List Expr) (s : ExprStream) :
    readAllFrom taken s = (s.readAll.1.map (taken.reverse ++ ·), s.readAll.2) := by
  induction size : s.remaining using Nat.strongRecOn generalizing taken s with
  | _ n ih =>
    subst size
    rw [readAll, readAllFrom_step taken, readAllFrom_step []]
    split
    · rename_i e found
      have less := remaining_read_lt found
      rw [ih _ less (e :: taken) _ rfl, ih _ less [e] _ rfl]
      cases s.read.2.readAll.1 <;> simp [Except.map]
    · simp [Except.map]
    · rfl

/-- Reading all expressions is reading one and, if there is one, all that follow. -/
theorem readAll_eq (s : ExprStream) :
    s.readAll =
      match s.read.1 with
      | .ok (some e) => (s.read.2.readAll.1.map (e :: ·), s.read.2.readAll.2)
      | .ok none => (.ok [], s.read.2)
      | .error error => (.error error, s.read.2) := by
  rw [readAll, readAllFrom_step]
  split
  · exact readAllFrom_eq _ _
  · rfl
  · rfl

end ExprStream

end Sexp
