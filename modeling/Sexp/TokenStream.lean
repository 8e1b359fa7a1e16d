import Sexp.Lexeme.Gap
import Sexp.Lexeme.Scan

set_option autoImplicit false
set_option relaxedAutoImplicit false

/-!
# Token streams

A token stream reads the tokens of a source one after another. Every way of taking tokens goes
through `TokenStream.read`, which takes a gap and a lexeme off the rest of the source; `tokenize_eq`
says how taking all tokens up to a terminal one comes down to taking one.

A source is a sequence of Unicode scalar values. Texts that hold a surrogate on its own, as some
machines let them, are left out.
-/

namespace Sexp

/-- The state of reading tokens: what is left of the source, how many characters are read and where
the next one stands, the latest token read and the latest one handed out. -/
structure TokenStream where
  rest : List Char
  index : Nat := 0
  position : Position := {}
  latest : Option Token := none
  current : Option Token := none

namespace TokenStream

def ofSource (source : String) : TokenStream := { rest := source.toList }

def atEnd (s : TokenStream) : Bool := s.rest.isEmpty

def text (s : TokenStream) : String := s.latest.elim "" Token.text

/-- What is wrong with the latest token read, if it is an error. -/
def error? (s : TokenStream) : Option String := s.latest.bind Token.message

/-- Reads the next token: the lexeme after the gap at the front of the rest. -/
def read (s : TokenStream) : Token × TokenStream :=
  let gap := (Gap.split s.rest).1
  let front := Lexeme.scan (Gap.split s.rest).2
  let start := s.position.after gap
  let token := front.1.token start
  (token,
    { s with
      rest := front.2
      index := s.index + gap.length + front.1.spelling.length
      position := start.after front.1.spelling
      latest := some token })

/-- Reads the next token and hands it out. -/
def next (s : TokenStream) : Token × TokenStream :=
  let (token, s) := s.read
  (token, { s with current := some token })

@[simp] theorem next_fst (s : TokenStream) : s.next.1 = s.read.1 := rfl

@[simp] theorem rest_next (s : TokenStream) : s.next.2.rest = s.read.2.rest := rfl

theorem length_rest_read_le (s : TokenStream) : s.read.2.rest.length ≤ s.rest.length :=
  Nat.le_trans (Lexeme.length_scan_le _) (Gap.length_split_le _)

theorem length_rest_read_lt {s : TokenStream} (going : s.read.1.isTerminal = false) :
    s.read.2.rest.length < s.rest.length :=
  Nat.lt_of_lt_of_le (Lexeme.length_scan_lt going) (Gap.length_split_le _)

/-- Hands out tokens up to the first terminal one, where `taken` are those before, the last first.
-/
private def tokenizeFrom (taken : List Token) (s : TokenStream) : List Token × TokenStream :=
  if _going : s.next.1.isTerminal then ((s.next.1 :: taken).reverse, s.next.2)
  else tokenizeFrom (s.next.1 :: taken) s.next.2
termination_by s.rest.length
decreasing_by exact length_rest_read_lt (Bool.eq_false_iff.mpr _going)

/-- Hands out the tokens up to and with the first terminal one. -/
def tokenize (s : TokenStream) : List Token × TokenStream := tokenizeFrom [] s

private theorem tokenizeFrom_step (taken : List Token) (s : TokenStream) :
    tokenizeFrom taken s =
      if s.next.1.isTerminal then ((s.next.1 :: taken).reverse, s.next.2)
      else tokenizeFrom (s.next.1 :: taken) s.next.2 := by
  rw [tokenizeFrom]
  split <;> rfl

private theorem tokenizeFrom_eq (taken : List Token) (s : TokenStream) :
    tokenizeFrom taken s = (taken.reverse ++ s.tokenize.1, s.tokenize.2) := by
  induction length : s.rest.length using Nat.strongRecOn generalizing taken s with
  | _ n ih =>
    subst length
    rw [tokenize, tokenizeFrom_step taken, tokenizeFrom_step []]
    split
    · simp
    · rename_i going
      have shorter := length_rest_read_lt (Bool.eq_false_iff.mpr going)
      rw [ih _ shorter (s.next.1 :: taken) s.next.2 rfl, ih _ shorter [s.next.1] s.next.2 rfl]
      simp

/-- Taking all tokens is taking one and, unless it is terminal, all that follow. -/
theorem tokenize_eq (s : TokenStream) :
    s.tokenize =
      if s.next.1.isTerminal then ([s.next.1], s.next.2)
      else (s.next.1 :: s.next.2.tokenize.1, s.next.2.tokenize.2) := by
  rw [tokenize, tokenizeFrom_step]
  split
  · rfl
  · rw [tokenizeFrom_eq]
    rfl

/-- Hands out all tokens up to the first terminal one, which is left out at the end of the source.
-/
def drain (s : TokenStream) : List Token × TokenStream :=
  (s.tokenize.1.filter (·.kind ≠ .empty), s.tokenize.2)

end TokenStream

/-- A consumer that takes tokens from a stream it does not own until it meets a terminal one. It
hands out an error token but not the empty one. -/
structure TokenIterator where
  stopped : Bool := false

namespace TokenIterator

/-- Takes one token of the stream, unless the iterator has stopped. -/
def step (it : TokenIterator) (s : TokenStream) : Option Token × TokenIterator × TokenStream :=
  if it.stopped then (none, it, s)
  else
    let (token, s) := s.next
    let handed := if token.kind = .empty then none else some token
    (handed, ⟨token.isTerminal⟩, s)

end TokenIterator

end Sexp
