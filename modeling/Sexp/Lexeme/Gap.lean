import Sexp.Text.Munch

set_option autoImplicit false
set_option relaxedAutoImplicit false

/-!
# Gaps

Between lexemes stands a gap of separators and comments, perhaps empty. A comment runs from a
semicolon to the end of its line, and the line feed there is a separator like any other.
-/

namespace Sexp

/-- A character that separates lexemes; the comma is one of them. -/
def isSeparator (c : Char) : Bool := c ∈ [' ', '\t', '\r', '\n', ',']

namespace Gap

/-- Where in a gap a character stands. -/
inductive State where
  | between
  | comment
deriving DecidableEq

def step : State → Char → Option State
  | .between, c =>
    if c = ';' then some .comment else if isSeparator c then some .between else none
  | .comment, c => if c = '\n' then some .between else some .comment

/-- Splits a text after its longest gap. -/
def split (cs : List Char) : List Char × List Char := Text.munch step .between cs

theorem split_append (cs : List Char) : (split cs).1 ++ (split cs).2 = cs :=
  Text.munch_append step .between cs

example : split " ,; note\n(".toList = (" ,; note\n".toList, ['(']) := by decide +kernel

theorem length_split_le (cs : List Char) : (split cs).2.length ≤ cs.length :=
  Text.length_munch_le step .between cs

end Gap

end Sexp
