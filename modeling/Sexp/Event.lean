import Sexp.Token

set_option autoImplicit false
set_option relaxedAutoImplicit false

/-!
# Events of reading

What is worth noting while a source is read: a malformed token, the end of a session, and a whole
source read. Each event has an origin and a message.
-/

namespace Sexp

inductive Event.Origin where
  | tokens
  | expressions
  | sources
deriving DecidableEq

/-- Something noted while a source is read. -/
inductive Event where
  /-- A piece of the source at a position is no token. -/
  | malformedToken (position : Position) (message : String)
  | readFailed (message : String)
  /-- No expression is left before the end of the source. -/
  | reachedEnd (position : Position)
  /-- A whole source has been read as a number of expressions. -/
  | sourceRead (count : Nat)
deriving DecidableEq

namespace Event

def origin : Event → Origin
  | malformedToken _ _ => .tokens
  | readFailed _ | reachedEnd _ => .expressions
  | sourceRead _ => .sources

/-- The words in which an event is noted. -/
def message : Event → String
  | malformedToken position message => "lexical error at " ++ toString position ++ ": " ++ message
  | readFailed message => "parse failed: " ++ message
  | reachedEnd position => "reached end of input at " ++ toString position
  | sourceRead count => "parsed " ++ toString count ++ " top-level expressions"

end Event

/-- What is noted when a token is read: an error token, with its position and message. -/
def Token.event? (t : Token) : Option Event :=
  if t.isError then t.message.map (.malformedToken t.position) else none

end Sexp
