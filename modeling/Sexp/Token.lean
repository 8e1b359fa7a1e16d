import Sexp.Position
import Sexp.Text.Quoted

set_option autoImplicit false
set_option relaxedAutoImplicit false

/-!
# Tokens

A token is a classified piece of a source at its position. Tokens that end a token stream, the empty
one at the end of the source and the error token at a malformed piece, are tokens like the others.
-/

namespace Sexp

inductive TokenKind where
  | empty
  | error
  | string
  | symbol
  | integer
  | float
  | opening
  | closing
deriving DecidableEq

namespace TokenKind

def all : List TokenKind := [empty, error, string, symbol, integer, float, opening, closing]

/-- The name under which reports list a kind. -/
def label : TokenKind → String
  | empty => "EMPTY"
  | error => "ERROR"
  | string => "STRING"
  | symbol => "SYMBOL"
  | integer => "INTEGER"
  | float => "FLOAT"
  | opening => "BLOCK_START"
  | closing => "BLOCK_END"

instance : ToString TokenKind := ⟨label⟩

/-- No token of its source comes after a token of a terminal kind. -/
def isTerminal : TokenKind → Bool
  | empty | error => true
  | _ => false

theorem mem_all (kind : TokenKind) : kind ∈ all := by
  cases kind <;> decide

end TokenKind

/-- A token: its kind, its characters without the quotes or parentheses around them, the position of
its first character and, for an error, what is wrong with it. -/
structure Token where
  kind : TokenKind
  text : String
  position : Position := {}
  message : Option String := none
deriving DecidableEq

namespace Token

def isError (t : Token) : Bool := t.kind = .error

def isTerminal (t : Token) : Bool := t.kind.isTerminal

/-- How messages cite a token: a parenthesis as itself, a string between its quotes. -/
def display (t : Token) : String :=
  match t.kind with
  | .opening => "("
  | .closing => ")"
  | .string => "\"" ++ t.text ++ "\""
  | _ => t.text

/-- A token in one line for a person to read: what it says, its kind and its position. An error
token without a message shows `None` in its place. -/
def describe (t : Token) : String :=
  let content := match t.kind with
    | .empty => "(empty)"
    | .error => "Error: " ++ t.message.getD "None" ++ " around '" ++ t.text ++ "'"
    | _ => t.display
  content ++ " (" ++ t.kind.label ++ ") at " ++ toString t.position

/-- A token in one line for inspection: its kind, its quoted text and its position. -/
def inspect (t : Token) : String :=
  "SExprToken(" ++ t.kind.label ++ ", " ++ String.ofList (Text.quoted t.text.toList) ++ ", pos="
    ++ toString t.position ++ ")"

end Token

end Sexp
