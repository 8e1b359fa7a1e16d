import Sexp.Token
import Sexp.Text.Letter

set_option autoImplicit false
set_option relaxedAutoImplicit false

/-!
# Lexemes

A lexeme is what a source spells at one place. The text of a lexeme leaves out the quotes of a
string and the parentheses; `Lexeme.spelling` puts them back.
-/

namespace Sexp

/-- The ASCII digits; those of other scripts are no part of a number. -/
def isDigit (c : Char) : Bool := c.isDigit

def isSymbolStart (c : Char) : Bool :=
  Text.isLetter c ||
    c ∈ ['.', '*', '+', '!', '-', '_', '?', '$', '%', '&', '=', '<', '>', '/']

def isSymbolChar (c : Char) : Bool :=
  isSymbolStart c || isDigit c || c = '/' || c = '#'

inductive Malformation where
  | unterminatedString
  | missingFraction
  | secondPoint
  | strayCharacter (c : Char)
deriving DecidableEq

namespace Malformation

def message : Malformation → String
  | unterminatedString => "unexpected end in string"
  | missingFraction => "digits expected"
  | secondPoint => "unexpected '.' in number"
  | strayCharacter c => "unexpected character '" ++ c.toString ++ "'"

end Malformation

/-- What a source spells at one place. -/
inductive Lexeme where
  /-- Nothing is left of the source. -/
  | finish
  | opening
  | closing
  /-- A string with its body, escapes kept as they stand. -/
  | string (body : List Char)
  | symbol (name : List Char)
  | integer (digits : List Char)
  | float (digits : List Char)
  /-- A piece that is no lexeme, with the characters read as part of it. -/
  | malformed (why : Malformation) (text : List Char)
deriving DecidableEq

namespace Lexeme

def kind : Lexeme → TokenKind
  | finish => .empty
  | opening => .opening
  | closing => .closing
  | string _ => .string
  | symbol _ => .symbol
  | integer _ => .integer
  | float _ => .float
  | malformed _ _ => .error

/-- The characters of a lexeme, without quotes and parentheses. -/
def text : Lexeme → List Char
  | finish | opening | closing => []
  | string body => body
  | symbol name => name
  | integer digits | float digits => digits
  | malformed _ text => text

def message? : Lexeme → Option String
  | malformed why _ => some why.message
  | _ => none

/-- The characters that a lexeme takes up in its source. -/
def spelling : Lexeme → List Char
  | finish => []
  | opening => ['(']
  | closing => [')']
  | string body => '"' :: (body ++ ['"'])
  | symbol name => name
  | integer digits | float digits => digits
  | malformed .unterminatedString text => '"' :: text
  | malformed _ text => text

def token (x : Lexeme) (position : Position) : Token :=
  ⟨x.kind, String.ofList x.text, position, x.message?⟩

end Lexeme

end Sexp
