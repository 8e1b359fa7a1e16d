import Sexp.ExprStream

set_option autoImplicit false
set_option relaxedAutoImplicit false

/-!
# Reading a source

The ways to read a source as a whole: its first expression, all its expressions, or its tokens. Each
comes with what is noted on the way.
-/

namespace Sexp

/-- A result, with the events noted while it was found. -/
structure Noted (α : Type) where
  result : α
  events : List Event

/-- Reads the tokens of a source up to and with the first terminal one. -/
def tokenize (source : String) : Noted (List Token) :=
  let (tokens, _) := (TokenStream.ofSource source).tokenize
  ⟨tokens, tokens.filterMap Token.event?⟩

variable [Capacity]

/-- Reads the first expression of a source, or finds that it has none. -/
def parse (source : String) (maxDepth : Option Int) : Noted (Except ReadError (Option Expr)) :=
  let (result, stream) := (ExprStream.ofSource source maxDepth).read
  ⟨result, stream.log⟩

def parseAll (source : String) (maxDepth : Option Int) : Noted (Except ReadError (List Expr)) :=
  let (result, stream) := (ExprStream.ofSource source maxDepth).readAll
  let counted := match result with
    | .ok es => [.sourceRead es.length]
    | .error _ => []
  ⟨result, stream.log ++ counted⟩

end Sexp
