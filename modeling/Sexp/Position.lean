set_option autoImplicit false
set_option relaxedAutoImplicit false

/-!
# Positions in a text

A position counts lines and columns. Only the line feed starts a new line; every other character,
the carriage return included, takes one column.
-/

namespace Sexp

/-- A line and a column, both counted from one at the start of a text. -/
structure Position where
  line : Int := 1
  column : Int := 1
deriving DecidableEq

namespace Position

instance : ToString Position := ⟨fun p => s!"{p.line}:{p.column}"⟩

def nextLine (p : Position) : Position := ⟨p.line + 1, 1⟩

def nextColumn (p : Position) : Position := ⟨p.line, p.column + 1⟩

def advance (p : Position) (c : Char) : Position :=
  if c = '\n' then p.nextLine else p.nextColumn

/-- The position after the characters `cs` that start at `p`. -/
def after (p : Position) (cs : List Char) : Position := cs.foldl advance p

/-- The position after one unit of text that stands at `p`: a line feed ends the line, any other
unit, whatever its length, takes one column, and a missing unit takes no place. -/
def afterUnit (p : Position) : Option String → Position
  | none => p
  | some unit => if unit = "\n" then p.nextLine else p.nextColumn

@[simp] theorem after_nil (p : Position) : p.after [] = p := rfl

@[simp] theorem after_cons (p : Position) (c : Char) (cs : List Char) :
    p.after (c :: cs) = (p.advance c).after cs := rfl

@[simp] theorem after_append (p : Position) (cs ds : List Char) :
    p.after (cs ++ ds) = (p.after cs).after ds := List.foldl_append

end Position

end Sexp
