import Sexp.Expr

set_option autoImplicit false
set_option relaxedAutoImplicit false

/-!
# Plain values

Plain values are the data of a program that knows nothing of expressions. They become expressions,
and expressions become plain values; symbols become texts on the way, and tuples become lists.

Values can be nested as deep as one likes. That a machine has no room for conversions of more than
some hundreds of levels is left out here, although it is not where sources are read (`Capacity`).
-/

namespace Sexp

/-- A plain value, in which expressions may stand as they are. -/
inductive Plain where
  | null
  | boolean (value : Bool)
  | integer (value : Int)
  | float (value : Float)
  | text (value : String)
  | list (items : List Plain)
  | tuple (items : List Plain)
  | expr (e : Expr)
  /-- A value of some other type, known by the name of the type. -/
  | unsupported (typeName : String)

inductive Plain.Error where
  | unsupported (typeName : String)
deriving DecidableEq

def Plain.Error.message : Plain.Error → String
  | unsupported typeName => "Cannot convert " ++ typeName ++ " to an S-expression"

namespace Plain

mutual

/-- The expression of a plain value, unless it holds an unsupported one; the first of these is
named. -/
def toExpr : Plain → Except Error Expr
  | null => .ok .nil
  | boolean value => .ok (.boolean value)
  | integer value => .ok (.integer value)
  | float value => .ok (.float value)
  | text value => .ok (.string value)
  | list items => (toExprs items).map .list
  | tuple items => (toExprs items).map .list
  | expr e => .ok e
  | unsupported typeName => .error (.unsupported typeName)

def toExprs : List Plain → Except Error (List Expr)
  | [] => .ok []
  | item :: items =>
    match toExpr item with
    | .error reason => .error reason
    | .ok e => (toExprs items).map (e :: ·)

end

end Plain

namespace Expr

mutual

/-- The plain value of an expression; a symbol becomes the text of its name. -/
def toPlain : Expr → Plain
  | nil => .null
  | boolean value => .boolean value
  | string text => .text text
  | symbol name => .text name
  | integer value => .integer value
  | float value => .float value
  | list items => .list (toPlains items)

def toPlains : List Expr → List Plain
  | [] => []
  | item :: items => toPlain item :: toPlains items

end

end Expr

end Sexp
