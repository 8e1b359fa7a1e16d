set_option autoImplicit false
set_option relaxedAutoImplicit false

/-!
# Symbolic expressions

An expression is an atom or a list of expressions. Two expressions are equal as `==` tells if they
have one shape and the same kinds of atoms with equal contents, where floats are compared as
doubles: the two zeros are equal, and what is not a number equals nothing, itself included.
-/

namespace Sexp

inductive Expr where
  | nil
  | boolean (value : Bool)
  | string (text : String)
  | symbol (name : String)
  | integer (value : Int)
  | float (value : Float)
  | list (items : List Expr)

namespace Expr

def typeName : Expr → String
  | nil => "nil"
  | boolean _ => "boolean"
  | string _ => "string"
  | symbol _ => "symbol"
  | integer _ => "integer"
  | float _ => "float"
  | list _ => "list"

def isNil : Expr → Bool
  | nil => true
  | _ => false

def isList : Expr → Bool
  | list _ => true
  | _ => false

/-- Everything but a list is an atom. -/
def isAtom (e : Expr) : Bool := !e.isList

/-- The atom that a symbol of a source stands for; three names are reserved. -/
def ofName (name : String) : Expr :=
  if name = "nil" then nil
  else if name = "true" then boolean true
  else if name = "false" then boolean false
  else symbol name

/-- The items of a list; an atom is the only item of itself. -/
def content : Expr → List Expr
  | list items => items
  | atom => [atom]

/-- Applies a function to each item of a list, or to an atom itself. -/
def map {α : Type} (f : Expr → α) (e : Expr) : List α := e.content.map f

mutual

def same : Expr → Expr → Bool
  | nil, nil => true
  | boolean a, boolean b => a == b
  | string s, string t => s == t
  | symbol s, symbol t => s == t
  | integer m, integer n => m == n
  | float x, float y => x == y
  | list as, list bs => sameItems as bs
  | _, _ => false

def sameItems : List Expr → List Expr → Bool
  | [], [] => true
  | a :: as, b :: bs => same a b && sameItems as bs
  | _, _ => false

end

instance : BEq Expr := ⟨same⟩

end Expr

/-- For each member of a list, the place of the first member equal to it, or its own place if it
equals none, not even itself. -/
def firstPlaces {α : Type} [BEq α] (xs : List α) : List Nat :=
  xs.mapIdx fun place x => (xs.findIdx? (· == x)).getD place

inductive PlaceError where
  | outOfRange
deriving DecidableEq

def PlaceError.message : PlaceError → String
  | outOfRange => "tuple index out of range"

/-- The item at a place of a list; a negative place counts from the end. -/
def Expr.item (items : List Expr) (place : Int) : Except PlaceError Expr :=
  let fromStart := if place < 0 then place + items.length else place
  if fromStart < 0 then .error .outOfRange
  else match items[fromStart.toNat]? with
    | some e => .ok e
    | none => .error .outOfRange

end Sexp
