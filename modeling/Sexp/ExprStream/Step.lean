import Sexp.Expr
import Sexp.Numeral.Decimal
import Sexp.ReadError
import Sexp.Token

set_option autoImplicit false
set_option relaxedAutoImplicit false

/-!
# What a token does to the open lists

Expressions are built on a stack of the lists that are open, the innermost first. One token opens a
list, closes one, adds an atom, completes an expression outside all lists, or cannot be used.
-/

namespace Sexp

/-- The room that a machine has for open lists, whatever limit is chosen: at least two hundred. -/
class Capacity where
  lists : Nat
  ample : 200 ≤ lists

/-- The room of a common machine. What is proved holds of every other as well. -/
instance : Capacity := ⟨480, by decide⟩

/-- A list that is not closed yet. -/
structure OpenList where
  /-- Where its parenthesis is. -/
  opened : Position
  /-- Its items so far, the last one first. -/
  items : List Expr

/-- What comes of the next token. -/
inductive Step where
  /-- The token is used, and these lists are open. -/
  | shift (lists : List OpenList)
  /-- The token is used and completes an expression that stands in no list. -/
  | deliver (e : Expr)
  /-- The source ends, and no list is open. -/
  | finish
  | refuse (error : ReadError)

namespace Step

/-- So many open lists are more than a chosen limit allows. -/
def exceeds : Option Int → Nat → Bool
  | some limit, depth => limit < depth
  | none, _ => false

/-- The error for too deep a list: a defect, which has to name the limit if one is chosen. -/
def depthError (maxDepth : Option Int) (defect : String → Defect) : ReadError :=
  match Defect.depthContext? maxDepth with
  | some context => .defect (defect context)
  | none => .overlongInteger .writing

variable [Capacity]

/-- Why no list may be opened, if `depth` lists are open with it. -/
def depthError? (maxDepth : Option Int) (depth : Nat) (position : Position) : Option ReadError :=
  if exceeds maxDepth depth then some (depthError maxDepth (.tooDeep · position))
  else if Capacity.lists < depth then some (depthError maxDepth (.beyondCapacity · position))
  else none

/-- Adds an expression to the innermost open list, if there is one. -/
def place (e : Expr) : List OpenList → Step
  | [] => .deliver e
  | l :: ls => .shift ({ l with items := e :: l.items } :: ls)

/-- What comes of a token when some lists are open. -/
def ofToken (maxDepth : Option Int) (lists : List OpenList) (t : Token) : Step :=
  match t.kind with
  | .string => place (.string t.text) lists
  | .symbol => place (.ofName t.text) lists
  | .float => place (.float (Decimal.ofText t.text.toList).toFloat) lists
  | .integer =>
    match Numeral.readInteger t.text.toList with
    | .value n => place (.integer n) lists
    | .outOfRange => .refuse (.defect (.integerOutOfRange t.text t.position))
    | .overlong digits => .refuse (.overlongInteger (.reading digits))
  | .opening =>
    match depthError? maxDepth (lists.length + 1) t.position with
    | some error => .refuse error
    | none => .shift (⟨t.position, []⟩ :: lists)
  | .closing =>
    match lists with
    | [] => .refuse (.defect (.strayClosing t.position))
    | l :: ls => place (.list l.items.reverse) ls
  | .empty =>
    match lists with
    | [] => .finish
    | l :: _ => .refuse (.defect (.unfinished l.opened))
  | .error => .refuse (.defect (.malformed (t.message.getD "") t.text t.position))

/-- The token is used, so that the next one is taken. -/
def uses : Step → Bool
  | shift _ | deliver _ => true
  | finish | refuse _ => false

theorem not_isTerminal_of_uses {maxDepth : Option Int} {lists : List OpenList} {t : Token}
    (used : (ofToken maxDepth lists t).uses = true) : t.isTerminal = false := by
  unfold Token.isTerminal
  cases kind : t.kind with
  | empty => cases lists <;> simp [ofToken, kind, uses] at used
  | error => simp [ofToken, kind, uses] at used
  | _ => rfl

theorem not_isTerminal_of_shift {maxDepth : Option Int} {lists lists' : List OpenList} {t : Token}
    (used : ofToken maxDepth lists t = .shift lists') : t.isTerminal = false :=
  not_isTerminal_of_uses (by rw [used]; rfl)

theorem not_isTerminal_of_deliver {maxDepth : Option Int} {lists : List OpenList} {t : Token}
    {e : Expr} (used : ofToken maxDepth lists t = .deliver e) : t.isTerminal = false :=
  not_isTerminal_of_uses (by rw [used]; rfl)

end Step

end Sexp
