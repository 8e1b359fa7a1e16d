import Sexp.Plain

set_option autoImplicit false
set_option relaxedAutoImplicit false

/-!
# From plain values to expressions and back

A plain value becomes an expression unless an unsupported value stands in it, and every expression
becomes a plain value. `conversions_inverse` says that nothing is lost on the way there and back but
tuples, which become lists, and symbols, which become texts.
-/

namespace Sexp

namespace Plain

mutual

/-- The names of the types of all unsupported values, from left to right. -/
def unsupportedTypes : Plain → List String
  | unsupported typeName => [typeName]
  | list items | tuple items => unsupportedTypesOfAll items
  | null | boolean _ | integer _ | float _ | text _ | expr _ => []

def unsupportedTypesOfAll : List Plain → List String
  | [] => []
  | item :: items => unsupportedTypes item ++ unsupportedTypesOfAll items

end

mutual

/-- The same value with lists in the place of tuples and plain values in that of expressions. -/
def resolved : Plain → Plain
  | list items | tuple items => list (resolvedAll items)
  | expr e => e.toPlain
  | atom => atom

def resolvedAll : List Plain → List Plain
  | [] => []
  | item :: items => resolved item :: resolvedAll items

end

mutual

/-- A plain value and an expression have one shape, with atoms of the same types and contents. -/
inductive Stands : Plain → Expr → Prop
  | null : Stands null .nil
  | boolean (value : Bool) : Stands (boolean value) (.boolean value)
  | integer (value : Int) : Stands (integer value) (.integer value)
  | float (value : Float) : Stands (float value) (.float value)
  | text (value : String) : Stands (text value) (.string value)
  | list {items : List Plain} {es : List Expr} : StandAll items es → Stands (list items) (.list es)
  | tuple {items : List Plain} {es : List Expr} :
      StandAll items es → Stands (tuple items) (.list es)
  | expr (e : Expr) : Stands (expr e) e

inductive StandAll : List Plain → List Expr → Prop
  | nil : StandAll [] []
  | cons {item : Plain} {e : Expr} {items : List Plain} {es : List Expr} :
      Stands item e → StandAll items es → StandAll (item :: items) (e :: es)

end

/-- The types for which a value can be taken. -/
inductive TypeTest where
  | expr
  | null
  | boolean
  | integer
  | float
  | text
  | sequence
  | other

namespace TypeTest

/-- The order in which types are tried. Booleans come before integers, as each boolean is one. -/
def order : List TypeTest := [expr, null, boolean, integer, float, text, sequence, other]

/-- What becomes of a value that is taken for one of a type, if it is one. -/
def take : TypeTest → Plain → Option (Except Error Expr)
  | expr, .expr e => some (.ok e)
  | null, .null => some (.ok .nil)
  | boolean, .boolean value => some (.ok (.boolean value))
  | integer, .boolean value => some (.ok (.integer (if value then 1 else 0)))
  | integer, .integer value => some (.ok (.integer value))
  | float, .float value => some (.ok (.float value))
  | text, .text value => some (.ok (.string value))
  | sequence, .list items | sequence, .tuple items => some ((toExprs items).map .list)
  | other, .unsupported typeName => some (.error (.unsupported typeName))
  | _, _ => none

/-- A value is converted as one of the first type that it has. -/
theorem findSome?_take (v : Plain) : order.findSome? (·.take v) = some v.toExpr := by
  cases v <;> rfl

example : [integer, boolean].findSome? (·.take (.boolean true)) = some (.ok (.integer 1)) := rfl

end TypeTest

/-- How a conversion ends, told by the unsupported values: with the first of them, or with something
of the right kind if there is none. -/
inductive Converts {α : Type} (stands : α → Prop) : List String → Except Error α → Prop
  | converted {a : α} : stands a → Converts stands [] (.ok a)
  | refused {typeName : String} {others : List String} :
      Converts stands (typeName :: others) (.error (.unsupported typeName))

namespace Converts

variable {α β : Type} {stands : α → Prop} {names : List String} {found : Except Error α}

theorem map {stands' : β → Prop} {f : α → β} (converts : Converts stands names found)
    (kept : ∀ a, stands a → stands' (f a)) : Converts stands' names (found.map f) := by
  cases converts with
  | converted holds => exact .converted (kept _ holds)
  | refused => exact .refused

theorem exists_ok_iff (converts : Converts stands names found) :
    (∃ a, found = .ok a ∧ stands a) ↔ names = [] := by
  cases converts with
  | converted holds => exact iff_of_true ⟨_, rfl, holds⟩ rfl
  | refused => exact iff_of_false nofun (List.cons_ne_nil _ _)

theorem eq_error_iff (converts : Converts stands names found) {reason : Error} :
    found = .error reason ↔
      ∃ typeName, names.head? = some typeName ∧ reason = .unsupported typeName := by
  cases converts with
  | converted => simp
  | refused => simp [eq_comm]

theorem stands_of_ok {a : α} (converts : Converts stands names found) (same : found = .ok a) :
    stands a := by
  cases converts with
  | converted holds =>
    cases same
    exact holds
  | refused => cases same

end Converts

mutual

theorem converts : (v : Plain) → Converts (Stands v) v.unsupportedTypes v.toExpr
  | null => .converted .null
  | boolean value => .converted (.boolean value)
  | integer value => .converted (.integer value)
  | float value => .converted (.float value)
  | text value => .converted (.text value)
  | expr e => .converted (.expr e)
  | list items => (convertsAll items).map fun _ => .list
  | tuple items => (convertsAll items).map fun _ => .tuple
  | unsupported _ => .refused

theorem convertsAll :
    (items : List Plain) → Converts (StandAll items) (unsupportedTypesOfAll items) (toExprs items)
  | [] => .converted .nil
  | item :: items => by
    have first := converts item
    have others := convertsAll items
    rw [toExprs, unsupportedTypesOfAll]
    generalize item.unsupportedTypes = names, item.toExpr = found at first
    cases first with
    | converted stands => exact others.map fun _ => .cons stands
    | refused => exact .refused

end

mutual

theorem Stands.toPlain_eq {v : Plain} {e : Expr} (stands : Stands v e) : e.toPlain = v.resolved := by
  cases stands with
  | list all | tuple all => exact congrArg Plain.list all.toPlains_eq
  | _ => rfl

theorem StandAll.toPlains_eq {items : List Plain} {es : List Expr} (all : StandAll items es) :
    Expr.toPlains es = resolvedAll items := by
  cases all with
  | nil => rfl
  | cons stands others =>
    rw [Expr.toPlains, stands.toPlain_eq, others.toPlains_eq]
    rfl

end

end Plain

namespace Expr

mutual

/-- The same expression with a string in the place of each symbol. -/
def withoutSymbols : Expr → Expr
  | symbol name => string name
  | list items => list (withoutSymbolsAll items)
  | atom => atom

def withoutSymbolsAll : List Expr → List Expr
  | [] => []
  | item :: items => withoutSymbols item :: withoutSymbolsAll items

end

/-- A symbol stands in an expression at some depth. -/
inductive HasSymbol : Expr → Prop
  | here {name : String} : HasSymbol (symbol name)
  | within {e : Expr} {items : List Expr} : e ∈ items → HasSymbol e → HasSymbol (list items)

mutual

theorem toExpr_toPlain : (e : Expr) → e.toPlain.toExpr = .ok e.withoutSymbols
  | nil | boolean _ | string _ | symbol _ | integer _ | float _ => rfl
  | list items => by
    rw [toPlain, Plain.toExpr, toExprs_toPlains items]
    rfl

theorem toExprs_toPlains :
    (items : List Expr) → Plain.toExprs (toPlains items) = .ok (withoutSymbolsAll items)
  | [] => rfl
  | item :: items => by
    rw [toPlains, Plain.toExprs, toExpr_toPlain item, toExprs_toPlains items]
    rfl

end

mutual

theorem withoutSymbols_eq_self_iff : (e : Expr) → (e.withoutSymbols = e ↔ ¬ e.HasSymbol)
  | nil | boolean _ | string _ | integer _ | float _ => iff_of_true rfl nofun
  | symbol _ => iff_of_false nofun (not_not_intro .here)
  | list items => by
    have within : (list items).HasSymbol ↔ ∃ e ∈ items, e.HasSymbol :=
      ⟨fun | .within member has => ⟨_, member, has⟩, fun ⟨_, member, has⟩ => .within member has⟩
    rw [withoutSymbols, list.injEq, withoutSymbolsAll_eq_self_iff items, within]
    simp

theorem withoutSymbolsAll_eq_self_iff :
    (items : List Expr) → (withoutSymbolsAll items = items ↔ ∀ e ∈ items, ¬ e.HasSymbol)
  | [] => by simp [withoutSymbolsAll]
  | item :: items => by
    rw [withoutSymbolsAll, List.cons.injEq, withoutSymbols_eq_self_iff item,
      withoutSymbolsAll_eq_self_iff items, List.forall_mem_cons]

end

end Expr

/-- A plain value is converted unless an unsupported value stands in it, in which case the type of
the first one from the left is named. Converted there and back, a value is the same but for its
tuples and the expressions in it, and an expression is the same but for its symbols. Each atom keeps
its type, although a boolean would also pass for an integer. -/
theorem conversions_inverse :
    (∀ v : Plain,
      (∀ reason, v.toExpr = .error reason ↔
        ∃ typeName, v.unsupportedTypes.head? = some typeName ∧ reason = .unsupported typeName ∧
          reason.message = "Cannot convert " ++ typeName ++ " to an S-expression") ∧
      ((∃ e, v.toExpr = .ok e ∧ e.toPlain = v.resolved ∧ v.Stands e) ↔ v.unsupportedTypes = []) ∧
      Plain.TypeTest.order.findSome? (·.take v) = some v.toExpr) ∧
    ∀ e : Expr,
      e.toPlain.toExpr = .ok e.withoutSymbols ∧ e.toPlain.Stands e.withoutSymbols ∧
        (e.toPlain.toExpr = .ok e ↔ ¬ e.HasSymbol) := by
  constructor
  · intro v
    refine ⟨?_, ?_, Plain.TypeTest.findSome?_take v⟩
    · intro reason
      rw [v.converts.eq_error_iff]
      constructor
      · rintro ⟨typeName, first, rfl⟩
        exact ⟨typeName, first, rfl, rfl⟩
      · rintro ⟨typeName, first, same, -⟩
        exact ⟨typeName, first, same⟩
    · rw [← v.converts.exists_ok_iff]
      constructor
      · rintro ⟨e, found, -, stands⟩
        exact ⟨e, found, stands⟩
      · rintro ⟨e, found, stands⟩
        exact ⟨e, found, stands.toPlain_eq, stands⟩
  · intro e
    have back := e.toExpr_toPlain
    refine ⟨back, e.toPlain.converts.stands_of_ok back, ?_⟩
    rw [back, Except.ok.injEq, e.withoutSymbols_eq_self_iff]

end Sexp
