import Sexp.Expr
import Sexp.Proofs.Numeral.Comparison

set_option autoImplicit false
set_option relaxedAutoImplicit false

/-!
# Equality of expressions

Expressions are equal as `==` tells if they agree (`beq_iff_agrees`): they have one shape, with atoms
of the same kinds and contents. This is symmetric and transitive, and an expression equals itself
unless something stands in it that is not a number.
-/

namespace Sexp.Expr

open Double (number?)

mutual

/-- Two expressions have one shape, with atoms of the same kinds and contents. The contents of floats
are numbers. -/
inductive Agrees : Expr → Expr → Prop
  | nil : Agrees nil nil
  | boolean (value : Bool) : Agrees (boolean value) (boolean value)
  | string (text : String) : Agrees (string text) (string text)
  | symbol (name : String) : Agrees (symbol name) (symbol name)
  | integer (value : Int) : Agrees (integer value) (integer value)
  | float {x y : Float} {n : Double.Extended} :
      number? x = some n → number? y = some n → Agrees (float x) (float y)
  | list {as bs : List Expr} : AgreeAll as bs → Agrees (list as) (list bs)

inductive AgreeAll : List Expr → List Expr → Prop
  | nil : AgreeAll [] []
  | cons {a b : Expr} {as bs : List Expr} :
      Agrees a b → AgreeAll as bs → AgreeAll (a :: as) (b :: bs)

end

/-- Something that is not a number stands in an expression at some depth. -/
inductive HasNaN : Expr → Prop
  | here {x : Float} : x.isNaN = true → HasNaN (float x)
  | within {e : Expr} {items : List Expr} : e ∈ items → HasNaN e → HasNaN (list items)

/-- What holds of atoms, and of a list if it holds of the items, holds of every expression. -/
@[induction_eliminator]
theorem induction {motive : Expr → Prop} (nil : motive nil)
    (boolean : ∀ value, motive (boolean value)) (string : ∀ text, motive (string text))
    (symbol : ∀ name, motive (symbol name)) (integer : ∀ value, motive (integer value))
    (float : ∀ value, motive (float value))
    (list : ∀ items, (∀ e ∈ items, motive e) → motive (list items)) : (e : Expr) → motive e
  | .nil => nil
  | .boolean value => boolean value
  | .string text => string text
  | .symbol name => symbol name
  | .integer value => integer value
  | .float value => float value
  | .list items => list items fun e _ =>
    induction nil boolean string symbol integer float list e

variable {a b c : Expr} {as bs cs : List Expr}

mutual

theorem Agrees.symm {a b : Expr} : Agrees a b → Agrees b a
  | .nil => .nil
  | .boolean value => .boolean value
  | .string text => .string text
  | .symbol name => .symbol name
  | .integer value => .integer value
  | .float number number' => .float number' number
  | .list all => .list all.symm

theorem AgreeAll.symm {as bs : List Expr} : AgreeAll as bs → AgreeAll bs as
  | .nil => .nil
  | .cons agrees others => .cons agrees.symm others.symm

end

mutual

theorem Agrees.trans {a b c : Expr} : Agrees a b → Agrees b c → Agrees a c
  | .nil, .nil => .nil
  | .boolean value, .boolean _ => .boolean value
  | .string text, .string _ => .string text
  | .symbol name, .symbol _ => .symbol name
  | .integer value, .integer _ => .integer value
  | .float number middle, .float middle' number' =>
    .float number (number'.trans (middle'.symm.trans middle))
  | .list all, .list all' => .list (all.trans all')

theorem AgreeAll.trans {as bs cs : List Expr} : AgreeAll as bs → AgreeAll bs cs → AgreeAll as cs
  | .nil, .nil => .nil
  | .cons agrees others, .cons agrees' others' => .cons (agrees.trans agrees') (others.trans others')

end

@[simp]
theorem agrees_nil_iff : Agrees nil b ↔ nil = b := ⟨fun | .nil => rfl, fun | rfl => .nil⟩

@[simp]
theorem agrees_boolean_iff {value : Bool} : Agrees (boolean value) b ↔ boolean value = b :=
  ⟨fun | .boolean _ => rfl, fun | rfl => .boolean value⟩

@[simp]
theorem agrees_string_iff {text : String} : Agrees (string text) b ↔ string text = b :=
  ⟨fun | .string _ => rfl, fun | rfl => .string text⟩

@[simp]
theorem agrees_symbol_iff {name : String} : Agrees (symbol name) b ↔ symbol name = b :=
  ⟨fun | .symbol _ => rfl, fun | rfl => .symbol name⟩

@[simp]
theorem agrees_integer_iff {value : Int} : Agrees (integer value) b ↔ integer value = b :=
  ⟨fun | .integer _ => rfl, fun | rfl => .integer value⟩

theorem agrees_float_iff {x y : Float} : Agrees (float x) (float y) ↔ (x == y) = true := by
  rw [Double.beq_iff_number]
  exact ⟨fun | .float number number' => ⟨_, number, number'⟩,
    fun ⟨_, number, number'⟩ => .float number number'⟩

theorem agrees_list_iff : Agrees (list as) (list bs) ↔ AgreeAll as bs :=
  ⟨fun | .list all => all, .list⟩

theorem agreeAll_cons_iff : AgreeAll (a :: as) (b :: bs) ↔ Agrees a b ∧ AgreeAll as bs :=
  ⟨fun | .cons agrees all => ⟨agrees, all⟩, fun ⟨agrees, all⟩ => .cons agrees all⟩

theorem beq_eq_same : (a == b) = same a b := rfl

theorem beq_list : (list as == list bs) = (as == bs) := by
  show sameItems as bs = _
  induction as generalizing bs with
  | nil => cases bs <;> rfl
  | cons a as ih =>
    cases bs with
    | nil => rfl
    | cons b bs => rw [sameItems, ih]; rfl

private theorem agreeAll_iff (items : ∀ a ∈ as, ∀ b, (a == b) = true ↔ Agrees a b) :
    (as == bs) = true ↔ AgreeAll as bs := by
  induction as generalizing bs with
  | nil =>
    cases bs with
    | nil => exact iff_of_true rfl .nil
    | cons => exact iff_of_false nofun nofun
  | cons a as ih =>
    obtain ⟨first, others⟩ := List.forall_mem_cons.mp items
    cases bs with
    | nil => exact iff_of_false nofun nofun
    | cons b bs =>
      rw [List.cons_beq_cons, Bool.and_eq_true, first, ih others, agreeAll_cons_iff]

/-- Expressions are equal if they have one shape and the same kinds of atoms with equal contents. -/
theorem beq_iff_agrees : (a == b) = true ↔ Agrees a b := by
  induction a generalizing b with
  | nil | boolean _ | string _ | symbol _ | integer _ =>
    cases b <;> simp [beq_eq_same, same]
  | float x =>
    cases b with
    | float y => exact agrees_float_iff.symm
    | _ => exact iff_of_false nofun nofun
  | list as ih =>
    cases b with
    | list bs =>
      rw [beq_list, agrees_list_iff]
      exact agreeAll_iff fun a member _ => ih a member
    | _ => exact iff_of_false nofun nofun

/-- Equality is symmetric and transitive. It is not reflexive. -/
instance : PartialEquivBEq Expr where
  symm equal := beq_iff_agrees.mpr (beq_iff_agrees.mp equal).symm
  trans equal equal' :=
    beq_iff_agrees.mpr ((beq_iff_agrees.mp equal).trans (beq_iff_agrees.mp equal'))

theorem hasNaN_float_iff {x : Float} : (float x).HasNaN ↔ x.isNaN = true :=
  ⟨fun | .here isNaN => isNaN, .here⟩

theorem hasNaN_list_iff {items : List Expr} : (list items).HasNaN ↔ ∃ e ∈ items, e.HasNaN :=
  ⟨fun | .within member has => ⟨_, member, has⟩, fun ⟨_, member, has⟩ => .within member has⟩

private theorem beq_items_self_iff : (as == as) = true ↔ ∀ a ∈ as, (a == a) = true := by
  induction as with
  | nil => exact iff_of_true rfl nofun
  | cons a as ih => rw [List.cons_beq_cons, Bool.and_eq_true, ih, List.forall_mem_cons]

theorem beq_self_iff : (a == a) = true ↔ ¬ a.HasNaN := by
  induction a with
  | nil => exact iff_of_true rfl nofun
  | boolean value | string value | symbol value | integer value =>
    exact iff_of_true (beq_self_eq_true value) nofun
  | float x =>
    show (x == x) = true ↔ _
    rw [Float.beq_self_iff, hasNaN_float_iff, Float.isNaN_eq_decide_eq_nan, decide_eq_true_eq]
  | list items ih =>
    rw [beq_list, beq_items_self_iff, hasNaN_list_iff, not_exists]
    simp only [not_and]
    exact forall₂_congr ih

private theorem beq_items_set {i : Nat} (found : as[i]? = some a) (equal : (a == b) = true) :
    (as == cs) = (as.set i b == cs) := by
  induction as generalizing i cs with
  | nil => cases found
  | cons first others ih =>
    cases cs with
    | nil => cases i <;> rfl
    | cons c cs =>
      cases i with
      | zero =>
        cases found
        rw [List.set_cons_zero, List.cons_beq_cons, List.cons_beq_cons, BEq.congr_left equal]
      | succ i =>
        rw [List.set_cons_succ, List.cons_beq_cons, List.cons_beq_cons, ih found]

theorem beq_set {i : Nat} (found : as[i]? = some a) (equal : (a == b) = true) (c : Expr) :
    (list as == c) = (list (as.set i b) == c) := by
  cases c with
  | list cs => rw [beq_list, beq_list, beq_items_set found equal]
  | _ => rfl

end Sexp.Expr
