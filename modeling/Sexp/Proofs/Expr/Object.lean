import Sexp.Proofs.Expr.Agreement

set_option autoImplicit false
set_option relaxedAutoImplicit false

/-!
# Expressions in memory

An expression in memory is an object, and one object can be an item of several lists. Objects are
compared by their contents, but what is at one address is taken to be equal without a look at it.
So objects are equal if they have one form (`beq_iff_form`), in which what is not a number counts by
its place. If two objects have nothing of this kind in common, as when they were built separately,
they are compared like expressions (`beq_eq_of_apart`).

Objects can be nested as deep as one likes. That a machine has no room to compare more than some
hundreds of levels is left out here, as it is for conversions.
-/

namespace Sexp

open Double (number?)

/-- An expression in memory. It has an address, and so has the content of a float or of a list, which
other objects can have as well. Other contents equal themselves, and it makes no difference where
they are. -/
inductive Object where
  | nil (address : Nat)
  | boolean (address : Nat) (value : Bool)
  | string (address : Nat) (text : String)
  | symbol (address : Nat) (name : String)
  | integer (address : Nat) (value : Int)
  | float (address place : Nat) (value : Float)
  | list (address place : Nat) (items : List Object)

namespace Object

def address : Object → Nat
  | nil address | boolean address _ | string address _ | symbol address _ | integer address _
  | float address _ _ | list address _ _ => address

mutual

/-- The expression that an object is. -/
def expr : Object → Expr
  | nil _ => .nil
  | boolean _ value => .boolean value
  | string _ text => .string text
  | symbol _ name => .symbol name
  | integer _ value => .integer value
  | float _ _ value => .float value
  | list _ _ items => .list (exprs items)

def exprs : List Object → List Expr
  | [] => []
  | item :: items => expr item :: exprs items

end

mutual

/-- Objects of one kind are compared by their contents, which are equal if they are at one place. -/
def same : Object → Object → Bool
  | nil _, nil _ => true
  | boolean _ a, boolean _ b => a == b
  | string _ s, string _ t => s == t
  | symbol _ s, symbol _ t => s == t
  | integer _ m, integer _ n => m == n
  | float _ place x, float _ place' y => place == place' || x == y
  | list _ place as, list _ place' bs => place == place' || sameItems as bs
  | _, _ => false

/-- Items are equal if they are one object. -/
def sameItems : List Object → List Object → Bool
  | [], [] => true
  | a :: as, b :: bs => (a.address == b.address || same a b) && sameItems as bs
  | _, _ => false

end

instance : BEq Object := ⟨same⟩

end Object

/-- The objects that are in memory together. There is one object at an address, and one content at a
place. -/
structure Memory where
  holds : Object → Prop
  holds_item {address place : Nat} {items : List Object} {o : Object} :
    holds (.list address place items) → o ∈ items → holds o
  eq_of_address {a b : Object} : holds a → holds b → a.address = b.address → a = b
  eq_of_float {address address' place : Nat} {x y : Float} :
    holds (.float address place x) → holds (.float address' place y) → x = y
  eq_of_list {address address' place : Nat} {as bs : List Object} :
    holds (.list address place as) → holds (.list address' place bs) → as = bs

instance : Membership Object Memory := ⟨Memory.holds⟩

namespace Object

@[induction_eliminator]
theorem induction {motive : Object → Prop} (nil : ∀ address, motive (nil address))
    (boolean : ∀ address value, motive (boolean address value))
    (string : ∀ address text, motive (string address text))
    (symbol : ∀ address name, motive (symbol address name))
    (integer : ∀ address value, motive (integer address value))
    (float : ∀ address place value, motive (float address place value))
    (list : ∀ address place items, (∀ o ∈ items, motive o) → motive (list address place items)) :
    (o : Object) → motive o
  | .nil address => nil address
  | .boolean address value => boolean address value
  | .string address text => string address text
  | .symbol address name => symbol address name
  | .integer address value => integer address value
  | .float address place value => float address place value
  | .list address place items => list address place items fun o _ =>
    induction nil boolean string symbol integer float list o

variable {memory : Memory} {a b : Object} {as bs : List Object}

theorem beq_eq_same : (a == b) = same a b := rfl

/-- What there is to an object when it is compared. A float counts by its number, or by its place if
it is not a number. -/
inductive Form where
  | nil
  | boolean (value : Bool)
  | string (text : String)
  | symbol (name : String)
  | integer (value : Int)
  | float (content : Double.Extended ⊕ Nat)
  | list (forms : List Form)

def numberOrPlace (place : Nat) (x : Float) : Double.Extended ⊕ Nat :=
  match number? x with
  | some n => .inl n
  | none => .inr place

mutual

def form : Object → Form
  | nil _ => .nil
  | boolean _ value => .boolean value
  | string _ text => .string text
  | symbol _ name => .symbol name
  | integer _ value => .integer value
  | float _ place value => .float (numberOrPlace place value)
  | list _ _ items => .list (forms items)

def forms : List Object → List Form
  | [] => []
  | item :: items => form item :: forms items

end

private theorem numberOrPlace_eq_iff {place place' : Nat} {x y : Float} :
    numberOrPlace place x = numberOrPlace place' y ↔
      (x == y) = true ∨ x.isNaN = true ∧ y.isNaN = true ∧ place = place' := by
  rw [numberOrPlace, numberOrPlace, Double.beq_iff_number, ← Double.number?_eq_none_iff,
    ← Double.number?_eq_none_iff]
  cases number? x <;> cases number? y <;> simp [eq_comm]

private theorem sameItems_iff_forms (held : ∀ a ∈ as, a ∈ memory) (held' : ∀ b ∈ bs, b ∈ memory)
    (items : ∀ a ∈ as, ∀ b ∈ memory, (a == b) = true ↔ a.form = b.form) :
    sameItems as bs = true ↔ forms as = forms bs := by
  induction as generalizing bs with
  | nil =>
    cases bs with
    | nil => exact iff_of_true rfl rfl
    | cons => exact iff_of_false nofun nofun
  | cons a as ih =>
    obtain ⟨first, others⟩ := List.forall_mem_cons.mp items
    obtain ⟨heldFirst, heldOthers⟩ := List.forall_mem_cons.mp held
    cases bs with
    | nil => exact iff_of_false nofun nofun
    | cons b bs =>
      obtain ⟨heldFirst', heldOthers'⟩ := List.forall_mem_cons.mp held'
      -- What is at one address is one object, so that nothing is equal but by its form.
      have one : a.address = b.address ∨ (a == b) = true ↔ a.form = b.form := by
        rw [first b heldFirst', or_iff_right_of_imp]
        intro here
        rw [memory.eq_of_address heldFirst heldFirst' here]
      rw [sameItems, Bool.and_eq_true, Bool.or_eq_true, beq_iff_eq, ih heldOthers heldOthers' others,
        forms, forms, List.cons.injEq]
      exact and_congr_left' one

/-- Objects are equal if they have one form. Looking at addresses first finds no others equal. -/
theorem beq_iff_form (held : a ∈ memory) (held' : b ∈ memory) :
    (a == b) = true ↔ a.form = b.form := by
  induction a generalizing b with
  | nil | boolean _ _ | string _ _ | symbol _ _ | integer _ _ =>
    cases b <;> simp [beq_eq_same, same, form]
  | float address place x =>
    cases b with
    | float address' place' y =>
      show (place == place' || x == y) = true ↔ Form.float _ = Form.float _
      rw [Bool.or_eq_true, beq_iff_eq, Form.float.injEq]
      constructor
      · rintro (rfl | equal)
        · rw [memory.eq_of_float held held']
        · exact numberOrPlace_eq_iff.mpr (.inl equal)
      · intro alike
        rcases numberOrPlace_eq_iff.mp alike with equal | ⟨-, -, here⟩
        · exact .inr equal
        · exact .inl here
    | _ => exact iff_of_false nofun nofun
  | list address place as ih =>
    cases b with
    | list address' place' bs =>
      show (place == place' || sameItems as bs) = true ↔ Form.list _ = Form.list _
      have items := sameItems_iff_forms (fun a member => memory.holds_item held member)
        (fun b member => memory.holds_item held' member)
        fun a member b held' => ih a member (memory.holds_item held member) held'
      rw [Bool.or_eq_true, beq_iff_eq, Form.list.injEq, items, or_iff_right_of_imp]
      rintro rfl
      rw [memory.eq_of_list held held']
    | _ => exact iff_of_false nofun nofun

theorem equivalence (memory : Memory) :
    Equivalence fun a b : {o // o ∈ memory} => (a.1 == b.1) = true where
  refl a := (beq_iff_form a.2 a.2).mpr rfl
  symm {a b} equal := (beq_iff_form b.2 a.2).mpr ((beq_iff_form a.2 b.2).mp equal).symm
  trans {a b c} equal equal' := (beq_iff_form a.2 c.2).mpr
    (((beq_iff_form a.2 b.2).mp equal).trans ((beq_iff_form b.2 c.2).mp equal'))

private theorem forms_set {i : Nat} (found : as[i]? = some a) (equal : a.form = b.form) :
    forms (as.set i b) = forms as := by
  induction as generalizing i with
  | nil => rfl
  | cons first others ih =>
    cases i with
    | zero =>
      cases found
      rw [List.set_cons_zero, forms, forms, equal]
    | succ i => rw [List.set_cons_succ, forms, forms, ih found]

theorem beq_set {address address' place place' i : Nat} (held : list address place as ∈ memory)
    (held' : list address' place' (as.set i b) ∈ memory) (found : as[i]? = some a)
    (equal : (a == b) = true) :
    (list address place as == list address' place' (as.set i b)) = true := by
  have item := memory.holds_item held (List.mem_of_getElem? found)
  have item' := memory.holds_item held'
    (List.mem_set (List.getElem?_eq_some_iff.mp found).1 b)
  have forms := forms_set found ((beq_iff_form item item').mp equal)
  rw [beq_iff_form held held', form, form, forms]

/-- Something that is not a number is at a place, and stands in an object at some depth. -/
inductive HasNaNAt (place : Nat) : Object → Prop
  | here {address : Nat} {x : Float} : x.isNaN = true → HasNaNAt place (float address place x)
  | within {address place' : Nat} {o : Object} {items : List Object} :
      o ∈ items → HasNaNAt place o → HasNaNAt place (list address place' items)

/-- Nothing that is not a number stands in both of two objects. Objects that are built separately
have nothing at all in common, and so they are apart. -/
def Apart (a b : Object) : Prop := ∀ place, a.HasNaNAt place → ¬ b.HasNaNAt place

theorem expr_mem_exprs {o : Object} {items : List Object} (member : o ∈ items) :
    o.expr ∈ exprs items := by
  induction items with
  | nil => cases member
  | cons item items ih =>
    rw [exprs, List.mem_cons]
    rcases List.mem_cons.mp member with rfl | member
    · exact .inl rfl
    · exact .inr (ih member)

theorem HasNaNAt.hasNaN_expr {place : Nat} {o : Object} (has : o.HasNaNAt place) :
    o.expr.HasNaN := by
  induction has with
  | here isNaN => exact .here isNaN
  | within member _ ih => exact .within (expr_mem_exprs member) ih

private theorem forms_eq_iff_agreeAll
    (items : ∀ a ∈ as, ∀ b ∈ bs, a.form = b.form ↔ Expr.Agrees a.expr b.expr) :
    forms as = forms bs ↔ Expr.AgreeAll (exprs as) (exprs bs) := by
  induction as generalizing bs with
  | nil =>
    cases bs with
    | nil => exact iff_of_true rfl .nil
    | cons => exact iff_of_false nofun nofun
  | cons a as ih =>
    cases bs with
    | nil => exact iff_of_false nofun nofun
    | cons b bs =>
      have first := items a List.mem_cons_self b List.mem_cons_self
      have others := ih fun a member b member' =>
        items a (List.mem_cons_of_mem _ member) b (List.mem_cons_of_mem _ member')
      rw [forms, forms, List.cons.injEq, first, others, exprs, exprs, Expr.agreeAll_cons_iff]

theorem form_eq_iff_agrees (apart : a.Apart b) : a.form = b.form ↔ Expr.Agrees a.expr b.expr := by
  induction a generalizing b with
  | nil | boolean _ _ | string _ _ | symbol _ _ | integer _ _ =>
    cases b <;> simp [form, expr]
  | float address place x =>
    cases b with
    | float address' place' y =>
      show Form.float _ = Form.float _ ↔ _
      rw [Form.float.injEq, numberOrPlace_eq_iff, or_iff_left]
      · exact Expr.agrees_float_iff.symm
      · rintro ⟨isNaN, isNaN', rfl⟩
        exact apart place (.here isNaN) (.here isNaN')
    | _ => exact iff_of_false nofun nofun
  | list address place as ih =>
    cases b with
    | list address' place' bs =>
      show Form.list _ = Form.list _ ↔ _
      rw [Form.list.injEq, forms_eq_iff_agreeAll]
      · exact Expr.agrees_list_iff.symm
      · intro a member b member'
        apply ih a member
        intro place has has'
        exact apart place (.within member has) (.within member' has')
    | _ => exact iff_of_false nofun nofun

theorem apart_of_not_hasNaN (sound : ¬ a.expr.HasNaN) : a.Apart b :=
  fun _ has _ => sound has.hasNaN_expr

/-- Objects that are apart are compared like their expressions. -/
theorem beq_eq_of_apart (held : a ∈ memory) (held' : b ∈ memory) (apart : a.Apart b) :
    (a == b) = (a.expr == b.expr) := by
  rw [Bool.eq_iff_iff, beq_iff_form held held', form_eq_iff_agrees apart, Expr.beq_iff_agrees]

end Object

end Sexp
