import Sexp.Proofs.ExprStream.Calls
import Sexp.Proofs.ExprStream.Step
import Sexp.Proofs.TokenStream.Spacing

set_option autoImplicit false
set_option relaxedAutoImplicit false

/-!
# Expressions that can be read

Not every expression can stand in a source: names and texts have to be those of tokens, and numbers
those that numerals denote. `readable_calls` says that all expressions that are read are of this
kind.
-/

namespace Sexp

open Grammar

/-- An expression that a source can spell. -/
inductive Readable : Expr → Prop
  | nil : Readable .nil
  | boolean (value : Bool) : Readable (.boolean value)
  | string {text : String} : IsBody text.toList → Readable (.string text)
  | symbol {name : String} : IsSymbol name.toList → ¬ StartsNumber name.toList →
      name ≠ "nil" → name ≠ "true" → name ≠ "false" → Readable (.symbol name)
  | integer {value : Int} : Numeral.leastInteger ≤ value → value ≤ Numeral.greatestInteger →
      Readable (.integer value)
  | float {digits : List Char} : IsFloat digits → Readable (.float (Decimal.ofText digits).toFloat)
  | list {items : List Expr} : (∀ e ∈ items, Readable e) → Readable (.list items)

theorem Denotes.readable {t : Token} {e : Expr} (denotes : Denotes t e)
    (isText : IsText t.kind t.text.toList)
    (fits : t.kind = .integer → Numeral.Fits t.text.toList) : Readable e := by
  cases denotes with
  | nil => exact .nil
  | booleanTrue => exact .boolean true
  | booleanFalse => exact .boolean false
  | string kind =>
    rw [kind] at isText
    cases isText with
    | string isBody => exact .string isBody
  | symbol kind noNil noTrue noFalse =>
    rw [kind] at isText
    cases isText with
    | symbol isSymbol noNumber => exact .symbol isSymbol noNumber noNil noTrue noFalse
  | integer kind => exact .integer (fits kind).least_le (fits kind).le_greatest
  | float kind =>
    rw [kind] at isText
    cases isText with
    | float isFloat => exact .float isFloat

namespace Step

variable {lists : List OpenList} {t : Token}

/-- All expressions of a step, complete or in open lists, are readable. -/
def IsReadable : Step → Prop
  | shift lists => ∀ l ∈ lists, ∀ e ∈ l.items, Readable e
  | deliver e => Readable e
  | finish | refuse _ => True

theorem isReadable_place {e : Expr} (readable : Readable e)
    (items : ∀ l ∈ lists, ∀ e ∈ l.items, Readable e) : (place e lists).IsReadable := by
  cases lists with
  | nil => exact readable
  | cons l ls =>
    obtain ⟨first, others⟩ := List.forall_mem_cons.mp items
    exact List.forall_mem_cons.mpr ⟨List.forall_mem_cons.mpr ⟨readable, first⟩, others⟩

theorem isReadable_ofToken [Capacity] (maxDepth : Option Int)
    (formed : t.isTerminal = false → IsText t.kind t.text.toList)
    (items : ∀ l ∈ lists, ∀ e ∈ l.items, Readable e) : (ofToken maxDepth lists t).IsReadable := by
  have comes := ofToken_comes maxDepth lists t
  generalize ofToken maxDepth lists t = step at comes ⊢
  cases comes with
  | atom denotes fits placed =>
    have going : t.isTerminal = false := by
      cases denotes <;> simp [Token.isTerminal, TokenKind.isTerminal, *]
    rw [placed]
    exact isReadable_place (denotes.readable (formed going) fits) items
  | opening _ _ same =>
    rw [same]
    exact List.forall_mem_cons.mpr ⟨by simp, items⟩
  | closing _ inside placed =>
    rw [inside] at items
    obtain ⟨first, others⟩ := List.forall_mem_cons.mp items
    rw [placed]
    apply isReadable_place _ others
    exact .list fun e member => first e (List.mem_reverse.mp member)
  | finish _ _ same | refuse _ same =>
    rw [same]
    trivial

end Step

namespace ExprStream

variable {s : ExprStream}

/-- The token ahead is one of the grammar, unless it is terminal. -/
def Formed (s : ExprStream) : Prop :=
  s.lookahead.isTerminal = false → IsText s.lookahead.kind s.lookahead.text.toList

theorem formed_ofSource (source : String) (maxDepth : Option Int) :
    (ofSource source maxDepth).Formed := TokenStream.isText_read

theorem formed_advance (s : ExprStream) : s.advance.Formed := TokenStream.isText_read

variable [Capacity]

theorem readable_readFrom (lists : List OpenList) (formed : s.Formed)
    (items : ∀ l ∈ lists, ∀ e ∈ l.items, Readable e) :
    (∀ e, (readFrom lists s).1 = .ok (some e) → Readable e) ∧ (readFrom lists s).2.Formed := by
  fun_induction readFrom lists s with
  | case1 lists s lists' used ih =>
    have readable := Step.isReadable_ofToken s.maxDepth formed items
    rw [used] at readable
    exact ih s.formed_advance readable
  | case2 lists s e used =>
    have readable := Step.isReadable_ofToken s.maxDepth formed items
    rw [used] at readable
    refine ⟨?_, s.formed_advance⟩
    intro e' same
    rw [← Option.some.inj (Except.ok.inj same)]
    exact readable
  | case3 | case4 | case5 => exact ⟨by simp, formed⟩

theorem readable_read (formed : s.Formed) :
    (∀ e, s.read.1 = .ok (some e) → Readable e) ∧ s.read.2.Formed := by
  unfold read
  split
  · exact readable_readFrom [] formed (by simp)
  · exact ⟨nofun, formed⟩
  · exact ⟨nofun, formed⟩

theorem maintains_formed : Maintains Formed Readable (fun _ => True) where
  keeps := fun _ formed => (readable_read formed).2
  expr := fun _ e formed => (readable_read formed).1 e
  error := fun _ _ _ _ => trivial

theorem readable_calls (source : String) (maxDepth : Option Int) (cs : List Call) :
    ∀ a ∈ (calls call (ofSource source maxDepth) cs).1, ∀ e ∈ a.exprs, Readable e := fun a member =>
  ((maintains_formed.calls (formed_ofSource source maxDepth) cs).2 a member).1

end ExprStream

variable [Capacity] {source : String} {maxDepth : Option Int}

theorem readable_of_parse {e : Expr} (found : (parse source maxDepth).result = .ok (some e)) :
    Readable e :=
  (ExprStream.readable_read (ExprStream.formed_ofSource source maxDepth)).1 e found

theorem readable_of_parseAll {es : List Expr} (found : (parseAll source maxDepth).result = .ok es) :
    ∀ e ∈ es, Readable e :=
  (ExprStream.maintains_formed.readAll (ExprStream.formed_ofSource source maxDepth)).2.1 es found

end Sexp
