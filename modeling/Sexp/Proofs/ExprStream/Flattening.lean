import Sexp.Expr
import Sexp.Numeral.Decimal
import Sexp.Proofs.ExprStream.Nesting
import Sexp.Proofs.Numeral.Integer

set_option autoImplicit false
set_option relaxedAutoImplicit false

/-!
# Expressions and their tokens

Which tokens form a sequence of expressions, and which expressions these are. The tokens of an
expression are those of its items between two parentheses, and no other expressions have the same
tokens.
-/

namespace Sexp

open Nesting

/-- A token of this kind is an expression of its own. -/
def TokenKind.isAtom : TokenKind → Bool
  | string | symbol | integer | float => true
  | empty | error | opening | closing => false

/-- Tokens that form a sequence of expressions: atoms, and sequences between two parentheses. -/
inductive IsSequence : List Token → Prop
  | nil : IsSequence []
  | atom {t : Token} {ts : List Token} :
      t.kind.isAtom = true → IsSequence ts → IsSequence (t :: ts)
  | list {opening closing : Token} {inner ts : List Token} : opening.kind = .opening →
      IsSequence inner → closing.kind = .closing → IsSequence ts →
      IsSequence (opening :: (inner ++ closing :: ts))

/-- The atom that a token spells. -/
inductive Denotes (t : Token) : Expr → Prop
  | string : t.kind = .string → Denotes t (.string t.text)
  | nil : t.kind = .symbol → t.text = "nil" → Denotes t .nil
  | booleanTrue : t.kind = .symbol → t.text = "true" → Denotes t (.boolean true)
  | booleanFalse : t.kind = .symbol → t.text = "false" → Denotes t (.boolean false)
  | symbol : t.kind = .symbol → t.text ≠ "nil" → t.text ≠ "true" → t.text ≠ "false" →
      Denotes t (.symbol t.text)
  | integer : t.kind = .integer → Denotes t (.integer (Numeral.valueOf t.text.toList))
  | float : t.kind = .float → Denotes t (.float (Decimal.ofText t.text.toList).toFloat)

/-- The tokens of a sequence of expressions: one for an atom, and for a list those of its items
between two parentheses. -/
inductive Flattens : List Expr → List Token → Prop
  | nil : Flattens [] []
  | atom {e : Expr} {es : List Expr} {t : Token} {ts : List Token} :
      Denotes t e → Flattens es ts → Flattens (e :: es) (t :: ts)
  | list {items es : List Expr} {opening closing : Token} {inner ts : List Token} :
      opening.kind = .opening → Flattens items inner → closing.kind = .closing →
      Flattens es ts → Flattens (.list items :: es) (opening :: (inner ++ closing :: ts))

theorem enclose_of_isAtom {t : Token} (isAtom : t.kind.isAtom = true) (outer : List Token) :
    enclose outer t = outer := by
  cases kind : t.kind with
  | string | symbol | integer | float => rw [enclose, kind]
  | empty | error | opening | closing =>
    rw [kind] at isAtom
    cases isAtom

theorem Denotes.isAtom {t : Token} {e : Expr} (denotes : Denotes t e) : t.kind.isAtom = true := by
  cases denotes <;> simp only [*, TokenKind.isAtom]

theorem denotes_ofName {t : Token} (kind : t.kind = .symbol) : Denotes t (.ofName t.text) := by
  unfold Expr.ofName
  split
  · exact .nil kind ‹_›
  · split
    · exact .booleanTrue kind ‹_›
    · split
      · exact .booleanFalse kind ‹_›
      · exact .symbol kind ‹_› ‹_› ‹_›

theorem Denotes.unique {t : Token} {e e' : Expr} (one : Denotes t e) (other : Denotes t e') :
    e = e' := by
  cases one <;> cases other <;> simp_all

namespace Flattens

theorem append {es es' : List Expr} {ts ts' : List Token} (first : Flattens es ts)
    (second : Flattens es' ts') : Flattens (es ++ es') (ts ++ ts') := by
  induction first with
  | nil => exact second
  | atom denotes _ ih => exact .atom denotes ih
  | list opening inner closing _ _ ih =>
    rw [List.cons_append, List.cons_append, List.append_assoc, List.cons_append]
    exact .list opening inner closing ih

theorem isSequence {es : List Expr} {ts : List Token} (flattens : Flattens es ts) :
    IsSequence ts := by
  induction flattens with
  | nil => exact .nil
  | atom denotes _ ih => exact .atom denotes.isAtom ih
  | list opening _ closing _ inner ih => exact .list opening inner closing ih

/-- What comes behind a sequence: nothing, or the end of the list that it fills. -/
private def Stops (rest : List Token) : Prop := ∀ t ∈ rest.head?, t.kind = .closing

private theorem not_stops_of_isAtom {t : Token} {ts : List Token} (isAtom : t.kind.isAtom = true) :
    ¬ Stops (t :: ts) := by
  intro stops
  have closing : t.kind = .closing := stops t rfl
  rw [closing] at isAtom
  exact absurd isAtom (by decide)

private theorem not_stops_of_opening {t : Token} {ts : List Token} (opening : t.kind = .opening) :
    ¬ Stops (t :: ts) := by
  intro stops
  have closing : t.kind = .closing := stops t rfl
  rw [closing] at opening
  exact absurd opening (by decide)

private theorem opening_ne_atom {t : Token} (opening : t.kind = .opening) :
    ¬ t.kind.isAtom = true := by
  rw [opening]
  decide

private theorem stops_of_closing {t : Token} {ts : List Token} (closing : t.kind = .closing) :
    Stops (t :: ts) := by
  intro u head
  rwa [← Option.some.inj head]

private theorem eq_nil_of_stops {es : List Expr} {ts rest : List Token}
    (flattens : Flattens es ts) (stops : Stops (ts ++ rest)) : es = [] ∧ ts = [] := by
  cases flattens with
  | nil => exact ⟨rfl, rfl⟩
  | atom denotes => exact absurd stops (not_stops_of_isAtom denotes.isAtom)
  | list opening => exact absurd stops (not_stops_of_opening opening)

/-- Tokens can be divided in one way only into a sequence and what stops it. The rest is arbitrary,
since the sequence of a list is followed by the tokens behind the list. -/
private theorem unique_of_stops {es es' : List Expr} {ts ts' rest rest' : List Token}
    (one : Flattens es ts) (other : Flattens es' ts') (same : ts ++ rest = ts' ++ rest')
    (stops : Stops rest) (stops' : Stops rest') : es = es' ∧ rest = rest' := by
  induction one generalizing es' ts' rest rest' with
  | nil =>
    rw [List.nil_append] at same
    obtain ⟨rfl, rfl⟩ := eq_nil_of_stops other (same ▸ stops)
    exact ⟨rfl, same⟩
  | atom denotes others ih =>
    cases other with
    | nil =>
      rw [List.nil_append] at same
      have none := eq_nil_of_stops (.atom denotes others) (same ▸ stops')
      cases none.1
    | atom denotes' others' =>
      rw [List.cons_append, List.cons_append, List.cons.injEq] at same
      obtain ⟨rfl, same⟩ := same
      obtain ⟨rfl, behind⟩ := ih others' same stops stops'
      exact ⟨by rw [denotes.unique denotes'], behind⟩
    | list opening =>
      rw [List.cons_append, List.cons_append, List.cons.injEq] at same
      obtain ⟨rfl, -⟩ := same
      exact absurd denotes.isAtom (opening_ne_atom opening)
  | list opening items closing others inner ih =>
    cases other with
    | nil =>
      rw [List.nil_append] at same
      have none := eq_nil_of_stops (.list opening items closing others) (same ▸ stops')
      cases none.1
    | atom denotes =>
      rw [List.cons_append, List.cons_append, List.cons.injEq] at same
      obtain ⟨rfl, -⟩ := same
      exact absurd denotes.isAtom (opening_ne_atom opening)
    | list _ items' closing' others' =>
      simp only [List.cons_append, List.append_assoc, List.cons.injEq] at same
      obtain ⟨rfl, same⟩ := same
      obtain ⟨rfl, behind⟩ :=
        inner items' same (stops_of_closing closing) (stops_of_closing closing')
      rw [List.cons.injEq] at behind
      obtain ⟨rfl, same⟩ := ih others' behind.2 stops stops'
      exact ⟨rfl, same⟩

/-- Expressions are determined by their tokens. -/
theorem unique {es es' : List Expr} {ts : List Token} (one : Flattens es ts)
    (other : Flattens es' ts) : es = es' := by
  have stops : Stops [] := by
    intro t head
    cases head
  exact (unique_of_stops one other rfl stops stops).1

theorem unique_of_append {e e' : Expr} {ts ts' rest rest' : List Token} (one : Flattens [e] ts)
    (other : Flattens [e'] ts') (same : ts ++ rest = ts' ++ rest') : e = e' ∧ ts = ts' := by
  cases one with
  | atom denotes none =>
    cases none
    cases other with
    | atom denotes' none =>
      cases none
      obtain ⟨rfl, -⟩ := List.cons.inj same
      exact ⟨denotes.unique denotes', rfl⟩
    | list opening =>
      obtain ⟨rfl, -⟩ := List.cons.inj same
      exact absurd denotes.isAtom (opening_ne_atom opening)
  | list opening items closing none =>
    cases none
    cases other with
    | atom denotes =>
      obtain ⟨rfl, -⟩ := List.cons.inj same
      exact absurd denotes.isAtom (opening_ne_atom opening)
    | list _ items' closing' none =>
      cases none
      simp only [List.cons_append, List.append_assoc, List.cons.injEq] at same
      obtain ⟨rfl, inner⟩ := same
      obtain ⟨rfl, behind⟩ :=
        unique_of_stops items items' inner (stops_of_closing closing) (stops_of_closing closing')
      rw [behind] at inner
      obtain ⟨rfl, -⟩ := List.cons.inj behind
      rw [List.append_cancel_right inner]
      exact ⟨rfl, rfl⟩

end Flattens

namespace IsSequence

theorem isTerminal_eq_false {ts : List Token} (isSequence : IsSequence ts) :
    ∀ t ∈ ts, t.isTerminal = false := by
  induction isSequence with
  | nil => simp
  | atom isAtom _ ih =>
    intro u member
    rcases List.mem_cons.mp member with rfl | member
    · unfold Token.isTerminal
      cases kind : u.kind <;> simp_all [TokenKind.isAtom, TokenKind.isTerminal]
    · exact ih u member
  | list opening _ closing _ inner ih =>
    intro u member
    rcases List.mem_cons.mp member with rfl | member
    · rw [Token.isTerminal, opening]
      rfl
    · rcases List.mem_append.mp member with member | member
      · exact inner u member
      · rcases List.mem_cons.mp member with rfl | member
        · rw [Token.isTerminal, closing]
          rfl
        · exact ih u member

theorem unclosed_eq {ts : List Token} (isSequence : IsSequence ts) (outer : List Token) :
    unclosed outer ts = outer := by
  induction isSequence generalizing outer with
  | nil => rfl
  | atom isAtom _ ih => rw [unclosed_cons, enclose_of_isAtom isAtom, ih]
  | list opening _ closing _ inner ih =>
    rw [unclosed_cons, enclose_of_opening opening, unclosed_append, inner, unclosed_cons,
      enclose_of_closing closing, List.tail_cons, ih]

theorem along_closing {ts : List Token} (isSequence : IsSequence ts) (outer : List Token) :
    Along (fun outer t => t.kind = .closing → outer ≠ []) outer ts := by
  induction isSequence generalizing outer with
  | nil => trivial
  | @atom t ts isAtom _ ih =>
    refine ⟨?_, ih _⟩
    intro kind
    rw [kind] at isAtom
    exact absurd isAtom (by decide)
  | @list opening closing inner ts isOpening isSequence isClosing _ within ih =>
    refine ⟨?_, ?_⟩
    · intro kind
      rw [isOpening] at kind
      exact absurd kind (by decide)
    · rw [enclose_of_opening isOpening]
      refine along_append.mpr ⟨within _, ?_, ih _⟩
      intro _
      rw [isSequence.unclosed_eq]
      exact List.cons_ne_nil _ _

end IsSequence

end Sexp
