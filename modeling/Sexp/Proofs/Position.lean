import Mathlib.Data.List.DropRight
import Sexp.Position

set_option autoImplicit false
set_option relaxedAutoImplicit false

/-!
# Positions by counting

Where a character stands can be counted from the text before it: the line feeds, and the characters
after the last one. Reading on from the start of a text comes to the same, and each character that
is read leads to a later position.
-/

namespace Sexp.Position

/-- Where the next character stands when the text `cs` comes before it. -/
def behind (cs : List Char) : Position :=
  ⟨1 + cs.count '\n', 1 + (cs.rtakeWhile (· ≠ '\n')).length⟩

theorem behind_append_singleton (cs : List Char) (c : Char) :
    behind (cs ++ [c]) = (behind cs).advance c := by
  by_cases lineEnd : c = '\n'
  · subst lineEnd
    simp [behind, advance, nextLine, List.rtakeWhile_concat_neg, Int.add_assoc]
  · simp [behind, advance, nextColumn, lineEnd, List.rtakeWhile_concat_pos, Int.add_assoc]

theorem behind_append (cs ds : List Char) : behind (cs ++ ds) = (behind cs).after ds := by
  induction ds generalizing cs with
  | nil => rw [List.append_nil, after_nil]
  | cons d ds ih =>
    rw [after_cons, ← behind_append_singleton, ← ih, List.append_assoc, List.singleton_append]

/-- A position comes before another: on an earlier line, or farther left on the same one. -/
def Before (p q : Position) : Prop := p.line < q.line ∨ p.line = q.line ∧ p.column < q.column

theorem Before.trans {p q r : Position} (first : p.Before q) (second : q.Before r) :
    p.Before r := by
  unfold Before at *
  omega

theorem Before.irrefl (p : Position) : ¬ p.Before p := by
  unfold Before
  omega

theorem before_advance (p : Position) (c : Char) : p.Before (p.advance c) := by
  unfold Before advance
  split
  · exact .inl (Int.lt_succ p.line)
  · exact .inr ⟨rfl, Int.lt_succ p.column⟩

theorem eq_or_before_after (p : Position) (cs : List Char) :
    p = p.after cs ∨ p.Before (p.after cs) := by
  induction cs generalizing p with
  | nil => exact .inl rfl
  | cons c cs ih =>
    have first := p.before_advance c
    rw [after_cons]
    rcases ih (p.advance c) with same | later
    · rw [← same]
      exact .inr first
    · exact .inr (first.trans later)

theorem before_after {cs : List Char} (read : cs ≠ []) (p : Position) : p.Before (p.after cs) := by
  cases cs with
  | nil => exact absurd rfl read
  | cons c cs =>
    have first := p.before_advance c
    rw [after_cons]
    rcases eq_or_before_after (p.advance c) cs with same | later
    · rwa [← same]
    · exact first.trans later

end Sexp.Position
