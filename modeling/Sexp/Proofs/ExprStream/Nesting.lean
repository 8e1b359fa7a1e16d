import Mathlib.Tactic.ByContra
import Sexp.Token

set_option autoImplicit false
set_option relaxedAutoImplicit false

/-!
# Which lists are open

The lists that are open somewhere among the tokens of a source can be told from the parentheses
before that place, whatever is read. A list is named by its opening token.
-/

namespace Sexp.Nesting

/-- The lists open behind a token, the innermost first, when those in `outer` are open before it. -/
def enclose (outer : List Token) (t : Token) : List Token :=
  match t.kind with
  | .opening => t :: outer
  | .closing => outer.tail
  | _ => outer

/-- The lists open behind some tokens, when those in `outer` are open before them. -/
def unclosed (outer ts : List Token) : List Token := ts.foldl enclose outer

/-- Each of some tokens has a property that may depend on the lists open before it. -/
def Along (P : List Token → Token → Prop) : List Token → List Token → Prop
  | _, [] => True
  | outer, t :: ts => P outer t ∧ Along P (enclose outer t) ts

/-- Nowhere among some tokens are more than `limit` lists open. -/
def AtMost (limit : Nat) (ts : List Token) : Prop :=
  ∀ before after, ts = before ++ after → (unclosed [] before).length ≤ limit

theorem enclose_of_opening {t : Token} (kind : t.kind = .opening) (outer : List Token) :
    enclose outer t = t :: outer := by
  rw [enclose, kind]

theorem enclose_of_closing {t : Token} (kind : t.kind = .closing) (outer : List Token) :
    enclose outer t = outer.tail := by
  rw [enclose, kind]

theorem unclosed_cons (outer : List Token) (t : Token) (ts : List Token) :
    unclosed outer (t :: ts) = unclosed (enclose outer t) ts := rfl

theorem unclosed_append (outer front back : List Token) :
    unclosed outer (front ++ back) = unclosed (unclosed outer front) back :=
  List.foldl_append

theorem length_unclosed_le (outer ts : List Token) :
    (unclosed outer ts).length ≤ outer.length + ts.length := by
  induction ts generalizing outer with
  | nil => exact Nat.le_refl _
  | cons t ts ih =>
    have step : (enclose outer t).length ≤ outer.length + 1 := by
      unfold enclose
      split
      · exact Nat.le_refl _
      · rw [List.length_tail]
        omega
      · exact Nat.le_succ _
    have rest := ih (enclose outer t)
    rw [unclosed_cons, List.length_cons]
    omega

theorem AtMost.of_length {limit : Nat} {ts : List Token} (few : ts.length ≤ limit) :
    AtMost limit ts := by
  intro before after split
  have opened := length_unclosed_le [] before
  have whole := congrArg List.length split
  rw [List.length_append] at whole
  rw [List.length_nil] at opened
  omega

theorem AtMost.mono {limit limit' : Nat} {ts : List Token} (few : AtMost limit ts)
    (more : limit ≤ limit') : AtMost limit' ts :=
  fun before after split => Nat.le_trans (few before after split) more

theorem AtMost.of_append {limit : Nat} {front back : List Token}
    (few : AtMost limit (front ++ back)) : AtMost limit front := by
  intro before after split
  apply few before (after ++ back)
  rw [split, List.append_assoc]

section Along

variable {P : List Token → Token → Prop}

theorem along_append {outer front back : List Token} :
    Along P outer (front ++ back) ↔ Along P outer front ∧ Along P (unclosed outer front) back := by
  induction front generalizing outer with
  | nil => simp [Along, unclosed]
  | cons t front ih =>
    rw [List.cons_append, Along, Along, ih, and_assoc]
    rfl

theorem exists_first_of_not_along {outer ts : List Token} (fails : ¬ Along P outer ts) :
    ∃ before t after, ts = before ++ t :: after ∧ Along P outer before ∧
      ¬ P (unclosed outer before) t := by
  induction ts generalizing outer with
  | nil => exact absurd trivial fails
  | cons t ts ih =>
    by_cases holds : P outer t
    · have later : ¬ Along P (enclose outer t) ts := fun along => fails ⟨holds, along⟩
      obtain ⟨before, u, after, split, along, fails⟩ := ih later
      refine ⟨t :: before, u, after, ?_, ⟨holds, along⟩, fails⟩
      rw [split, List.cons_append]
    · exact ⟨[], t, ts, rfl, trivial, holds⟩

theorem along_iff {outer ts : List Token} :
    Along P outer ts ↔
      ∀ before t after, ts = before ++ t :: after → P (unclosed outer before) t := by
  constructor
  · intro along before t after split
    rw [split] at along
    exact (along_append.mp along).2.1
  · intro holds
    by_contra fails
    obtain ⟨before, t, after, split, -, fails⟩ := exists_first_of_not_along fails
    exact fails (holds before t after split)

end Along

theorem AtMost.of_along {limit : Nat} {ts : List Token}
    (along : Along (fun outer t => (enclose outer t).length ≤ limit) [] ts) : AtMost limit ts := by
  intro before after split
  rcases List.eq_nil_or_concat before with rfl | ⟨front, t, rfl⟩
  · exact Nat.zero_le limit
  · rw [List.concat_eq_append] at split ⊢
    rw [List.append_assoc] at split
    rw [unclosed_append]
    exact along_iff.mp along front t after split

end Sexp.Nesting
