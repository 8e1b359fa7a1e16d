import Sexp.Proofs.ExprStream.Offense
import Sexp.Proofs.ExprStream.Run
import Sexp.Proofs.ExprStream.Step

set_option autoImplicit false
set_option relaxedAutoImplicit false

/-!
# What the open lists hold

While the tokens of a source are used one after another, the open lists hold just what the tokens
since the last complete expression spell. One usable token keeps this up, and so does a run over
usable tokens.
-/

namespace Sexp

open Nesting

/-- Open lists, their opening tokens, and the tokens since the last expression outside all lists:
for each list its parenthesis and the tokens of its items so far. -/
inductive Built : List OpenList → List Token → List Token → Prop
  | outside : Built [] [] []
  | inside {lists : List OpenList} {outer front inner : List Token} {items : List Expr}
      {opening : Token} : Built lists outer front → opening.kind = .opening →
      Flattens items.reverse inner →
      Built (⟨opening.position, items⟩ :: lists) (opening :: outer) (front ++ opening :: inner)

theorem Built.length_eq {lists : List OpenList} {outer front : List Token}
    (built : Built lists outer front) : lists.length = outer.length := by
  induction built with
  | outside => rfl
  | inside _ _ _ ih => rw [List.length_cons, List.length_cons, ih]

theorem Built.exists_innermost {lists : List OpenList} {outer front further : List Token}
    {innermost : Token} (built : Built lists outer front) (isOpen : outer = innermost :: further) :
    ∃ l ls, lists = l :: ls ∧ l.opened = innermost.position := by
  cases built with
  | outside => cases isOpen
  | inside =>
    cases isOpen
    exact ⟨_, _, rfl, rfl⟩

variable [Capacity]

theorem Step.depthError?_eq_none {maxDepth : Option Int} {depth : Nat} {position : Position}
    (allowed : ∀ limit, maxDepth = some limit → (depth : Int) ≤ limit) (few : depth ≤ 200) :
    depthError? maxDepth depth position = none :=
  depthError?_eq_none_iff.mpr
    ⟨exceeds_eq_false_iff.mpr allowed, Nat.le_trans few Capacity.ample⟩

/-- A token is used: the lists open behind it hold one token more, or an expression is complete and
no list is open. -/
inductive Taken (maxDepth : Option Int) (lists : List OpenList) (outer front : List Token)
    (t : Token) : Prop
  | shift {lists' : List OpenList} : Step.ofToken maxDepth lists t = .shift lists' →
      Built lists' (enclose outer t) (front ++ [t]) → Taken maxDepth lists outer front t
  | deliver {e : Expr} : Step.ofToken maxDepth lists t = .deliver e → enclose outer t = [] →
      Flattens [e] (front ++ [t]) → Taken maxDepth lists outer front t

theorem taken_of_place {maxDepth : Option Int} {lists around : List OpenList}
    {outer front outside ts : List Token} {t : Token} {e : Expr}
    (used : Step.ofToken maxDepth lists t = Step.place e around)
    (built : Built around (enclose outer t) outside) (flattens : Flattens [e] ts)
    (split : front ++ [t] = outside ++ ts) : Taken maxDepth lists outer front t := by
  -- `built` is taken apart below, so its tokens have to be a variable.
  generalize same : enclose outer t = outer' at built
  cases built with
  | outside =>
    rw [List.nil_append] at split
    exact .deliver used same (split ▸ flattens)
  | inside built kind items =>
    apply Taken.shift used
    rw [same, split, List.append_assoc, List.cons_append]
    apply Built.inside built kind
    rw [List.reverse_cons]
    exact items.append flattens

namespace Built

variable {maxDepth : Option Int} {lists : List OpenList} {outer front : List Token} {t : Token}

theorem taken_of_uses (built : Built lists outer front)
    (used : (Step.ofToken maxDepth lists t).uses = true) : Taken maxDepth lists outer front t := by
  cases Step.ofToken_comes maxDepth lists t with
  | atom denotes _ placed =>
    refine taken_of_place placed ?_ (.atom denotes .nil) rfl
    rw [enclose_of_isAtom denotes.isAtom]
    exact built
  | opening kind _ shifted =>
    apply Taken.shift shifted
    rw [enclose_of_opening kind]
    exact .inside built kind .nil
  | @closing _ around kind inside placed =>
    cases built with
    | outside => cases inside
    | @inside _ outer front inner items opening built isOpening flattens =>
      cases inside
      have whole : Flattens [.list items.reverse] (opening :: (inner ++ [t])) :=
        .list isOpening flattens kind .nil
      have built' : Built around (enclose (opening :: outer) t) front := by
        rw [enclose_of_closing kind]
        exact built
      apply taken_of_place placed built' whole
      rw [List.append_assoc, List.cons_append]
  | finish _ _ unused | refuse _ unused =>
    rw [unused] at used
    cases used

theorem of_shift {lists' : List OpenList} (built : Built lists outer front)
    (used : Step.ofToken maxDepth lists t = .shift lists') :
    Built lists' (enclose outer t) (front ++ [t]) := by
  cases built.taken_of_uses (by rw [used]; rfl) with
  | shift same built' =>
    rw [used] at same
    cases same
    exact built'
  | deliver other =>
    rw [used] at other
    cases other

theorem flattens_of_deliver {e : Expr} (built : Built lists outer front)
    (used : Step.ofToken maxDepth lists t = .deliver e) : Flattens [e] (front ++ [t]) := by
  cases built.taken_of_uses (by rw [used]; rfl) with
  | deliver same _ flattens =>
    rw [used] at same
    cases same
    exact flattens
  | shift other =>
    rw [used] at other
    cases other

theorem enclose_of_deliver {e : Expr} (built : Built lists outer front)
    (used : Step.ofToken maxDepth lists t = .deliver e) : enclose outer t = [] := by
  cases built.taken_of_uses (by rw [used]; rfl) with
  | deliver _ outside _ => exact outside
  | shift other =>
    rw [used] at other
    cases other

private theorem uses_of_integer (usable : Usable maxDepth outer t) (kind : t.kind = .integer) :
    (Step.ofToken maxDepth lists t).uses = true := by
  have fits : Numeral.Fits t.text.toList := by
    by_contra unfit
    exact usable.notOffends (.unfit kind unfit)
  have value := Numeral.readInteger_of_fits (usable.wellFormed.isInteger kind) fits
  simp only [Step.ofToken, kind, value, Step.uses_place]

private theorem uses_of_opening (built : Built lists outer front)
    (usable : Usable maxDepth outer t) (kind : t.kind = .opening) :
    (Step.ofToken maxDepth lists t).uses = true := by
  have few := usable.few
  have length := built.length_eq
  rw [enclose_of_opening kind, List.length_cons, ← length] at few
  have allowed : ∀ limit, maxDepth = some limit → ((lists.length + 1 : Nat) : Int) ≤ limit := by
    intro limit chosen
    by_contra deep
    refine usable.notOffends (.tooDeep kind chosen ?_)
    omega
  simp only [Step.ofToken, kind, Step.depthError?_eq_none allowed few]
  rfl

private theorem uses_of_closing (built : Built lists outer front)
    (usable : Usable maxDepth outer t) (kind : t.kind = .closing) :
    (Step.ofToken maxDepth lists t).uses = true := by
  cases built with
  | outside => exact absurd (.strayClosing kind rfl) usable.notOffends
  | inside => simp only [Step.ofToken, kind, Step.uses_place]

theorem uses (built : Built lists outer front) (usable : Usable maxDepth outer t) :
    (Step.ofToken maxDepth lists t).uses = true := by
  cases kind : t.kind with
  | string | symbol | float => simp only [Step.ofToken, kind, Step.uses_place]
  | integer => exact uses_of_integer usable kind
  | opening => exact uses_of_opening built usable kind
  | closing => exact uses_of_closing built usable kind
  | empty | error =>
    have going := usable.going
    rw [Token.isTerminal, kind] at going
    cases going

theorem taken (built : Built lists outer front) (usable : Usable maxDepth outer t) :
    Taken maxDepth lists outer front t :=
  built.taken_of_uses (built.uses usable)

/-- A run over usable tokens: those up to some place are the expressions that came out, and the
others are in the open lists. -/
theorem run {before : List Token} (built : Built lists outer front)
    (along : Along (Usable maxDepth) outer before) :
    ∃ es spelled lists' front', front ++ before = spelled ++ front' ∧ Flattens es spelled ∧
      Built lists' (unclosed outer before) front' ∧
      ∀ after, Step.run maxDepth lists (before ++ after) =
        (Step.run maxDepth lists' after).map (es ++ ·) := by
  induction before generalizing lists outer front with
  | nil =>
    refine ⟨[], [], lists, front, List.append_nil front, .nil, built, ?_⟩
    intro after
    rw [List.nil_append]
    cases Step.run maxDepth lists after <;> rfl
  | cons t before ih =>
    obtain ⟨usable, along⟩ := along
    cases built.taken usable with
    | @shift lists' used built' =>
      obtain ⟨es, spelled, lists'', front', split, flattens, built'', rest⟩ := ih built' along
      refine ⟨es, spelled, lists'', front', ?_, flattens, built'', ?_⟩
      · rw [← split, List.append_assoc, List.singleton_append]
      · intro after
        rw [List.cons_append, Step.run, used]
        exact rest after
    | @deliver e used outside flattens =>
      -- What was in the lists is spelled out, and the run starts anew outside them.
      rw [outside] at along
      obtain ⟨es, spelled, lists'', front', split, others, built'', rest⟩ := ih .outside along
      refine ⟨e :: es, front ++ [t] ++ spelled, lists'', front', ?_, flattens.append others, ?_, ?_⟩
      · rw [List.append_assoc, ← split, List.nil_append, List.append_assoc, List.singleton_append]
      · rw [unclosed_cons, outside]
        exact built''
      · intro after
        rw [List.cons_append, Step.run, used]
        simp only [rest after]
        cases Step.run maxDepth lists'' after <;> rfl

end Built

end Sexp
