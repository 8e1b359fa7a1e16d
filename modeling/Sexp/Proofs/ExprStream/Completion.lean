import Sexp.Proofs.ExprStream.Building
import Sexp.Proofs.TokenStream.Front

set_option autoImplicit false
set_option relaxedAutoImplicit false

/-!
# Reading one expression

The first expression of a source is read if the first tokens of the source complete it, whatever
tokens come behind them. `parse_eq_some_iff` says so, and `Built.flattens` that such tokens are
those of the expression.
-/

namespace Sexp

open TokenStream (Gives)

variable {source : String} {maxDepth : Option Int} {e : Expr} {ts : List Token}

theorem ExprStream.Peeks.advance {s : ExprStream} {tokens : TokenStream} (peeks : Peeks tokens s) :
    Peeks tokens.next.2 s.advance :=
  peeks.tokens_eq ▸ s.peeks_advance

variable [Capacity]

/-- The tokens complete an expression, and no part of them does, when some lists are open. -/
inductive Step.Completes (maxDepth : Option Int) : List OpenList → List Token → Expr → Prop
  | deliver {lists : List OpenList} {t : Token} {e : Expr} :
      ofToken maxDepth lists t = .deliver e → Completes maxDepth lists [t] e
  | shift {lists lists' : List OpenList} {t : Token} {ts : List Token} {e : Expr} :
      ofToken maxDepth lists t = .shift lists' → Completes maxDepth lists' ts e →
      Completes maxDepth lists (t :: ts) e

namespace ExprStream

variable {lists : List OpenList} {s : ExprStream} {tokens tokens' : TokenStream}

theorem exists_completes (peeks : Peeks tokens s) (found : (readFrom lists s).1 = .ok (some e)) :
    ∃ ts tokens', Gives tokens ts tokens' ∧ Step.Completes s.maxDepth lists ts e := by
  fun_induction readFrom lists s generalizing tokens with
  | case1 lists s lists' used ih =>
    obtain ⟨ts, tokens', gives, completes⟩ := ih peeks.advance found
    rw [peeks.lookahead_eq] at used
    exact ⟨_, tokens', .cons (Step.not_isTerminal_of_shift used) gives, .shift used completes⟩
  | case2 lists s e' used =>
    cases found
    rw [peeks.lookahead_eq] at used
    exact ⟨_, _, .cons (Step.not_isTerminal_of_deliver used) .nil, .deliver used⟩
  | case3 | case4 | case5 => cases found

theorem readFrom_of_completes (completes : Step.Completes s.maxDepth lists ts e)
    (gives : Gives tokens ts tokens') (peeks : Peeks tokens s) :
    (readFrom lists s).1 = .ok (some e) := by
  generalize limit : s.maxDepth = maxDepth at completes
  induction completes generalizing tokens s with
  | deliver used =>
    cases gives
    subst limit
    rw [← TokenStream.next_fst, ← peeks.lookahead_eq] at used
    rw [readFrom_eq, used]
  | shift used _ ih =>
    cases gives with
    | cons _ others =>
      subst limit
      rw [← TokenStream.next_fst, ← peeks.lookahead_eq] at used
      rw [readFrom_eq, used]
      exact ih others peeks.advance rfl

theorem empty_of_readFrom (found : (readFrom lists s).1 = .ok none) :
    lists = [] ∧ s.lookahead.kind = .empty := by
  fun_induction readFrom lists s with
  | case1 lists s lists' used ih =>
    obtain ⟨rfl, -⟩ := ih found
    exact absurd used Step.ofToken_ne_shift_nil
  | case3 lists s used =>
    obtain ⟨kind, outside⟩ := Step.empty_of_finish used
    exact ⟨outside, kind⟩
  | case2 | case4 | case5 => cases found

end ExprStream

/-- An expression is read if the first tokens of the source complete it. -/
theorem parse_eq_some_iff :
    (parse source maxDepth).result = .ok (some e) ↔
      ∃ ts s, Gives (.ofSource source) ts s ∧ Step.Completes maxDepth [] ts e := by
  have peeks := ExprStream.peeks_ofSource source maxDepth
  constructor
  · exact fun found => ExprStream.exists_completes peeks found
  · rintro ⟨ts, s, gives, completes⟩
    exact ExprStream.readFrom_of_completes completes gives peeks

theorem empty_of_parse (found : (parse source maxDepth).result = .ok none) :
    (TokenStream.ofSource source).read.1.kind = .empty :=
  (ExprStream.empty_of_readFrom found).2

theorem Built.flattens {lists : List OpenList} {outer front : List Token}
    (built : Built lists outer front) (completes : Step.Completes maxDepth lists ts e) :
    Flattens [e] (front ++ ts) := by
  induction completes generalizing outer front with
  | deliver used => exact built.flattens_of_deliver used
  | shift used _ ih =>
    have whole := ih (built.of_shift used)
    rwa [List.append_assoc] at whole

end Sexp
