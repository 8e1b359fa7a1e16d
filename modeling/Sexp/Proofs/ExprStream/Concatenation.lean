import Sexp.Proofs.ExprStream.Relocation
import Sexp.Proofs.ExprStream.Step

set_option autoImplicit false
set_option relaxedAutoImplicit false

/-!
# One source behind another

`parseAll_append_lineFeed` says what is read from two sources that stand one below the other: behind
a source that is read, the other one is read, or refused, as it is alone.
-/

namespace Sexp

theorem Defect.diagnostic_relocate_down (d : Defect) (n : Int) :
    (d.relocate (Position.down n)).diagnostic =
      { d.diagnostic with line := d.diagnostic.line.map (· + n) } := by
  cases d <;> rfl

section

variable [Capacity]

namespace Step

variable {maxDepth : Option Int} {lists : List OpenList}

theorem empty_of_run_terminal {last : Token} {es : List Expr} (terminal : last.isTerminal = true)
    (read : run maxDepth lists [last] = .ok es) : last.kind = .empty ∧ lists = [] ∧ es = [] := by
  rw [run] at read
  cases used : ofToken maxDepth lists last with
  | shift lists' =>
    rw [not_isTerminal_of_shift used] at terminal
    contradiction
  | deliver e =>
    rw [not_isTerminal_of_deliver used] at terminal
    contradiction
  | finish =>
    rw [used] at read
    obtain ⟨kind, outside⟩ := empty_of_finish used
    exact ⟨kind, outside, (Except.ok.inj read).symm⟩
  | refuse error =>
    rw [used] at read
    cases read

theorem run_append_of_ok {body : List Token} {last : Token} {es : List Expr}
    (going : ∀ t ∈ body, t.isTerminal = false) (terminal : last.isTerminal = true)
    (read : run maxDepth lists (body ++ [last]) = .ok es) :
    last.kind = .empty ∧
      ∀ more, run maxDepth lists (body ++ more) = (run maxDepth [] more).map (es ++ ·) := by
  induction body generalizing lists es with
  | nil =>
    obtain ⟨kind, rfl, rfl⟩ := empty_of_run_terminal terminal read
    refine ⟨kind, ?_⟩
    intro more
    rw [List.nil_append]
    cases run maxDepth [] more <;> rfl
  | cons t body ih =>
    obtain ⟨first, going⟩ := List.forall_mem_cons.mp going
    rw [List.cons_append, run] at read
    simp only [List.cons_append, run]
    cases used : ofToken maxDepth lists t with
    | shift lists' =>
      rw [used] at read
      exact ih going read
    | deliver e =>
      rw [used] at read
      cases others : run maxDepth [] (body ++ [last]) with
      | error error => simp [others, Except.map] at read
      | ok es' =>
        obtain ⟨kind, rest⟩ := ih going others
        simp only [others, Except.map, Except.ok.injEq] at read
        subst read
        refine ⟨kind, ?_⟩
        intro more
        simp only [rest more]
        cases run maxDepth [] more <;> rfl
    | finish =>
      rw [Token.isTerminal, (empty_of_finish used).1] at first
      contradiction
    | refuse error =>
      rw [used] at read
      cases read

end Step

theorem exists_parts_of_ok {source : String} {maxDepth : Option Int} {es : List Expr}
    (read : (parseAll source maxDepth).result = .ok es) :
    ∃ body last, (tokenize source).result = body ++ [last] ∧ last.kind = .empty ∧
      ∀ more, Step.run maxDepth [] (body ++ more) = (Step.run maxDepth [] more).map (es ++ ·) := by
  have terminated := (TokenStream.ofSource source).terminated_tokenize
  obtain ⟨body, last, parts, terminal⟩ := terminated.exists_last
  have tokens : (tokenize source).result = body ++ [last] := parts
  rw [parseAll_eq_run, tokens] at read
  exact ⟨body, last, parts, Step.run_append_of_ok (terminated.going parts) terminal read⟩

/-- The tokens of two sources, one below the other, are read as those of the one and then as those
of the other. -/
theorem parseAll_append {a b : String} {maxDepth : Option Int} {es : List Expr}
    (read : (parseAll a maxDepth).result = .ok es) :
    (parseAll (a ++ "\n" ++ b) maxDepth).result =
      ((parseAll b maxDepth).result.mapError
        (ReadError.relocate (Position.down (1 + a.toList.count '\n')))).map (es ++ ·) := by
  obtain ⟨body, last, parts, isLast, run⟩ := exists_parts_of_ok read
  have tokens : (tokenize (a ++ "\n" ++ b)).result = body ++ (tokenize b).result.map
      (Token.relocate (Position.down (1 + a.toList.count '\n'))) :=
    TokenStream.tokenize_append_lineFeed (s := .ofSource a) parts isLast
      (by simp [TokenStream.ofSource]) rfl (Position.after_append_lineFeed a.toList)
  have below := Step.run_relocate (Position.down (1 + a.toList.count '\n')) maxDepth []
    (tokenize b).result
  rw [List.map_nil] at below
  rw [parseAll_eq_run, parseAll_eq_run, tokens, run, below]

/-- When a source is read, what stands below it on lines of its own is read as it is alone: the
expressions follow, or the error is the same, with its line counted from the start of the first
source if it has one. -/
theorem parseAll_append_lineFeed (a b : String) (maxDepth : Option Int) {es : List Expr}
    (read : (parseAll a maxDepth).result = .ok es) :
    (∀ es', (parseAll b maxDepth).result = .ok es' →
      (parseAll (a ++ "\n" ++ b) maxDepth).result = .ok (es ++ es')) ∧
    (∀ d, (parseAll b maxDepth).result = .error (.defect d) →
      ∃ d', (parseAll (a ++ "\n" ++ b) maxDepth).result = .error (.defect d') ∧
        d'.diagnostic = { d.diagnostic with
          line := d.diagnostic.line.map (· + (1 + (a.toList.count '\n' : Int))) }) ∧
    ∀ conversion, (parseAll b maxDepth).result = .error (.overlongInteger conversion) →
      (parseAll (a ++ "\n" ++ b) maxDepth).result = .error (.overlongInteger conversion) := by
  have both := parseAll_append (b := b) read
  refine ⟨?_, ?_, ?_⟩
  · intro es' read'
    rw [both, read']
    rfl
  · intro d refused
    rw [refused] at both
    exact ⟨_, both, d.diagnostic_relocate_down _⟩
  · intro conversion refused
    rw [both, refused]
    rfl

end

/-- The comment at the end of the first source does not reach into the second one, and the
parenthesis there is found on the third line. -/
theorem stray_closing_below_comment :
    (parseAll "a\n; b" none).result = .ok [.symbol "a"] ∧
      ∃ d, (parseAll ("a\n; b" ++ "\n" ++ " )") none).result = .error (.defect d) ∧
        d.diagnostic.line = some 3 ∧ d.diagnostic.column = some 2 := by
  have first : (parseAll "a\n; b" none).result = .ok [.symbol "a"] := by
    have tokens : (tokenize "a\n; b").result =
        [{ kind := .symbol, text := "a", position := ⟨1, 1⟩ },
          { kind := .empty, text := "", position := ⟨2, 4⟩ }] := by
      decide +kernel
    rw [parseAll_eq_run, tokens]
    rfl
  have second : (parseAll " )" none).result = .error (.defect (.strayClosing ⟨1, 2⟩)) := by
    have tokens : (tokenize " )").result =
        [{ kind := .closing, text := "", position := ⟨1, 2⟩ },
          { kind := .empty, text := "", position := ⟨1, 3⟩ }] := by
      decide +kernel
    rw [parseAll_eq_run, tokens]
    rfl
  obtain ⟨d, refused, report⟩ :=
    (parseAll_append_lineFeed "a\n; b" " )" none first).2.1 _ second
  refine ⟨first, d, refused, ?_, ?_⟩
  · rw [report]
    decide
  · rw [report]
    decide

end Sexp
