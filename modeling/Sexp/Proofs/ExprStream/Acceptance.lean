import Sexp.Proofs.ExprStream.Refusal

set_option autoImplicit false
set_option relaxedAutoImplicit false

/-!
# Which sources are read

`parseAll_ok_iff_acceptable` says of which sources the expressions are read, in terms of their
tokens alone, and that the expressions are the only ones with these tokens.
-/

namespace Sexp

open Nesting

/-- Tokens that are read when only the end of the source comes behind them. -/
structure Acceptable (maxDepth : Option Int) (body : List Token) : Prop where
  isSequence : IsSequence body
  shallow : ∀ before t after, body = before ++ t :: after → t.kind = .opening →
    ∀ limit, maxDepth = some limit → ((unclosed [] before).length : Int) + 1 ≤ limit
  fits : ∀ t ∈ body, t.kind = .integer → Numeral.Fits t.text.toList

section

variable {maxDepth : Option Int} {body : List Token} {last : Token}

private theorem acceptable_of_allowed
    (allowed : Along (fun outer t => ¬ Offends maxDepth outer t) [] body)
    (isSequence : IsSequence body) : Acceptable maxDepth body := by
  refine ⟨isSequence, ?_, ?_⟩
  · intro before t after split kind limit chosen
    by_contra deep
    have notOffends := along_iff.mp allowed before t after split
    exact notOffends (.tooDeep kind chosen (Int.not_le.mp deep))
  · intro t member kind
    by_contra unfit
    obtain ⟨before, after, split⟩ := List.append_of_mem member
    exact along_iff.mp allowed before t after split (.unfit kind unfit)

private theorem Acceptable.along (acceptable : Acceptable maxDepth body) :
    Along (fun outer t => ¬ Offends maxDepth outer t) [] body := by
  apply along_iff.mpr
  intro before t after split offends
  have member : t ∈ body := by simp [split]
  have going := acceptable.isSequence.isTerminal_eq_false t member
  cases offends with
  | malformed kind =>
    rw [Token.isTerminal, kind] at going
    cases going
  | strayClosing kind outside =>
    have within := along_iff.mp (acceptable.isSequence.along_closing []) before t after split
    exact within kind outside
  | tooDeep kind chosen deep =>
    have shallow := acceptable.shallow before t after split kind _ chosen
    omega
  | unfit kind unfit => exact unfit (acceptable.fits t member kind)
  | unfinished kind =>
    rw [Token.isTerminal, kind] at going
    cases going

private theorem Acceptable.not_offends_last (acceptable : Acceptable maxDepth body)
    (isLast : last.kind = .empty) : ¬ Offends maxDepth (unclosed [] body) last := by
  intro offends
  cases offends with
  | malformed kind | strayClosing kind | tooDeep kind | unfit kind =>
    rw [isLast] at kind
    cases kind
  | unfinished _ inside => exact inside (acceptable.isSequence.unclosed_eq [])

section Reading

variable [Capacity]

theorem along_of_ok {source : String} {es : List Expr}
    (few : AtMost 200 (tokenize source).result) (read : (parseAll source maxDepth).result = .ok es) :
    Along (fun outer t => ¬ Offends maxDepth outer t) [] (tokenize source).result := by
  by_contra fails
  obtain ⟨error, failed⟩ := (exists_error_iff_not_along few).mpr fails
  rw [read] at failed
  cases failed

theorem acceptable_of_ok {source : String} {es : List Expr}
    (few : AtMost 200 (tokenize source).result) (read : (parseAll source maxDepth).result = .ok es) :
    ∃ body last, (tokenize source).result = body ++ [last] ∧ last.kind = .empty ∧
      Acceptable maxDepth body := by
  have allowed := along_of_ok few read
  obtain ⟨_, body, last, -, split, kind, flattens⟩ := parseAll_eq_ok few allowed
  rw [split] at allowed
  have first := (along_append.mp allowed).1
  exact ⟨body, last, split, kind, acceptable_of_allowed first flattens.isSequence⟩

theorem Acceptable.exists_ok {source : String} (acceptable : Acceptable maxDepth body)
    (few : AtMost 200 (tokenize source).result) (split : (tokenize source).result = body ++ [last])
    (kind : last.kind = .empty) : ∃ es, (parseAll source maxDepth).result = .ok es := by
  have allowed : Along (fun outer t => ¬ Offends maxDepth outer t) [] (tokenize source).result := by
    rw [split]
    exact along_append.mpr ⟨acceptable.along, acceptable.not_offends_last kind, trivial⟩
  obtain ⟨es, _, _, read, -⟩ := parseAll_eq_ok few allowed
  exact ⟨es, read⟩

theorem flattens_of_ok {source : String} {es : List Expr}
    (few : AtMost 200 (tokenize source).result) (read : (parseAll source maxDepth).result = .ok es)
    (split : (tokenize source).result = body ++ [last]) : Flattens es body := by
  obtain ⟨_, _, _, read', split', -, flattens⟩ := parseAll_eq_ok few (along_of_ok few read)
  rw [read] at read'
  obtain rfl := Except.ok.inj read'
  rw [split] at split'
  obtain ⟨rfl, -⟩ := List.append_inj' split' rfl
  exact flattens

/-- What is read of a source that is all tokens. -/
theorem parseAll_eq_ok_iff {source : String} {es : List Expr}
    (few : AtMost 200 (tokenize source).result) (split : (tokenize source).result = body ++ [last])
    (kind : last.kind = .empty) :
    (parseAll source maxDepth).result = .ok es ↔ Acceptable maxDepth body ∧ Flattens es body := by
  constructor
  · intro read
    obtain ⟨_, _, split', -, acceptable⟩ := acceptable_of_ok few read
    rw [split] at split'
    obtain ⟨rfl, -⟩ := List.append_inj' split' rfl
    exact ⟨acceptable, flattens_of_ok few read split⟩
  · rintro ⟨acceptable, flattens⟩
    obtain ⟨es', read⟩ := acceptable.exists_ok few split kind
    rw [read, flattens.unique (flattens_of_ok few read split)]

end Reading

end

/-- A source is read if its tokens form expressions and no list or integer is refused, and what is
read is spelled by its tokens, none of them left out, and by those of no other expressions. -/
theorem parseAll_ok_iff_acceptable [Capacity] (source : String) (maxDepth : Option Int)
    (few : AtMost 200 (tokenize source).result) :
    ((∃ es, (parseAll source maxDepth).result = .ok es) ↔
      ∃ body last, (tokenize source).result = body ++ [last] ∧ last.kind = .empty ∧
        Acceptable maxDepth body) ∧
    ∀ es body last, (parseAll source maxDepth).result = .ok es →
      (tokenize source).result = body ++ [last] →
      Flattens es body ∧ ∀ es', Flattens es' body → es' = es := by
  constructor
  · constructor
    · rintro ⟨es, read⟩
      exact acceptable_of_ok few read
    · rintro ⟨body, last, split, kind, acceptable⟩
      exact acceptable.exists_ok few split kind
  · intro es body last read split
    have flattens := flattens_of_ok few read split
    refine ⟨flattens, ?_⟩
    intro es' other
    exact other.unique flattens

/-- A list within the limit and an integer behind it are read. -/
theorem list_and_integer_read :
    AtMost 200 (tokenize "(a) -7").result ∧
      ∃ es, (parseAll "(a) -7" (some 1)).result = .ok es := by
  have few : AtMost 200 (tokenize "(a) -7").result := .of_length (by decide +kernel)
  have split : (tokenize "(a) -7").result =
      [{ kind := .opening, text := "", position := ⟨1, 1⟩ },
        { kind := .symbol, text := "a", position := ⟨1, 2⟩ },
        { kind := .closing, text := "", position := ⟨1, 3⟩ },
        { kind := .integer, text := "-7", position := ⟨1, 5⟩ }] ++
      [{ kind := .empty, text := "", position := ⟨1, 7⟩ }] := by
    decide +kernel
  have fits : Numeral.Fits ['-', '7'] :=
    ⟨by decide +kernel, by decide +kernel, by decide +kernel⟩
  refine ⟨few, (parseAll_ok_iff_acceptable _ (some 1) few).1.mpr ⟨_, _, split, rfl, ?_⟩⟩
  have shallow : Along (fun outer t => t.kind = .opening →
      ∀ limit, some (1 : Int) = some limit → (outer.length : Int) + 1 ≤ limit) []
      [{ kind := .opening, text := "", position := ⟨1, 1⟩ },
        { kind := .symbol, text := "a", position := ⟨1, 2⟩ },
        { kind := .closing, text := "", position := ⟨1, 3⟩ },
        { kind := .integer, text := "-7", position := ⟨1, 5⟩ }] := by
    simp [Along]
  refine ⟨?_, along_iff.mp shallow, ?_⟩
  · exact @IsSequence.list _ _ [_] [_] rfl (.atom rfl .nil) rfl (.atom rfl .nil)
  · simp [fits]

end Sexp
