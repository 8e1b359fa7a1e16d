import Sexp.Proofs.ExprStream.Concatenation
import Sexp.Proofs.ExprStream.Limit
import Sexp.Proofs.ExprStream.Spelling

set_option autoImplicit false
set_option relaxedAutoImplicit false

/-!
# A source as a list

Parentheses around a source make it the text of one list. `parseAll_enclosed` says that this list
has just the expressions of the source as its items, and that nothing in the source can combine with
the parentheses to something else that is read as one expression.
-/

namespace Sexp

open Nesting

/-- A source between two parentheses, the second of which is on a line of its own. -/
def enclosed (source : String) : String := "(" ++ source ++ "\n)"

section

variable {source : String}

private theorem content_tokenize_enclosed (source : String) :
    (tokenize (enclosed source)).result.map Token.content = (.opening, "") ::
      (TokenStream.tokenize { rest := source.toList ++ ['\n', ')'] }).1.map Token.content := by
  have rest : (TokenStream.ofSource (enclosed source)).rest =
      '(' :: (source.toList ++ ['\n', ')']) := by
    simp [TokenStream.ofSource, enclosed]
  have noGap : Gap.split ('(' :: (source.toList ++ ['\n', ')'])) =
      ([], '(' :: (source.toList ++ ['\n', ')'])) :=
    Gap.split_of_head (by simp [isSeparator])
  have first : (TokenStream.ofSource (enclosed source)).next.1 =
      { kind := .opening, text := "", position := {} } := by
    simp only [TokenStream.next_fst, TokenStream.read, rest, noGap]
    rfl
  have inner : (TokenStream.ofSource (enclosed source)).next.2.rest =
      source.toList ++ ['\n', ')'] := by
    simp only [TokenStream.rest_next, TokenStream.read, rest, noGap]
    rfl
  change (TokenStream.ofSource (enclosed source)).tokenize.1.map Token.content = _
  rw [TokenStream.tokenize_eq, first, if_neg (by decide), List.map_cons,
    TokenStream.content_tokenize_of_rest (s := { rest := source.toList ++ ['\n', ')'] }) inner]
  rfl

theorem content_tokenize_enclosed_of_ended {body : List Token} {last : Token}
    (parts : (tokenize source).result = body ++ [last]) (isLast : last.kind = .empty) :
    (tokenize (enclosed source)).result.map Token.content =
      (.opening, "") :: (body.map Token.content ++ [(.closing, ""), (.empty, "")]) := by
  -- The second parenthesis alone, at the place where it stands.
  let behind : TokenStream :=
    { rest := [')'], position := Position.after {} (source.toList ++ ['\n']) }
  have both : (TokenStream.tokenize { rest := source.toList ++ ['\n', ')'] }).1 =
      body ++ behind.tokenize.1.map (Token.relocate (Position.down 0)) :=
    TokenStream.tokenize_append_lineFeed (s := .ofSource source) parts isLast rfl rfl
      (by simp [TokenStream.ofSource, behind, Position.down])
  have closing : behind.tokenize.1.map Token.content = [(.closing, ""), (.empty, "")] := by
    have alone : behind.rest = (TokenStream.ofSource ")").rest := by
      simp [behind, TokenStream.ofSource]
    rw [TokenStream.content_tokenize_of_rest alone]
    decide +kernel
  rw [content_tokenize_enclosed, both, List.map_append, List.map_map]
  exact congrArg (fun contents => _ :: (_ ++ contents)) closing

theorem error_mem_tokenize_enclosed (error : ∃ t ∈ (tokenize source).result, t.kind = .error) :
    ∃ t ∈ (tokenize (enclosed source)).result, t.kind = .error := by
  have within : ∃ t ∈ (TokenStream.tokenize { rest := source.toList ++ ['\n', ')'] }).1,
      t.kind = .error :=
    TokenStream.error_mem_tokenize_append (s := .ofSource source) error (by simp; decide) (by simp)
      rfl rfl
  obtain ⟨t, member, error⟩ := within
  have content : t.content ∈ (tokenize (enclosed source)).result.map Token.content := by
    rw [content_tokenize_enclosed]
    exact List.mem_cons_of_mem _ (List.mem_map_of_mem member)
  obtain ⟨u, member', same⟩ := List.mem_map.mp content
  exact ⟨u, member', (Prod.mk.inj same).1.trans error⟩

private theorem exists_parts_of_ended {body : List Token} {last : Token}
    (parts : (tokenize source).result = body ++ [last]) (isLast : last.kind = .empty) :
    ∃ opening inner closing finish,
      (tokenize (enclosed source)).result = opening :: (inner ++ [closing]) ++ [finish] ∧
        opening.kind = .opening ∧ inner.map Token.content = body.map Token.content ∧
        closing.kind = .closing ∧ finish.kind = .empty := by
  have contents := content_tokenize_enclosed_of_ended parts isLast
  obtain ⟨opening, ts, tokens, isOpening, contents⟩ := List.map_eq_cons_iff.mp contents
  obtain ⟨inner, outer, rfl, same, contents⟩ := List.map_eq_append_iff.mp contents
  obtain ⟨closing, outer, rfl, isClosing, contents⟩ := List.map_eq_cons_iff.mp contents
  obtain ⟨finish, outer, rfl, isFinish, contents⟩ := List.map_eq_cons_iff.mp contents
  obtain rfl := List.map_eq_nil_iff.mp contents
  refine ⟨opening, inner, closing, finish, ?_, (Prod.mk.inj isOpening).1, same,
    (Prod.mk.inj isClosing).1, (Prod.mk.inj isFinish).1⟩
  rw [tokens]
  simp

end

section

variable {opening closing finish : Token} {body inner : List Token}

private theorem length_unclosed_le_succ {outer outer' ts ts' : List Token}
    (kinds : ts'.map Token.kind = ts.map Token.kind) (more : outer'.length ≤ outer.length + 1) :
    (unclosed outer' ts').length ≤ (unclosed outer ts).length + 1 := by
  induction ts' generalizing outer outer' ts with
  | nil =>
    obtain rfl := List.map_eq_nil_iff.mp kinds.symm
    exact more
  | cons t' ts' ih =>
    obtain ⟨t, ts, rfl, kind, kinds⟩ := List.map_eq_cons_iff.mp kinds.symm
    rw [unclosed_cons, unclosed_cons]
    apply ih kinds.symm
    unfold enclose
    rw [kind]
    cases t'.kind with
    | opening => exact Nat.succ_le_succ more
    | closing =>
      simp only [List.length_tail]
      omega
    | _ => exact more

private theorem atMost_enclosed {limit : Nat} (few : AtMost limit body)
    (kinds : inner.map Token.kind = body.map Token.kind) (isOpening : opening.kind = .opening)
    (isClosing : closing.kind = .closing) (isFinish : finish.kind = .empty) :
    AtMost (limit + 1) (opening :: (inner ++ [closing]) ++ [finish]) := by
  have within (n : Nat) : (unclosed [opening] (inner.take n)).length ≤ limit + 1 := by
    have opened := few _ _ (List.take_append_drop n body).symm
    have more : (unclosed [opening] (inner.take n)).length ≤
        (unclosed [] (body.take n)).length + 1 :=
      length_unclosed_le_succ (by rw [List.map_take, List.map_take, kinds]) (Nat.le_refl _)
    omega
  have whole := within inner.length
  rw [List.take_length] at whole
  have outside : ((unclosed [opening] inner).tail).length ≤ limit + 1 := by
    rw [List.length_tail]
    omega
  have finished : enclose (unclosed [opening] inner).tail finish = (unclosed [opening] inner).tail :=
    by rw [enclose, isFinish]
  apply AtMost.of_along
  simp only [List.cons_append, List.nil_append, List.append_assoc, Along, along_append,
    enclose_of_opening isOpening, enclose_of_closing isClosing, finished, List.length_singleton]
  refine ⟨by omega, ?_, outside, outside, trivial⟩
  apply along_iff.mpr
  intro before t after split
  rw [List.append_cons] at split
  have front : before ++ [t] = inner.take (before ++ [t]).length := by
    rw [split, List.take_left]
  have behind := within (before ++ [t]).length
  rwa [← front, unclosed_append] at behind

end

section

variable {opening closing : Token} {body inner : List Token} {es : List Expr}

theorem Flattens.enclosed_iff {e : Expr} (isOpening : opening.kind = .opening)
    (isClosing : closing.kind = .closing) :
    Flattens [e] (opening :: (inner ++ [closing])) ↔ ∃ es, e = .list es ∧ Flattens es inner := by
  constructor
  · intro flattens
    generalize tokens : opening :: (inner ++ [closing]) = ts at flattens
    cases flattens with
    | atom denotes =>
      obtain ⟨rfl, -⟩ := List.cons.inj tokens
      have isAtom := denotes.isAtom
      rw [isOpening] at isAtom
      contradiction
    | list _ items _ others =>
      cases others
      obtain ⟨-, behind⟩ := List.cons.inj tokens
      obtain ⟨rfl, -⟩ := List.append_inj' behind rfl
      exact ⟨_, rfl, items⟩
  · rintro ⟨es, rfl, flattens⟩
    exact .list isOpening flattens isClosing .nil

theorem Acceptable.of_content {maxDepth : Option Int} (acceptable : Acceptable maxDepth body)
    (flattens : Flattens es body) (same : inner.map Token.content = body.map Token.content) :
    Acceptable maxDepth inner := by
  have within := (flattens.acceptable_iff.mp acceptable).2
  have fits := Token.forall_of_content
    (fun content => content.1 = .integer → Numeral.Fits content.2.toList) same acceptable.fits
  exact (flattens.of_content same).acceptable_iff.mpr ⟨fits, within⟩

theorem Flattens.acceptable_enclosed_iff {maxDepth : Option Int} (flattens : Flattens es inner)
    (nonneg : ∀ limit, maxDepth = some limit → 0 ≤ limit) (isOpening : opening.kind = .opening)
    (isClosing : closing.kind = .closing) :
    Acceptable (maxDepth.map (· + 1)) (opening :: (inner ++ [closing])) ↔
      Acceptable maxDepth inner := by
  have whole : Flattens [.list es] (opening :: (inner ++ [closing])) :=
    .list isOpening flattens isClosing .nil
  rw [whole.acceptable_iff, flattens.acceptable_iff]
  have fits : (∀ t ∈ opening :: (inner ++ [closing]), t.kind = .integer →
      Numeral.Fits t.text.toList) ↔
        ∀ t ∈ inner, t.kind = .integer → Numeral.Fits t.text.toList := by
    simp [or_imp, forall_and, isOpening, isClosing]
  have levels (limit : Int) (nonneg : 0 ≤ limit) :
      (∀ level, ListAt level [.list es] → (level : Int) ≤ limit + 1) ↔
        ∀ level, ListAt level es → (level : Int) ≤ limit := by
    constructor
    · intro shallow level lies
      have deep := shallow (level + 1) (listAt_list.mpr (.inl (.inr ⟨level, rfl, lies⟩)))
      omega
    · intro shallow level lies
      rcases listAt_list.mp lies with (rfl | ⟨inner, rfl, within⟩) | none
      · omega
      · have deep := shallow inner within
        omega
      · exact absurd none not_listAt_nil
  rw [fits]
  cases maxDepth with
  | none => simp
  | some limit => simp [levels limit (nonneg limit rfl)]

end

section

variable [Capacity] {source : String} {maxDepth : Option Int}

private theorem ended_of_enclosed {es : List Expr}
    (read : (parseAll (enclosed source) maxDepth).result = .ok es) :
    ∃ body last, (tokenize source).result = body ++ [last] ∧ last.kind = .empty := by
  obtain ⟨_, _, parts, isLast, -⟩ := exists_parts_of_ok read
  have formed : ∀ t ∈ (tokenize (enclosed source)).result, t.kind ≠ .error :=
    TokenStream.ne_error_of_ended parts isLast
  obtain ⟨body, last, parts, terminal⟩ :=
    (TokenStream.ofSource source).terminated_tokenize.exists_last
  refine ⟨body, last, parts, ?_⟩
  unfold Token.isTerminal at terminal
  cases kind : last.kind with
  | empty => rfl
  | error =>
    have member : last ∈ (tokenize source).result := by
      change last ∈ (TokenStream.ofSource source).tokenize.1
      simp [parts]
    obtain ⟨t, member', error⟩ := error_mem_tokenize_enclosed ⟨last, member, kind⟩
    exact absurd error (formed t member')
  | _ =>
    rw [kind] at terminal
    contradiction

private theorem enclosed_iff_of_ended {body : List Token} {last : Token}
    (parts : (tokenize source).result = body ++ [last]) (isLast : last.kind = .empty)
    (few : AtMost 199 (tokenize source).result)
    (nonneg : ∀ limit, maxDepth = some limit → 0 ≤ limit) (e : Expr) :
    (parseAll (enclosed source) (maxDepth.map (· + 1))).result = .ok [e] ↔
      ∃ es, e = .list es ∧ (parseAll source maxDepth).result = .ok es := by
  obtain ⟨opening, inner, closing, finish, parts', isOpening, same, isClosing, isFinish⟩ :=
    exists_parts_of_ended parts isLast
  have kinds : inner.map Token.kind = body.map Token.kind := by
    have kinds := congrArg (List.map Prod.fst) same
    rwa [List.map_map, List.map_map] at kinds
  have few' : AtMost 200 (tokenize (enclosed source)).result := by
    rw [parts']
    rw [parts] at few
    exact atMost_enclosed few.of_append kinds isOpening isClosing isFinish
  rw [parseAll_eq_ok_iff few' parts' isFinish, Flattens.enclosed_iff isOpening isClosing]
  simp only [parseAll_eq_ok_iff (few.mono (by decide)) parts isLast]
  constructor
  · rintro ⟨acceptable, es, rfl, flattens⟩
    have within := (flattens.acceptable_enclosed_iff nonneg isOpening isClosing).mp acceptable
    exact ⟨es, rfl, within.of_content flattens same.symm, flattens.of_content same.symm⟩
  · rintro ⟨es, rfl, acceptable, flattens⟩
    have within := flattens.of_content same
    exact ⟨(within.acceptable_enclosed_iff nonneg isOpening isClosing).mpr
      (acceptable.of_content flattens same), es, rfl, within⟩

/-- Reading an enclosed source as one expression is reading the source as the items of a list. -/
theorem parseAll_enclosed_iff (few : AtMost 199 (tokenize source).result)
    (nonneg : ∀ limit, maxDepth = some limit → 0 ≤ limit) (e : Expr) :
    (parseAll (enclosed source) (maxDepth.map (· + 1))).result = .ok [e] ↔
      ∃ es, e = .list es ∧ (parseAll source maxDepth).result = .ok es := by
  constructor
  · intro read
    obtain ⟨body, last, parts, isLast⟩ := ended_of_enclosed read
    exact (enclosed_iff_of_ended parts isLast few nonneg e).mp read
  · rintro ⟨es, rfl, read⟩
    obtain ⟨body, last, parts, isLast, -⟩ := exists_parts_of_ok read
    exact (enclosed_iff_of_ended parts isLast few nonneg _).mpr ⟨es, rfl, read⟩

end

/-- A source is read as the items of a list just as it is read outside of lists, under a limit that
leaves room for the list around it. Whatever the source ends with, a comment included, the second
parenthesis stays a token of its own; and if some token cannot be used, such as a closing
parenthesis without a list or the end of the source within one, the parentheses do not make one
expression of the source either. -/
theorem parseAll_enclosed [Capacity] (source : String) (maxDepth : Option Int)
    (few : AtMost 199 (tokenize source).result)
    (nonneg : ∀ limit, maxDepth = some limit → 0 ≤ limit) :
    (∀ es, (parseAll (enclosed source) (maxDepth.map (· + 1))).result = .ok [.list es] ↔
      (parseAll source maxDepth).result = .ok es) ∧
    (∀ body last, (tokenize source).result = body ++ [last] → last.kind = .empty →
      (tokenize (enclosed source)).result.map Token.content =
        (.opening, "") :: (body.map Token.content ++ [(.closing, ""), (.empty, "")])) ∧
    ∀ before t after, (tokenize source).result = before ++ t :: after →
      Offends maxDepth (unclosed [] before) t →
      ∀ e, (parseAll (enclosed source) (maxDepth.map (· + 1))).result ≠ .ok [e] := by
  refine ⟨?_, fun body last => content_tokenize_enclosed_of_ended, ?_⟩
  · intro es
    rw [parseAll_enclosed_iff few nonneg]
    constructor
    · rintro ⟨_, same, read⟩
      rwa [Expr.list.inj same]
    · intro read
      exact ⟨es, rfl, read⟩
  · intro before t after split offends e read
    obtain ⟨es, -, read⟩ := (parseAll_enclosed_iff few nonneg e).mp read
    have allowed := along_of_ok (few.mono (by decide)) read
    exact along_iff.mp allowed before t after split offends

/-- The comment ends before the second parenthesis. Two parentheses the wrong way round are not made
one list. -/
theorem comment_and_stray_closing_enclosed :
    AtMost 199 (tokenize "a (b) ; c").result ∧
      (parseAll (enclosed "a (b) ; c") (some 2)).result =
        .ok [.list [.symbol "a", .list [.symbol "b"]]] ∧
      ∀ e, (parseAll (enclosed ")(") none).result ≠ .ok [e] := by
  have few : AtMost 199 (tokenize "a (b) ; c").result := .of_length (by decide +kernel)
  have read : (parseAll "a (b) ; c" (some 1)).result =
      .ok [.symbol "a", .list [.symbol "b"]] := by
    have tokens : (tokenize "a (b) ; c").result =
        [{ kind := .symbol, text := "a", position := ⟨1, 1⟩ },
          { kind := .opening, text := "", position := ⟨1, 3⟩ },
          { kind := .symbol, text := "b", position := ⟨1, 4⟩ },
          { kind := .closing, text := "", position := ⟨1, 5⟩ },
          { kind := .empty, text := "", position := ⟨1, 10⟩ }] := by
      decide +kernel
    rw [parseAll_eq_run, tokens]
    rfl
  have stray : (tokenize ")(").result = [] ++ { kind := .closing, text := "", position := ⟨1, 1⟩ } ::
      [{ kind := .opening, text := "", position := ⟨1, 2⟩ },
        { kind := .empty, text := "", position := ⟨1, 3⟩ }] := by
    decide +kernel
  refine ⟨few, ((parseAll_enclosed _ (some 1) few (by simp)).1 _).mpr read, ?_⟩
  exact (parseAll_enclosed _ none (.of_length (by decide +kernel)) (by simp)).2.2 _ _ _ stray
    (.strayClosing rfl rfl)

end Sexp
