import Sexp.Proofs.ExprStream.Completion

set_option autoImplicit false
set_option relaxedAutoImplicit false

/-!
# Expressions that show where they end

A list and a string show by their delimiters where they begin and end. `parse_delimited` says that
nothing behind the end of such an expression has a part in reading it, and that no piece of it from
its beginning on is read, not even as nothing.
-/

namespace Sexp

open Grammar
open Text (Longest)
open TokenStream (Gives)

variable {source : String} {maxDepth : Option Int} {e : Expr} {ts : List Token}

/-- The characters with which a list or a string begins and ends. -/
def Expr.delimiters? : Expr → Option (Char × Char)
  | list _ => some ('(', ')')
  | string _ => some ('"', '"')
  | _ => none

section

variable {e' : Expr} {ts' : List Token} {t : Token} {first last : Char}
  {tokens s s' : TokenStream}

theorem Flattens.begins (flattens : Flattens [e] ts)
    (delimited : e.delimiters? = some (first, last)) :
    ∃ t us cs, ts = t :: us ∧ t.spelling = first :: cs := by
  cases flattens with
  | atom denotes none =>
    cases none
    cases denotes with
    | string kind =>
      cases delimited
      exact ⟨_, [], _, rfl, by rw [Token.spelling, kind]⟩
    | _ => cases delimited
  | list opening =>
    cases delimited
    exact ⟨_, _, [], rfl, by rw [Token.spelling, opening]⟩

theorem Flattens.closes (flattens : Flattens [e] ts)
    (delimited : e.delimiters? = some (first, last)) :
    ∃ us u cs, ts = us ++ [u] ∧ u.isDelimited = true ∧ u.spelling = cs ++ [last] := by
  cases flattens with
  | @atom _ _ t _ denotes none =>
    cases none
    cases denotes with
    | string kind =>
      cases delimited
      exact ⟨[], t, '"' :: t.text.toList, rfl, by rw [Token.isDelimited, kind],
        by rw [Token.spelling, kind]; rfl⟩
    | _ => cases delimited
  | @list _ _ opening closing inner _ _ _ isClosing none =>
    cases none
    cases delimited
    exact ⟨opening :: inner, closing, [], rfl, by rw [Token.isDelimited, isClosing],
      by rw [Token.spelling, isClosing]; rfl⟩

theorem Flattens.isDelimited_of_getLast? (flattens : Flattens [e] ts)
    (delimited : e.delimiters? = some (first, last)) :
    ∀ u ∈ ts.getLast?, u.isDelimited = true := by
  obtain ⟨us, u, -, rfl, isDelimited, -⟩ := flattens.closes delimited
  rintro v behind
  rw [List.getLast?_concat] at behind
  rwa [← Option.some.inj behind]

theorem Flattens.exists_delimiters (flattens : Flattens [e] (t :: ts))
    (isDelimited : t.isDelimited = true) : ∃ first last, e.delimiters? = some (first, last) := by
  cases flattens with
  | atom denotes _ =>
    cases denotes with
    | string => exact ⟨_, _, rfl⟩
    | nil kind | booleanTrue kind | booleanFalse kind | symbol kind | integer kind | float kind =>
      rw [Token.isDelimited, kind] at isDelimited
      cases isDelimited
  | list => exact ⟨_, _, rfl⟩

theorem Flattens.unique_of_gives (flattens : Flattens [e] ts) (gives : Gives tokens ts s)
    (flattens' : Flattens [e'] ts') (gives' : Gives tokens ts' s') : ts = ts' ∧ s = s' := by
  have same := gives.tokenize_eq.symm.trans gives'.tokenize_eq
  obtain ⟨-, rfl⟩ := flattens.unique_of_append flattens' same
  exact ⟨rfl, gives.unique gives'⟩

theorem isDelimited_or_error {gap tail : List Char}
    (delimited : e.delimiters? = some (first, last)) (closed : IsClosedGap gap)
    (rest : s.rest = gap ++ first :: tail) :
    s.read.1.isDelimited = true ∨ s.read.1.kind = .error := by
  have split (stop : isSeparator first = false ∧ first ≠ ';') :
      (Gap.split s.rest).2 = first :: tail := by
    rw [rest, Gap.split_append_of_isClosedGap closed, Gap.split_of_head]
    rintro c head
    rwa [← Option.some.inj head]
  have kind (stop : isSeparator first = false ∧ first ≠ ';') :
      s.read.1.kind = (Lexeme.scan (first :: tail)).1.kind := by
    rw [← split stop]
    rfl
  cases e with
  | list =>
    cases delimited
    refine .inl ?_
    rw [Token.isDelimited, kind (by decide)]
    rfl
  | string =>
    cases delimited
    have scanned : s.read.1.kind = (Lexeme.scanString tail).1.kind := kind (by decide)
    rcases Lexeme.kind_scanString tail with string | error
    · refine .inl ?_
      rw [Token.isDelimited, scanned, string]
    · exact .inr (scanned.trans error)
  | _ => cases delimited

/-- The first tokens of a source are those of an expression: it begins behind the first gap, at
`start`, and ends before `stop`. -/
structure Occupies (source : String) (e : Expr) (start stop : Nat) : Prop where
  gap : ∃ gap, Longest IsGap source.toList gap ∧ gap.length = start
  tokens : ∃ ts s, Gives (.ofSource source) ts s ∧ Flattens [e] ts ∧ s.index = stop

theorem exists_occupies [Capacity] (read : (parse source maxDepth).result = .ok (some e)) :
    ∃ start stop, Occupies source e start stop := by
  obtain ⟨ts, s, gives, completes⟩ := parse_eq_some_iff.mp read
  have flattens : Flattens [e] ([] ++ ts) := Built.outside.flattens completes
  exact ⟨_, _, ⟨_, Gap.split_longest source.toList, rfl⟩, ts, s, gives, flattens, rfl⟩

theorem exists_beginning (gives : Gives (.ofSource source) ts s) (flattens : Flattens [e] ts)
    (delimited : e.delimiters? = some (first, last)) :
    ∃ gap tail, source.toList = gap ++ first :: tail ∧ IsClosedGap gap ∧
      Longest IsGap source.toList gap ∧ gap.length < s.index := by
  obtain ⟨t, us, cs, rfl, spelling⟩ := flattens.begins delimited
  have whole := (gives.stands (TokenStream.stands_ofSource source)).index_add_length
  have parts : source.toList = _ := (TokenStream.ofSource source).rest_eq_append_read
  cases gives with
  | cons going others =>
    have left : s.rest.length ≤ (TokenStream.ofSource source).read.2.rest.length :=
      others.length_rest_le
    have closed := Gap.isClosedGap_split (TokenStream.split_ne_nil_of_going going)
    rw [spelling, List.cons_append] at parts
    refine ⟨_, _, parts, closed, Gap.split_longest _, ?_⟩
    rw [parts, List.length_append, List.length_cons, List.length_append] at whole
    omega

theorem getElem?_pred_index (gives : Gives (.ofSource source) ts s) (flattens : Flattens [e] ts)
    (delimited : e.delimiters? = some (first, last)) :
    source.toList[s.index - 1]? = some last := by
  obtain ⟨us, u, cs, rfl, -, spelling⟩ := flattens.closes delimited
  obtain ⟨front, parts⟩ := gives.exists_front
  have whole := (gives.stands (TokenStream.stands_ofSource source)).index_add_length
  have parts' : source.toList = (front ++ cs) ++ last :: s.rest := by
    rw [spelling] at parts
    simpa [TokenStream.ofSource] using parts
  rw [parts', List.length_append, List.length_cons] at whole
  have place : s.index - 1 = (front ++ cs).length := by omega
  rw [parts', place, List.getElem?_append_right (Nat.le_refl _), Nat.sub_self]
  rfl

theorem parse_take_append [Capacity] (gives : Gives (.ofSource source) ts s)
    (completes : Step.Completes maxDepth [] ts e) (delimited : e.delimiters? = some (first, last))
    (t : String) :
    (parse (String.ofList (source.toList.take s.index) ++ t) maxDepth).result = .ok (some e) := by
  have flattens : Flattens [e] ts := Built.outside.flattens completes
  have stands := gives.stands (TokenStream.stands_ofSource source)
  have parts : (TokenStream.ofSource source).rest = source.toList.take s.index ++ s.rest := by
    rw [stands.rest_eq]
    exact (List.take_append_drop _ _).symm
  have rest : (TokenStream.ofSource (String.ofList (source.toList.take s.index) ++ t)).rest =
      source.toList.take s.index ++ t.toList := by
    simp [TokenStream.ofSource]
  obtain ⟨s', gives', -⟩ :=
    gives.of_front (flattens.isDelimited_of_getLast? delimited) parts rest rfl
  exact parse_eq_some_iff.mpr ⟨ts, s', gives', completes⟩

/-- No expression is complete in a piece of a source that ends before the first one does. -/
theorem index_le_of_gives {j : Nat} (gives : Gives (.ofSource source) ts s)
    (flattens : Flattens [e] ts)
    (gives' : Gives (.ofSource (String.ofList (source.toList.take j))) ts' s')
    (flattens' : Flattens [e'] ts') (delimited : e'.delimiters? = some (first, last)) :
    s.index ≤ j := by
  obtain ⟨front, parts⟩ := gives'.suffix
  have rest : (TokenStream.ofSource source).rest = front ++ (s'.rest ++ source.toList.drop j) := by
    rw [← List.append_assoc, parts]
    simp [TokenStream.ofSource]
  obtain ⟨s'', gives'', left⟩ :=
    gives'.of_front (flattens'.isDelimited_of_getLast? delimited) parts.symm rest rfl
  obtain ⟨-, rfl⟩ := flattens.unique_of_gives gives flattens' gives''
  have whole := (gives.stands (TokenStream.stands_ofSource source)).index_add_length
  rw [left, List.length_append, List.length_drop] at whole
  omega

theorem exists_error_of_take [Capacity] {gap : List Char} {j : Nat}
    (gives : Gives (.ofSource source) ts s) (flattens : Flattens [e] ts) (delimited : e.delimiters? = some (first, last))
    (longest : Longest IsGap source.toList gap) (within : gap.length < j) (cut : j < s.index) :
    ∃ error, (parse (String.ofList (source.toList.take j)) maxDepth).result = .error error := by
  obtain ⟨gap', tail, parts, closed, longest', -⟩ := exists_beginning gives flattens delimited
  obtain rfl := longest.unique longest'
  obtain ⟨n, rfl⟩ := Nat.exists_eq_add_of_lt within
  have rest : (TokenStream.ofSource (String.ofList (source.toList.take (gap.length + n + 1)))).rest =
      gap ++ first :: tail.take n := by
    simp [TokenStream.ofSource, parts, Nat.add_assoc, List.take_length_add_append]
  have begins := isDelimited_or_error delimited closed rest
  cases found : (parse (String.ofList (source.toList.take (gap.length + n + 1))) maxDepth).result with
  | error error => exact ⟨error, rfl⟩
  | ok answer =>
    cases answer with
    | none =>
      rcases begins with isDelimited | error
      · rw [Token.isDelimited, empty_of_parse found] at isDelimited
        cases isDelimited
      · rw [empty_of_parse found] at error
        cases error
    | some e' =>
      obtain ⟨ts', s', gives', completes⟩ := parse_eq_some_iff.mp found
      have flattens' : Flattens [e'] ts' := Built.outside.flattens completes
      cases gives' with
      | nil => cases completes
      | cons going others =>
        have isDelimited := begins.resolve_right fun error => by
          rw [Token.isTerminal, error] at going
          cases going
        obtain ⟨_, _, delimited'⟩ := flattens'.exists_delimiters isDelimited
        have ended := index_le_of_gives gives flattens (.cons going others) flattens' delimited'
        exact absurd cut (Nat.not_lt.mpr ended)

end

/-- A list or a string that is read from a source is read again whatever comes behind its last
delimiter, and an error is reported where the source is cut off anywhere between its delimiters. -/
theorem parse_delimited [Capacity] {first last : Char}
    (read : (parse source maxDepth).result = .ok (some e))
    (delimited : e.delimiters? = some (first, last)) :
    (∃ start stop, Occupies source e start stop) ∧
      ∀ start stop, Occupies source e start stop →
        (start < stop ∧ source.toList[start]? = some first ∧
          source.toList[stop - 1]? = some last) ∧
        (∀ t : String, (parse (String.ofList (source.toList.take stop) ++ t) maxDepth).result =
          .ok (some e)) ∧
        ∀ j, start < j → j < stop →
          ∃ error, (parse (String.ofList (source.toList.take j)) maxDepth).result = .error error := by
  refine ⟨exists_occupies read, ?_⟩
  rintro _ _ ⟨⟨gap, longest, rfl⟩, ts, s, gives, flattens, rfl⟩
  obtain ⟨ts', s', gives', completes⟩ := parse_eq_some_iff.mp read
  have flattens' : Flattens [e] ts' := Built.outside.flattens completes
  obtain ⟨rfl, rfl⟩ := flattens.unique_of_gives gives flattens' gives'
  obtain ⟨gap', tail, parts, -, longest', before⟩ := exists_beginning gives flattens delimited
  obtain rfl := longest.unique longest'
  refine ⟨⟨before, ?_, getElem?_pred_index gives flattens delimited⟩, ?_, ?_⟩
  · rw [parts, List.getElem?_append_right (Nat.le_refl _), Nat.sub_self]
    rfl
  · exact parse_take_append gives completes delimited
  · exact fun j => exists_error_of_take gives flattens delimited longest

/-- A list is read whatever comes behind it, and not without its closing parenthesis. -/
theorem list_read_and_cut_list_refused :
    (parse "(a)#" none).result = .ok (some (.list [.symbol "a"])) ∧
      Occupies "(a)#" (.list [.symbol "a"]) 0 3 ∧
      (∀ t : String, (parse ("(a)" ++ t) none).result = .ok (some (.list [.symbol "a"]))) ∧
      ∃ error, (parse "(a" none).result = .error error := by
  let ts : List Token :=
    [{ kind := .opening, text := "", position := ⟨1, 1⟩ },
      { kind := .symbol, text := "a", position := ⟨1, 2⟩ },
      { kind := .closing, text := "", position := ⟨1, 3⟩ }]
  let s := (TokenStream.ofSource "(a)#").next.2.next.2.next.2
  have gives : Gives (.ofSource "(a)#") ts s := by
    have tokens : ts = [(TokenStream.ofSource "(a)#").read.1,
        (TokenStream.ofSource "(a)#").next.2.read.1,
        (TokenStream.ofSource "(a)#").next.2.next.2.read.1] := by decide +kernel
    rw [tokens]
    exact .cons (by decide +kernel) (.cons (by decide +kernel) (.cons (by decide +kernel) .nil))
  have completes : Step.Completes none [] ts (.list [.symbol "a"]) :=
    .shift rfl (.shift rfl (.deliver rfl))
  have flattens : Flattens [.list [.symbol "a"]] ts := Built.outside.flattens completes
  have read : (parse "(a)#" none).result = .ok (some (.list [.symbol "a"])) :=
    parse_eq_some_iff.mpr ⟨ts, s, gives, completes⟩
  have occupies : Occupies "(a)#" (.list [.symbol "a"]) 0 3 :=
    ⟨⟨[], Gap.split_longest "(a)#".toList, rfl⟩, ts, s, gives, flattens, by decide +kernel⟩
  obtain ⟨-, again, cut⟩ := (parse_delimited read rfl).2 0 3 occupies
  exact ⟨read, occupies, again, cut 2 (by decide) (by decide)⟩

end Sexp
