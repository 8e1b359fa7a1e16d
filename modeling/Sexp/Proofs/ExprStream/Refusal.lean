import Sexp.Proofs.ExprStream.Building
import Sexp.Proofs.ExprStream.Step

set_option autoImplicit false
set_option relaxedAutoImplicit false

/-!
# The first token that cannot be used

Lists are read within lists, and what is wrong with a source may be wrong in several of its tokens.
`parseAll_error_iff_offends` says that nothing but the order of the tokens decides which one is
reported.
-/

namespace Sexp

open Nesting

section Steps

variable {maxDepth : Option Int} {lists : List OpenList} {outer front : List Token} {t : Token}

private theorem bounds_text :
    "an integer between " ++ toString Numeral.leastInteger ++ " and " ++
      toString Numeral.greatestInteger =
      "an integer between -9223372036854775808 and 9223372036854775807" := by
  decide +kernel

variable [Capacity]

theorem refuse_unfit (kind : t.kind = .integer)
    (unfit : ¬ Numeral.Fits t.text.toList) :
    ∃ error, Step.ofToken maxDepth lists t = .refuse error ∧ Blames maxDepth outer t error := by
  by_cases overlong : Numeral.Overlong t.text.toList
  · exact ⟨_, Step.refuse_reading_iff.mpr ⟨kind, overlong, rfl⟩, .overlong kind overlong⟩
  · have reading := Numeral.readInteger_of_not_fits unfit overlong
    refine ⟨.defect (.integerOutOfRange t.text t.position), ?_, .outOfRange kind overlong ?_⟩
    · simp only [Step.ofToken, kind, reading]
    · rw [← bounds_text]
      rfl

private theorem refuse_unfinished (built : Built lists outer front) (kind : t.kind = .empty)
    (unfinished : outer ≠ []) :
    ∃ error, Step.ofToken maxDepth lists t = .refuse error ∧ Blames maxDepth outer t error := by
  obtain ⟨innermost, further, isOpen⟩ := List.exists_cons_of_ne_nil unfinished
  obtain ⟨l, ls, rfl, opened⟩ := built.exists_innermost isOpen
  refine ⟨.defect (.unfinished l.opened), ?_, .unfinished kind isOpen ?_⟩
  · simp only [Step.ofToken, kind]
  · rw [opened]
    rfl

private theorem refuse_tooDeep {limit : Int} (built : Built lists outer front)
    (kind : t.kind = .opening) (deep : limit < (outer.length : Int) + 1) :
    ∃ error, Step.ofToken (some limit) lists t = .refuse error ∧
      Blames (some limit) outer t error := by
  have length := built.length_eq
  have beyond : Step.exceeds (some limit) (lists.length + 1) = true := by
    rw [Step.exceeds_some]
    omega
  have error : Step.depthError? (some limit) (lists.length + 1) t.position =
      some (Step.depthError (some limit) (.tooDeep · t.position)) := if_pos beyond
  refine ⟨_, Step.refuse_of_depthError? kind error, ?_⟩
  by_cases writable : Numeral.Writable limit
  · rw [Step.depthError_of_writable writable]
    exact .tooDeep kind rfl writable rfl
  · rw [Step.depthError_of_unnamed ⟨limit, rfl, writable⟩]
    exact .unnamed kind rfl writable

/-- A token that offends is refused, and reported as such. -/
theorem Built.refuse (built : Built lists outer front) (wellFormed : t.WellFormed)
    (offends : Offends maxDepth outer t) :
    ∃ error, Step.ofToken maxDepth lists t = .refuse error ∧ Blames maxDepth outer t error := by
  cases offends with
  | malformed kind =>
    obtain ⟨message, said⟩ := wellFormed.message kind
    refine ⟨.defect (.malformed message t.text t.position), ?_, .malformed kind said rfl⟩
    simp only [Step.ofToken, kind, said, Option.getD_some]
  | strayClosing kind outside =>
    subst outside
    have none : lists = [] := List.eq_nil_of_length_eq_zero built.length_eq
    subst none
    refine ⟨.defect (.strayClosing t.position), ?_, .strayClosing kind rfl⟩
    simp only [Step.ofToken, kind]
  | tooDeep kind chosen deep =>
    subst chosen
    exact refuse_tooDeep built kind deep
  | unfit kind unfit => exact refuse_unfit kind unfit
  | unfinished kind unfinished => exact refuse_unfinished built kind unfinished

end Steps

section Sources

variable {source : String} {maxDepth : Option Int} {before after : List Token} {t : Token}

theorem along_usable (few : AtMost 200 (tokenize source).result)
    (split : (tokenize source).result = before ++ t :: after)
    (first : Along (fun outer u => ¬ Offends maxDepth outer u) [] before) :
    Along (Usable maxDepth) [] before := by
  apply along_iff.mpr
  intro front u back split'
  have whole : (tokenize source).result = (front ++ [u]) ++ (back ++ t :: after) := by
    rw [split, split', List.append_assoc, List.append_assoc, List.cons_append,
      List.singleton_append]
  have member : u ∈ before := by simp [split']
  have terminated : Terminated (tokenize source).result := TokenStream.terminated_tokenize _
  have opened := few (front ++ [u]) _ whole
  rw [unclosed_append] at opened
  have member' : u ∈ (tokenize source).result := by
    rw [split]
    exact List.mem_append_left _ member
  exact ⟨wellFormed_of_mem_tokenize member', terminated.going split u member, opened,
    along_iff.mp first front u back split'⟩

variable [Capacity]

theorem parseAll_eq_error (few : AtMost 200 (tokenize source).result)
    (split : (tokenize source).result = before ++ t :: after)
    (first : Along (fun outer u => ¬ Offends maxDepth outer u) [] before)
    (offends : Offends maxDepth (unclosed [] before) t) :
    ∃ error, (parseAll source maxDepth).result = .error error ∧
      Blames maxDepth (unclosed [] before) t error := by
  obtain ⟨es, spelled, lists, front, -, -, built, rest⟩ :=
    Built.outside.run (along_usable few split first)
  have member : t ∈ (tokenize source).result := by simp [split]
  obtain ⟨error, refused, blames⟩ := built.refuse (wellFormed_of_mem_tokenize member) offends
  refine ⟨error, ?_, blames⟩
  rw [parseAll_eq_run, split, rest, Step.run, refused]
  rfl

theorem parseAll_eq_ok (few : AtMost 200 (tokenize source).result)
    (allowed : Along (fun outer u => ¬ Offends maxDepth outer u) [] (tokenize source).result) :
    ∃ es body last, (parseAll source maxDepth).result = .ok es ∧
      (tokenize source).result = body ++ [last] ∧ last.kind = .empty ∧ Flattens es body := by
  have terminated : Terminated (tokenize source).result := TokenStream.terminated_tokenize _
  obtain ⟨body, last, split, terminal⟩ := terminated.exists_last
  rw [split] at allowed
  obtain ⟨first, notOffends, -⟩ := along_append.mp allowed
  obtain ⟨es, spelled, lists, front, spelling, flattens, built, rest⟩ :=
    Built.outside.run (along_usable few split first)
  have kind : last.kind = .empty := by
    cases kind : last.kind with
    | empty => rfl
    | error => exact absurd (.malformed kind) notOffends
    | string | symbol | integer | float | opening | closing =>
      rw [Token.isTerminal, kind] at terminal
      cases terminal
  have outside : unclosed [] body = [] := by
    by_contra inside
    exact notOffends (.unfinished kind inside)
  rw [outside] at built
  cases built with
  | outside =>
    rw [List.nil_append, List.append_nil] at spelling
    refine ⟨es, body, last, ?_, split, kind, spelling ▸ flattens⟩
    rw [parseAll_eq_run, split, rest]
    simp only [Step.run, Step.ofToken, kind, Except.map, List.append_nil]

theorem exists_error_iff_not_along (few : AtMost 200 (tokenize source).result) :
    (∃ error, (parseAll source maxDepth).result = .error error) ↔
      ¬ Along (fun outer u => ¬ Offends maxDepth outer u) [] (tokenize source).result := by
  constructor
  · rintro ⟨error, failed⟩ allowed
    obtain ⟨es, _, _, read, -⟩ := parseAll_eq_ok few allowed
    rw [read] at failed
    cases failed
  · intro fails
    obtain ⟨before, t, after, split, first, offends⟩ := exists_first_of_not_along fails
    obtain ⟨error, failed, -⟩ := parseAll_eq_error few split first (not_not.mp offends)
    exact ⟨error, failed⟩

end Sources

/-- A source is refused if one of its tokens offends, and the first one that does is reported,
whatever lists are open there and whatever comes behind it. -/
theorem parseAll_error_iff_offends [Capacity] (source : String) (maxDepth : Option Int)
    (few : AtMost 200 (tokenize source).result) :
    ((∃ error, (parseAll source maxDepth).result = .error error) ↔
      ∃ before t after, (tokenize source).result = before ++ t :: after ∧
        Offends maxDepth (unclosed [] before) t) ∧
    ∀ before t after, (tokenize source).result = before ++ t :: after →
      Along (fun outer u => ¬ Offends maxDepth outer u) [] before →
      Offends maxDepth (unclosed [] before) t →
      ∃ error, (parseAll source maxDepth).result = .error error ∧
        Blames maxDepth (unclosed [] before) t error := by
  constructor
  · rw [exists_error_iff_not_along few, along_iff]
    constructor
    · intro fails
      by_contra noneOffends
      apply fails
      intro before t after split offends
      exact noneOffends ⟨before, t, after, split, offends⟩
    · rintro ⟨before, t, after, split, offends⟩ allowed
      exact allowed before t after split offends
  · intro before t after split first offends
    exact parseAll_eq_error few split first offends

/-- The parenthesis that closes no list is reported, not the list that is left open behind it. -/
theorem stray_closing_blamed_first :
    AtMost 200 (tokenize "(a)) (b").result ∧
      ∃ error, (parseAll "(a)) (b" none).result = .error error ∧
        Blames none [] { kind := .closing, text := "", position := ⟨1, 4⟩ } error := by
  have few : AtMost 200 (tokenize "(a)) (b").result := .of_length (by decide +kernel)
  have split : (tokenize "(a)) (b").result =
      [{ kind := .opening, text := "", position := ⟨1, 1⟩ },
        { kind := .symbol, text := "a", position := ⟨1, 2⟩ },
        { kind := .closing, text := "", position := ⟨1, 3⟩ }] ++
      { kind := .closing, text := "", position := ⟨1, 4⟩ } ::
      [{ kind := .opening, text := "", position := ⟨1, 6⟩ },
        { kind := .symbol, text := "b", position := ⟨1, 7⟩ },
        { kind := .empty, text := "", position := ⟨1, 8⟩ }] := by
    decide +kernel
  have first : Along (fun outer u => ¬ Offends none outer u) []
      [{ kind := .opening, text := "", position := ⟨1, 1⟩ },
        { kind := .symbol, text := "a", position := ⟨1, 2⟩ },
        { kind := .closing, text := "", position := ⟨1, 3⟩ }] := by
    refine ⟨?_, ?_, ?_, trivial⟩ <;> intro offends <;> cases offends <;> contradiction
  exact ⟨few, (parseAll_error_iff_offends _ none few).2 _ _ _ split first (.strayClosing rfl rfl)⟩

section Unnamed

variable [Capacity] {source : String} {limit : Int} {t : Token} {ts : List Token}

theorem parseAll_eq_writing (split : (tokenize source).result = t :: ts) (kind : t.kind = .opening)
    (unnamed : ¬ Numeral.Writable limit) (beyond : limit < 1) :
    (parseAll source (some limit)).result = .error (.overlongInteger .writing) := by
  have refused : Step.ofToken (some limit) [] t = .refuse (.overlongInteger .writing) :=
    Step.refuse_writing_iff.mpr ⟨kind, ⟨limit, rfl, unnamed⟩, .inl (Step.exceeds_some.mpr beyond)⟩
  rw [parseAll_eq_run, split, Step.run, refused]

end Unnamed

theorem neg_pow_lt_one (n : Nat) : (-(10 ^ n) : Int) < 1 := by
  have nonneg : (0 : Int) ≤ 10 ^ n := Int.pow_nonneg (by decide)
  omega

theorem parseAll_list_of_long_limit :
    (parseAll "(a)" (some (-(10 ^ Numeral.conversionLimit)))).result =
      .error (.overlongInteger .writing) := by
  have split : (tokenize "(a)").result =
      { kind := .opening, text := "", position := ⟨1, 1⟩ } :: (tokenize "(a)").result.tail := by
    decide +kernel
  have unnamed : ¬ Numeral.Writable (-(10 ^ Numeral.conversionLimit)) := by
    rw [Numeral.writable_neg_iff]
    exact Numeral.not_writable_pow
  exact parseAll_eq_writing split rfl unnamed (neg_pow_lt_one _)

/-- The first token opens a list that the limit forbids, but no defect is reported: the limit has a
digit too many. -/
theorem offending_list_unreported :
    let limit : Int := -(10 ^ Numeral.conversionLimit)
    let opening : Token := { kind := .opening, text := "", position := ⟨1, 1⟩ }
    AtMost 200 (tokenize "(a)").result ∧
      (tokenize "(a)").result = [] ++ opening :: (tokenize "(a)").result.tail ∧
      Offends (some limit) [] opening ∧
      ∀ d, (parseAll "(a)" (some limit)).result ≠ .error (.defect d) := by
  intro limit opening
  refine ⟨.of_length (by decide +kernel), by decide +kernel,
    .tooDeep rfl rfl (neg_pow_lt_one _), ?_⟩
  intro d reported
  rw [parseAll_list_of_long_limit] at reported
  cases reported

end Sexp
