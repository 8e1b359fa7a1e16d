import Sexp.Proofs.TokenStream.Sharing

set_option autoImplicit false
set_option relaxedAutoImplicit false

/-!
# Progress and rest

A token that is not terminal takes something off the source, which bounds how many tokens can come.
The empty token and a stray character take nothing off: a stream that has read one of them rests,
and whatever is done with it gives the same token again. `reached_progresses` says both of every
state that is reached.
-/

namespace Sexp.TokenStream

open Grammar (IsGap)
open Text (Longest)

variable {source : String} {s s' : TokenStream}

theorem index_read_lt (going : s.read.1.isTerminal = false) : s.index < s.read.2.index := by
  have taken := List.length_pos_iff.mpr (spelling_read_ne_nil going)
  have index := s.index_read
  omega

theorem Stands.length_tokenize_le (stands : Stands source s) :
    s.tokenize.1.length ≤ source.toList.length - s.index + 1 := by
  refine tokenize_induction (P := fun s ts _ => Stands source s →
    ts.length ≤ source.toList.length - s.index + 1) ?_ ?_ s stands
  · intro s _ _
    exact Nat.le_add_left 1 _
  · intro s ts _ going ih stands
    have others := ih stands.next
    have onward : s.index < s.next.2.index := index_read_lt going
    have inside := stands.next.index_le
    rw [List.length_cons]
    omega

/-- An iterator is stepped again and again, and any operations on its stream may come between its
steps; `answers` is what the steps hand out. -/
inductive Iterates : TokenIterator → TokenStream → List (Option Token) → TokenIterator →
    TokenStream → Prop
  | nil {it : TokenIterator} {s : TokenStream} : Iterates it s [] it s
  | step {it it' : TokenIterator} {s s' : TokenStream} {answers : List (Option Token)} :
      Iterates (it.step s).2.1 (it.step s).2.2 answers it' s' →
      Iterates it s ((it.step s).1 :: answers) it' s'
  | between {it it' : TokenIterator} {s s' s'' : TokenStream} {answers : List (Option Token)} :
      Operation s s' → Iterates it s' answers it' s'' → Iterates it s answers it' s''

/-- How many steps an iterator can still make before it stops, at most. -/
def stepsLeft (source : String) (it : TokenIterator) (s : TokenStream) : Nat :=
  if it.stopped then 0 else source.toList.length - s.index + 1

theorem Stands.stepsLeft_next (stands : Stands source s) :
    stepsLeft source ⟨s.next.1.isTerminal⟩ s.next.2 ≤ source.toList.length - s.index := by
  unfold stepsLeft
  split
  · exact Nat.zero_le _
  · rename_i going
    have onward : s.index < s.next.2.index := index_read_lt (Bool.eq_false_iff.mpr going)
    have inside := stands.next.index_le
    omega

theorem Stands.stepsLeft_step (stands : Stands source s) (it : TokenIterator) :
    stepsLeft source (it.step s).2.1 (it.step s).2.2 ≤ stepsLeft source it s - 1 ∧
      ((it.step s).1.isSome → 0 < stepsLeft source it s) := by
  by_cases stopped : it.stopped = true
  · simp [TokenIterator.step, stepsLeft, stopped]
  · have left : stepsLeft source it s = source.toList.length - s.index + 1 := if_neg stopped
    have step : (it.step s).2 = (⟨s.next.1.isTerminal⟩, s.next.2) := by
      rw [TokenIterator.step, if_neg stopped]
    rw [step, left]
    exact ⟨stands.stepsLeft_next, fun _ => Nat.succ_pos _⟩

theorem Iterates.stepsLeft_le {it it' : TokenIterator} {answers : List (Option Token)}
    (iterates : Iterates it s answers it' s') (stands : Stands source s) :
    (answers.filterMap id).length ≤ stepsLeft source it s ∧
      stepsLeft source it' s' ≤ stepsLeft source it s - answers.length := by
  induction iterates with
  | nil => exact ⟨Nat.zero_le _, Nat.le_refl _⟩
  | @step it it' s s' answers _ ih =>
    obtain ⟨handed, left⟩ := ih (stands.operation (.step it s))
    obtain ⟨used, within⟩ := stands.stepsLeft_step it
    refine ⟨?_, by rw [List.length_cons]; omega⟩
    cases answer : (it.step s).1 with
    | none =>
      have silent : ((none :: answers).filterMap id).length = (answers.filterMap id).length := rfl
      omega
    | some t =>
      have positive := within (by rw [answer]; rfl)
      have one : ((some t :: answers).filterMap id).length = (answers.filterMap id).length + 1 := rfl
      omega
  | @between it it' s s' s'' answers operation _ ih =>
    obtain ⟨handed, left⟩ := ih (stands.operation operation)
    have fewer : stepsLeft source it s' ≤ stepsLeft source it s := by
      have onward := operation.index_le
      unfold stepsLeft
      split <;> omega
    omega

theorem Iterates.of_new {it : TokenIterator} {answers : List (Option Token)}
    (iterates : Iterates ⟨false⟩ s answers it s') (stands : Stands source s) :
    (answers.filterMap id).length ≤ source.toList.length - s.index + 1 ∧
      (source.toList.length - s.index < answers.length → it.stopped = true) := by
  have fresh : stepsLeft source ⟨false⟩ s = source.toList.length - s.index + 1 := rfl
  obtain ⟨handed, left⟩ := iterates.stepsLeft_le stands
  refine ⟨by omega, fun enough => ?_⟩
  have none : stepsLeft source it s' = 0 := by omega
  apply Decidable.byContradiction
  intro going
  rw [stepsLeft, if_neg going] at none
  contradiction

/-- What the stream reads next takes nothing off the source, not even a gap. -/
structure Rests (s : TokenStream) : Prop where
  gap_eq : (Gap.split s.rest).1 = []
  spelling_eq : s.read.1.spelling = []

theorem Rests.samePlace_read (rests : Rests s) : SamePlace s.read.2 s := by
  have parts := s.rest_eq_append_read
  have index := s.index_read
  have start : s.read.1.position = s.position.after (Gap.split s.rest).1 := rfl
  rw [rests.gap_eq, rests.spelling_eq] at parts index
  rw [rests.gap_eq] at start
  refine ⟨parts.symm, index, ?_⟩
  rw [position_read, rests.spelling_eq, start]
  rfl

theorem rests_of_nothing (nothing : s.rest = []) : Rests s ∧ s.read.1.kind = .empty := by
  have kind : s.read.1.kind = .empty := by
    simp only [read, nothing]
    rfl
  exact ⟨⟨by rw [nothing]; rfl, spelling_read_of_empty kind⟩, kind⟩

theorem rests_read (nothing : s.read.1.spelling = []) :
    Rests s.read.2 ∧ s.read.2.read.1 = s.read.1 := by
  have parts := s.rest_eq_append_read.symm.trans (Gap.split_append s.rest).symm
  have rest : s.read.2.rest = (Gap.split s.rest).2 := by
    rw [nothing] at parts
    exact List.append_cancel_left parts
  have position : s.read.2.position = s.position.after (Gap.split s.rest).1 := by
    rw [position_read, nothing]
    rfl
  have again : s.read.2.read.1 = s.read.1 := by
    simp only [read] at rest position ⊢
    simp only [rest, position, Gap.split_split]
    rfl
  exact ⟨⟨by rw [rest, Gap.split_split], by rw [again, nothing]⟩, again⟩

/-- The states to which operations lead once the next token of a stream is read. -/
inductive Later (s : TokenStream) : TokenStream → Prop
  | read : Later s s.read.2
  | next : Later s s.next.2
  | operation {s' s'' : TokenStream} : Later s s' → Operation s' s'' → Later s s''

theorem Later.samePlace (rests : Rests s.read.2) (later : Later s s') :
    SamePlace s' s.read.2 := by
  induction later with
  | read => exact ⟨rfl, rfl, rfl⟩
  | next => exact ⟨rfl, rfl, rfl⟩
  | operation _ operation ih =>
    have next (s' : TokenStream) (same : SamePlace s' s.read.2) :
        SamePlace s'.next.2 s.read.2 := by
      have again := rests.samePlace_read
      exact same.next.trans ⟨again.rest_eq, again.index_eq, again.position_eq⟩
    refine operation.induction (P := fun s' s'' => SamePlace s' s.read.2 →
      SamePlace s'' s.read.2) ?_ ?_ ?_ ?_ ih
    · exact fun _ same => same
    · exact fun first second same => second (first same)
    · exact fun s' same => ⟨(next s' same).rest_eq, (next s' same).index_eq,
        (next s' same).position_eq⟩
    · exact next

/-- A token that takes nothing off is given by every later read. -/
theorem Later.reads_again (nothing : s.read.1.spelling = []) (later : Later s s') :
    s'.index = s.read.2.index ∧ s'.read.1 = s.read.1 := by
  obtain ⟨rests, again⟩ := rests_read nothing
  have same := later.samePlace rests
  exact ⟨same.index_eq, same.read_eq.trans again⟩

/-- In every state that is reached, a token that is not terminal takes the index on, so that all
tokens up to a terminal one, and all that an iterator hands out, are at most one more than the
characters that are left. Once the empty token or a stray character is read, every read gives that
token again at the same index; once an unterminated string is read, every read gives the empty one.
A malformed number is left behind. -/
theorem reached_progresses (reached : Reached source s) :
    (s.read.1.isTerminal = false → s.index < s.read.2.index) ∧
      (Terminated s.tokenize.1 ∧
        s.tokenize.1.length ≤ source.toList.length - s.index + 1 ∧
        s.drain.1.length ≤ source.toList.length - s.index + 1) ∧
      (∀ (it : TokenIterator) (s' : TokenStream) (answers : List (Option Token)),
        Iterates ⟨false⟩ s answers it s' →
        (answers.filterMap id).length ≤ source.toList.length - s.index + 1 ∧
          (source.toList.length - s.index < answers.length → it.stopped = true)) ∧
      (s.read.1.kind = .empty → ∀ s', Later s s' →
        s'.index = source.toList.length ∧ s'.read.1 = s.read.1) ∧
      (∀ c : Char, s.read.1.message = some ("unexpected character '" ++ c.toString ++ "'") →
        ∀ s', Later s s' → s'.index = s.read.2.index ∧ s'.read.1 = s.read.1) ∧
      (s.read.1.message = some "unexpected end in string" →
        ∀ s', Later s s' → s'.read.1.kind = .empty) ∧
      (∀ words gap, s.read.1.message = some words →
        words = "digits expected" ∨ words = "unexpected '.' in number" →
        Longest IsGap (source.toList.drop s.index) gap →
        s.index + gap.length < s.read.2.index) := by
  have stands := reached.stands
  have tokens := stands.length_tokenize_le
  refine ⟨index_read_lt, ⟨s.terminated_tokenize, tokens, ?_⟩, ?_, ?_, ?_, ?_, ?_⟩
  · exact Nat.le_trans (List.length_filter_le _ _) tokens
  · exact fun it s' answers iterates => iterates.of_new stands
  · intro kind s' later
    obtain ⟨index, read⟩ := later.reads_again (spelling_read_of_empty kind)
    exact ⟨index.trans (stands.read.index_eq_length (rest_read_of_empty kind)), read⟩
  · exact fun c message s' later => later.reads_again (spelling_read_of_stray message)
  · intro message s' later
    have ended := rest_read_of_unterminated (kind_read_of_message message) message
    obtain ⟨rests, kind⟩ := rests_of_nothing ended
    rw [(later.samePlace rests).read_eq, kind]
  · intro words gap message inNumber longest
    have taken := List.length_pos_iff.mpr (spelling_read_ne_nil_of_number message inNumber)
    have consumes := stands.consumes
    rw [consumes.index_eq, longest.unique consumes.gap_longest]
    omega

/-- A malformed number is left behind, a stray character is read for ever, and after an unterminated
string nothing comes. -/
theorem number_passed_and_stray_read_again :
    let s := (ofSource "1. #").next.2
    Reached "1. #" s ∧
      ((ofSource "1. #").read.1.message = some "digits expected" ∧
        0 < (ofSource "1. #").read.2.index) ∧
      (s.read.1.message = some "unexpected character '#'" ∧
        ∀ s', Later s s' → s'.index = 3 ∧ s'.read.1 = s.read.1) ∧
      ((ofSource "\"b").read.1.message = some "unexpected end in string" ∧
        ∀ s', Later (ofSource "\"b") s' → s'.read.1.kind = .empty) := by
  have stray : Reached "1. #" (ofSource "1. #").next.2 := .operation .start (.next _)
  have digits : (ofSource "1. #").read.1.message = some "digits expected" := by decide +kernel
  have ended : (ofSource "\"b").read.1.message = some "unexpected end in string" := by
    decide +kernel
  have character : (ofSource "1. #").next.2.read.1.message = some "unexpected character '#'" := by
    decide +kernel
  have index : (ofSource "1. #").next.2.read.2.index = 3 := by decide +kernel
  obtain ⟨-, -, -, -, -, -, passed⟩ := reached_progresses (.start : Reached "1. #" _)
  obtain ⟨-, -, -, -, again, -, -⟩ := reached_progresses stray
  obtain ⟨-, -, -, -, -, empty, -⟩ := reached_progresses (.start : Reached "\"b" _)
  refine ⟨stray, ⟨digits, ?_⟩, ⟨character, ?_⟩, ended, empty ended⟩
  · exact passed _ [] digits (.inl rfl) (Gap.split_longest "1. #".toList)
  · rw [← index]
    exact again '#' character

end Sexp.TokenStream
