import Sexp.Proofs.Lexeme.Gap
import Sexp.Proofs.Lexeme.Scan
import Sexp.TokenStream

set_option autoImplicit false
set_option relaxedAutoImplicit false

/-!
# What a read gives

`read_eq_iff_reads` says that a read skips the longest gap and gives what the grammar says of the
text behind it, wherever in a source it starts. What later modules need to know of single tokens is
read off the grammar.
-/

namespace Sexp.TokenStream

open Grammar
open Text (Longest)

private theorem isInteger_of_reads {text front : List Char} {message : Option String}
    (reads : Reads text .integer front message) : IsInteger front := by
  cases reads with
  | number _ reads =>
    cases reads with
    | integer _ _ _ isInteger => exact isInteger

private theorem isFloat_of_reads {text front : List Char} {message : Option String}
    (reads : Reads text .float front message) : IsFloat front := by
  cases reads with
  | number _ reads =>
    cases reads with
    | float _ _ _ isFloat => exact isFloat

private theorem message_of_reads {text front : List Char} {message : Option String}
    (reads : Reads text .error front message) : ∃ words, message = some words := by
  cases reads with
  | number _ reads => cases reads <;> exact ⟨_, rfl⟩
  | _ => exact ⟨_, rfl⟩

private theorem eq_nil_of_reads {text front : List Char} {message : Option String}
    (reads : Reads text .empty front message) : text = [] := by
  cases reads with
  | finish => rfl
  | number _ reads => cases reads

private theorem text_of_reads {text front : List Char} {message : Option String}
    (reads : Reads text .empty front message) : front = [] := by
  cases reads with
  | finish => rfl
  | number _ reads => cases reads

private theorem silent_of_reads {text front : List Char} {kind : TokenKind}
    {message : Option String} (reads : Reads text kind front message) (formed : kind ≠ .error) :
    message = none := by
  cases reads with
  | unterminated | stray => contradiction
  | number _ reads =>
    cases reads with
    | lacksFraction | secondPoint => contradiction
    | integer | float => rfl
  | _ => rfl

theorem read_reads (s : TokenStream) :
    Reads (Gap.split s.rest).2 s.read.1.kind s.read.1.text.toList s.read.1.message := by
  have reads := Lexeme.scan_reads (Gap.split s.rest).2
  simpa only [read, Lexeme.token, String.toList_ofList] using reads

/-- A read gives the token of the grammar and no other: each kind, text and message comes of exactly
those texts of which the grammar says so. -/
theorem read_eq_iff_reads (s : TokenStream) :
    ∃ gap rest, s.rest = gap ++ rest ∧ Longest IsGap s.rest gap ∧
      ∀ kind front message,
        (s.read.1.kind = kind ∧ s.read.1.text.toList = front ∧ s.read.1.message = message) ↔
          Reads rest kind front message := by
  refine ⟨(Gap.split s.rest).1, (Gap.split s.rest).2, (Gap.split_append s.rest).symm,
    Gap.split_longest s.rest, ?_⟩
  intro kind front message
  constructor
  · rintro ⟨rfl, rfl, rfl⟩
    exact s.read_reads
  · intro reads
    simpa only [read, Lexeme.token, String.toList_ofList] using Lexeme.scan_of_reads reads

theorem isInteger_read {s : TokenStream} (kind : s.read.1.kind = .integer) :
    IsInteger s.read.1.text.toList := by
  have reads := s.read_reads
  rw [kind] at reads
  exact isInteger_of_reads reads

theorem isFloat_read {s : TokenStream} (kind : s.read.1.kind = .float) :
    IsFloat s.read.1.text.toList := by
  have reads := s.read_reads
  rw [kind] at reads
  exact isFloat_of_reads reads

theorem message_read {s : TokenStream} (kind : s.read.1.kind = .error) :
    ∃ message, s.read.1.message = some message := by
  have reads := s.read_reads
  rw [kind] at reads
  exact message_of_reads reads

theorem message_read_of_ne_error {s : TokenStream} (formed : s.read.1.kind ≠ .error) :
    s.read.1.message = none :=
  silent_of_reads s.read_reads formed

theorem kind_read_of_message {s : TokenStream} {words : String}
    (message : s.read.1.message = some words) : s.read.1.kind = .error := by
  apply Decidable.byContradiction
  intro formed
  rw [message_read_of_ne_error formed] at message
  contradiction

theorem text_read_of_empty {s : TokenStream} (kind : s.read.1.kind = .empty) :
    s.read.1.text = "" := by
  have reads := s.read_reads
  rw [kind] at reads
  exact String.toList_eq_nil_iff.mp (text_of_reads reads)

theorem split_ne_nil_of_ne_empty {s : TokenStream} (more : s.read.1.kind ≠ .empty) :
    (Gap.split s.rest).2 ≠ [] := by
  intro ended
  have empty : s.read.1.kind = .empty := by
    simp [read, ended, Lexeme.scan, Lexeme.token, Lexeme.kind]
  exact more empty

theorem split_ne_nil_of_going {s : TokenStream} (going : s.read.1.isTerminal = false) :
    (Gap.split s.rest).2 ≠ [] := by
  apply split_ne_nil_of_ne_empty
  intro empty
  rw [Token.isTerminal, empty] at going
  contradiction

theorem isGap_of_empty {s : TokenStream} (kind : s.read.1.kind = .empty) : IsGap s.rest := by
  have reads := s.read_reads
  rw [kind] at reads
  have whole := Gap.split_append s.rest
  rw [eq_nil_of_reads reads, List.append_nil] at whole
  have longest := Gap.split_longest s.rest
  rw [whole] at longest
  exact longest.holds

theorem rest_read_of_empty {s : TokenStream} (kind : s.read.1.kind = .empty) :
    s.read.2.rest = [] := by
  have reads := s.read_reads
  rw [kind] at reads
  simp only [read, eq_nil_of_reads reads]
  rfl

end Sexp.TokenStream
