import Sexp.Proofs.TokenStream.Spacing

set_option autoImplicit false
set_option relaxedAutoImplicit false

/-!
# A second point

A point directly behind a fraction makes the number malformed. Behind an exponent it does not: the
number is read without it, and the point begins the next token. `read_before_point` says what a read
gives in either case, and that only an exponent lets a point stand directly behind a float.
-/

namespace Sexp

open Grammar
open Text (Longest)

theorem Grammar.IsExponent.ne_point {exponent : List Char} (isExponent : IsExponent exponent) :
    ∀ c ∈ exponent, c ≠ '.' := by
  cases isExponent with
  | @mk marker sign digits isMarker isSign all =>
    refine List.forall_mem_cons.mpr ⟨?_, List.forall_mem_append.mpr ⟨?_, ?_⟩⟩
    · rcases isMarker with rfl | rfl <;> decide
    · cases isSign <;> simp
    · rintro c member rfl
      exact absurd (all '.' member) (by decide)

namespace Number

variable {tail number exponent : List Char}

theorem scan_second_point (isPointed : IsPointed number) :
    scan (number ++ '.' :: tail) = (.malformed .secondPoint (number ++ ['.']), tail) := by
  have run : splitDigits ('.' :: tail) = ([], '.' :: tail) :=
    splitDigits_of_stop (not_startsWithDigit_cons (by decide))
  rw [scan_pointed isPointed, run, List.append_nil]
  rfl

theorem splitExponent_append_point (isExponent : IsExponent exponent) :
    splitExponent (exponent ++ '.' :: tail) = (exponent, '.' :: tail) := by
  apply splitExponent_append_of_head isExponent
  rintro c head longer
  obtain rfl := Option.some.inj head
  exact longer.ne_point '.' (by simp) rfl

theorem scan_exponent_point (isPointed : IsPointed number) (isExponent : IsExponent exponent) :
    scan (number ++ (exponent ++ '.' :: tail)) = (.float (number ++ exponent), '.' :: tail) := by
  have run : splitDigits (exponent ++ '.' :: tail) = ([], exponent ++ '.' :: tail) :=
    splitDigits_of_stop (not_startsWithDigit_exponent isExponent)
  rw [scan_pointed isPointed, run, List.append_nil]
  unfold scanAfterFraction
  split
  · rename_i point
    exact absurd point (exponent_ne_point isExponent _)
  · rw [splitExponent_append_point isExponent]

end Number

namespace TokenStream

theorem read_number {s : TokenStream} {gap text : List Char} (longest : Longest IsGap s.rest gap)
    (parts : s.rest = gap ++ text) (starts : StartsNumber text) :
    s.read.1.kind = (Number.scan text).1.kind ∧
      s.read.1.text.toList = (Number.scan text).1.text ∧
      s.read.1.message = (Number.scan text).1.message? ∧
      s.read.2.rest = (Number.scan text).2 := by
  have behind : (Gap.split s.rest).2 = text := by
    have whole := Gap.split_append s.rest
    rw [(Gap.split_longest s.rest).unique longest, parts] at whole
    rw [parts]
    exact List.append_cancel_left whole
  have scanned := Lexeme.scan_of_startsNumber starts
  simp only [read, behind, scanned, Lexeme.token, String.toList_ofList, and_self]

/-- Behind a number with a fraction a point is an error, and it is taken with the number; behind its
exponent a point is left to the next read. A float that is read up to a point has an exponent. -/
theorem read_before_point (s : TokenStream) :
    (∀ gap number exponent tail, Longest IsGap s.rest gap →
      s.rest = gap ++ (number ++ (exponent ++ '.' :: tail)) → IsPointed number →
      (exponent = [] →
        s.read.1.kind = .error ∧ s.read.1.message = some "unexpected '.' in number" ∧
          s.read.1.text.toList = number ++ ['.'] ∧ s.read.2.rest = tail) ∧
      (IsExponent exponent →
        s.read.1.kind = .float ∧ s.read.1.text.toList = number ++ exponent ∧
          s.read.2.rest = '.' :: tail)) ∧
    ∀ tail, s.read.1.kind = .float → s.read.2.rest = '.' :: tail →
      ∃ front exponent, (IsPointed front ∨ IsInteger front) ∧ IsExponent exponent ∧
        s.read.1.text.toList = front ++ exponent := by
  constructor
  · intro gap number exponent tail longest parts isPointed
    obtain ⟨kind, text, message, rest⟩ :=
      read_number longest parts (isPointed.startsNumber.append _)
    constructor
    · rintro rfl
      rw [List.nil_append, Number.scan_second_point isPointed] at kind text message rest
      exact ⟨kind, message, text, rest⟩
    · intro isExponent
      rw [Number.scan_exponent_point isPointed isExponent] at kind text rest
      exact ⟨kind, text, rest⟩
  · intro tail kind rest
    have going : s.read.1.isTerminal = false := by
      rw [Token.isTerminal, kind]
      rfl
    have isText := isText_read going
    have scanned : Lexeme.scan (Gap.split s.rest).2 =
        ((Lexeme.scan (Gap.split s.rest).2).1, '.' :: tail) :=
      Prod.ext rfl rest
    have ends : ¬ GoesOn s.read.1.kind s.read.1.text.toList '.' := by
      have ends := Lexeme.not_goesOn_of_scan scanned going
      simpa only [read, Lexeme.token, String.toList_ofList] using ends
    rw [kind] at isText ends
    generalize s.read.1.text.toList = text at isText ends ⊢
    cases isText with
    | float isFloat =>
      cases isFloat with
      | pointed isPointed => exact absurd (.inr ⟨rfl, .inr isPointed⟩) ends
      | pointedExponent isPointed isExponent => exact ⟨_, _, .inl isPointed, isExponent, rfl⟩
      | wholeExponent isInteger isExponent => exact ⟨_, _, .inr isInteger, isExponent, rfl⟩

private theorem isDigits_singleton {c : Char} (digit : isDigit c = true) : IsDigits [c] :=
  ⟨List.cons_ne_nil _ _, List.forall_mem_singleton.mpr digit⟩

private theorem isPointed_halves : IsPointed ['1', '.', '5'] :=
  .inner (.mk .absent (isDigits_singleton (by decide))) (isDigits_singleton (by decide))

private theorem isExponent_three : IsExponent ['e', '3'] :=
  .mk (.inl rfl) .absent (isDigits_singleton (by decide)).all

/-- A second point is refused behind a fraction and left over behind an exponent. -/
theorem fraction_refused_and_exponent_read :
    ((ofSource "1.5.").read.1.kind = .error ∧
      (ofSource "1.5.").read.1.message = some "unexpected '.' in number") ∧
    ((ofSource "1.5e3.").read.1.kind = .float ∧ (ofSource "1.5e3.").read.2.rest = ['.']) ∧
    ∃ front exponent, (IsPointed front ∨ IsInteger front) ∧ IsExponent exponent ∧
      (ofSource "1.5e3.").read.1.text.toList = front ++ exponent := by
  obtain ⟨refused, -⟩ := (read_before_point (ofSource "1.5.")).1 [] _ [] []
    (Gap.split_longest "1.5.".toList) rfl isPointed_halves
  obtain ⟨-, read⟩ := (read_before_point (ofSource "1.5e3.")).1 [] _ ['e', '3'] []
    (Gap.split_longest "1.5e3.".toList) rfl isPointed_halves
  obtain ⟨error, message, -, -⟩ := refused rfl
  obtain ⟨float, -, rest⟩ := read isExponent_three
  exact ⟨⟨error, message⟩, ⟨float, rest⟩,
    (read_before_point (ofSource "1.5e3.")).2 [] float rest⟩

/-- With an exponent before it a second point goes unnoticed: one spelling is read as two numbers.
-/
theorem point_behind_exponent_unnoticed :
    ∃ number exponent tail, IsPointed number ∧ IsExponent exponent ∧
      (ofSource "1.5e3.25").rest = number ++ (exponent ++ '.' :: tail) ∧
      (ofSource "1.5e3.25").tokenize.1.map (fun t => (t.kind, t.text, t.message)) =
        [(.float, "1.5e3", none), (.float, ".25", none), (.empty, "", none)] :=
  ⟨_, _, ['2', '5'], isPointed_halves, isExponent_three, rfl, by decide +kernel⟩

end TokenStream

end Sexp
