import Sexp.Lexeme.Number
import Sexp.Proofs.Lexeme.Grammar

set_option autoImplicit false
set_option relaxedAutoImplicit false

/-!
# Numbers are scanned as the grammar says

A text that begins as a number does has one of three parts at its front: a number up to its
fraction, an integer with a point that no digit follows, or an integer without a point. For each of
them `scan` is computed, and the grammar reads off the result.
-/

namespace Sexp.Number

open Grammar
open Text (Longest)

variable {text front rest whole number fraction exponent : List Char}

theorem not_startsWithDigit_cons {c : Char} (noDigit : isDigit c = false) :
    ¬ StartsWithDigit (c :: rest) := by
  rintro ⟨d, tail, same, digit⟩
  rw [← (List.cons.inj same).1, noDigit] at digit
  contradiction

theorem startsWithDigit_append (isDigits : IsDigits fraction) :
    StartsWithDigit (fraction ++ rest) := by
  cases fraction with
  | nil => exact absurd rfl isDigits.ne_nil
  | cons d fraction => exact ⟨d, fraction ++ rest, rfl, isDigits.all d (by simp)⟩

theorem splitDigits_append_of_all (all : ∀ c ∈ front, isDigit c = true) :
    splitDigits (front ++ rest) = (front ++ (splitDigits rest).1, (splitDigits rest).2) := by
  simp only [splitDigits, List.takeWhile_append_of_pos all, List.dropWhile_append_of_pos all]

theorem splitDigits_of_stop (stop : ¬ StartsWithDigit rest) : splitDigits rest = ([], rest) := by
  cases rest with
  | nil => rfl
  | cons c rest =>
    have noDigit : ¬ isDigit c = true := fun digit => stop ⟨c, rest, rfl, digit⟩
    simp [splitDigits, noDigit]

theorem all_splitDigits (text : List Char) : ∀ c ∈ (splitDigits text).1, isDigit c = true :=
  List.all_eq_true.mp List.all_takeWhile

theorem splitDigits_stop (text : List Char) : ¬ StartsWithDigit (splitDigits text).2 := by
  rintro ⟨d, tail, same, digit⟩
  have stop := List.head?_dropWhile_not isDigit text
  rw [show text.dropWhile isDigit = d :: tail from same] at stop
  simp [digit] at stop

theorem exists_digits (starts : StartsWithDigit text) :
    ∃ digits rest, IsDigits digits ∧ ¬ StartsWithDigit rest ∧ text = digits ++ rest := by
  refine ⟨(splitDigits text).1, (splitDigits text).2, ⟨?_, all_splitDigits text⟩,
    splitDigits_stop text, (splitDigits_append text).symm⟩
  obtain ⟨d, tail, rfl, digit⟩ := starts
  simp [splitDigits, digit]

theorem isSign_splitSign (text : List Char) : IsSign (splitSign text).1 := by
  unfold splitSign
  split
  · exact .plus
  · exact .minus
  · exact .absent

theorem splitSign_of_head (stop : ∀ c ∈ rest.head?, ¬ (c = '+' ∨ c = '-')) :
    splitSign rest = ([], rest) := by
  cases rest with
  | nil => rfl
  | cons c rest =>
    obtain ⟨plus, minus⟩ := not_or.mp (stop c rfl)
    simp [splitSign, plus, minus]

theorem splitSign_append_of_head {sign : List Char} (isSign : IsSign sign)
    (stop : ∀ c ∈ rest.head?, ¬ (c = '+' ∨ c = '-')) : splitSign (sign ++ rest) = (sign, rest) := by
  cases isSign with
  | plus => rfl
  | minus => rfl
  | absent => exact splitSign_of_head stop

theorem splitSign_append_of_digit {sign : List Char} (isSign : IsSign sign)
    (starts : StartsWithDigit rest) : splitSign (sign ++ rest) = (sign, rest) := by
  apply splitSign_append_of_head isSign
  obtain ⟨d, tail, rfl, digit⟩ := starts
  rintro c head (rfl | rfl) <;> cases head <;> exact absurd digit (by decide)

theorem isExponent_splitExponent (present : (splitExponent text).1 ≠ []) :
    IsExponent (splitExponent text).1 := by
  unfold splitExponent at present ⊢
  split
  · simp at present
  · split
    · rename_i marker
      exact .mk marker (isSign_splitSign _) (all_splitDigits _)
    · rename_i marker
      simp [marker] at present

theorem prefix_splitExponent (isExponent : IsExponent exponent) :
    exponent <+: (splitExponent (exponent ++ rest)).1 := by
  cases isExponent with
  | @mk marker sign digits isMarker isSign all =>
    suffices sign ++ digits <+:
        (splitSign (sign ++ (digits ++ rest))).1 ++
          (splitDigits (splitSign (sign ++ (digits ++ rest))).2).1 by
      simpa [splitExponent, isMarker] using this
    by_cases empty : digits = []
    · subst empty
      cases isSign with
      | absent => simp
      | plus => simp [splitSign]
      | minus => simp [splitSign]
    · have starts : StartsWithDigit (digits ++ rest) := startsWithDigit_append ⟨empty, all⟩
      rw [splitSign_append_of_digit isSign starts, splitDigits_append_of_all all,
        ← List.append_assoc]
      exact List.prefix_append _ _

theorem not_startsWithDigit_exponent (isExponent : IsExponent exponent) :
    ¬ StartsWithDigit (exponent ++ rest) := by
  cases isExponent with
  | mk isMarker _ _ =>
    rcases isMarker with rfl | rfl <;> exact not_startsWithDigit_cons (by decide)

theorem exponent_ne_point (isExponent : IsExponent exponent) (tail : List Char) :
    exponent ++ rest ≠ '.' :: tail := by
  cases isExponent with
  | mk isMarker _ _ => rcases isMarker with rfl | rfl <;> simp

private theorem split_whole (rest : List Char) (isInteger : IsInteger whole) :
    ∃ sign digits, whole = sign ++ digits ∧ splitSign (whole ++ rest) = (sign, digits ++ rest) ∧
      splitDigits (digits ++ rest) = (digits ++ (splitDigits rest).1, (splitDigits rest).2) := by
  cases isInteger with
  | @mk sign digits isSign isDigits =>
    refine ⟨sign, digits, rfl, ?_, splitDigits_append_of_all isDigits.all⟩
    rw [List.append_assoc]
    exact splitSign_append_of_digit isSign (startsWithDigit_append isDigits)

theorem scan_whole_point (isInteger : IsInteger whole) :
    scan (whole ++ '.' :: rest) = scanFraction whole rest := by
  obtain ⟨sign, digits, parts, signed, run⟩ := split_whole ('.' :: rest) isInteger
  rw [splitDigits_of_stop (not_startsWithDigit_cons (by decide))] at run
  simp only [scan, signed, run]
  simp [parts]

theorem scan_whole (isInteger : IsInteger whole) (stop : ¬ StartsWithDigit rest)
    (noPoint : ∀ tail, rest ≠ '.' :: tail) :
    scan (whole ++ rest) =
      if (splitExponent rest).1 = [] then (.integer whole, rest)
      else (.float (whole ++ (splitExponent rest).1), (splitExponent rest).2) := by
  obtain ⟨sign, digits, parts, signed, run⟩ := split_whole rest isInteger
  rw [splitDigits_of_stop stop] at run
  have nothingLost := splitExponent_append rest
  simp only [scan, signed, run]
  generalize splitExponent rest = pieces at nothingLost ⊢
  obtain ⟨exponent, tail⟩ := pieces
  cases exponent with
  | nil =>
    have same : tail = rest := nothingLost
    simp [parts, same]
  | cons c exponent => simp [parts]

theorem scanFraction_digits (isDigits : IsDigits fraction) :
    scanFraction text (fraction ++ rest) =
      scanAfterFraction (text ++ '.' :: (fraction ++ (splitDigits rest).1)) (splitDigits rest).2
    := by
  rw [scanFraction, splitDigits_append_of_all isDigits.all]
  split <;> rename_i run
  · exact absurd (List.append_eq_nil_iff.mp (Prod.mk.inj run).1).1 isDigits.ne_nil
  · rw [← (Prod.mk.inj run).1, ← (Prod.mk.inj run).2]

theorem scanFraction_of_stop (stop : ¬ StartsWithDigit rest) :
    scanFraction text rest = (.malformed .missingFraction (text ++ ['.']), rest) := by
  rw [scanFraction, splitDigits_of_stop stop]

theorem scan_leading_point : scan ('.' :: rest) = scanFraction [] rest := by
  have run : splitDigits ('.' :: rest) = ([], '.' :: rest) :=
    splitDigits_of_stop (not_startsWithDigit_cons (by decide))
  simp [scan, splitSign, run]

theorem scan_pointed (isPointed : IsPointed number) :
    scan (number ++ rest) =
      scanAfterFraction (number ++ (splitDigits rest).1) (splitDigits rest).2 := by
  cases isPointed with
  | @inner whole fraction isInteger isDigits =>
    rw [List.append_assoc, List.cons_append, scan_whole_point isInteger,
      scanFraction_digits isDigits]
    simp
  | @leading fraction isDigits =>
    rw [List.cons_append, scan_leading_point, scanFraction_digits isDigits]
    simp

theorem scan_of_lacksFraction (lacks : LacksFraction text front) :
    ∃ rest, scan text = (.malformed .missingFraction front, rest) := by
  obtain ⟨whole, rest, isInteger, stop, rfl, rfl⟩ := lacks
  exact ⟨rest, by rw [scan_whole_point isInteger, scanFraction_of_stop stop]⟩

theorem scan_of_hasSecondPoint (second : HasSecondPoint text front) :
    ∃ rest, scan text = (.malformed .secondPoint front, rest) := by
  obtain ⟨number, rest, isPointed, rfl, rfl⟩ := second
  refine ⟨rest, ?_⟩
  rw [scan_pointed isPointed, splitDigits_of_stop (not_startsWithDigit_cons (by decide))]
  simp [scanAfterFraction]

/-- What the grammar says of a scanned number. -/
private def Scanned (text : List Char) : Lexeme → Prop
  | .integer front => IsInteger front
  | .float front => IsFloat front
  | .malformed .missingFraction front => LacksFraction text front
  | .malformed .secondPoint front => HasSecondPoint text front
  | _ => False

private theorem scanned_afterFraction (isPointed : IsPointed number) :
    Scanned (number ++ rest) (scanAfterFraction number rest).1 := by
  unfold scanAfterFraction
  split
  · exact ⟨number, _, isPointed, rfl, rfl⟩
  · by_cases present : (splitExponent rest).1 = []
    · simpa [Scanned, present] using IsFloat.pointed isPointed
    · exact .pointedExponent isPointed (isExponent_splitExponent present)

private theorem scanned_pointed (isPointed : IsPointed number) (stop : ¬ StartsWithDigit rest) :
    Scanned (number ++ rest) (scan (number ++ rest)).1 := by
  rw [scan_pointed isPointed, splitDigits_of_stop stop, List.append_nil]
  exact scanned_afterFraction isPointed

private theorem scanned_whole (isInteger : IsInteger whole) (stop : ¬ StartsWithDigit rest) :
    Scanned (whole ++ rest) (scan (whole ++ rest)).1 := by
  by_cases point : ∃ tail, rest = '.' :: tail
  · obtain ⟨tail, rfl⟩ := point
    by_cases starts : StartsWithDigit tail
    · obtain ⟨fraction, tail, isDigits, ended, rfl⟩ := exists_digits starts
      have isPointed := IsPointed.inner isInteger isDigits
      simpa using scanned_pointed isPointed ended
    · rw [scan_whole_point isInteger, scanFraction_of_stop starts]
      exact ⟨whole, tail, isInteger, starts, rfl, rfl⟩
  · rw [scan_whole isInteger stop fun tail same => point ⟨tail, same⟩]
    split
    · exact isInteger
    · rename_i present
      exact .wholeExponent isInteger (isExponent_splitExponent present)

private theorem scanned_scan (starts : StartsNumber text) : Scanned text (scan text).1 := by
  cases starts with
  | @digit c rest digit =>
    obtain ⟨digits, rest, isDigits, stop, parts⟩ := exists_digits ⟨c, rest, rfl, digit⟩
    rw [parts]
    exact scanned_whole (.mk .absent isDigits) stop
  | @signed c d rest sign digit =>
    obtain ⟨digits, rest, isDigits, stop, parts⟩ := exists_digits ⟨d, rest, rfl, digit⟩
    rw [parts]
    rcases sign with rfl | rfl
    · exact scanned_whole (.mk .plus isDigits) stop
    · exact scanned_whole (.mk .minus isDigits) stop
  | @pointed d rest digit =>
    obtain ⟨digits, rest, isDigits, stop, parts⟩ := exists_digits ⟨d, rest, rfl, digit⟩
    rw [parts]
    exact scanned_pointed (.leading isDigits) stop

private theorem prefix_scanAfterFraction (text rest : List Char) :
    text <+: (scanAfterFraction text rest).1.spelling := by
  unfold scanAfterFraction
  split <;> simp [Lexeme.spelling]

private theorem prefix_scanFraction (text rest : List Char) :
    text <+: (scanFraction text rest).1.spelling := by
  unfold scanFraction
  split
  · simp [Lexeme.spelling]
  · exact (List.prefix_append _ _).trans (prefix_scanAfterFraction _ _)

private theorem prefix_scan_integer (isInteger : IsInteger whole) (stop : ¬ StartsWithDigit rest) :
    whole <+: (scan (whole ++ rest)).1.spelling := by
  by_cases point : ∃ tail, rest = '.' :: tail
  · obtain ⟨tail, rfl⟩ := point
    rw [scan_whole_point isInteger]
    exact prefix_scanFraction _ _
  · rw [scan_whole isInteger stop fun tail same => point ⟨tail, same⟩]
    split <;> simp [Lexeme.spelling]

private theorem prefix_scan_of_isInteger (isInteger : IsInteger front) :
    front <+: (scan (front ++ rest)).1.spelling := by
  cases isInteger with
  | @mk sign digits isSign isDigits =>
    -- The digits of `rest` go on with those of the integer.
    have longer : IsDigits (digits ++ (splitDigits rest).1) := by
      refine ⟨by simp [isDigits.ne_nil], ?_⟩
      intro c member
      rcases List.mem_append.mp member with member | member
      · exact isDigits.all c member
      · exact all_splitDigits rest c member
    have reach := prefix_scan_integer (.mk isSign longer) (splitDigits_stop rest)
    simp only [List.append_assoc, splitDigits_append] at reach ⊢
    exact List.IsPrefix.trans (by simp) reach

private theorem prefix_scan_of_isFloat (isFloat : IsFloat front) :
    front <+: (scan (front ++ rest)).1.spelling := by
  cases isFloat with
  | pointed isPointed =>
    rw [scan_pointed isPointed]
    exact (List.prefix_append _ _).trans (prefix_scanAfterFraction _ _)
  | @pointedExponent number exponent isPointed isExponent =>
    rw [List.append_assoc, scan_pointed isPointed,
      splitDigits_of_stop (not_startsWithDigit_exponent isExponent), List.append_nil]
    unfold scanAfterFraction
    split
    · rename_i point
      exact absurd point (exponent_ne_point isExponent _)
    · exact (List.prefix_append_right_inj number).mpr (prefix_splitExponent isExponent)
  | @wholeExponent whole exponent isInteger isExponent =>
    have reach : exponent <+: (splitExponent (exponent ++ rest)).1 :=
      prefix_splitExponent isExponent
    have present : (splitExponent (exponent ++ rest)).1 ≠ [] := by
      intro empty
      rw [empty, List.prefix_nil] at reach
      cases isExponent with
      | mk => simp at reach
    rw [List.append_assoc, scan_whole isInteger (not_startsWithDigit_exponent isExponent)
      (exponent_ne_point isExponent), if_neg present]
    exact (List.prefix_append_right_inj whole).mpr reach

theorem prefix_scan (isNumber : IsNumber front) : front <+: (scan (front ++ rest)).1.spelling := by
  rcases isNumber with isInteger | isFloat
  · exact prefix_scan_of_isInteger isInteger
  · exact prefix_scan_of_isFloat isFloat

private theorem scan_longest (isNumber : IsNumber (scan text).1.spelling) :
    Longest IsNumber text (scan text).1.spelling := by
  refine .of_within ⟨_, scan_append text⟩ isNumber ?_
  rintro other tail rfl isNumber'
  exact prefix_scan isNumber'

private theorem not_lacksFraction {x : Lexeme} (scanned : (scan text).1 = x)
    (formed : x.kind ≠ .error) (broken : List Char) : ¬ LacksFraction text broken := by
  intro lacks
  obtain ⟨rest, run⟩ := scan_of_lacksFraction lacks
  rw [← scanned, run] at formed
  exact formed rfl

private theorem not_hasSecondPoint {x : Lexeme} (scanned : (scan text).1 = x)
    (formed : x.kind ≠ .error) (broken : List Char) : ¬ HasSecondPoint text broken := by
  intro second
  obtain ⟨rest, run⟩ := scan_of_hasSecondPoint second
  rw [← scanned, run] at formed
  exact formed rfl

theorem scan_reads (starts : StartsNumber text) :
    NumberReads text (scan text).1.kind (scan text).1.text (scan text).1.message? := by
  have grammar := scanned_scan starts
  have longest : IsNumber (scan text).1.spelling → Longest IsNumber text (scan text).1.spelling :=
    scan_longest
  cases scanned : (scan text).1 with
  | integer front =>
    rw [scanned] at grammar longest
    exact .integer (not_lacksFraction scanned (by simp [Lexeme.kind]))
      (not_hasSecondPoint scanned (by simp [Lexeme.kind])) (longest (.inl grammar)) grammar
  | float front =>
    rw [scanned] at grammar longest
    exact .float (not_lacksFraction scanned (by simp [Lexeme.kind]))
      (not_hasSecondPoint scanned (by simp [Lexeme.kind])) (longest (.inr grammar)) grammar
  | malformed why front =>
    rw [scanned] at grammar
    cases why with
    | missingFraction => exact .lacksFraction grammar
    | secondPoint => exact .secondPoint grammar
    | unterminatedString | strayCharacter => exact grammar.elim
  | _ =>
    rw [scanned] at grammar
    exact grammar.elim

private theorem isInteger_characters (isInteger : IsInteger whole) :
    ∀ c ∈ whole, c ≠ '.' ∧ c ≠ 'e' ∧ c ≠ 'E' := by
  cases isInteger with
  | @mk sign digits isSign isDigits =>
    intro c member
    rcases List.mem_append.mp member with member | member
    · cases isSign <;> simp_all
    · have digit := isDigits.all c member
      refine ⟨?_, ?_, ?_⟩ <;> rintro rfl <;> exact absurd digit (by decide)

private theorem isFloat_character (isFloat : IsFloat number) :
    ∃ c ∈ number, c = '.' ∨ c = 'e' ∨ c = 'E' := by
  have point {number : List Char} (isPointed : IsPointed number) : '.' ∈ number := by
    cases isPointed <;> simp
  cases isFloat with
  | pointed isPointed => exact ⟨'.', point isPointed, .inl rfl⟩
  | pointedExponent isPointed _ =>
    exact ⟨'.', List.mem_append_left _ (point isPointed), .inl rfl⟩
  | wholeExponent _ isExponent =>
    cases isExponent with
    | @mk marker _ _ isMarker _ _ => exact ⟨marker, by simp, .inr isMarker⟩

theorem not_isFloat_of_isInteger (isInteger : IsInteger whole) : ¬ IsFloat whole := by
  intro isFloat
  obtain ⟨c, member, special⟩ := isFloat_character isFloat
  obtain ⟨noPoint, noMarker, noCapital⟩ := isInteger_characters isInteger c member
  rcases special with point | marker | capital
  · exact noPoint point
  · exact noMarker marker
  · exact noCapital capital

private theorem scan_of_longest (starts : StartsNumber text)
    (noLack : ∀ broken, ¬ LacksFraction text broken)
    (noSecond : ∀ broken, ¬ HasSecondPoint text broken) (longest : Longest IsNumber text front) :
    (scan text).1.text = front ∧ (scan text).1.message? = none ∧
      ((scan text).1.kind = .integer ∧ IsInteger front ∨
        (scan text).1.kind = .float ∧ IsFloat front) := by
  have scanned := scan_reads starts
  generalize (scan text).1.kind = kind, (scan text).1.text = found,
    (scan text).1.message? = message at scanned ⊢
  cases scanned with
  | lacksFraction lacks => exact absurd lacks (noLack _)
  | secondPoint second => exact absurd second (noSecond _)
  | integer _ _ longest' isInteger =>
    have same := longest'.unique longest
    exact ⟨same, rfl, .inl ⟨rfl, same ▸ isInteger⟩⟩
  | float _ _ longest' isFloat =>
    have same := longest'.unique longest
    exact ⟨same, rfl, .inr ⟨rfl, same ▸ isFloat⟩⟩

theorem scan_of_numberReads {kind : TokenKind} {message : Option String}
    (starts : StartsNumber text) (reads : NumberReads text kind front message) :
    (scan text).1.kind = kind ∧ (scan text).1.text = front ∧ (scan text).1.message? = message := by
  cases reads with
  | lacksFraction lacks =>
    obtain ⟨rest, run⟩ := scan_of_lacksFraction lacks
    rw [run]
    exact ⟨rfl, rfl, rfl⟩
  | secondPoint second =>
    obtain ⟨rest, run⟩ := scan_of_hasSecondPoint second
    rw [run]
    exact ⟨rfl, rfl, rfl⟩
  | integer noLack noSecond longest isInteger =>
    obtain ⟨found, noMessage, ⟨kind, -⟩ | ⟨-, isFloat⟩⟩ :=
      scan_of_longest starts noLack noSecond longest
    · exact ⟨kind, found, noMessage⟩
    · exact absurd isFloat (not_isFloat_of_isInteger isInteger)
  | float noLack noSecond longest isFloat =>
    obtain ⟨found, noMessage, ⟨-, isInteger⟩ | ⟨kind, -⟩⟩ :=
      scan_of_longest starts noLack noSecond longest
    · exact absurd isFloat (not_isFloat_of_isInteger isInteger)
    · exact ⟨kind, found, noMessage⟩

end Sexp.Number
