import Sexp.Proofs.Lexeme.Scan

set_option autoImplicit false
set_option relaxedAutoImplicit false

/-!
# Where lexemes end

Whether a lexeme ends at a place is settled by the one character behind that place. `GoesOn` names
the characters before which a lexeme does not end; before all others, and at the end of the text, it
is read as it is spelled.
-/

namespace Sexp

namespace Grammar

/-- The texts of tokens by kind; tokens that end their source are left out. -/
inductive IsText : TokenKind → List Char → Prop
  | opening : IsText .opening []
  | closing : IsText .closing []
  | string {body : List Char} : IsBody body → IsText .string body
  | symbol {name : List Char} : IsSymbol name → ¬ StartsNumber name → IsText .symbol name
  | integer {digits : List Char} : IsInteger digits → IsText .integer digits
  | float {digits : List Char} : IsFloat digits → IsText .float digits

/-- A number is longer with the character behind it, or that is a point, which cannot stand there.
-/
def NumberGoesOn (number : List Char) (c : Char) : Prop :=
  IsNumber (number ++ [c]) ∨ c = '.' ∧ (IsInteger number ∨ IsPointed number)

/-- A token of this kind and text does not end before the character `c`. -/
def GoesOn : TokenKind → List Char → Char → Prop
  | .symbol, _, c => isSymbolChar c = true
  | .integer, text, c | .float, text, c => NumberGoesOn text c
  | _, _, _ => False

theorem IsDigits.append_digit {digits : List Char} {d : Char} (isDigits : IsDigits digits)
    (digit : isDigit d = true) : IsDigits (digits ++ [d]) :=
  ⟨by simp, List.forall_mem_append.mpr ⟨isDigits.all, List.forall_mem_singleton.mpr digit⟩⟩

theorem IsInteger.append_digit {whole : List Char} {d : Char} (isInteger : IsInteger whole)
    (digit : isDigit d = true) : IsInteger (whole ++ [d]) := by
  cases isInteger with
  | mk isSign isDigits =>
    rw [List.append_assoc]
    exact .mk isSign (isDigits.append_digit digit)

theorem IsPointed.append_digit {number : List Char} {d : Char} (isPointed : IsPointed number)
    (digit : isDigit d = true) : IsPointed (number ++ [d]) := by
  cases isPointed with
  | inner isInteger isDigits =>
    rw [List.append_assoc, List.cons_append]
    exact .inner isInteger (isDigits.append_digit digit)
  | leading isDigits => exact .leading (isDigits.append_digit digit)

theorem IsSymbol.append {name : List Char} {c : Char} (isSymbol : IsSymbol name)
    (more : isSymbolChar c = true) : IsSymbol (name ++ [c]) := by
  cases isSymbol with
  | mk start all =>
    exact .mk start (List.forall_mem_append.mpr ⟨all, List.forall_mem_singleton.mpr more⟩)

theorem isExponent_marker {c : Char} (marker : c = 'e' ∨ c = 'E') : IsExponent [c] :=
  .mk marker .absent (by simp : ∀ d ∈ ([] : List Char), isDigit d = true)

theorem IsExponent.append_digit {exponent : List Char} {d : Char} (isExponent : IsExponent exponent)
    (digit : isDigit d = true) : IsExponent (exponent ++ [d]) := by
  cases isExponent with
  | @mk marker sign digits isMarker isSign all =>
    rw [List.cons_append, List.append_assoc]
    exact .mk isMarker isSign
      (List.forall_mem_append.mpr ⟨all, List.forall_mem_singleton.mpr digit⟩)

theorem StartsNumber.append {text : List Char} (starts : StartsNumber text) (rest : List Char) :
    StartsNumber (text ++ rest) := by
  cases starts with
  | digit digit => exact .digit digit
  | signed sign digit => exact .signed sign digit
  | pointed digit => exact .pointed digit

theorem IsInteger.startsNumber {whole : List Char} (isInteger : IsInteger whole) :
    StartsNumber whole := by
  cases isInteger with
  | @mk sign digits isSign isDigits =>
    obtain ⟨d, rest, rfl⟩ := List.exists_cons_of_ne_nil isDigits.ne_nil
    have digit : isDigit d = true := isDigits.all d (by simp)
    cases isSign with
    | absent => exact .digit digit
    | plus => exact .signed (.inl rfl) digit
    | minus => exact .signed (.inr rfl) digit

theorem IsPointed.startsNumber {number : List Char} (isPointed : IsPointed number) :
    StartsNumber number := by
  cases isPointed with
  | inner isInteger _ => exact isInteger.startsNumber.append _
  | @leading fraction isDigits =>
    obtain ⟨d, rest, rfl⟩ := List.exists_cons_of_ne_nil isDigits.ne_nil
    exact .pointed (isDigits.all d (by simp))

theorem IsFloat.startsNumber {number : List Char} (isFloat : IsFloat number) :
    StartsNumber number := by
  cases isFloat with
  | pointed isPointed => exact isPointed.startsNumber
  | pointedExponent isPointed _ => exact isPointed.startsNumber.append _
  | wholeExponent isInteger _ => exact isInteger.startsNumber.append _

theorem IsSymbol.all {name : List Char} (isSymbol : IsSymbol name) :
    ∀ c ∈ name, isSymbolChar c = true := by
  cases isSymbol with
  | mk start all =>
    refine List.forall_mem_cons.mpr ⟨?_, all⟩
    rw [isSymbolChar, start]
    rfl

theorem isSymbolChar_of_isDigit {c : Char} (digit : isDigit c = true) : isSymbolChar c = true := by
  simp [isSymbolChar, digit]

theorem IsSign.all {sign : List Char} (isSign : IsSign sign) :
    ∀ c ∈ sign, isSymbolChar c = true := by
  cases isSign with
  | absent => exact List.forall_mem_nil _
  | plus | minus => exact List.forall_mem_singleton.mpr (by decide)

theorem IsInteger.all {whole : List Char} (isInteger : IsInteger whole) :
    ∀ c ∈ whole, isSymbolChar c = true := by
  cases isInteger with
  | @mk sign digits isSign isDigits =>
    exact List.forall_mem_append.mpr
      ⟨isSign.all, fun c member => isSymbolChar_of_isDigit (isDigits.all c member)⟩

theorem IsPointed.all {number : List Char} (isPointed : IsPointed number) :
    ∀ c ∈ number, isSymbolChar c = true := by
  have fraction {digits : List Char} (isDigits : IsDigits digits) :
      ∀ c ∈ '.' :: digits, isSymbolChar c = true :=
    List.forall_mem_cons.mpr
      ⟨by decide, fun c member => isSymbolChar_of_isDigit (isDigits.all c member)⟩
  cases isPointed with
  | inner isInteger isDigits =>
    exact List.forall_mem_append.mpr ⟨isInteger.all, fraction isDigits⟩
  | leading isDigits => exact fraction isDigits

theorem IsExponent.all {exponent : List Char} (isExponent : IsExponent exponent) :
    ∀ c ∈ exponent, isSymbolChar c = true := by
  cases isExponent with
  | @mk marker sign digits isMarker isSign all =>
    refine List.forall_mem_cons.mpr ⟨?_, List.forall_mem_append.mpr
      ⟨isSign.all, fun c member => isSymbolChar_of_isDigit (all c member)⟩⟩
    rcases isMarker with rfl | rfl <;> decide

theorem IsNumber.all {number : List Char} (isNumber : IsNumber number) :
    ∀ c ∈ number, isSymbolChar c = true := by
  rcases isNumber with isInteger | isFloat
  · exact isInteger.all
  · cases isFloat with
    | pointed isPointed => exact isPointed.all
    | pointedExponent isPointed isExponent =>
      exact List.forall_mem_append.mpr ⟨isPointed.all, isExponent.all⟩
    | wholeExponent isInteger isExponent =>
      exact List.forall_mem_append.mpr ⟨isInteger.all, isExponent.all⟩

theorem not_goesOn {c : Char} (stop : isSymbolChar c = false) (kind : TokenKind)
    (text : List Char) : ¬ GoesOn kind text c := by
  have number : ¬ NumberGoesOn text c := by
    rintro (isNumber | ⟨rfl, -⟩)
    · have within := isNumber.all c (by simp)
      rw [stop] at within
      contradiction
    · exact absurd stop (by decide)
  cases kind with
  | integer | float => exact number
  | symbol => exact Bool.eq_false_iff.mp stop
  | _ => exact id

end Grammar

namespace Number

open Grammar

variable {rest whole number exponent : List Char}

theorem not_startsWithDigit_of_head (stop : ∀ c ∈ rest.head?, ¬ isDigit c = true) :
    ¬ StartsWithDigit rest := by
  rintro ⟨d, tail, rfl, digit⟩
  exact stop d rfl digit

theorem splitExponent_of_head (stop : ∀ c ∈ rest.head?, ¬ (c = 'e' ∨ c = 'E')) :
    splitExponent rest = ([], rest) := by
  cases rest with
  | nil => rfl
  | cons c rest => rw [splitExponent, if_neg (stop c rfl)]

theorem splitExponent_append_of_head (isExponent : IsExponent exponent)
    (stop : ∀ c ∈ rest.head?, ¬ IsExponent (exponent ++ [c])) :
    splitExponent (exponent ++ rest) = (exponent, rest) := by
  have noDigit : ¬ StartsWithDigit rest :=
    not_startsWithDigit_of_head fun c head digit => stop c head (isExponent.append_digit digit)
  cases isExponent with
  | @mk marker sign digits isMarker isSign all =>
    suffices splitSign (sign ++ (digits ++ rest)) = (sign, digits ++ rest) by
      simp [splitExponent, isMarker, this, splitDigits_append_of_all all,
        splitDigits_of_stop noDigit]
    by_cases empty : digits = []
    · subst empty
      cases isSign with
      | plus => rfl
      | minus => rfl
      | absent =>
        -- A sign behind the bare marker would belong to the exponent.
        apply splitSign_of_head
        rintro c head (rfl | rfl)
        · exact stop '+' head (@IsExponent.mk marker ['+'] [] isMarker .plus all)
        · exact stop '-' head (@IsExponent.mk marker ['-'] [] isMarker .minus all)
    · exact splitSign_append_of_digit isSign (startsWithDigit_append ⟨empty, all⟩)

theorem scan_of_isInteger (isInteger : IsInteger whole)
    (stop : ∀ c ∈ rest.head?, ¬ NumberGoesOn whole c) :
    scan (whole ++ rest) = (.integer whole, rest) := by
  have noDigit : ¬ StartsWithDigit rest :=
    not_startsWithDigit_of_head fun c head digit =>
      stop c head (.inl (.inl (isInteger.append_digit digit)))
  have noPoint : ∀ tail, rest ≠ '.' :: tail := by
    rintro tail rfl
    exact stop '.' rfl (.inr ⟨rfl, .inl isInteger⟩)
  have noExponent : splitExponent rest = ([], rest) :=
    splitExponent_of_head fun c head marker =>
      stop c head (.inl (.inr (.wholeExponent isInteger (isExponent_marker marker))))
  rw [scan_whole isInteger noDigit noPoint, noExponent, if_pos rfl]

private theorem scanAfterFraction_of_head (noPoint : ∀ tail, rest ≠ '.' :: tail) :
    scanAfterFraction number rest =
      (.float (number ++ (splitExponent rest).1), (splitExponent rest).2) := by
  unfold scanAfterFraction
  split
  · exact absurd rfl (noPoint _)
  · rfl

theorem scan_of_isFloat (isFloat : IsFloat number)
    (stop : ∀ c ∈ rest.head?, ¬ NumberGoesOn number c) :
    scan (number ++ rest) = (.float number, rest) := by
  cases isFloat with
  | pointed isPointed =>
    have noDigit : ¬ StartsWithDigit rest :=
      not_startsWithDigit_of_head fun c head digit =>
        stop c head (.inl (.inr (.pointed (isPointed.append_digit digit))))
    have noPoint : ∀ tail, rest ≠ '.' :: tail := by
      rintro tail rfl
      exact stop '.' rfl (.inr ⟨rfl, .inr isPointed⟩)
    have noExponent : splitExponent rest = ([], rest) :=
      splitExponent_of_head fun c head marker =>
        stop c head (.inl (.inr (.pointedExponent isPointed (isExponent_marker marker))))
    rw [scan_pointed isPointed, splitDigits_of_stop noDigit, List.append_nil,
      scanAfterFraction_of_head noPoint, noExponent, List.append_nil]
  | @pointedExponent number exponent isPointed isExponent =>
    have split : splitExponent (exponent ++ rest) = (exponent, rest) := by
      apply splitExponent_append_of_head isExponent
      intro c head longer
      apply stop c head
      rw [NumberGoesOn, List.append_assoc]
      exact .inl (.inr (.pointedExponent isPointed longer))
    rw [List.append_assoc, scan_pointed isPointed,
      splitDigits_of_stop (not_startsWithDigit_exponent isExponent), List.append_nil,
      scanAfterFraction_of_head (exponent_ne_point isExponent), split]
  | @wholeExponent whole exponent isInteger isExponent =>
    have split : splitExponent (exponent ++ rest) = (exponent, rest) := by
      apply splitExponent_append_of_head isExponent
      intro c head longer
      apply stop c head
      rw [NumberGoesOn, List.append_assoc]
      exact .inl (.inr (.wholeExponent isInteger longer))
    have present : exponent ≠ [] := by
      cases isExponent
      exact List.cons_ne_nil _ _
    rw [List.append_assoc, scan_whole isInteger (not_startsWithDigit_exponent isExponent)
      (exponent_ne_point isExponent), split, if_neg present]

theorem not_goesOn_of_scan {c : Char} (formed : (scan (number ++ c :: rest)).1.kind ≠ .error)
    (whole : (scan (number ++ c :: rest)).1.spelling = number) : ¬ NumberGoesOn number c := by
  have noLonger (more tail : List Char) (parts : number ++ c :: rest = number ++ more ++ tail)
      (isNumber : IsNumber (number ++ more)) : more = [] := by
    have reach : number ++ more <+: (scan (number ++ more ++ tail)).1.spelling :=
      prefix_scan isNumber
    rw [← parts, whole] at reach
    have shorter := reach.length_le
    rw [List.length_append] at shorter
    exact List.eq_nil_of_length_eq_zero (by omega)
  rintro (isNumber | ⟨rfl, isInteger | isPointed⟩)
  · exact List.cons_ne_nil _ _ (noLonger [c] rest (by simp) isNumber)
  · by_cases starts : StartsWithDigit rest
    · obtain ⟨fraction, tail, isDigits, -, rfl⟩ := exists_digits starts
      have isPointed := IsPointed.inner isInteger isDigits
      exact List.cons_ne_nil _ _ (noLonger _ tail (by simp) (.inr (.pointed isPointed)))
    · obtain ⟨tail, scanned⟩ := scan_of_lacksFraction ⟨_, rest, isInteger, starts, rfl, rfl⟩
      rw [scanned] at formed
      exact formed rfl
  · obtain ⟨tail, scanned⟩ := scan_of_hasSecondPoint ⟨_, rest, isPointed, rfl, rfl⟩
    rw [scanned] at formed
    exact formed rfl

end Number

namespace Lexeme

open Grammar
open Text (Longest)

variable {rest name : List Char}

private theorem scanSymbol_of_head (all : ∀ c ∈ name, isSymbolChar c = true)
    (stop : ∀ c ∈ rest.head?, ¬ isSymbolChar c = true) :
    scanSymbol (name ++ rest) = (.symbol name, rest) := by
  rw [scanSymbol, List.takeWhile_append_of_pos all, List.dropWhile_append_of_pos all]
  cases rest with
  | nil => simp
  | cons c rest =>
    have noSymbol : ¬ isSymbolChar c = true := stop c rfl
    simp [noSymbol]

private theorem not_startsNumber_append (noNumber : ¬ StartsNumber name) (present : name ≠ [])
    (stop : ∀ c ∈ rest.head?, ¬ isSymbolChar c = true) : ¬ StartsNumber (name ++ rest) := by
  have noDigit {d : Char} (head : d ∈ rest.head?) : ¬ isDigit d = true := by
    intro digit
    exact stop d head (by simp [isSymbolChar, digit])
  intro starts
  obtain ⟨c, name, rfl⟩ := List.exists_cons_of_ne_nil present
  cases name with
  | nil =>
    cases starts with
    | digit digit => exact noNumber (.digit digit)
    | signed _ digit => exact noDigit rfl digit
    | pointed digit => exact noDigit rfl digit
  | cons d name =>
    cases starts with
    | digit digit => exact noNumber (.digit digit)
    | signed sign digit => exact noNumber (.signed sign digit)
    | pointed digit => exact noNumber (.pointed digit)

theorem scan_of_isSymbol (isSymbol : IsSymbol name) (noNumber : ¬ StartsNumber name)
    (stop : ∀ c ∈ rest.head?, ¬ isSymbolChar c = true) :
    scan (name ++ rest) = (.symbol name, rest) := by
  have all := isSymbol.all
  cases isSymbol with
  | @mk c name start _ =>
    have noNumber' := not_startsNumber_append noNumber (List.cons_ne_nil _ _) stop
    have scanned : scan (c :: name ++ rest) = scanSymbol (c :: name ++ rest) :=
      scan_of_isSymbolStart noNumber' start
    rw [scanned]
    exact scanSymbol_of_head all stop

theorem exists_lexeme {kind : TokenKind} {text : List Char} (isText : IsText kind text) :
    ∃ x : Lexeme, x.kind = kind ∧ x.text = text := by
  cases isText with
  | opening => exact ⟨.opening, rfl, rfl⟩
  | closing => exact ⟨.closing, rfl, rfl⟩
  | string => exact ⟨.string text, rfl, rfl⟩
  | symbol => exact ⟨.symbol text, rfl, rfl⟩
  | integer => exact ⟨.integer text, rfl, rfl⟩
  | float => exact ⟨.float text, rfl, rfl⟩

theorem scan_spelling_append {x : Lexeme} (isText : IsText x.kind x.text)
    (stop : ∀ c ∈ rest.head?, ¬ GoesOn x.kind x.text c) : scan (x.spelling ++ rest) = (x, rest) := by
  cases x with
  | opening => rfl
  | closing => rfl
  | string body =>
    cases isText with
    | string isBody =>
      have scanned : scanString (body ++ '"' :: rest) = (.string body, rest) :=
        scanString_of_isBody isBody
      simpa [spelling, scan] using scanned
  | symbol name =>
    cases isText with
    | symbol isSymbol noNumber => exact scan_of_isSymbol isSymbol noNumber stop
  | integer digits =>
    cases isText with
    | integer isInteger =>
      have number := scan_of_startsNumber (isInteger.startsNumber.append rest)
      exact number.trans (Number.scan_of_isInteger isInteger stop)
  | float digits =>
    cases isText with
    | float isFloat =>
      have number := scan_of_startsNumber (isFloat.startsNumber.append rest)
      exact number.trans (Number.scan_of_isFloat isFloat stop)
  | finish | malformed => cases isText

theorem isText_scan {text : List Char} (going : (scan text).1.kind.isTerminal = false) :
    IsText (scan text).1.kind (scan text).1.text := by
  have reads := scan_reads text
  generalize (scan text).1.kind = kind, (scan text).1.text = front,
    (scan text).1.message? = message at reads going ⊢
  cases reads with
  | finish | unterminated | stray => cases going
  | opening => exact .opening
  | closing => exact .closing
  | string isBody => exact .string isBody
  | number starts reads =>
    cases reads with
    | lacksFraction | secondPoint => cases going
    | integer _ _ _ isInteger => exact .integer isInteger
    | float _ _ _ isFloat => exact .float isFloat
  | @symbol c rest name noNumber _ longest =>
    refine .symbol longest.holds ?_
    intro starts
    obtain ⟨tail, parts⟩ := longest.begins
    exact noNumber (parts ▸ starts.append tail)

private theorem not_goesOn_of_number {text front : List Char} {c : Char} {x : Lexeme}
    (starts : StartsNumber text) (scanned : scan text = (x, c :: rest)) (formed : x.kind ≠ .error)
    (spelled : x.spelling = front) (parts : front ++ c :: rest = text) : ¬ NumberGoesOn front c := by
  have number : Number.scan text = (x, c :: rest) := by
    rw [← scan_of_startsNumber starts, scanned]
  rw [← parts] at number
  apply Number.not_goesOn_of_scan
  · rw [number]
    exact formed
  · rw [number]
    exact spelled

theorem not_goesOn_of_scan {text : List Char} {x : Lexeme} {c : Char}
    (scanned : scan text = (x, c :: rest)) (going : x.kind.isTerminal = false) :
    ¬ GoesOn x.kind x.text c := by
  have parts := scan_append text
  have reads := scan_reads text
  rw [scanned] at parts reads
  cases x with
  | symbol name =>
    intro (more : isSymbolChar c = true)
    change name ++ c :: rest = text at parts
    cases reads with
    | symbol _ _ longest =>
      have longer := longest.length_le (name ++ [c]) ⟨rest, by rw [← parts]; simp⟩
        (longest.holds.append more)
      change (name ++ [c]).length ≤ name.length at longer
      rw [List.length_append, List.length_singleton] at longer
      omega
    | number _ reads => cases reads
  | integer digits =>
    cases reads with
    | number starts _ => exact not_goesOn_of_number starts scanned (by simp [kind]) rfl parts
  | float digits =>
    cases reads with
    | number starts _ => exact not_goesOn_of_number starts scanned (by simp [kind]) rfl parts
  | _ => exact id

/-- What comes behind a text changes nothing in its first lexeme, if this ends within the text or
does not go on. -/
theorem scan_append_of_stop {text more : List Char} (going : (scan text).1.kind.isTerminal = false)
    (stop : ∀ c ∈ more.head?, isSymbolChar c = false) :
    scan (text ++ more) = ((scan text).1, (scan text).2 ++ more) := by
  have parts := scan_append text
  have isText := isText_scan going
  have ends : ∀ c ∈ ((scan text).2 ++ more).head?, ¬ GoesOn (scan text).1.kind (scan text).1.text c
      := by
    intro c head
    cases left : (scan text).2 with
    | nil =>
      rw [left] at head
      exact not_goesOn (stop c head) _ _
    | cons d rest =>
      rw [left] at head
      obtain rfl := Option.some.inj head
      exact not_goesOn_of_scan (Prod.ext rfl left) going
  have scanned := scan_spelling_append isText ends
  rwa [← List.append_assoc, parts] at scanned

private theorem not_startsWithDigit_append {text more : List Char} (noDigit : ¬ StartsWithDigit text)
    (stop : ∀ c ∈ more.head?, isSymbolChar c = false) : ¬ StartsWithDigit (text ++ more) := by
  rintro ⟨d, tail, parts, digit⟩
  cases text with
  | cons c text =>
    obtain ⟨rfl, -⟩ := List.cons.inj parts
    exact noDigit ⟨c, text, rfl, digit⟩
  | nil =>
    rw [List.nil_append] at parts
    have symbolic := stop d (by rw [parts]; rfl)
    rw [isSymbolChar_of_isDigit digit] at symbolic
    contradiction

private theorem unterminated_append {text more : List Char} (noQuote : '"' ∉ more)
    (endless : ∀ body tail, IsBody body → text ≠ body ++ '"' :: tail) :
    ∀ body tail, IsBody body → text ++ more ≠ body ++ '"' :: tail := by
  intro body tail isBody parts
  rcases List.append_eq_append_iff.mp parts with ⟨_, -, behind⟩ | ⟨within, same, behind⟩
  · exact noQuote (by simp [behind])
  · cases within with
    | nil =>
      have quote : '"' :: tail = more := behind
      exact noQuote (by simp [← quote])
    | cons c within =>
      obtain ⟨rfl, -⟩ := List.cons.inj behind
      exact endless body within isBody same

theorem scan_append_of_error {text more : List Char} (error : (scan text).1.kind = .error)
    (stop : ∀ c ∈ more.head?, isSymbolChar c = false) (noQuote : '"' ∉ more) :
    (scan (text ++ more)).1.kind = .error := by
  have reads := scan_reads text
  generalize (scan text).1.text = front, (scan text).1.message? = message at reads
  rw [error] at reads
  cases reads with
  | unterminated endless =>
    exact (scan_of_reads (.unterminated (unterminated_append noQuote endless))).1
  | number starts reads =>
    rw [scan_of_startsNumber (starts.append more)]
    cases reads with
    | lacksFraction lacks =>
      obtain ⟨whole, rest, isInteger, noDigit, rfl, -⟩ := lacks
      rw [List.append_assoc, List.cons_append]
      obtain ⟨_, scanned⟩ := Number.scan_of_lacksFraction
        ⟨whole, _, isInteger, not_startsWithDigit_append noDigit stop, rfl, rfl⟩
      rw [scanned]
      rfl
    | secondPoint second =>
      obtain ⟨number, rest, isPointed, rfl, -⟩ := second
      rw [List.append_assoc, List.cons_append]
      obtain ⟨_, scanned⟩ := Number.scan_of_hasSecondPoint ⟨number, _, isPointed, rfl, rfl⟩
      rw [scanned]
      rfl
  | @stray c rest noOpening noClosing noQuote' noNumber noSymbol =>
    have noNumber' : ¬ StartsNumber (c :: rest ++ more) := by
      intro starts
      rw [List.cons_append] at starts
      generalize rest ++ more = rest' at starts
      cases starts with
      | digit digit => exact noNumber (.digit digit)
      | signed sign _ => rcases sign with rfl | rfl <;> exact absurd noSymbol (by decide)
      | pointed _ => exact absurd noSymbol (by decide)
    exact (scan_of_reads (.stray noOpening noClosing noQuote' noNumber' noSymbol)).1

end Lexeme

end Sexp
