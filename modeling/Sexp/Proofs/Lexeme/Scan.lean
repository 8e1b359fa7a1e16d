import Sexp.Lexeme.Scan
import Sexp.Proofs.Lexeme.Number

set_option autoImplicit false
set_option relaxedAutoImplicit false

/-!
# Lexemes are scanned as the grammar says

Strings and symbols are added to the numbers, so that `scan_reads` and `scan_of_reads` say together
that a scan reads what the grammar says and nothing else.
-/

namespace Sexp.Lexeme

open Grammar
open Text (Longest munch munch_append munch_append_of_run munch_cons_none munch_run
  takeWhile_longest)

variable {text body rest : List Char}

private theorem run_of_isBody (isBody : IsBody body) : body.foldlM bodyStep false = some false := by
  induction isBody with
  | nil => rfl
  | plain noQuote noBackslash _ ih => simpa [bodyStep, noQuote, noBackslash] using ih
  | escaped _ ih => simpa [bodyStep] using ih

private theorem isBody_of_run :
    (body.foldlM bodyStep false = some false → IsBody body) ∧
      (body.foldlM bodyStep true = some false → ∃ c rest, body = c :: rest ∧ IsBody rest) := by
  induction body with
  | nil => exact ⟨fun _ => .nil, fun run => by simp at run⟩
  | cons c body ih =>
    constructor
    · intro run
      by_cases backslash : c = '\\'
      · subst backslash
        obtain ⟨d, rest, rfl, isBody⟩ := ih.2 (by simpa [bodyStep] using run)
        exact .escaped isBody
      · by_cases quote : c = '"'
        · simp [bodyStep, quote] at run
        · exact .plain quote backslash (ih.1 (by simpa [bodyStep, quote, backslash] using run))
    · intro run
      exact ⟨c, body, rfl, ih.1 (by simpa [bodyStep] using run)⟩

private theorem bodyStep_eq_none {escaped : Bool} {c : Char} (stop : bodyStep escaped c = none) :
    escaped = false ∧ c = '"' := by
  unfold bodyStep at stop
  cases escaped
  · split at stop
    · contradiction
    · split at stop
      · contradiction
      · split at stop
        · rename_i quote
          exact ⟨rfl, quote⟩
        · contradiction
  · simp at stop

theorem scanString_of_isBody (isBody : IsBody body) :
    scanString (body ++ '"' :: rest) = (.string body, rest) := by
  have quote : munch bodyStep false ('"' :: rest) = ([], '"' :: rest) := munch_cons_none rfl
  rw [scanString, munch_append_of_run (run_of_isBody isBody), quote]
  simp

theorem scanString_of_unterminated
    (endless : ∀ body tail, IsBody body → rest ≠ body ++ '"' :: tail) :
    scanString rest = (.malformed .unterminatedString rest, []) := by
  obtain ⟨last, run, stop⟩ := munch_run bodyStep false rest
  have parts := munch_append bodyStep false rest
  have noRest : (munch bodyStep false rest).2 = [] := by
    cases tail : (munch bodyStep false rest).2 with
    | nil => rfl
    | cons c tail' =>
      obtain ⟨rfl, rfl⟩ := bodyStep_eq_none (stop c tail' tail)
      rw [tail] at parts
      exact absurd parts.symm (endless _ _ (isBody_of_run.1 run))
  rw [noRest, List.append_nil] at parts
  have whole : munch bodyStep false rest = (rest, []) := Prod.ext parts noRest
  rw [scanString, whole]

private theorem scanString_reads (rest : List Char) :
    Reads ('"' :: rest) (scanString rest).1.kind (scanString rest).1.text
      (scanString rest).1.message? := by
  by_cases closed : ∃ body tail, IsBody body ∧ rest = body ++ '"' :: tail
  · obtain ⟨body, tail, isBody, rfl⟩ := closed
    rw [scanString_of_isBody isBody]
    exact .string isBody
  · have endless : ∀ body tail, IsBody body → rest ≠ body ++ '"' :: tail :=
      fun body tail isBody same => closed ⟨body, tail, isBody, same⟩
    rw [scanString_of_unterminated endless]
    exact .unterminated endless

theorem kind_scanString (cs : List Char) :
    (scanString cs).1.kind = .string ∨ (scanString cs).1.kind = .error := by
  unfold scanString
  split
  · exact .inl rfl
  · exact .inr rfl

private theorem symbol_longest {c : Char} (start : isSymbolStart c = true) :
    Longest IsSymbol (c :: rest) ((c :: rest).takeWhile isSymbolChar) := by
  have go : isSymbolChar c = true := by simp [isSymbolChar, start]
  have longest := takeWhile_longest isSymbolChar (c :: rest)
  refine ⟨longest.begins, ?_, ?_⟩
  · rw [List.takeWhile_cons_of_pos go]
    exact .mk start (List.all_eq_true.mp List.all_takeWhile)
  · intro other begins isSymbol
    apply longest.length_le other begins
    cases isSymbol with
    | @mk d name start' all =>
      intro e member
      rcases List.mem_cons.mp member with rfl | member
      · simp [isSymbolChar, start']
      · exact all e member

theorem startsNumber_iff (text : List Char) :
    StartsNumber text ↔ Number.startsNumber text = true := by
  constructor
  · intro starts
    cases starts with
    | @digit c rest digit => cases rest <;> simp [Number.startsNumber, digit]
    | signed sign digit => rcases sign with rfl | rfl <;> simp [Number.startsNumber, digit]
    | pointed digit => simp [Number.startsNumber, digit]
  · intro starts
    cases text with
    | nil => simp [Number.startsNumber] at starts
    | cons c rest =>
      cases rest with
      | nil => exact .digit starts
      | cons d rest =>
        by_cases first : isDigit c = true
        · exact .digit first
        · have both : (c = '+' ∨ c = '-' ∨ c = '.') ∧ isDigit d = true := by
            simpa [Number.startsNumber, first] using starts
          obtain ⟨rfl | rfl | rfl, digit⟩ := both
          · exact .signed (.inl rfl) digit
          · exact .signed (.inr rfl) digit
          · exact .pointed digit

private theorem startsNumber_ne {c : Char} (starts : StartsNumber (c :: rest)) :
    c ≠ '(' ∧ c ≠ ')' ∧ c ≠ '"' := by
  refine ⟨?_, ?_, ?_⟩ <;> rintro rfl <;> cases starts <;> simp_all [isDigit]

private theorem isSymbolStart_ne {c : Char} (start : isSymbolStart c = true) :
    c ≠ '(' ∧ c ≠ ')' ∧ c ≠ '"' := by
  refine ⟨?_, ?_, ?_⟩ <;> rintro rfl <;> exact absurd start (by decide)

theorem scan_cons {c : Char} (plain : c ≠ '(' ∧ c ≠ ')' ∧ c ≠ '"') :
    scan (c :: rest) =
      if Number.startsNumber (c :: rest) then Number.scan (c :: rest)
      else if isSymbolStart c then scanSymbol (c :: rest)
      else (.malformed (.strayCharacter c) [], c :: rest) := by
  obtain ⟨noOpening, noClosing, noQuote⟩ := plain
  simp [scan]

theorem scan_of_startsNumber (starts : StartsNumber text) : scan text = Number.scan text := by
  have starts' := (startsNumber_iff text).mp starts
  cases text with
  | nil => cases starts
  | cons c rest => rw [scan_cons (startsNumber_ne starts), if_pos starts']

theorem scan_of_isSymbolStart {c : Char} (noNumber : ¬ StartsNumber (c :: rest))
    (start : isSymbolStart c = true) : scan (c :: rest) = scanSymbol (c :: rest) := by
  rw [startsNumber_iff] at noNumber
  rw [scan_cons (isSymbolStart_ne start), if_neg noNumber, if_pos start]

theorem scan_reads (text : List Char) :
    Reads text (scan text).1.kind (scan text).1.text (scan text).1.message? := by
  by_cases starts : StartsNumber text
  · rw [scan_of_startsNumber starts]
    exact .number starts (Number.scan_reads starts)
  · unfold scan
    split
    · exact .finish
    · exact .opening
    · exact .closing
    · exact scanString_reads _
    · rename_i c rest noOpening noClosing noQuote
      rw [startsNumber_iff] at starts
      rw [if_neg starts]
      rw [← startsNumber_iff] at starts
      split
      · rename_i start
        exact .symbol starts start (symbol_longest start)
      · rename_i noSymbol
        exact .stray noOpening noClosing noQuote starts (Bool.eq_false_iff.mpr noSymbol)

/-- The grammar leaves a scan no choice. -/
theorem scan_of_reads {kind : TokenKind} {front : List Char} {message : Option String}
    (reads : Reads text kind front message) :
    (scan text).1.kind = kind ∧ (scan text).1.text = front ∧ (scan text).1.message? = message := by
  cases reads with
  | finish | opening | closing => exact ⟨rfl, rfl, rfl⟩
  | string isBody =>
    rw [scan, scanString_of_isBody isBody]
    exact ⟨rfl, rfl, rfl⟩
  | unterminated endless =>
    rw [scan, scanString_of_unterminated endless]
    exact ⟨rfl, rfl, rfl⟩
  | number starts reads =>
    rw [scan_of_startsNumber starts]
    exact Number.scan_of_numberReads starts reads
  | symbol noNumber start longest =>
    rw [scan_of_isSymbolStart noNumber start]
    exact ⟨rfl, (symbol_longest start).unique longest, rfl⟩
  | stray noOpening noClosing noQuote noNumber noSymbol =>
    rw [startsNumber_iff] at noNumber
    rw [scan_cons ⟨noOpening, noClosing, noQuote⟩, if_neg noNumber, noSymbol]
    exact ⟨rfl, rfl, rfl⟩

end Sexp.Lexeme
