import Sexp.Lexeme

set_option autoImplicit false
set_option relaxedAutoImplicit false

/-!
# Spellings of numbers

A number is an optional sign, digits with at most one point among or before them, and an optional
exponent, whose digits may be missing. Without point and exponent it is an integer. A point must
have digits after it, and no point may follow the fraction directly.
-/

namespace Sexp

namespace Number

def splitSign : List Char → List Char × List Char
  | '+' :: cs => (['+'], cs)
  | '-' :: cs => (['-'], cs)
  | cs => ([], cs)

def splitDigits (cs : List Char) : List Char × List Char :=
  (cs.takeWhile isDigit, cs.dropWhile isDigit)

/-- Splits off an exponent: its marker, and a sign and digits if they follow. -/
def splitExponent : List Char → List Char × List Char
  | [] => ([], [])
  | c :: cs =>
    if c = 'e' ∨ c = 'E' then
      let (sign, rest) := splitSign cs
      let (digits, rest) := splitDigits rest
      (c :: (sign ++ digits), rest)
    else ([], c :: cs)

/-- A number begins with a digit, or with a sign or a point and then a digit. -/
def startsNumber : List Char → Bool
  | c :: d :: _ => isDigit c || (c ∈ ['+', '-', '.']) && isDigit d
  | [c] => isDigit c
  | [] => false

/-- Reads on after a fraction that is not empty, where `text` has been read so far. -/
def scanAfterFraction (text : List Char) : List Char → Lexeme × List Char
  | '.' :: rest => (.malformed .secondPoint (text ++ ['.']), rest)
  | rest =>
    let (exponent, rest) := splitExponent rest
    (.float (text ++ exponent), rest)

/-- Reads on after the point, where `text` has been read up to it. -/
def scanFraction (text cs : List Char) : Lexeme × List Char :=
  match splitDigits cs with
  | ([], rest) => (.malformed .missingFraction (text ++ ['.']), rest)
  | (fraction, rest) => scanAfterFraction (text ++ '.' :: fraction) rest

/-- Reads the number at the front of a text that starts one. -/
def scan (cs : List Char) : Lexeme × List Char :=
  let (sign, rest) := splitSign cs
  let (whole, rest) := splitDigits rest
  match rest with
  | '.' :: rest => scanFraction (sign ++ whole) rest
  | rest =>
    match splitExponent rest with
    | ([], rest) => (.integer (sign ++ whole), rest)
    | (exponent, rest) => (.float (sign ++ whole ++ exponent), rest)

theorem splitSign_append (cs : List Char) : (splitSign cs).1 ++ (splitSign cs).2 = cs := by
  unfold splitSign
  split <;> rfl

theorem splitDigits_append (cs : List Char) : (splitDigits cs).1 ++ (splitDigits cs).2 = cs :=
  List.takeWhile_append_dropWhile

theorem splitExponent_append (cs : List Char) :
    (splitExponent cs).1 ++ (splitExponent cs).2 = cs := by
  unfold splitExponent
  split
  · rfl
  · split
    · rename_i c cs _
      simp only [List.cons_append, List.append_assoc]
      rw [splitDigits_append, splitSign_append]
    · rfl

private theorem scanAfterFraction_append (text cs : List Char) :
    (scanAfterFraction text cs).1.spelling ++ (scanAfterFraction text cs).2 = text ++ cs := by
  unfold scanAfterFraction
  split
  · simp [Lexeme.spelling]
  · simp [Lexeme.spelling, splitExponent_append]

private theorem scanFraction_append (text cs : List Char) :
    (scanFraction text cs).1.spelling ++ (scanFraction text cs).2 = text ++ '.' :: cs := by
  have digits := splitDigits_append cs
  unfold scanFraction
  split <;> rename_i run <;> rw [run] at digits
  · simp [Lexeme.spelling, ← digits]
  · rw [scanAfterFraction_append]
    simp [← digits]

private theorem scan_eq_append (cs : List Char) :
    (scan cs).1.spelling ++ (scan cs).2 =
      (splitSign cs).1 ++
        ((splitDigits (splitSign cs).2).1 ++ (splitDigits (splitSign cs).2).2) := by
  unfold scan
  simp only
  split
  · rename_i point
    rw [scanFraction_append, point, List.append_assoc]
  · have exponent := splitExponent_append (splitDigits (splitSign cs).2).2
    split <;> rename_i run <;> rw [run] at exponent <;> simp [Lexeme.spelling, ← exponent]

theorem scan_append (cs : List Char) : (scan cs).1.spelling ++ (scan cs).2 = cs := by
  rw [scan_eq_append, splitDigits_append, splitSign_append]

example : scan "1..2".toList = (.malformed .missingFraction "1.".toList, ".2".toList) := by
  decide +kernel

-- After an exponent a point is no part of the number.
example : scan "1.5e3.".toList = (.float "1.5e3".toList, ['.']) := by decide +kernel

private theorem scanFraction_spelling_ne_nil (text cs : List Char) :
    (scanFraction text cs).1.spelling ≠ [] := by
  unfold scanFraction
  split
  · simp [Lexeme.spelling]
  · unfold scanAfterFraction
    split <;> simp [Lexeme.spelling]

theorem scan_spelling_ne_nil {cs : List Char} (starts : startsNumber cs = true) :
    (scan cs).1.spelling ≠ [] := by
  unfold scan
  simp only
  split
  · exact scanFraction_spelling_ne_nil _ _
  · rename_i noPoint
    have front : (splitSign cs).1 ++ (splitDigits (splitSign cs).2).1 ≠ [] := by
      intro empty
      obtain ⟨noSign, noDigits⟩ := List.append_eq_nil_iff.mp empty
      cases cs with
      | nil => simp [startsNumber] at starts
      | cons c cs =>
        have plus : c ≠ '+' := by
          rintro rfl
          simp [splitSign] at noSign
        have minus : c ≠ '-' := by
          rintro rfl
          simp [splitSign] at noSign
        have unsigned : splitSign (c :: cs) = ([], c :: cs) := by simp [splitSign, plus, minus]
        rw [unsigned] at noDigits noPoint
        by_cases digit : isDigit c = true
        · simp [splitDigits, digit] at noDigits
        · have point : c = '.' := by
            cases cs <;> simp_all [startsNumber]
          subst point
          exact noPoint cs (by simp [splitDigits, digit])
    split
    · simpa [Lexeme.spelling] using front
    · rename_i present
      intro empty
      simp only [Lexeme.spelling, List.append_eq_nil_iff] at empty
      exact front (by simp [empty.1.1, empty.1.2])

end Number

end Sexp
