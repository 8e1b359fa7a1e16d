import Sexp.Lexeme.Number
import Sexp.Text.Munch

set_option autoImplicit false
set_option relaxedAutoImplicit false

/-!
# The lexeme at the front of a text

The first one or two characters of a text decide what its first lexeme is. `Lexeme.scan_append` says
that a lexeme takes up exactly the characters it is read from.
-/

namespace Sexp

namespace Lexeme

/-- Reads one character of the body of a string, where `escaped` says that a backslash stands before
it; only a double quote without one ends the body. -/
def bodyStep (escaped : Bool) (c : Char) : Option Bool :=
  if escaped then some false
  else if c = '\\' then some true
  else if c = '"' then none
  else some false

/-- Reads the string whose opening quote stands before the text. -/
def scanString (cs : List Char) : Lexeme × List Char :=
  match Text.munch bodyStep false cs with
  | (body, '"' :: rest) => (.string body, rest)
  | (body, rest) => (.malformed .unterminatedString body, rest)

def scanSymbol (cs : List Char) : Lexeme × List Char :=
  (.symbol (cs.takeWhile isSymbolChar), cs.dropWhile isSymbolChar)

/-- Reads the lexeme at the front of a text without a gap before it. -/
def scan : List Char → Lexeme × List Char
  | [] => (.finish, [])
  | '(' :: cs => (.opening, cs)
  | ')' :: cs => (.closing, cs)
  | '"' :: cs => scanString cs
  | c :: cs =>
    if Number.startsNumber (c :: cs) then Number.scan (c :: cs)
    else if isSymbolStart c then scanSymbol (c :: cs)
    else (.malformed (.strayCharacter c) [], c :: cs)

theorem scanString_append (cs : List Char) :
    (scanString cs).1.spelling ++ (scanString cs).2 = '"' :: cs := by
  have parts := Text.munch_append bodyStep false cs
  unfold scanString
  split <;> rename_i body rest run <;> rw [run] at parts <;> simp [spelling, ← parts]

theorem scanSymbol_append (cs : List Char) :
    (scanSymbol cs).1.spelling ++ (scanSymbol cs).2 = cs :=
  List.takeWhile_append_dropWhile

/-- A lexeme takes up exactly the characters it is read from. -/
theorem scan_append (cs : List Char) : (scan cs).1.spelling ++ (scan cs).2 = cs := by
  unfold scan
  split
  · rfl
  · rfl
  · rfl
  · exact scanString_append _
  · split
    · exact Number.scan_append _
    · split
      · exact scanSymbol_append _
      · rfl

example : scan "\"a\\\"b\" c".toList = (.string "a\\\"b".toList, " c".toList) := by decide +kernel

private theorem scanString_spelling_ne_nil (cs : List Char) :
    (scanString cs).1.spelling ≠ [] := by
  unfold scanString
  split <;> simp [spelling]

theorem scan_spelling_ne_nil {cs : List Char} (going : (scan cs).1.kind.isTerminal = false) :
    (scan cs).1.spelling ≠ [] := by
  unfold scan at going ⊢
  split
  · simp [kind, TokenKind.isTerminal] at going
  · simp [spelling]
  · simp [spelling]
  · exact scanString_spelling_ne_nil _
  · simp only at going
    split
    · rename_i starts
      exact Number.scan_spelling_ne_nil starts
    · rename_i plain
      rw [if_neg plain] at going
      split
      · rename_i symbolStart
        simp [scanSymbol, spelling, isSymbolChar, symbolStart]
      · rename_i stray
        simp [stray, kind, TokenKind.isTerminal] at going

theorem length_scan_lt {cs : List Char} (going : (scan cs).1.kind.isTerminal = false) :
    (scan cs).2.length < cs.length := by
  have parts := congrArg List.length (scan_append cs)
  have taken := List.length_pos_iff.mpr (scan_spelling_ne_nil going)
  rw [List.length_append] at parts
  omega

theorem length_scan_le (cs : List Char) : (scan cs).2.length ≤ cs.length := by
  have parts := congrArg List.length (scan_append cs)
  rw [List.length_append] at parts
  omega

end Lexeme

end Sexp
