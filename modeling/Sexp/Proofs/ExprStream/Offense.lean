import Sexp.Proofs.ExprStream.Flattening
import Sexp.Proofs.TokenStream.Classification
import Sexp.Proofs.TokenStream.Tokenization
import Sexp.ReadError

set_option autoImplicit false
set_option relaxedAutoImplicit false

/-!
# Tokens that cannot be used

Whether a token can be used depends on the token, the lists open before it and the limit on nesting.
A token that cannot be used is reported at its own position, except for the one at the end of a
source: what is reported there is the innermost list, which is still open.
-/

namespace Sexp

open Nesting

/-- What is known of a token that was read from a source. -/
structure Token.WellFormed (t : Token) : Prop where
  isInteger : t.kind = .integer → Grammar.IsInteger t.text.toList
  message : t.kind = .error → ∃ message, t.message = some message

theorem wellFormed_of_mem_tokenize {source : String} {t : Token}
    (member : t ∈ (tokenize source).result) : t.WellFormed := by
  refine TokenStream.forall_mem_tokenize ?_ (.ofSource source) t member
  intro s
  exact ⟨TokenStream.isInteger_read, TokenStream.message_read⟩

/-- A token cannot be used where the lists in `outer` are open. -/
inductive Offends (maxDepth : Option Int) (outer : List Token) (t : Token) : Prop
  | malformed : t.kind = .error → Offends maxDepth outer t
  | strayClosing : t.kind = .closing → outer = [] → Offends maxDepth outer t
  | tooDeep {limit : Int} : t.kind = .opening → maxDepth = some limit →
      limit < (outer.length : Int) + 1 → Offends maxDepth outer t
  | unfit : t.kind = .integer → ¬ Numeral.Fits t.text.toList → Offends maxDepth outer t
  | unfinished : t.kind = .empty → outer ≠ [] → Offends maxDepth outer t

/-- The error in which a token that cannot be used is reported. -/
inductive Blames (maxDepth : Option Int) (outer : List Token) (t : Token) : ReadError → Prop
  | malformed {d : Defect} {message : String} : t.kind = .error → t.message = some message →
      d.diagnostic = Diagnostic.located
        { category := .lexical, message, text := some t.text } t.position →
      Blames maxDepth outer t (.defect d)
  | strayClosing {d : Defect} : t.kind = .closing →
      d.diagnostic = Diagnostic.located
        { category := .syntactic
          message := "unexpected ')'"
          text := some ")"
          expected := some "a string, symbol, number or '('" } t.position →
      Blames maxDepth outer t (.defect d)
  | tooDeep {d : Defect} {limit : Int} : t.kind = .opening → maxDepth = some limit →
      Numeral.Writable limit → d.diagnostic = Diagnostic.located
        { category := .structural
          message := "maximum nesting depth exceeded"
          text := some "("
          context := some ("Lists may be nested at most " ++ toString limit ++ " deep") }
        t.position →
      Blames maxDepth outer t (.defect d)
  /-- The report would have to name a limit with too many digits, so there is none. -/
  | unnamed {limit : Int} : t.kind = .opening → maxDepth = some limit →
      ¬ Numeral.Writable limit → Blames maxDepth outer t (.overlongInteger .writing)
  | outOfRange {d : Defect} : t.kind = .integer → ¬ Numeral.Overlong t.text.toList →
      d.diagnostic = Diagnostic.located
        { category := .syntactic
          message := "integer out of range"
          text := some (Defect.excerpt t.text)
          expected := some
            "an integer between -9223372036854775808 and 9223372036854775807" } t.position →
      Blames maxDepth outer t (.defect d)
  | overlong : t.kind = .integer → Numeral.Overlong t.text.toList →
      Blames maxDepth outer t (.overlongInteger (.reading (Numeral.digitsOf t.text.toList).length))
  /-- The report is about the list that the source leaves open, not about its end. -/
  | unfinished {d : Defect} {innermost : Token} {further : List Token} : t.kind = .empty →
      outer = innermost :: further →
      d.diagnostic = Diagnostic.located
        { category := .structural
          message := "unfinished list"
          text := some "("
          expected := some "')' to close the list"
          suggestion := some "Add the missing closing parenthesis" } innermost.position →
      Blames maxDepth outer t (.defect d)

/-- A token that is used where the lists in `outer` are open. -/
structure Usable (maxDepth : Option Int) (outer : List Token) (t : Token) : Prop where
  wellFormed : t.WellFormed
  going : t.isTerminal = false
  few : (enclose outer t).length ≤ 200
  notOffends : ¬ Offends maxDepth outer t

end Sexp
