import Sexp.Proofs.ExprStream.Relocation
import Sexp.Proofs.TokenStream.Spacing

set_option autoImplicit false
set_option relaxedAutoImplicit false

/-!
# Gaps do not matter

A source may be written with other gaps, as long as they keep its tokens apart. `tokenize_respaced`
says that this changes neither what its tokens say nor the expressions that are read from them.
-/

namespace Sexp

open Grammar

namespace TokenStream

theorem isText_tokenize (s : TokenStream) :
    ∀ t ∈ s.tokenize.1, t.isTerminal = false → IsText t.kind t.text.toList :=
  forall_mem_tokenize (fun _ => isText_read) s

end TokenStream

private theorem map_relocate_of_content {ts us : List Token}
    (same : us.map Token.content = ts.map Token.content) (silent : ∀ t ∈ ts, t.message = none)
    (silent' : ∀ u ∈ us, u.message = none) (p : Position) :
    us.map (Token.relocate fun _ => p) = ts.map (Token.relocate fun _ => p) := by
  induction us generalizing ts with
  | nil =>
    rw [List.map_nil, eq_comm, List.map_eq_nil_iff] at same
    rw [same]
  | cons u us ih =>
    cases ts with
    | nil => cases same
    | cons t ts =>
      obtain ⟨first, others⟩ := List.cons.inj same
      obtain ⟨noMessage, silent⟩ := List.forall_mem_cons.mp silent
      obtain ⟨noMessage', silent'⟩ := List.forall_mem_cons.mp silent'
      obtain ⟨kind, text⟩ := Prod.mk.inj first
      rw [List.map_cons, List.map_cons, ih others silent silent', Token.relocate, Token.relocate,
        kind, text, noMessage, noMessage']

section

variable [Capacity]

/-- Sources whose tokens say the same are read alike, but for where an error is. -/
theorem parseAll_of_content {source source' : String}
    (same : (tokenize source').result.map Token.content = (tokenize source).result.map Token.content)
    (formed : ∀ t ∈ (tokenize source).result, t.kind ≠ .error) (maxDepth : Option Int)
    (p : Position) :
    (parseAll source' maxDepth).result.mapError (ReadError.relocate fun _ => p) =
      (parseAll source maxDepth).result.mapError (ReadError.relocate fun _ => p) := by
  have silent (source : String) (formed : ∀ t ∈ (tokenize source).result, t.kind ≠ .error) :
      ∀ t ∈ (tokenize source).result, t.message = none := by
    intro t member
    exact TokenStream.forall_mem_tokenize (P := fun t => t.kind ≠ .error → t.message = none)
      (fun _ => TokenStream.message_read_of_ne_error) (.ofSource source) t member (formed t member)
  have formed' : ∀ u ∈ (tokenize source').result, u.kind ≠ .error :=
    Token.forall_of_content (fun content => content.1 ≠ .error) same formed
  have moved := map_relocate_of_content same (silent source formed) (silent source' formed') p
  have run (source : String) := Step.run_relocate (fun _ => p) maxDepth [] (tokenize source).result
  rw [parseAll_eq_run, parseAll_eq_run, ← run, ← run, moved]

theorem parseAll_ok_iff_of_content {source source' : String}
    (same : (tokenize source').result.map Token.content = (tokenize source).result.map Token.content)
    (formed : ∀ t ∈ (tokenize source).result, t.kind ≠ .error) (maxDepth : Option Int)
    (es : List Expr) :
    (parseAll source' maxDepth).result = .ok es ↔ (parseAll source maxDepth).result = .ok es := by
  have alike := parseAll_of_content same formed maxDepth {}
  rw [← mapError_eq_ok, alike, mapError_eq_ok]

end

private theorem content_last {s : TokenStream} {body : List Token} {last : Token}
    (parts : s.tokenize.1 = body ++ [last]) (isLast : last.kind = .empty) :
    last.content = (.empty, "") := by
  have member : last ∈ s.tokenize.1 := by simp [parts]
  have noText := TokenStream.forall_mem_tokenize (P := fun t => t.kind = .empty → t.text = "")
    (fun _ => TokenStream.text_read_of_empty) s last member isLast
  rw [Token.content, isLast, noText]

theorem TokenStream.content_tokenize_of_respaced {s s' : TokenStream} {body : List Token}
    {last : Token} {gaps : List (List Char)} (parts : s.tokenize.1 = body ++ [last])
    (isLast : last.kind = .empty)
    (spells : Spells (fun t u => t.MayTouch u ∨ t.Adjoins u) gaps body s'.rest) :
    s'.tokenize.1.map Token.content = s.tokenize.1.map Token.content := by
  have going := isTerminal_of_mem_body parts
  have words : ∀ t ∈ body, IsText t.kind t.text.toList := by
    intro t member
    have taken : t ∈ s.tokenize.1 := by simp [parts, member]
    exact isText_tokenize s t taken (going t member)
  have adjoined : body.IsChain (fun t u => t.Adjoins u → t.Apart u) := by
    have all := s.isChain_tokenize
    rw [parts] at all
    exact (List.isChain_append.mp all).1
  have apart : body.IsChain (fun t u => t.MayTouch u ∨ t.Adjoins u → t.Apart u) :=
    adjoined.imp fun _ _ tight touch => touch.elim Token.MayTouch.apart tight
  rw [parts, List.map_append, List.map_singleton, content_last parts isLast]
  exact spells.content_tokenize words apart s' rfl

/-- Tokens of the grammar that are written with gaps around them, and with none only where one of
the two begins or ends by itself, are read back from the text. A source that is all tokens is written
so, and every gap of it may be replaced by another one, and one may be put where there is none: its
tokens say the same, and the same expressions are read. -/
theorem tokenize_respaced [Capacity] :
    (∀ gaps ts text, (∀ t ∈ ts, IsText t.kind t.text.toList) →
      Spells Token.MayTouch gaps ts text →
      (tokenize (String.ofList text)).result.map Token.content =
        ts.map Token.content ++ [(.empty, "")]) ∧
    ∀ source body last, (tokenize source).result = body ++ [last] → last.kind = .empty →
      (∃ gaps, Spells (fun t u => t.MayTouch u ∨ t.Adjoins u) gaps body source.toList) ∧
      ∀ gaps text,
        Spells (fun t u => t.MayTouch u ∨ t.Adjoins u) gaps body text →
        (tokenize (String.ofList text)).result.map Token.content =
          (tokenize source).result.map Token.content ∧
        ∀ maxDepth es, (parseAll (String.ofList text) maxDepth).result = .ok es ↔
          (parseAll source maxDepth).result = .ok es := by
  constructor
  · intro gaps ts text words spells
    exact spells.content_tokenize_of_mayTouch words _ String.toList_ofList
  · intro source body last parts isLast
    obtain ⟨gaps, written⟩ := TokenStream.exists_spells_rest parts isLast
    refine ⟨⟨gaps, written.mono fun _ _ adjoins => .inr adjoins⟩, ?_⟩
    intro gaps text spells
    have same : (tokenize (String.ofList text)).result.map Token.content =
        (tokenize source).result.map Token.content := by
      apply TokenStream.content_tokenize_of_respaced parts isLast
      rwa [TokenStream.ofSource, String.toList_ofList]
    have formed : ∀ t ∈ (tokenize source).result, t.kind ≠ .error :=
      TokenStream.ne_error_of_ended parts isLast
    exact ⟨same, parseAll_ok_iff_of_content same formed⟩

example : (tokenize ",a;b\n\"c\"-7 ; end").result.map Token.content =
    [(.symbol, "a"), (.string, "c"), (.integer, "-7"), (.empty, "")] := by
  decide +kernel

end Sexp
