import Mathlib.Data.List.Chain
import Sexp.Proofs.Lexeme.Follow
import Sexp.Proofs.TokenStream.Place

set_option autoImplicit false
set_option relaxedAutoImplicit false

/-!
# Tokens are read back from their spellings

Tokens of the grammar may be written with any gaps that keep them apart. `Spells.content_tokenize`
says that such a text gives the tokens again, whatever stands in the gaps, and `exists_spells_rest`
that each source is such a text of its own tokens.
-/

namespace Sexp

open Grammar

namespace Token

/-- What a token says, wherever it stands. -/
def content (t : Token) : TokenKind × String := (t.kind, t.text)

theorem forall_of_content {ts us : List Token} (P : TokenKind × String → Prop)
    (same : us.map content = ts.map content) (all : ∀ t ∈ ts, P t.content) :
    ∀ u ∈ us, P u.content := by
  rw [← List.forall_mem_map] at all ⊢
  rwa [same]

/-- A token that shows by itself where it begins and ends. -/
def isDelimited (t : Token) : Bool :=
  match t.kind with
  | .string | .opening | .closing => true
  | _ => false

/-- Tokens that need no gap between them. -/
def MayTouch (t u : Token) : Prop := t.isDelimited = true ∨ u.isDelimited = true

/-- `u` stands directly behind `t`, without a gap. -/
def Adjoins (t u : Token) : Prop := u.position = t.position.after t.spelling

/-- The spelling of `u` can stand directly behind the one of `t`. -/
def Apart (t u : Token) : Prop := ∀ c ∈ u.spelling.head?, ¬ GoesOn t.kind t.text.toList c

end Token

/-- The text spells the tokens, with the gaps before, between and behind them. Tokens that touch
have an empty gap between them. -/
inductive Spells (touch : Token → Token → Prop) : List (List Char) → List Token → List Char → Prop
  | finish {gap : List Char} : IsGap gap → Spells touch [gap] [] gap
  | cons {gap text : List Char} {gaps : List (List Char)} {t : Token} {ts : List Token} :
      IsClosedGap gap → (gaps.head? = some [] → ∀ u ∈ ts.head?, touch t u) →
      Spells touch gaps ts text → Spells touch (gap :: gaps) (t :: ts) (gap ++ (t.spelling ++ text))

theorem Spells.mono {touch touch' : Token → Token → Prop} {gaps : List (List Char)}
    {ts : List Token} {text : List Char} (spells : Spells touch gaps ts text)
    (weaker : ∀ t u, touch t u → touch' t u) : Spells touch' gaps ts text := by
  induction spells with
  | finish isGap => exact .finish isGap
  | cons closed touching _ ih =>
    exact .cons closed (fun none u head => weaker _ u (touching none u head)) ih

private theorem exists_head_of_all {text : List Char} (present : text ≠ [])
    (all : ∀ c ∈ text, isSymbolChar c = true) :
    ∃ c cs, text = c :: cs ∧ isSeparator c = false ∧ c ≠ ';' := by
  obtain ⟨c, cs, rfl⟩ := List.exists_cons_of_ne_nil present
  have noGap : ¬ (isSeparator c = true ∨ c = ';') := by
    intro begins
    have stop := Gap.isSymbolChar_eq_false begins
    rw [all c List.mem_cons_self] at stop
    contradiction
  obtain ⟨noSeparator, noComment⟩ := not_or.mp noGap
  exact ⟨c, cs, rfl, Bool.eq_false_iff.mpr noSeparator, noComment⟩

private theorem isTerminal_of_isText {kind : TokenKind} {text : List Char}
    (isText : IsText kind text) : kind.isTerminal = false := by
  cases isText <;> rfl

private theorem ne_nil_of_startsNumber {text : List Char} (starts : StartsNumber text) :
    text ≠ [] := by
  rintro rfl
  cases starts

theorem Token.exists_head_spelling {t : Token} (isText : IsText t.kind t.text.toList) :
    ∃ c cs, t.spelling = c :: cs ∧ isSeparator c = false ∧ c ≠ ';' := by
  unfold spelling
  generalize t.kind = kind, t.text.toList = text at isText ⊢
  cases isText with
  | opening => exact ⟨'(', [], rfl, by decide, by decide⟩
  | closing => exact ⟨')', [], rfl, by decide, by decide⟩
  | string => exact ⟨'"', _, rfl, by decide, by decide⟩
  | symbol isSymbol =>
    apply exists_head_of_all _ isSymbol.all
    cases isSymbol
    exact List.cons_ne_nil _ _
  | integer isInteger =>
    exact exists_head_of_all (ne_nil_of_startsNumber isInteger.startsNumber) isInteger.all
  | float isFloat =>
    have isNumber : IsNumber _ := .inr isFloat
    exact exists_head_of_all (ne_nil_of_startsNumber isFloat.startsNumber) isNumber.all

theorem Token.not_goesOn_of_isDelimited {t : Token} (delimited : t.isDelimited = true)
    (text : List Char) (c : Char) : ¬ GoesOn t.kind text c := by
  cases kind : t.kind <;> simp_all [isDelimited, GoesOn]

theorem Token.MayTouch.apart {t u : Token} (touch : t.MayTouch u) : t.Apart u := by
  intro c head
  rcases touch with delimited | delimited
  · exact not_goesOn_of_isDelimited delimited _ c
  · apply not_goesOn
    revert c
    unfold spelling
    cases kind : u.kind <;> simp_all [isDelimited] <;> decide

namespace TokenStream

variable {s : TokenStream} {gap text : List Char} {t : Token}

theorem split_spelled (closed : IsClosedGap gap) (isText : IsText t.kind t.text.toList) :
    Gap.split (gap ++ (t.spelling ++ text)) = (gap, t.spelling ++ text) := by
  obtain ⟨c, cs, spelled, noSeparator, noComment⟩ := Token.exists_head_spelling isText
  have stop : Gap.split (t.spelling ++ text) = ([], t.spelling ++ text) := by
    apply Gap.split_of_head
    intro d head
    rw [spelled] at head
    obtain rfl := Option.some.inj head
    exact ⟨noSeparator, noComment⟩
  rw [Gap.split_append_of_isClosedGap closed, stop, List.append_nil]

private theorem spelling_lexeme {x : Lexeme} (isText : IsText t.kind t.text.toList)
    (kind : x.kind = t.kind) (content : x.text = t.text.toList) : x.spelling = t.spelling := by
  unfold Token.spelling
  generalize t.kind = kind', t.text.toList = text at isText kind content ⊢
  cases isText <;> cases x <;> simp_all [Lexeme.kind, Lexeme.text, Lexeme.spelling]

theorem read_of_spelled (closed : IsClosedGap gap) (isText : IsText t.kind t.text.toList)
    (stop : ∀ c ∈ text.head?, ¬ GoesOn t.kind t.text.toList c)
    (rest : s.rest = gap ++ (t.spelling ++ text)) :
    s.read.1.content = t.content ∧ s.read.2.rest = text := by
  obtain ⟨x, kind, content⟩ := Lexeme.exists_lexeme isText
  have scanned : Lexeme.scan (x.spelling ++ text) = (x, text) := by
    apply Lexeme.scan_spelling_append <;> rwa [kind, content]
  rw [spelling_lexeme isText kind content] at scanned
  simp only [read, rest, split_spelled closed isText, scanned, Token.content, Lexeme.token, kind,
    content, String.ofList_toList, and_self]

end TokenStream

theorem Spells.not_goesOn {touch : Token → Token → Prop} {gaps : List (List Char)} {ts : List Token}
    {text : List Char} {t : Token} (spells : Spells touch gaps ts text)
    (words : ∀ u ∈ ts, IsText u.kind u.text.toList)
    (apart : ∀ u ∈ ts.head?, gaps.head? = some [] → t.Apart u) :
    ∀ c ∈ text.head?, ¬ GoesOn t.kind t.text.toList c := by
  intro c head
  cases spells with
  | finish isGap => exact Grammar.not_goesOn (Gap.isSymbolChar_head isGap c head) _ _
  | @cons gap text gaps u ts closed _ _ =>
    cases gap with
    | nil =>
      obtain ⟨d, ds, spelled, -⟩ := Token.exists_head_spelling (words u List.mem_cons_self)
      apply apart u rfl rfl
      rw [spelled] at head ⊢
      exact head
    | cons d gap =>
      have symbolic := Gap.isSymbolChar_head (Gap.isGap_of_isClosedGap closed) c head
      exact Grammar.not_goesOn symbolic _ _

theorem Spells.content_tokenize {touch : Token → Token → Prop} {gaps : List (List Char)}
    {ts : List Token} {text : List Char} (spells : Spells touch gaps ts text)
    (words : ∀ t ∈ ts, IsText t.kind t.text.toList)
    (apart : ts.IsChain (fun t u => touch t u → t.Apart u)) (s : TokenStream)
    (rest : s.rest = text) :
    s.tokenize.1.map Token.content = ts.map Token.content ++ [(.empty, "")] := by
  induction spells generalizing s with
  | finish isGap =>
    have ended : s.read.1.content = (.empty, "") := by
      simp [TokenStream.read, rest, Gap.split_of_isGap isGap, Lexeme.scan, Lexeme.token,
        Token.content, Lexeme.kind, Lexeme.text]
    have terminal : s.next.1.isTerminal = true := by
      rw [Token.isTerminal, TokenStream.next_fst, (Prod.mk.inj ended).1]
      rfl
    rw [TokenStream.tokenize_eq, if_pos terminal]
    exact congrArg (fun content => [content]) ended
  | @cons gap text gaps t ts closed touching spells ih =>
    obtain ⟨isText, words⟩ := List.forall_mem_cons.mp words
    obtain ⟨first, apart⟩ := List.isChain_cons.mp apart
    have stop := spells.not_goesOn words fun u head none => first u head (touching none u head)
    obtain ⟨content, left⟩ := TokenStream.read_of_spelled closed isText stop rest
    have going : s.next.1.isTerminal = false := by
      rw [Token.isTerminal, TokenStream.next_fst, (Prod.mk.inj content).1]
      exact isTerminal_of_isText isText
    rw [TokenStream.tokenize_eq, if_neg (Bool.eq_false_iff.mp going), List.map_cons,
      List.map_cons, ih words apart s.next.2 left, TokenStream.next_fst, content, List.cons_append]

/-- Tokens of the grammar are read back if only those touch that may. -/
theorem Spells.content_tokenize_of_mayTouch {gaps : List (List Char)} {ts : List Token}
    {text : List Char}
    (spells : Spells Token.MayTouch gaps ts text)
    (words : ∀ t ∈ ts, IsText t.kind t.text.toList) (s : TokenStream) (rest : s.rest = text) :
    s.tokenize.1.map Token.content = ts.map Token.content ++ [(.empty, "")] := by
  have apart : ts.Pairwise (fun t u => t.MayTouch u → t.Apart u) :=
    List.pairwise_of_forall fun _ _ => Token.MayTouch.apart
  exact spells.content_tokenize words apart.isChain s rest

namespace TokenStream

theorem content_tokenize_of_rest {s s' : TokenStream} (same : s'.rest = s.rest) :
    s'.tokenize.1.map Token.content = s.tokenize.1.map Token.content := by
  have read {s s' : TokenStream} (same : s'.rest = s.rest) :
      s'.read.1.content = s.read.1.content ∧ s'.read.2.rest = s.read.2.rest := by
    simp only [TokenStream.read, Token.content, Lexeme.token, same, and_self]
  refine tokenize_induction (P := fun s ts _ => ∀ s' : TokenStream, s'.rest = s.rest →
    s'.tokenize.1.map Token.content = ts.map Token.content) ?_ ?_ s s' same
  · intro s terminal s' same
    obtain ⟨content, -⟩ := read same
    have terminal' : s'.next.1.isTerminal = true := by
      rw [Token.isTerminal, next_fst, (Prod.mk.inj content).1]
      exact terminal
    rw [tokenize_eq, if_pos terminal']
    exact congrArg (fun content => [content]) content
  · intro s ts _ going ih s' same
    obtain ⟨content, same⟩ := read same
    have going' : ¬ s'.next.1.isTerminal = true := by
      rw [Token.isTerminal, next_fst, (Prod.mk.inj content).1]
      exact Bool.eq_false_iff.mp going
    rw [tokenize_eq, if_neg going', List.map_cons, List.map_cons, ih s'.next.2 same]
    exact congrArg (· :: ts.map Token.content) content

theorem isText_read {s : TokenStream} (going : s.read.1.isTerminal = false) :
    IsText s.read.1.kind s.read.1.text.toList := by
  have isText := Lexeme.isText_scan going
  simpa only [read, Lexeme.token, String.toList_ofList] using isText

theorem apart_read {s : TokenStream} (going : s.read.1.isTerminal = false)
    (adjoins : s.read.1.Adjoins s.read.2.read.1) :
    s.read.1.Apart s.read.2.read.1 := by
  intro c head
  have noGap : (Gap.split s.read.2.rest).1 = [] := by
    by_contra present
    have later := Position.before_after present s.read.2.position
    have stays : s.read.2.position.after (Gap.split s.read.2.rest).1 = s.read.2.position := by
      rw [Token.Adjoins, ← position_read] at adjoins
      exact adjoins
    rw [stays] at later
    exact Position.Before.irrefl _ later
  obtain ⟨cs, spelled⟩ := List.head?_eq_some_iff.mp head
  have left : s.read.2.rest = c :: (cs ++ s.read.2.read.2.rest) := by
    rw [s.read.2.rest_eq_append_read, noGap, spelled]
    rfl
  have scanned : Lexeme.scan (Gap.split s.rest).2 =
      ((Lexeme.scan (Gap.split s.rest).2).1, c :: (cs ++ s.read.2.read.2.rest)) :=
    Prod.ext rfl left
  have ends := Lexeme.not_goesOn_of_scan scanned going
  simpa only [read, Lexeme.token, String.toList_ofList] using ends

theorem isChain_tokenize (s : TokenStream) :
    s.tokenize.1.IsChain (fun t u => t.Adjoins u → t.Apart u) := by
  have all : s.tokenize.1.head? = some s.read.1 ∧ s.tokenize.1.IsChain
      (fun t u => t.Adjoins u → t.Apart u) := by
    refine tokenize_induction (P := fun s ts _ => ts.head? = some s.read.1 ∧ ts.IsChain
      (fun t u => t.Adjoins u → t.Apart u)) ?_ ?_ s
    · intro s _
      exact ⟨rfl, .singleton _⟩
    · intro s ts _ going ih
      obtain ⟨first, chain⟩ := ih
      refine ⟨rfl, List.isChain_cons.mpr ⟨?_, chain⟩⟩
      intro u head adjoins
      rw [first] at head
      obtain rfl := Option.some.inj head
      exact apart_read going adjoins
  exact all.2

private theorem adjoins_read {s : TokenStream} (noGap : (Gap.split s.read.2.rest).1 = []) :
    s.read.1.Adjoins s.read.2.read.1 := by
  rw [Token.Adjoins, ← position_read]
  change s.read.2.position.after (Gap.split s.read.2.rest).1 = s.read.2.position
  rw [noGap, Position.after_nil]

theorem exists_spells_rest {s : TokenStream} {body : List Token} {last : Token}
    (parts : s.tokenize.1 = body ++ [last]) (isLast : last.kind = .empty) :
    ∃ gaps, Spells Token.Adjoins gaps body s.rest := by
  have all : ∃ gaps, gaps.head? = some (Gap.split s.rest).1 ∧ (∀ u ∈ body.head?, s.read.1 = u) ∧
      Spells Token.Adjoins gaps body s.rest := by
    refine tokenize_induction_of_empty (P := fun s body _ => ∃ gaps,
      gaps.head? = some (Gap.split s.rest).1 ∧ (∀ u ∈ body.head?, s.read.1 = u) ∧
        Spells Token.Adjoins gaps body s.rest) isLast ?_ ?_ parts
    · intro s first
      have isGap := isGap_of_empty (first ▸ isLast)
      rw [Gap.split_of_isGap isGap]
      exact ⟨[s.rest], rfl, by simp, .finish isGap⟩
    · intro s body _ going ih
      obtain ⟨gaps, first, second, spells⟩ := ih
      have closed := Gap.isClosedGap_split (split_ne_nil_of_going going)
      have touching : gaps.head? = some [] → ∀ u ∈ body.head?, s.read.1.Adjoins u := by
        intro none u head
        rw [first] at none
        rw [← second u head]
        exact adjoins_read (Option.some.inj none)
      refine ⟨(Gap.split s.rest).1 :: gaps, rfl, ?_, ?_⟩
      · intro u head
        exact Option.some.inj head
      · have whole := Spells.cons closed touching spells
        rwa [rest_next, ← s.rest_eq_append_read] at whole
  obtain ⟨gaps, -, -, spells⟩ := all
  exact ⟨gaps, spells⟩

end TokenStream

end Sexp
