import Sexp.Proofs.ExprStream.Acceptance
import Sexp.Proofs.ExprStream.Readable

set_option autoImplicit false
set_option relaxedAutoImplicit false

/-!
# Readable expressions are read

Expressions can be written down in many ways: a token for each atom, two for each list, and gaps
around them. `readable_and_read_back` says that what is read are just the readable expressions, and
that all ways to write them down are read back.
-/

namespace Sexp

open Grammar Nesting

namespace Expr

mutual

/-- How deep lists are nested in an expression. -/
def depth : Expr → Nat
  | list items => depthOfItems items + 1
  | _ => 0

def depthOfItems : List Expr → Nat
  | [] => 0
  | e :: es => max e.depth (depthOfItems es)

end

theorem depth_le_depthOfItems {e : Expr} {items : List Expr} (member : e ∈ items) :
    e.depth ≤ depthOfItems items := by
  induction items with
  | nil => cases member
  | cons e' items ih =>
    rw [depthOfItems]
    rcases List.mem_cons.mp member with rfl | member
    · exact Nat.le_max_left _ _
    · exact Nat.le_trans (ih member) (Nat.le_max_right _ _)

end Expr

/-- Tokens of the grammar that spell expressions, the integers among them short enough to convert.
-/
structure Wording (es : List Expr) (ts : List Token) : Prop where
  flattens : Flattens es ts
  words : ∀ t ∈ ts, IsText t.kind t.text.toList
  convertible : ∀ t ∈ ts, t.kind = .integer → (Numeral.digitsOf t.text.toList).length ≤ 4300

section

variable {es : List Expr} {ts us : List Token}

private theorem Denotes.of_content {t u : Token} {e : Expr} (denotes : Denotes t e)
    (same : u.content = t.content) : Denotes u e := by
  obtain ⟨kind, text⟩ := Prod.mk.inj same
  cases denotes with
  | string is => exact text ▸ .string (kind.trans is)
  | nil is name => exact .nil (kind.trans is) (text.trans name)
  | booleanTrue is name => exact .booleanTrue (kind.trans is) (text.trans name)
  | booleanFalse is name => exact .booleanFalse (kind.trans is) (text.trans name)
  | symbol is noNil noTrue noFalse =>
    rw [← text] at noNil noTrue noFalse ⊢
    exact .symbol (kind.trans is) noNil noTrue noFalse
  | integer is => exact text ▸ .integer (kind.trans is)
  | float is => exact text ▸ .float (kind.trans is)

theorem Flattens.of_content (flattens : Flattens es ts)
    (same : us.map Token.content = ts.map Token.content) : Flattens es us := by
  induction flattens generalizing us with
  | nil =>
    rw [List.map_nil, List.map_eq_nil_iff] at same
    rw [same]
    exact .nil
  | atom denotes _ ih =>
    rw [List.map_cons, List.map_eq_cons_iff] at same
    obtain ⟨u, us, rfl, first, others⟩ := same
    exact .atom (denotes.of_content first) (ih others)
  | list isOpening _ isClosing _ inner ih =>
    rw [List.map_cons, List.map_append, List.map_cons, List.map_eq_cons_iff] at same
    obtain ⟨u, us, rfl, first, others⟩ := same
    obtain ⟨vs, ws, rfl, within, behind⟩ := List.map_eq_append_iff.mp others
    obtain ⟨v, ws, rfl, last, behind⟩ := List.map_eq_cons_iff.mp behind
    exact .list ((Prod.mk.inj first).1.trans isOpening) (inner within)
      ((Prod.mk.inj last).1.trans isClosing) (ih behind)

theorem Flattens.along_depth {outer : List Token} {limit : Nat} (flattens : Flattens es ts)
    (shallow : ∀ e ∈ es, outer.length + e.depth ≤ limit) :
    Along (fun outer t => (enclose outer t).length ≤ limit) outer ts := by
  induction flattens generalizing outer with
  | nil => trivial
  | @atom e es t ts denotes _ ih =>
    obtain ⟨first, others⟩ := List.forall_mem_cons.mp shallow
    have stays := enclose_of_isAtom denotes.isAtom outer
    have few : (enclose outer t).length ≤ limit := by
      rw [stays]
      omega
    refine ⟨few, ?_⟩
    rw [stays]
    exact ih others
  | @list items es opening closing inner ts isOpening flattens isClosing _ within ih =>
    obtain ⟨first, others⟩ := List.forall_mem_cons.mp shallow
    rw [Expr.depth] at first
    have opened : (enclose outer opening).length ≤ limit := by
      rw [enclose_of_opening isOpening, List.length_cons]
      omega
    have inside : ∀ e ∈ items, (opening :: outer).length + e.depth ≤ limit := by
      intro e member
      have deep := Expr.depth_le_depthOfItems member
      rw [List.length_cons]
      omega
    have after : enclose (opening :: outer) closing = outer := by
      rw [enclose_of_closing isClosing, List.tail_cons]
    have closed : (enclose (opening :: outer) closing).length ≤ limit := by
      rw [after]
      omega
    refine ⟨opened, ?_⟩
    rw [enclose_of_opening isOpening]
    refine along_append.mpr ⟨within inside, ?_⟩
    rw [flattens.isSequence.unclosed_eq]
    refine ⟨closed, ?_⟩
    rw [after]
    exact ih others

theorem Flattens.bounds (flattens : Flattens es ts) (readable : ∀ e ∈ es, Readable e) :
    ∀ t ∈ ts, t.kind = .integer → Numeral.leastInteger ≤ Numeral.valueOf t.text.toList ∧
      Numeral.valueOf t.text.toList ≤ Numeral.greatestInteger := by
  induction flattens with
  | nil => simp
  | @atom e es t ts denotes _ ih =>
    obtain ⟨first, others⟩ := List.forall_mem_cons.mp readable
    refine List.forall_mem_cons.mpr ⟨?_, ih others⟩
    intro kind
    rw [denotes.unique (.integer kind)] at first
    cases first with
    | integer least_le le_greatest => exact ⟨least_le, le_greatest⟩
  | @list items es opening closing inner ts isOpening _ isClosing _ within ih =>
    obtain ⟨first, others⟩ := List.forall_mem_cons.mp readable
    cases first with
    | list inside =>
      refine List.forall_mem_cons.mpr ⟨?_, List.forall_mem_append.mpr
        ⟨within inside, List.forall_mem_cons.mpr ⟨?_, ih others⟩⟩⟩
      · intro kind
        rw [isOpening] at kind
        cases kind
      · intro kind
        rw [isClosing] at kind
        cases kind

end

private theorem Wording.of_content {es : List Expr} {ts us : List Token} (wording : Wording es ts)
    (same : us.map Token.content = ts.map Token.content) : Wording es us := by
  refine ⟨wording.flattens.of_content same, ?_, ?_⟩
  · exact Token.forall_of_content (fun content => IsText content.1 content.2.toList) same
      wording.words
  · exact Token.forall_of_content (fun content => content.1 = .integer →
      (Numeral.digitsOf content.2.toList).length ≤ 4300) same wording.convertible

private theorem Wording.acceptable {es : List Expr} {ts : List Token} (wording : Wording es ts)
    (readable : ∀ e ∈ es, Readable e) : Acceptable none ts := by
  refine ⟨wording.flattens.isSequence, ?_, ?_⟩
  · intro _ _ _ _ _ limit chosen
    cases chosen
  · intro t member kind
    obtain ⟨least_le, le_greatest⟩ := wording.flattens.bounds readable t member kind
    exact ⟨wording.convertible t member kind, least_le, le_greatest⟩

private theorem atMost_of_flattens {es : List Expr} {ts : List Token} {last : Token} {limit : Nat}
    (flattens : Flattens es ts) (shallow : ∀ e ∈ es, e.depth ≤ limit) (kind : last.kind = .empty) :
    AtMost limit (ts ++ [last]) := by
  have inside : Along (fun outer t => (enclose outer t).length ≤ limit) [] ts := by
    apply flattens.along_depth
    intro e member
    rw [List.length_nil, Nat.zero_add]
    exact shallow e member
  have outside : (enclose (unclosed [] ts) last).length ≤ limit := by
    rw [flattens.isSequence.unclosed_eq, enclose, kind]
    exact Nat.zero_le limit
  exact .of_along (along_append.mpr ⟨inside, outside, trivial⟩)

/-- Expressions are read back from any text that spells them. -/
theorem Wording.parseAll_eq [Capacity] {es : List Expr} {ts : List Token} {gaps : List (List Char)}
    {text : List Char} (wording : Wording es ts)
    (readable : ∀ e ∈ es, Readable e) (shallow : ∀ e ∈ es, e.depth ≤ 200)
    (spells : Spells Token.MayTouch gaps ts text) :
    (parseAll (String.ofList text) none).result = .ok es := by
  have contents : (tokenize (String.ofList text)).result.map Token.content =
      ts.map Token.content ++ [(.empty, "")] :=
    spells.content_tokenize_of_mayTouch wording.words _ String.toList_ofList
  obtain ⟨us, lasts, parts, same, ended⟩ := List.map_eq_append_iff.mp contents
  obtain ⟨last, rfl, isLast⟩ := List.map_eq_singleton_iff.mp ended
  have kind : last.kind = .empty := (Prod.mk.inj isLast).1
  have wording' := wording.of_content same
  have few : AtMost 200 (tokenize (String.ofList text)).result := by
    rw [parts]
    exact atMost_of_flattens wording'.flattens shallow kind
  obtain ⟨es', read⟩ := (wording'.acceptable readable).exists_ok few parts kind
  have spelled : Flattens es' us := flattens_of_ok few read parts
  rw [read, spelled.unique wording'.flattens]

theorem Wording.append {es es' : List Expr} {ts ts' : List Token} (first : Wording es ts)
    (second : Wording es' ts') : Wording (es ++ es') (ts ++ ts') :=
  ⟨first.flattens.append second.flattens, List.forall_mem_append.mpr ⟨first.words, second.words⟩,
    List.forall_mem_append.mpr ⟨first.convertible, second.convertible⟩⟩

theorem exists_wording_of_forall {es : List Expr} (each : ∀ e ∈ es, ∃ ts, Wording [e] ts) :
    ∃ ts, Wording es ts := by
  induction es with
  | nil => exact ⟨[], .nil, by simp, by simp⟩
  | cons e es ih =>
    obtain ⟨first, others⟩ := List.forall_mem_cons.mp each
    obtain ⟨ts, wording⟩ := first
    obtain ⟨us, wordings⟩ := ih others
    exact ⟨ts ++ us, wording.append wordings⟩

private theorem Wording.atom {t : Token} {e : Expr} (denotes : Denotes t e)
    (isText : IsText t.kind t.text.toList) (other : t.kind ≠ .integer) : Wording [e] [t] :=
  ⟨.atom denotes .nil, by simpa using isText, by simp [other]⟩

private theorem exists_wording_of_integer {value : Int} (least_le : Numeral.leastInteger ≤ value)
    (le_greatest : value ≤ Numeral.greatestInteger) : ∃ ts, Wording [.integer value] ts := by
  let t : Token := { kind := .integer, text := String.ofList (Numeral.numeral value) }
  have text : t.text.toList = Numeral.numeral value := String.toList_ofList
  have denotes : Denotes t (.integer value) := by
    have same : Numeral.valueOf t.text.toList = value := by
      rw [text, Numeral.valueOf_numeral]
    exact same ▸ .integer rfl
  refine ⟨[t], .atom denotes .nil, ?_, ?_⟩
  · rw [List.forall_mem_singleton, text]
    exact .integer (Numeral.isInteger_numeral value)
  · rw [List.forall_mem_singleton, text]
    exact fun _ => Numeral.length_digitsOf_numeral least_le le_greatest

private theorem isText_word {c : Char} {cs : List Char} (start : isSymbolStart c = true)
    (noDigit : isDigit c = false) (noSign : c ∉ ['+', '-', '.'])
    (all : cs.all isSymbolChar = true) : IsText .symbol (c :: cs) := by
  refine .symbol (.mk start (List.all_eq_true.mp all)) ?_
  intro starts
  cases starts with
  | digit digit =>
    rw [noDigit] at digit
    cases digit
  | signed sign _ =>
    apply noSign
    rcases sign with rfl | rfl <;> simp
  | pointed => exact noSign (by simp)

private theorem isText_reserved {name : String} (reserved : name ∈ ["nil", "true", "false"]) :
    IsText .symbol name.toList := by
  simp only [List.mem_cons, List.not_mem_nil, or_false] at reserved
  rcases reserved with rfl | rfl | rfl <;>
    exact isText_word (by decide +kernel) (by decide) (by decide) (by decide +kernel)

private theorem Wording.list {items : List Expr} {ts : List Token} (wording : Wording items ts) :
    Wording [.list items]
      ({ kind := .opening, text := "" } :: (ts ++ [{ kind := .closing, text := "" }])) := by
  refine ⟨.list rfl wording.flattens rfl .nil, ?_, ?_⟩
  · refine List.forall_mem_cons.mpr ⟨.opening, List.forall_mem_append.mpr ⟨wording.words, ?_⟩⟩
    exact List.forall_mem_singleton.mpr .closing
  · refine List.forall_mem_cons.mpr
      ⟨nofun, List.forall_mem_append.mpr ⟨wording.convertible, ?_⟩⟩
    exact List.forall_mem_singleton.mpr nofun

theorem Readable.exists_wording {e : Expr} (readable : Readable e) : ∃ ts, Wording [e] ts := by
  induction readable with
  | nil =>
    let t : Token := { kind := .symbol, text := "nil" }
    exact ⟨[t], .atom (.nil rfl rfl) (isText_reserved (by simp [t])) (by simp [t])⟩
  | boolean value =>
    cases value with
    | true =>
      let t : Token := { kind := .symbol, text := "true" }
      exact ⟨[t], .atom (.booleanTrue rfl rfl) (isText_reserved (by simp [t])) (by simp [t])⟩
    | false =>
      let t : Token := { kind := .symbol, text := "false" }
      exact ⟨[t], .atom (.booleanFalse rfl rfl) (isText_reserved (by simp [t])) (by simp [t])⟩
  | @string text isBody =>
    let t : Token := { kind := .string, text }
    exact ⟨[t], .atom (.string rfl) (.string isBody) (by simp [t])⟩
  | @symbol name isSymbol noNumber noNil noTrue noFalse =>
    let t : Token := { kind := .symbol, text := name }
    exact ⟨[t], .atom (.symbol rfl noNil noTrue noFalse) (.symbol isSymbol noNumber) (by simp [t])⟩
  | integer least_le le_greatest => exact exists_wording_of_integer least_le le_greatest
  | @float digits isFloat =>
    let t : Token := { kind := .float, text := String.ofList digits }
    have text : t.text.toList = digits := String.toList_ofList
    rw [← text] at isFloat ⊢
    exact ⟨[t], .atom (.float rfl) (.float isFloat) (by simp [t])⟩
  | list _ ih =>
    obtain ⟨ts, wording⟩ := exists_wording_of_forall ih
    exact ⟨_, wording.list⟩

theorem exists_spells (touch : Token → Token → Prop) (ts : List Token) :
    ∃ gaps text, Spells touch gaps ts text ∧ (gaps.head? = some [] → ts = []) := by
  induction ts with
  | nil => exact ⟨[[]], [], .finish .nil, fun _ => rfl⟩
  | cons t ts ih =>
    obtain ⟨gaps, text, spells, apart⟩ := ih
    have space : IsClosedGap [' '] := .separator rfl .nil
    refine ⟨_, _, .cons space ?_ spells, by simp⟩
    intro none u head
    rw [apart none] at head
    cases head

/-- What is read is readable, with whatever calls, and readable expressions that are not too deep can
be written down, and are read from all texts that spell them. -/
theorem readable_and_read_back [Capacity] :
    (∀ source maxDepth,
      (∀ e, (parse source maxDepth).result = .ok (some e) → Readable e) ∧
      (∀ es, (parseAll source maxDepth).result = .ok es → ∀ e ∈ es, Readable e) ∧
      ∀ cs, ∀ a ∈ (calls ExprStream.call (.ofSource source maxDepth) cs).1, ∀ e ∈ a.exprs,
        Readable e) ∧
    ∀ es, (∀ e ∈ es, Readable e) → (∀ e ∈ es, e.depth ≤ 200) →
      (∀ ts gaps text, Wording es ts → Spells Token.MayTouch gaps ts text →
        (parseAll (String.ofList text) none).result = .ok es) ∧
      ∃ ts gaps text, Wording es ts ∧ Spells Token.MayTouch gaps ts text := by
  constructor
  · intro source maxDepth
    exact ⟨fun e => readable_of_parse, fun es => readable_of_parseAll,
      ExprStream.readable_calls source maxDepth⟩
  · intro es readable shallow
    refine ⟨?_, ?_⟩
    · intro ts gaps text wording spells
      exact wording.parseAll_eq readable shallow spells
    · obtain ⟨ts, wording⟩ := exists_wording_of_forall fun e member =>
        (readable e member).exists_wording
      obtain ⟨gaps, text, spells, -⟩ := exists_spells _ ts
      exact ⟨ts, gaps, text, wording, spells⟩

end Sexp
