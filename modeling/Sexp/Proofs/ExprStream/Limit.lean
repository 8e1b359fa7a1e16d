import Sexp.Proofs.ExprStream.Acceptance

set_option autoImplicit false
set_option relaxedAutoImplicit false

/-!
# What a limit on nesting does

A limit refuses lists that lie too deep and changes nothing else. `parseAll_limit` says that what is
read under a limit is what is read without one, if all lists of it lie within the limit, and that a
wider limit makes no difference to a source that the narrower one does not refuse.
-/

namespace Sexp

open Nesting

/-- A list lies this many levels deep in expressions; those outside all others lie at level one. -/
inductive ListAt : Nat → List Expr → Prop
  | outermost {items es : List Expr} : .list items ∈ es → ListAt 1 es
  | within {items es : List Expr} {level : Nat} :
      .list items ∈ es → ListAt level items → ListAt (level + 1) es

/-- What a limit allows, a wider one allows. -/
def Wider (narrow : Int) (wide : Option Int) : Prop := ∀ limit, wide = some limit → narrow ≤ limit

namespace Step

variable {narrow : Int} {wide : Option Int} {position : Position} {error : ReadError} {depth : Nat}

theorem exceeds_of_wider (wider : Wider narrow wide)
    (within : exceeds (some narrow) depth = false) : exceeds wide depth = false := by
  rw [exceeds_eq_false_iff] at within ⊢
  intro limit chosen
  exact Int.le_trans (within narrow rfl) (wider limit chosen)

theorem TooDeep.message_or_writing (deep : TooDeep (some narrow) position error) :
    error.message = "maximum nesting depth exceeded" ∨
      ¬ Numeral.Writable narrow ∧ error = .overlongInteger .writing := by
  cases deep with
  | @named d _ _ report =>
    left
    change d.diagnostic.message = _
    rw [report]
    rfl
  | unnamed unnamed =>
    obtain ⟨limit, same, long⟩ := unnamed
    cases same
    exact .inr ⟨long, rfl⟩

variable [Capacity]

theorem depthError?_of_wider (wider : Wider narrow wide)
    (allowed : depthError? (some narrow) depth position = none) :
    depthError? wide depth position = none := by
  obtain ⟨within, few⟩ := depthError?_eq_none_iff.mp allowed
  exact depthError?_eq_none_iff.mpr ⟨exceeds_of_wider wider within, few⟩

theorem ofToken_of_wider (wider : Wider narrow wide) (lists : List OpenList) (t : Token) :
    ofToken wide lists t = ofToken (some narrow) lists t ∨
      ∃ error, ofToken (some narrow) lists t = .refuse error ∧
        TooDeep (some narrow) t.position error := by
  by_cases kind : t.kind = .opening
  · cases allowed : depthError? (some narrow) (lists.length + 1) t.position with
    | none =>
      have allowed' := depthError?_of_wider wider allowed
      left
      simp only [ofToken, kind, allowed, allowed']
    | some error =>
      exact .inr ⟨error, refuse_of_depthError? kind allowed, (tooDeep_of_depthError? allowed).2⟩
  · left
    unfold ofToken
    cases other : t.kind with
    | opening => exact absurd other kind
    | _ => rfl

theorem run_of_wider (wider : Wider narrow wide) (lists : List OpenList) (ts : List Token)
    (kept : ∀ error, run (some narrow) lists ts = .error error →
      ∀ position, ¬ TooDeep (some narrow) position error) :
    run wide lists ts = run (some narrow) lists ts := by
  induction ts generalizing lists with
  | nil => rfl
  | cons t ts ih =>
    rw [run] at kept ⊢
    rw [run]
    rcases ofToken_of_wider wider lists t with same | ⟨error, refused, deep⟩
    · rw [same]
      cases used : ofToken (some narrow) lists t with
      | shift lists' =>
        rw [used] at kept
        exact ih lists' kept
      | deliver e =>
        rw [used] at kept
        have kept' : ∀ error, run (some narrow) [] ts = .error error →
            ∀ position, ¬ TooDeep (some narrow) position error := by
          intro error failed
          apply kept error
          simp only [failed, Except.map]
        simp only [ih [] kept']
      | finish => rfl
      | refuse error => rfl
    · rw [refused] at kept
      exact absurd deep (kept error rfl _)

end Step

section

variable {e : Expr} {items es : List Expr} {ts : List Token}

theorem not_listAt_nil {level : Nat} : ¬ ListAt level [] := by
  intro lies
  cases lies with
  | outermost member | within member _ => cases member

theorem listAt_atom {level : Nat} (atom : ∀ items, e ≠ .list items) :
    ListAt level (e :: es) ↔ ListAt level es := by
  have others {items : List Expr} (member : .list items ∈ e :: es) : .list items ∈ es :=
    (List.mem_cons.mp member).resolve_left (Ne.symm (atom items))
  constructor
  · intro lies
    cases lies with
    | outermost member => exact .outermost (others member)
    | within member lies => exact .within (others member) lies
  · intro lies
    cases lies with
    | outermost member => exact .outermost (List.mem_cons_of_mem _ member)
    | within member lies => exact .within (List.mem_cons_of_mem _ member) lies

theorem listAt_list {level : Nat} :
    ListAt level (.list items :: es) ↔
      (level = 1 ∨ ∃ inner, level = inner + 1 ∧ ListAt inner items) ∨ ListAt level es := by
  constructor
  · intro lies
    cases lies with
    | outermost => exact .inl (.inl rfl)
    | @within items' _ inner member lies =>
      rcases List.mem_cons.mp member with same | member
      · cases same
        exact .inl (.inr ⟨inner, rfl, lies⟩)
      · exact .inr (.within member lies)
  · rintro ((rfl | ⟨inner, rfl, lies⟩) | lies)
    · exact .outermost List.mem_cons_self
    · exact .within List.mem_cons_self lies
    · cases lies with
      | outermost member => exact .outermost (List.mem_cons_of_mem _ member)
      | within member lies => exact .within (List.mem_cons_of_mem _ member) lies

theorem Denotes.ne_list {t : Token} (denotes : Denotes t e) : ∀ items, e ≠ .list items := by
  rintro items rfl
  cases denotes

/-- The opening tokens of expressions stand where the lists lie. Only the lists around them count,
not those before them. -/
theorem Flattens.along_levels {outer : List Token} {limit : Int} (flattens : Flattens es ts) :
    Along (fun outer t => t.kind = .opening → (outer.length : Int) + 1 ≤ limit) outer ts ↔
      ∀ level, ListAt level es → (outer.length : Int) + level ≤ limit := by
  induction flattens generalizing outer with
  | nil => simp [Along, not_listAt_nil]
  | @atom e es t ts denotes _ ih =>
    have noList : t.kind ≠ .opening := by
      intro kind
      have isAtom := denotes.isAtom
      rw [kind] at isAtom
      cases isAtom
    simp only [Along, enclose_of_isAtom denotes.isAtom, ih, listAt_atom denotes.ne_list, noList,
      false_implies, true_and]
  | @list items es opening closing inner ts isOpening flattens isClosing _ within ih =>
    have noList : closing.kind ≠ .opening := by simp [isClosing]
    have tokens : Along (fun outer t => t.kind = .opening → (outer.length : Int) + 1 ≤ limit) outer
        (opening :: (inner ++ closing :: ts)) ↔
        (outer.length : Int) + 1 ≤ limit ∧
          (∀ level, ListAt level items → (outer.length : Int) + 1 + level ≤ limit) ∧
          ∀ level, ListAt level es → (outer.length : Int) + level ≤ limit := by
      simp only [Along, along_append, enclose_of_opening isOpening, flattens.isSequence.unclosed_eq,
        enclose_of_closing isClosing, List.tail_cons, within, ih, isOpening, noList, forall_const,
        false_implies, true_and, List.length_cons, Int.natCast_add, Int.natCast_one]
    rw [tokens]
    constructor
    · rintro ⟨first, inside, behind⟩ level lies
      rcases listAt_list.mp lies with (rfl | ⟨inner, rfl, within⟩) | later
      · exact first
      · have deep := inside inner within
        omega
      · exact behind level later
    · intro shallow
      refine ⟨shallow 1 (listAt_list.mpr (.inl (.inl rfl))), ?_, ?_⟩
      · intro level lies
        have deep := shallow (level + 1) (listAt_list.mpr (.inl (.inr ⟨level, rfl, lies⟩)))
        omega
      · intro level lies
        exact shallow level (listAt_list.mpr (.inr lies))

theorem Flattens.acceptable_iff {maxDepth : Option Int} (flattens : Flattens es ts) :
    Acceptable maxDepth ts ↔
      (∀ t ∈ ts, t.kind = .integer → Numeral.Fits t.text.toList) ∧
        ∀ limit, maxDepth = some limit → ∀ level, ListAt level es → (level : Int) ≤ limit := by
  have levels (limit : Int) := @Flattens.along_levels es ts [] limit flattens
  simp only [List.length_nil, Int.natCast_zero, Int.zero_add, along_iff] at levels
  constructor
  · intro acceptable
    refine ⟨acceptable.fits, ?_⟩
    intro limit chosen
    apply (levels limit).mp
    intro before t after split kind
    exact acceptable.shallow before t after split kind limit chosen
  · rintro ⟨fits, shallow⟩
    refine ⟨flattens.isSequence, ?_, fits⟩
    intro before t after split kind limit chosen
    exact (levels limit).mpr (shallow limit chosen) before t after split kind

end

section

variable [Capacity] {source : String} {narrow : Int} {wide : Option Int}

theorem parseAll_of_wider (wider : Wider narrow wide)
    (kept : ∀ error, (parseAll source (some narrow)).result = .error error →
      ∀ position, ¬ Step.TooDeep (some narrow) position error) :
    (parseAll source wide).result = (parseAll source (some narrow)).result := by
  rw [parseAll_eq_run] at kept ⊢
  rw [parseAll_eq_run]
  exact Step.run_of_wider wider [] _ kept

theorem parseAll_ok_of_wider {es : List Expr} (wider : Wider narrow wide)
    (read : (parseAll source (some narrow)).result = .ok es) :
    (parseAll source wide).result = .ok es := by
  rw [parseAll_of_wider wider, read]
  rw [read]
  exact nofun

theorem parseAll_error_of_wider {error : ReadError} (wider : Wider narrow wide)
    (refused : (parseAll source (some narrow)).result = .error error)
    (other : error.message ≠ "maximum nesting depth exceeded")
    (reported : Numeral.Writable narrow ∨ error ≠ .overlongInteger .writing) :
    (parseAll source wide).result = .error error := by
  rw [parseAll_of_wider wider, refused]
  intro error' refused' position deep
  obtain rfl : error = error' := Except.error.inj (refused.symm.trans refused')
  rcases deep.message_or_writing with exceeded | ⟨long, unnamed⟩
  · exact other exceeded
  · rcases reported with writable | named
    · exact long writable
    · exact named unnamed

end

/-- A limit on nesting cuts and does nothing else: what is read under it is what is read without
one, provided that no list lies deeper than the limit. Whatever comes of a source under a limit,
other than that the limit is exceeded, comes of it under every wider limit and without any. Only if
the limit has too many digits for a report, another error stands where it would be exceeded. -/
theorem parseAll_limit [Capacity] (source : String) (few : AtMost 200 (tokenize source).result) :
    (∀ (limit : Int) (es : List Expr), (parseAll source (some limit)).result = .ok es ↔
      (parseAll source none).result = .ok es ∧
        ∀ level, ListAt level es → (level : Int) ≤ limit) ∧
    ∀ (narrow : Int) (wide : Option Int), Wider narrow wide →
      (∀ es, (parseAll source (some narrow)).result = .ok es →
        (parseAll source wide).result = .ok es) ∧
      ∀ error, (parseAll source (some narrow)).result = .error error →
        error.message ≠ "maximum nesting depth exceeded" →
        Numeral.Writable narrow ∨ error ≠ .overlongInteger .writing →
        (parseAll source wide).result = .error error := by
  have unlimited (limit : Int) : Wider limit none := nofun
  constructor
  · intro limit es
    constructor
    · intro read
      obtain ⟨body, last, split, -, acceptable⟩ := acceptable_of_ok few read
      have flattens := flattens_of_ok few read split
      exact ⟨parseAll_ok_of_wider (unlimited limit) read,
        (flattens.acceptable_iff.mp acceptable).2 limit rfl⟩
    · rintro ⟨read, shallow⟩
      obtain ⟨body, last, split, kind, acceptable⟩ := acceptable_of_ok few read
      have flattens := flattens_of_ok few read split
      have within : ∀ limit', some limit = some limit' →
          ∀ level, ListAt level es → (level : Int) ≤ limit' := by
        intro limit' chosen
        rwa [← Option.some.inj chosen]
      exact (parseAll_eq_ok_iff few split kind).mpr
        ⟨flattens.acceptable_iff.mpr ⟨acceptable.fits, within⟩, flattens⟩
  · intro narrow wide wider
    exact ⟨fun es => parseAll_ok_of_wider wider, fun error => parseAll_error_of_wider wider⟩

/-- The inner list lies at the second level: a limit of two admits it, and a limit of one does not.
-/
theorem inner_list_within_limit :
    AtMost 200 (tokenize "(a (b)) 7").result ∧
      (parseAll "(a (b)) 7" (some 2)).result =
        .ok [.list [.symbol "a", .list [.symbol "b"]], .integer 7] ∧
      ∀ es, (parseAll "(a (b)) 7" (some 1)).result ≠ .ok es := by
  have few : AtMost 200 (tokenize "(a (b)) 7").result := .of_length (by decide +kernel)
  have read : (parseAll "(a (b)) 7" none).result =
      .ok [.list [.symbol "a", .list [.symbol "b"]], .integer 7] := by
    have tokens : (tokenize "(a (b)) 7").result =
        [{ kind := .opening, text := "", position := ⟨1, 1⟩ },
          { kind := .symbol, text := "a", position := ⟨1, 2⟩ },
          { kind := .opening, text := "", position := ⟨1, 4⟩ },
          { kind := .symbol, text := "b", position := ⟨1, 5⟩ },
          { kind := .closing, text := "", position := ⟨1, 6⟩ },
          { kind := .closing, text := "", position := ⟨1, 7⟩ },
          { kind := .integer, text := "7", position := ⟨1, 9⟩ },
          { kind := .empty, text := "", position := ⟨1, 10⟩ }] := by
      decide +kernel
    rw [parseAll_eq_run, tokens]
    rfl
  have levels (level : Nat) : ListAt level [.list [.symbol "a", .list [.symbol "b"]], .integer 7] ↔
      level = 1 ∨ level = 2 := by
    simp [listAt_list, listAt_atom, not_listAt_nil]
  have limits := (parseAll_limit "(a (b)) 7" few).1
  refine ⟨few, (limits 2 _).mpr ⟨read, ?_⟩, ?_⟩
  · intro level lies
    rcases (levels level).mp lies with rfl | rfl <;> decide
  · intro es read'
    obtain ⟨same, shallow⟩ := (limits 1 es).mp read'
    rw [read] at same
    obtain rfl := Except.ok.inj same
    exact absurd (shallow 2 ((levels 2).mpr (.inr rfl))) (by decide)

/-- What comes of a list under a limit with a digit too many does not come of it without a limit,
although nobody says that the limit is exceeded. -/
theorem list_read_beyond_long_limit :
    let narrow : Int := -(10 ^ Numeral.conversionLimit)
    AtMost 200 (tokenize "(a)").result ∧ Wider narrow none ∧
      (∃ error, (parseAll "(a)" (some narrow)).result = .error error ∧
        error.message ≠ "maximum nesting depth exceeded") ∧
      (parseAll "(a)" none).result = .ok [.list [.symbol "a"]] := by
  intro narrow
  have tokens : (tokenize "(a)").result =
      [{ kind := .opening, text := "", position := ⟨1, 1⟩ },
        { kind := .symbol, text := "a", position := ⟨1, 2⟩ },
        { kind := .closing, text := "", position := ⟨1, 3⟩ },
        { kind := .empty, text := "", position := ⟨1, 4⟩ }] := by
    decide +kernel
  refine ⟨.of_length (by decide +kernel), nofun,
    ⟨_, parseAll_list_of_long_limit, by decide +kernel⟩, ?_⟩
  rw [parseAll_eq_run, tokens]
  rfl

end Sexp
