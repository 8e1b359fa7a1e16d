import Sexp.ExprStream.Step
import Sexp.Proofs.ExprStream.Flattening

set_option autoImplicit false
set_option relaxedAutoImplicit false

/-!
# What can come of a token

`Step.ofToken_comes` lists what a token can do, with the reason for each, and `Step.Refuses` the
reasons to refuse it. What is said of a step elsewhere is read off these lists.
-/

namespace Sexp.Step

variable {maxDepth : Option Int} {lists lists' : List OpenList} {t : Token} {e : Expr} {step : Step}
  {position : Position} {error : ReadError} {depth : Nat}

theorem uses_place (e : Expr) (lists : List OpenList) : (place e lists).uses = true := by
  cases lists <;> rfl

theorem place_ne_refuse : place e lists ≠ .refuse error := by
  intro same
  have used := uses_place e lists
  rw [same] at used
  cases used

theorem exceeds_some {limit : Int} : exceeds (some limit) depth = true ↔ limit < depth :=
  decide_eq_true_iff

theorem exceeds_eq_false_iff :
    exceeds maxDepth depth = false ↔ ∀ limit, maxDepth = some limit → (depth : Int) ≤ limit := by
  cases maxDepth <;> simp [exceeds]

/-- The limit on nesting has too many digits for a report. -/
def Unnamed (maxDepth : Option Int) : Prop :=
  ∃ limit, maxDepth = some limit ∧ ¬ Numeral.Writable limit

/-- A limit that is chosen can be named, unless it is negative. -/
def Moderate (maxDepth : Option Int) : Prop :=
  ∀ limit, maxDepth = some limit → limit < 10 ^ Numeral.conversionLimit

theorem exceeds_of_le {depth' : Nat} (beyond : exceeds maxDepth depth = true)
    (deeper : depth ≤ depth') : exceeds maxDepth depth' = true := by
  cases maxDepth with
  | none => cases beyond
  | some limit =>
    rw [exceeds_some] at beyond ⊢
    omega

theorem not_exceeds_of_le {depth' : Nat} (within : exceeds maxDepth depth' = false)
    (shallower : depth ≤ depth') : exceeds maxDepth depth = false := by
  rw [exceeds_eq_false_iff] at within ⊢
  intro limit chosen
  exact Int.le_trans (Int.ofNat_le.mpr shallower) (within limit chosen)

theorem moderate_of_writable {limit : Int} (writable : Numeral.Writable limit) :
    Moderate (some limit) := by
  rintro _ ⟨⟩
  have small : (limit.natAbs : Int) < 10 ^ Numeral.conversionLimit := by exact_mod_cast writable
  omega

theorem Moderate.exceeds_zero (moderate : Moderate maxDepth) (unnamed : Unnamed maxDepth) :
    exceeds maxDepth 0 = true := by
  obtain ⟨limit, rfl, long⟩ := unnamed
  have small := moderate limit rfl
  rw [exceeds_some]
  by_contra nonneg
  apply long
  have same : (limit.natAbs : Int) = limit := by omega
  rw [← same] at small
  exact_mod_cast small

theorem depthContext?_of_writable {limit : Int} (writable : Numeral.Writable limit) :
    Defect.depthContext? (some limit) =
      some ("Lists may be nested at most " ++ toString limit ++ " deep") := by
  rw [Defect.depthContext?, Numeral.write?_eq.1 writable]
  rfl

theorem depthContext?_eq_none_iff : Defect.depthContext? maxDepth = none ↔ Unnamed maxDepth := by
  cases maxDepth with
  | none => simp [Defect.depthContext?, Unnamed]
  | some limit => simp [Defect.depthContext?, Unnamed, Numeral.write?_eq_none_iff]

/-- The errors for a list that lies too deep and has its parenthesis at a position. -/
inductive TooDeep (maxDepth : Option Int) (position : Position) : ReadError → Prop
  | named {d : Defect} {context : String} : Defect.depthContext? maxDepth = some context →
      d.diagnostic = Defect.depthDiagnostic context position →
      TooDeep maxDepth position (.defect d)
  | unnamed : Unnamed maxDepth → TooDeep maxDepth position (.overlongInteger .writing)

private theorem tooDeep_depthError {defect : String → Defect}
    (report : ∀ context,
      (defect context).diagnostic = Defect.depthDiagnostic context position) :
    TooDeep maxDepth position (depthError maxDepth defect) := by
  unfold depthError
  split
  · rename_i context found
    exact .named found (report context)
  · rename_i none
    exact .unnamed (depthContext?_eq_none_iff.mp none)

theorem depthError_of_unnamed (unnamed : Unnamed maxDepth) (defect : String → Defect) :
    depthError maxDepth defect = .overlongInteger .writing := by
  rw [depthError, depthContext?_eq_none_iff.mpr unnamed]

theorem depthError_of_writable {limit : Int} (writable : Numeral.Writable limit)
    (defect : String → Defect) :
    depthError (some limit) defect =
      .defect (defect ("Lists may be nested at most " ++ toString limit ++ " deep")) := by
  rw [depthError, depthContext?_of_writable writable]

section Depth

variable [Capacity]

theorem depthError?_eq_none_iff :
    depthError? maxDepth depth position = none ↔
      exceeds maxDepth depth = false ∧ depth ≤ Capacity.lists := by
  unfold depthError?
  split
  · simp_all
  · split <;> simp_all

theorem tooDeep_of_depthError? (deep : depthError? maxDepth depth position = some error) :
    (exceeds maxDepth depth = true ∨ Capacity.lists < depth) ∧ TooDeep maxDepth position error := by
  unfold depthError? at deep
  split at deep
  · rename_i beyond
    cases deep
    exact ⟨.inl beyond, tooDeep_depthError fun _ => rfl⟩
  · split at deep
    · rename_i beyond
      cases deep
      exact ⟨.inr beyond, tooDeep_depthError fun _ => rfl⟩
    · cases deep

/-- The errors with which a token is refused when some lists are open, and why. -/
inductive Refuses (maxDepth : Option Int) (lists : List OpenList) (t : Token) : ReadError → Prop
  | malformed : t.kind = .error →
      Refuses maxDepth lists t (.defect (.malformed (t.message.getD "") t.text t.position))
  | strayClosing : t.kind = .closing → lists = [] →
      Refuses maxDepth lists t (.defect (.strayClosing t.position))
  | outOfRange : t.kind = .integer → Numeral.readInteger t.text.toList = .outOfRange →
      Refuses maxDepth lists t (.defect (.integerOutOfRange t.text t.position))
  | overlong {digits : Nat} : t.kind = .integer →
      Numeral.readInteger t.text.toList = .overlong digits →
      Refuses maxDepth lists t (.overlongInteger (.reading digits))
  | depth {error : ReadError} : t.kind = .opening →
      depthError? maxDepth (lists.length + 1) t.position = some error →
      Refuses maxDepth lists t error
  | unfinished {l : OpenList} {ls : List OpenList} : t.kind = .empty → lists = l :: ls →
      Refuses maxDepth lists t (.defect (.unfinished l.opened))

/-- What can come of a token when some lists are open, and why. -/
inductive Comes (maxDepth : Option Int) (lists : List OpenList) (t : Token) (step : Step) : Prop
  | atom {e : Expr} : Denotes t e → (t.kind = .integer → Numeral.Fits t.text.toList) →
      step = place e lists → Comes maxDepth lists t step
  | opening : t.kind = .opening → depthError? maxDepth (lists.length + 1) t.position = none →
      step = .shift (⟨t.position, []⟩ :: lists) → Comes maxDepth lists t step
  | closing {l : OpenList} {ls : List OpenList} : t.kind = .closing → lists = l :: ls →
      step = place (.list l.items.reverse) ls → Comes maxDepth lists t step
  | finish : t.kind = .empty → lists = [] → step = .finish → Comes maxDepth lists t step
  | refuse {error : ReadError} : Refuses maxDepth lists t error → step = .refuse error →
      Comes maxDepth lists t step

theorem ofToken_comes (maxDepth : Option Int) (lists : List OpenList) (t : Token) :
    Comes maxDepth lists t (ofToken maxDepth lists t) := by
  unfold ofToken
  cases kind : t.kind with
  | string => exact .atom (.string kind) (by simp [kind]) rfl
  | symbol => exact .atom (denotes_ofName kind) (by simp [kind]) rfl
  | float => exact .atom (.float kind) (by simp [kind]) rfl
  | integer =>
    cases reading : Numeral.readInteger t.text.toList with
    | value n =>
      obtain ⟨rfl, fits⟩ := Numeral.fits_of_readInteger reading
      exact .atom (.integer kind) (fun _ => fits) rfl
    | outOfRange => exact .refuse (.outOfRange kind reading) rfl
    | overlong digits => exact .refuse (.overlong kind reading) rfl
  | opening =>
    cases allowed : depthError? maxDepth (lists.length + 1) t.position with
    | none => exact .opening kind allowed rfl
    | some error => exact .refuse (.depth kind allowed) rfl
  | closing =>
    cases lists with
    | nil => exact .refuse (.strayClosing kind rfl) rfl
    | cons l ls => exact .closing kind rfl rfl
  | empty =>
    cases lists with
    | nil => exact .finish kind rfl rfl
    | cons l ls => exact .refuse (.unfinished kind rfl) rfl
  | error => exact .refuse (.malformed kind) rfl

theorem empty_of_finish (finished : ofToken maxDepth lists t = .finish) :
    t.kind = .empty ∧ lists = [] := by
  have comes := ofToken_comes maxDepth lists t
  rw [finished] at comes
  cases comes with
  | finish kind outside => exact ⟨kind, outside⟩
  | atom _ _ placed => cases lists <;> cases placed
  | @closing _ ls _ _ placed => cases ls <;> cases placed
  | opening _ _ same | refuse _ same => cases same

theorem refuses_of_refuse (refused : ofToken maxDepth lists t = .refuse error) :
    Refuses maxDepth lists t error := by
  have comes := ofToken_comes maxDepth lists t
  rw [refused] at comes
  cases comes with
  | refuse refuses same =>
    cases same
    exact refuses
  | atom _ _ placed | closing _ _ placed => exact absurd placed.symm place_ne_refuse
  | opening _ _ same | finish _ _ same => cases same

theorem refuse_of_depthError? (kind : t.kind = .opening)
    (deep : depthError? maxDepth (lists.length + 1) t.position = some error) :
    ofToken maxDepth lists t = .refuse error := by
  simp only [ofToken, kind, deep]

theorem refuse_reading_iff {digits : Nat} :
    ofToken maxDepth lists t = .refuse (.overlongInteger (.reading digits)) ↔
      t.kind = .integer ∧ Numeral.Overlong t.text.toList ∧
        digits = (Numeral.digitsOf t.text.toList).length := by
  rw [← Numeral.readInteger_eq_overlong_iff]
  constructor
  · intro refused
    cases refuses_of_refuse refused with
    | overlong kind reading => exact ⟨kind, reading⟩
    | depth kind deep => cases (tooDeep_of_depthError? deep).2
  · rintro ⟨kind, reading⟩
    simp only [ofToken, kind, reading]

/-- Of all tokens, only those that open too deep a list are refused so, and only if the limit cannot
be named. -/
theorem refuse_writing_iff :
    ofToken maxDepth lists t = .refuse (.overlongInteger .writing) ↔
      t.kind = .opening ∧ Unnamed maxDepth ∧
        (exceeds maxDepth (lists.length + 1) = true ∨ Capacity.lists < lists.length + 1) := by
  constructor
  · intro refused
    cases refuses_of_refuse refused with
    | depth kind deep =>
      obtain ⟨beyond, tooDeep⟩ := tooDeep_of_depthError? deep
      cases tooDeep with
      | unnamed unnamed => exact ⟨kind, unnamed, beyond⟩
  · rintro ⟨kind, unnamed, beyond⟩
    apply refuse_of_depthError? kind
    unfold depthError?
    split
    · rw [depthError_of_unnamed unnamed]
    · rename_i shallow
      rw [if_pos (beyond.resolve_left shallow), depthError_of_unnamed unnamed]

/-- What has too many digits for a conversion has them wherever it stands. -/
theorem refuse_again {conversion : Numeral.Conversion} (moderate : Moderate maxDepth)
    (refused : ofToken maxDepth lists t = .refuse (.overlongInteger conversion))
    (lists' : List OpenList) :
    ofToken maxDepth lists' t = .refuse (.overlongInteger conversion) := by
  cases conversion with
  | reading digits => exact refuse_reading_iff.mpr (refuse_reading_iff.mp refused)
  | writing =>
    obtain ⟨kind, unnamed, -⟩ := refuse_writing_iff.mp refused
    have beyond := exceeds_of_le (moderate.exceeds_zero unnamed) (Nat.zero_le (lists'.length + 1))
    exact refuse_writing_iff.mpr ⟨kind, unnamed, .inl beyond⟩

theorem ofToken_ne_shift_nil : ofToken maxDepth lists t ≠ .shift [] := by
  intro used
  have comes := ofToken_comes maxDepth lists t
  rw [used] at comes
  cases comes with
  | atom _ _ placed => cases lists <;> cases placed
  | @closing _ ls _ _ placed => cases ls <;> cases placed
  | opening _ _ same | finish _ _ same | refuse _ same => cases same

private theorem category_of_refuse {d : Defect} (formed : t.kind ≠ .error)
    (refused : ofToken maxDepth lists t = .refuse (.defect d)) :
    d.diagnostic.category = .syntactic ∨ d.diagnostic.category = .structural := by
  cases refuses_of_refuse refused with
  | malformed error => exact absurd error formed
  | strayClosing | outOfRange => exact .inl rfl
  | depth _ deep =>
    cases (tooDeep_of_depthError? deep).2 with
    | named _ report =>
      rw [report]
      exact .inr rfl
  | unfinished => exact .inr rfl

theorem depthError?_of_refuse {d : Defect} {words : String}
    (refused : ofToken maxDepth lists t = .refuse (.defect d))
    (context : d.diagnostic.context = some words) :
    t.kind = .opening ∧ depthError? maxDepth (lists.length + 1) t.position = some (.defect d) := by
  cases refuses_of_refuse refused with
  | depth kind deep => exact ⟨kind, deep⟩
  | malformed | strayClosing | outOfRange | unfinished => cases context

theorem lexical_of_refuse {d : Defect} (refused : ofToken maxDepth lists t = .refuse (.defect d)) :
    (d.diagnostic.category = .lexical ↔ t.kind = .error) ∧
      (t.kind = .error → d.diagnostic.message = t.message.getD "") := by
  by_cases error : t.kind = .error
  · simp only [ofToken, error] at refused
    cases refused
    exact ⟨iff_of_true rfl error, fun _ => rfl⟩
  · refine ⟨iff_of_false ?_ error, fun kind => absurd kind error⟩
    rcases category_of_refuse error refused with other | other <;> rw [other] <;> decide

end Depth

end Sexp.Step
