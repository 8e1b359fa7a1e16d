import Sexp.Proofs.Expr.Object
import Sexp.Proofs.ExprStream.Readable
import Sexp.Proofs.Numeral.Conversion

set_option autoImplicit false
set_option relaxedAutoImplicit false

/-!
# Equality of what is read

Every float that is read is a number. So equality of expressions, which is symmetric and transitive
at all events, is an equivalence on those that are read, and a source that is read twice gives equal
results. `equality_is_agreement` says this beside what holds of all expressions.
-/

namespace Sexp

theorem Readable.not_hasNaN {e : Expr} (readable : Readable e) : ¬ e.HasNaN := by
  induction readable with
  | nil | boolean _ | string _ | symbol _ _ _ _ _ | integer _ _ => exact nofun
  | @float digits _ =>
    rw [Expr.hasNaN_float_iff, Bool.not_eq_true]
    exact (Decimal.rounds_toFloat (Decimal.ofText digits)).isNaN_eq_false
  | list _ ih =>
    rw [Expr.hasNaN_list_iff]
    rintro ⟨e, member, has⟩
    exact ih e member has

section

variable [Capacity]

/-- Some source is read as an expression, or as several and this is one of them. -/
def IsRead (e : Expr) : Prop :=
  ∃ source maxDepth, (parse source maxDepth).result = .ok (some e) ∨
    ∃ es, (parseAll source maxDepth).result = .ok es ∧ e ∈ es

theorem IsRead.not_hasNaN {e : Expr} (isRead : IsRead e) : ¬ e.HasNaN := by
  obtain ⟨source, maxDepth, found | ⟨es, found, member⟩⟩ := isRead
  · exact (readable_of_parse found).not_hasNaN
  · exact (readable_of_parseAll found e member).not_hasNaN

theorem equivalence_of_isRead :
    Equivalence fun a b : {e // IsRead e} => (a.1 == b.1) = true where
  refl a := Expr.beq_self_iff.mpr a.2.not_hasNaN
  symm := BEq.symm
  trans := BEq.trans

theorem parseAll_beq_self {source : String} {maxDepth : Option Int} {es : List Expr}
    (found : (parseAll source maxDepth).result = .ok es) : (es == es) = true := by
  rw [← Expr.beq_list, Expr.beq_self_iff, Expr.hasNaN_list_iff]
  rintro ⟨e, member, has⟩
  exact (readable_of_parseAll found e member).not_hasNaN has

end

/-- Expressions are equal if they agree in shape, kinds and contents. A copy equals an expression
unless something in it is not a number, and equality is symmetric and transitive. On the objects of a
memory it is an equivalence, and an item of a list can be replaced by an equal one whatever the other
items are. Objects are compared like their expressions if they are apart, or if one of them is read,
for what is read holds numbers only. So equality is an equivalence on what is read, and what is read
twice is equal. -/
theorem equality_is_agreement [Capacity] :
    (∀ a b c : Expr,
      ((a == b) = true ↔ a.Agrees b) ∧ ((a == a) = true ↔ ¬ a.HasNaN) ∧ (a == b) = (b == a) ∧
        ((a == b) = true → (b == c) = true → (a == c) = true)) ∧
    (∀ (as : List Expr) (i : Nat) (a b c : Expr), as[i]? = some a → (a == b) = true →
      (.list as == c) = (.list (as.set i b) == c)) ∧
    (∀ memory : Memory,
      Equivalence (fun a b : {o // o ∈ memory} => (a.1 == b.1) = true) ∧
      (∀ address place as address' place' i a b,
        .list address place as ∈ memory → .list address' place' (as.set i b) ∈ memory →
        as[i]? = some a → (a == b) = true →
        (Object.list address place as == .list address' place' (as.set i b)) = true) ∧
      ∀ a ∈ memory, ∀ b ∈ memory,
        (a.Apart b → (a == b) = (a.expr == b.expr) ∧
          (a.expr = b.expr → ((a == b) = true ↔ ¬ a.expr.HasNaN))) ∧
        (IsRead a.expr → (a == b) = (a.expr == b.expr))) ∧
    (∀ e, IsRead e → ¬ e.HasNaN) ∧
    Equivalence (fun a b : {e // IsRead e} => (a.1 == b.1) = true) ∧
    ∀ source maxDepth,
      (∀ e e', (parse source maxDepth).result = .ok (some e) →
        (parse source maxDepth).result = .ok (some e') → (e == e') = true) ∧
      ∀ es es', (parseAll source maxDepth).result = .ok es →
        (parseAll source maxDepth).result = .ok es' → (es == es') = true := by
  refine ⟨?_, ?_, ?_, fun e => IsRead.not_hasNaN, equivalence_of_isRead, ?_⟩
  · intro a b c
    exact ⟨Expr.beq_iff_agrees, Expr.beq_self_iff, BEq.comm, BEq.trans⟩
  · intro as i a b c found equal
    exact Expr.beq_set found equal c
  · intro memory
    refine ⟨Object.equivalence memory, ?_, ?_⟩
    · intro address place as address' place' i a b held held' found equal
      exact Object.beq_set held held' found equal
    · intro a held b held'
      constructor
      · intro apart
        have compared := Object.beq_eq_of_apart held held' apart
        refine ⟨compared, ?_⟩
        intro copy
        rw [compared, ← copy, Expr.beq_self_iff]
      · intro isRead
        exact Object.beq_eq_of_apart held held' (Object.apart_of_not_hasNaN isRead.not_hasNaN)
  · intro source maxDepth
    constructor
    · intro e e' found found'
      obtain rfl : e = e' := Option.some.inj (Except.ok.inj (found.symm.trans found'))
      exact Expr.beq_self_iff.mpr (readable_of_parse found).not_hasNaN
    · intro es es' found found'
      obtain rfl : es = es' := Except.ok.inj (found.symm.trans found')
      exact parseAll_beq_self found

/-- A float that is not a number. -/
def blank (address : Nat) : Object := .float address (address + 1) (0 / 0)

/-- Two lists with one blank in both and zeros of different signs behind it, and another blank. -/
def zerosBehindBlank : Memory where
  holds o := o ∈ [blank 0, blank 2, .float 4 5 0, .float 6 7 (-0), .list 8 9 [blank 0, .float 4 5 0],
    .list 10 11 [blank 0, .float 6 7 (-0)]]
  holds_item held member := by
    simp only [blank, List.mem_cons, Object.list.injEq, reduceCtorEq, List.not_mem_nil, or_false,
      false_or] at held
    rcases held with ⟨-, -, rfl⟩ | ⟨-, -, rfl⟩ <;>
      rcases List.mem_pair.mp member with rfl | rfl <;> simp [blank]
  eq_of_address held held' here := by
    simp only [List.mem_cons, List.not_mem_nil, or_false] at held held'
    rcases held with rfl | rfl | rfl | rfl | rfl | rfl <;>
      rcases held' with rfl | rfl | rfl | rfl | rfl | rfl <;> simp_all [blank, Object.address]
  eq_of_float held held' := by
    simp only [blank, List.mem_cons, Object.float.injEq, reduceCtorEq, List.not_mem_nil,
      or_false] at held held'
    rcases held with ⟨-, rfl, rfl⟩ | ⟨-, rfl, rfl⟩ | ⟨-, rfl, rfl⟩ | ⟨-, rfl, rfl⟩ <;> simp_all
  eq_of_list held held' := by
    simp only [blank, List.mem_cons, Object.list.injEq, reduceCtorEq, List.not_mem_nil, or_false,
      false_or] at held held'
    rcases held with ⟨-, rfl, rfl⟩ | ⟨-, rfl, rfl⟩ <;> simp_all

/-- One zero can take the place of the other behind a blank that both lists share, but blanks at two
places are not equal. Zeros that are read are numbers, and so are lists of them. -/
theorem zeros_exchanged_behind_blank :
    (Object.list 8 9 [blank 0, .float 4 5 0] ∈ zerosBehindBlank ∧
      Object.list 10 11 [blank 0, .float 6 7 (-0)] ∈ zerosBehindBlank ∧
      (Object.float 4 5 0 == .float 6 7 (-0)) = true ∧
      (Object.list 8 9 [blank 0, .float 4 5 0] == .list 10 11 [blank 0, .float 6 7 (-0)]) = true) ∧
    (blank 0 ∈ zerosBehindBlank ∧ blank 2 ∈ zerosBehindBlank ∧ (blank 0).Apart (blank 2) ∧
      (blank 0 == blank 2) = false) ∧
    ((parse "(0.0)" none).result = .ok (some (.list [.float 0])) ∧
      ¬ (Expr.list [.float 0]).HasNaN ∧ (Expr.list [.float 0] == .list [.float 0]) = true) ∧
    ((parseAll "(-0.0)" none).result = .ok [.list [.float (-0)]] ∧
      ([Expr.list [.float (-0)]] == [.list [.float (-0)]]) = true) ∧
    (Expr.float (-0) == .float 0) = true ∧
      (Expr.list [.float (-0)] == .list [.float 0]) = true := by
  obtain ⟨-, replaced, memories, numbers, -, twice⟩ := equality_is_agreement
  obtain ⟨-, exchanged, compared⟩ := memories zerosBehindBlank
  have held : Object.list 8 9 [blank 0, .float 4 5 0] ∈ zerosBehindBlank := by
    show _ ∈ [_, _, _, _, _, _]
    simp
  have held' : Object.list 10 11 [blank 0, .float 6 7 (-0)] ∈ zerosBehindBlank := by
    show _ ∈ [_, _, _, _, _, _]
    simp
  have first : blank 0 ∈ zerosBehindBlank := List.mem_cons_self
  have second : blank 2 ∈ zerosBehindBlank := List.mem_cons_of_mem _ List.mem_cons_self
  have zeros : (Object.float 4 5 0 == .float 6 7 (-0)) = true := by decide
  have zeros' : (Expr.float (-0) == .float 0) = true := by decide
  have isNaN : (0 / 0 : Float).isNaN = true := by decide
  have apart : (blank 0).Apart (blank 2) := by
    rintro place ⟨_⟩ ⟨⟩
  have read : (parse "(0.0)" none).result = .ok (some (.list [.float 0])) := by cbv
  have readAll : (parseAll "(-0.0)" none).result = .ok [.list [.float (-0)]] := by
    show (ExprStream.readAll _).1 = _
    rw [ExprStream.readAll_eq, ExprStream.readAll_eq]
    cbv
  have copy : (Expr.list [.float 0] == .list [.float 0]) = true := (twice _ _).1 _ _ read read
  refine ⟨⟨held, held', zeros, ?_⟩, ⟨first, second, apart, ?_⟩, ⟨read, ?_, copy⟩, ⟨readAll, ?_⟩,
    zeros', ?_⟩
  · exact exchanged 8 9 [blank 0, .float 4 5 0] 10 11 1 (.float 4 5 0) (.float 6 7 (-0)) held held'
      rfl zeros
  · rw [Bool.eq_false_iff]
    intro equal
    exact ((((compared _ first _ second).1 apart).2 rfl).mp equal) (.here isNaN)
  · exact numbers _ ⟨_, _, .inl read⟩
  · exact (twice _ _).2 _ _ readAll readAll
  · exact (replaced [.float (-0)] 0 _ (.float 0) _ rfl zeros').trans copy

end Sexp
