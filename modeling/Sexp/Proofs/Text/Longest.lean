import Sexp.Text.Munch

set_option autoImplicit false
set_option relaxedAutoImplicit false

/-!
# The longest piece at the front of a text

`Longest P text front` says that `front` is the longest piece of a class `P` with which `text`
begins. Maximal munch and runs of characters both stop after such a piece, whatever follows it.
-/

namespace Sexp.Text

/-- `front` is the longest piece of the class `P` with which `text` begins. -/
structure Longest (P : List Char → Prop) (text front : List Char) : Prop where
  begins : front <+: text
  holds : P front
  length_le : ∀ other, other <+: text → P other → other.length ≤ front.length

namespace Longest

variable {P : List Char → Prop} {text front : List Char}

theorem unique {other : List Char} (longest : Longest P text front)
    (longest' : Longest P text other) : front = other := by
  have shorter := longest'.length_le front longest.begins longest.holds
  have within := List.prefix_of_prefix_length_le longest.begins longest'.begins shorter
  exact within.eq_of_length_le (longest.length_le other longest'.begins longest'.holds)

theorem of_within (begins : front <+: text) (holds : P front)
    (within : ∀ other tail, other ++ tail = text → P other → other <+: front) :
    Longest P text front := by
  refine ⟨begins, holds, ?_⟩
  rintro other ⟨tail, parts⟩ holds'
  exact (within other tail parts holds').length_le

end Longest

section Munch

variable {σ : Type} {step : σ → Char → Option σ} {state : σ}

theorem munch_append_of_run {front back : List Char} {next : σ}
    (run : front.foldlM step state = some next) :
    munch step state (front ++ back) = (front ++ (munch step next back).1, (munch step next back).2)
    := by
  induction front generalizing state with
  | nil =>
    have same : state = next := by simpa using run
    simp [same]
  | cons c front ih =>
    obtain ⟨middle, taken, run⟩ := Option.bind_eq_some_iff.mp run
    rw [List.cons_append, munch_cons_some taken, ih run]
    rfl

theorem munch_append_of_left {cs more : List Char} (left : (munch step state cs).2 ≠ []) :
    munch step state (cs ++ more) =
      ((munch step state cs).1, (munch step state cs).2 ++ more) := by
  induction cs generalizing state with
  | nil => exact absurd rfl left
  | cons c cs ih =>
    rw [List.cons_append]
    cases advance : step state c with
    | none =>
      rw [munch_cons_none advance, munch_cons_none advance]
      rfl
    | some next =>
      rw [munch_cons_some advance] at left
      rw [munch_cons_some advance, munch_cons_some advance, ih left]

theorem munch_run (step : σ → Char → Option σ) (state : σ) (cs : List Char) :
    ∃ last, (munch step state cs).1.foldlM step state = some last ∧
      ∀ c rest, (munch step state cs).2 = c :: rest → step last c = none := by
  induction cs generalizing state with
  | nil => exact ⟨state, rfl, by simp⟩
  | cons c cs ih =>
    cases advance : step state c with
    | none =>
      rw [munch_cons_none advance]
      refine ⟨state, rfl, ?_⟩
      intro d rest same
      rw [← (List.cons.inj same).1]
      exact advance
    | some next =>
      rw [munch_cons_some advance]
      obtain ⟨last, run, stop⟩ := ih next
      exact ⟨last, by simp [advance, run], stop⟩

/-- Maximal munch takes the longest piece that the automaton accepts. -/
theorem munch_longest (step : σ → Char → Option σ) (state : σ) (cs : List Char) :
    Longest (fun front => (front.foldlM step state).isSome) cs (munch step state cs).1 := by
  obtain ⟨last, run, _⟩ := munch_run step state cs
  refine .of_within ⟨_, munch_append step state cs⟩ (by simp [run]) ?_
  rintro other tail rfl accepted
  obtain ⟨next, run⟩ := Option.isSome_iff_exists.mp accepted
  rw [munch_append_of_run run]
  exact List.prefix_append _ _

end Munch

theorem takeWhile_longest (p : Char → Bool) (cs : List Char) :
    Longest (fun front => ∀ c ∈ front, p c = true) cs (cs.takeWhile p) := by
  refine .of_within (List.takeWhile_prefix p) (List.all_eq_true.mp List.all_takeWhile) ?_
  rintro other tail rfl all
  rw [List.takeWhile_append_of_pos all]
  exact List.prefix_append _ _

end Sexp.Text
