set_option autoImplicit false
set_option relaxedAutoImplicit false

/-!
# Maximal munch

A class of texts that a small automaton recognises one character at a time is read as far as the
automaton goes. `munch_append` says that nothing is lost, `munch_cons_some` and `munch_cons_none`
compute the split one character at a time.
-/

namespace Sexp.Text

variable {σ : Type}

/-- Goes on with a run of characters of which `taken` holds those already read, the last one first.
-/
private def munchFrom (step : σ → Char → Option σ) :
    σ → List Char → List Char → List Char × List Char
  | _, taken, [] => (taken.reverse, [])
  | state, taken, c :: cs =>
    match step state c with
    | none => (taken.reverse, c :: cs)
    | some next => munchFrom step next (c :: taken) cs

/-- Splits `cs` before the first character that the automaton `step`, started in `state`, refuses.
-/
def munch (step : σ → Char → Option σ) (state : σ) (cs : List Char) : List Char × List Char :=
  munchFrom step state [] cs

variable {step : σ → Char → Option σ} {state : σ}

private theorem munchFrom_eq (state : σ) (taken cs : List Char) :
    munchFrom step state taken cs =
      (taken.reverse ++ (munch step state cs).1, (munch step state cs).2) := by
  induction cs generalizing state taken with
  | nil => simp [munch, munchFrom]
  | cons c cs ih =>
    unfold munch munchFrom
    split
    · simp
    · rename_i next _
      rw [ih, ih next [c]]
      simp

@[simp] theorem munch_nil : munch step state [] = ([], []) := rfl

theorem munch_cons_none {c : Char} {cs : List Char} (refused : step state c = none) :
    munch step state (c :: cs) = ([], c :: cs) := by
  simp [munch, munchFrom, refused]

theorem munch_cons_some {c : Char} {cs : List Char} {next : σ} (taken : step state c = some next) :
    munch step state (c :: cs) = (c :: (munch step next cs).1, (munch step next cs).2) := by
  rw [munch, munchFrom, taken]
  simpa using munchFrom_eq next [c] cs

theorem munch_append (step : σ → Char → Option σ) (state : σ) (cs : List Char) :
    (munch step state cs).1 ++ (munch step state cs).2 = cs := by
  induction cs generalizing state with
  | nil => rfl
  | cons c cs ih =>
    cases advance : step state c with
    | none => simp [munch_cons_none advance]
    | some next => simp [munch_cons_some advance, ih]

theorem length_munch_le (step : σ → Char → Option σ) (state : σ) (cs : List Char) :
    (munch step state cs).2.length ≤ cs.length := by
  have parts := congrArg List.length (munch_append step state cs)
  rw [List.length_append] at parts
  omega

end Sexp.Text
