import Sexp.Proofs.ExprStream.Run
import Sexp.Proofs.TokenStream.Relocation

set_option autoImplicit false
set_option relaxedAutoImplicit false

/-!
# Positions are only reported

What is read from tokens does not depend on where they stand. `Step.run_relocate` says that moving
all tokens moves the position of the error that is found, if there is one, and nothing else.
-/

namespace Sexp

theorem mapError_eq_ok {α ε ε' : Type} {f : ε → ε'} {x : Except ε α} {a : α} :
    x.mapError f = .ok a ↔ x = .ok a := by
  cases x <;> simp [Except.mapError]

variable (f : Position → Position)

def OpenList.relocate (l : OpenList) : OpenList := { l with opened := f l.opened }

def Defect.relocate : Defect → Defect
  | malformed message text position => malformed message text (f position)
  | strayClosing position => strayClosing (f position)
  | integerOutOfRange text position => integerOutOfRange text (f position)
  | tooDeep context position => tooDeep context (f position)
  | beyondCapacity context position => beyondCapacity context (f position)
  | unfinished position => unfinished (f position)

def ReadError.relocate : ReadError → ReadError
  | defect d => defect (d.relocate f)
  | overlongInteger conversion => overlongInteger conversion

def Step.relocate : Step → Step
  | shift lists => shift (lists.map (OpenList.relocate f))
  | deliver e => deliver e
  | finish => finish
  | refuse error => refuse (error.relocate f)

namespace Step

theorem place_relocate (e : Expr) (lists : List OpenList) :
    place e (lists.map (OpenList.relocate f)) = (place e lists).relocate f := by
  cases lists <;> rfl

theorem depthError_relocate (maxDepth : Option Int) {defect defect' : String → Defect}
    (moved : ∀ context, defect' context = (defect context).relocate f) :
    depthError maxDepth defect' = (depthError maxDepth defect).relocate f := by
  unfold depthError
  split
  · rw [moved, ReadError.relocate]
  · rfl

variable [Capacity]

theorem depthError?_relocate (maxDepth : Option Int) (depth : Nat) (position : Position) :
    depthError? maxDepth depth (f position) =
      (depthError? maxDepth depth position).map (ReadError.relocate f) := by
  unfold depthError?
  split
  · rw [Option.map_some, ← depthError_relocate f maxDepth fun _ => rfl]
    rfl
  · split
    · rw [Option.map_some, ← depthError_relocate f maxDepth fun _ => rfl]
      rfl
    · rfl

theorem ofToken_relocate (maxDepth : Option Int) (lists : List OpenList) (t : Token) :
    ofToken maxDepth (lists.map (OpenList.relocate f)) (t.relocate f) =
      (ofToken maxDepth lists t).relocate f := by
  unfold ofToken Token.relocate
  cases t.kind with
  | string | symbol | float => exact place_relocate f _ lists
  | integer =>
    cases Numeral.readInteger t.text.toList with
    | value n => exact place_relocate f _ lists
    | outOfRange | overlong => rfl
  | opening =>
    simp only [List.length_map, depthError?_relocate]
    cases depthError? maxDepth (lists.length + 1) t.position <;> rfl
  | closing =>
    cases lists with
    | nil => rfl
    | cons l ls => exact place_relocate f _ ls
  | empty => cases lists <;> rfl
  | error => rfl

theorem run_relocate (maxDepth : Option Int) (lists : List OpenList) (ts : List Token) :
    run maxDepth (lists.map (OpenList.relocate f)) (ts.map (Token.relocate f)) =
      (run maxDepth lists ts).mapError (ReadError.relocate f) := by
  induction ts generalizing lists with
  | nil => rfl
  | cons t ts ih =>
    rw [List.map_cons, run, run, ofToken_relocate]
    cases ofToken maxDepth lists t with
    | shift lists => exact ih lists
    | deliver e =>
      have rest := ih []
      rw [List.map_nil] at rest
      simp only [relocate, rest]
      cases run maxDepth [] ts <;> rfl
    | finish => rfl
    | refuse error => rfl

end Step

end Sexp
