import Sexp.Proofs.ExprStream.Run

set_option autoImplicit false
set_option relaxedAutoImplicit false

/-!
# Calls in any order

An expression stream can be asked for one expression or for all of them, in any order and as often
as one likes. What every read keeps and gives, all calls keep and give (`Maintains.calls`).
-/

namespace Sexp

inductive Call where
  | read
  | readAll
deriving DecidableEq

/-- What a call gives: one expression or none, or all that are left, unless there is an error. -/
inductive Answer (ε : Type) where
  | one (found : Except ε (Option Expr))
  | all (found : Except ε (List Expr))

namespace Answer

variable {ε ε' : Type}

/-- The expressions in an answer. -/
def exprs : Answer ε → List Expr
  | one (.ok (some e)) => [e]
  | all (.ok es) => es
  | _ => []

/-- The error in an answer. -/
def error? : Answer ε → Option ε
  | one (.error error) | all (.error error) => some error
  | _ => none

def mapError (f : ε → ε') : Answer ε → Answer ε'
  | one found => one (found.mapError f)
  | all found => all (found.mapError f)

@[simp] theorem mem_exprs_one {found : Except ε (Option Expr)} {e : Expr} :
    e ∈ (one found).exprs ↔ found = .ok (some e) := by
  rcases found with error | _ | e' <;> simp [exprs, eq_comm]

@[simp] theorem mem_exprs_all {found : Except ε (List Expr)} {e : Expr} :
    e ∈ (all found).exprs ↔ ∃ es, found = .ok es ∧ e ∈ es := by
  cases found <;> simp [exprs]

@[simp] theorem error?_one {found : Except ε (Option Expr)} {error : ε} :
    (one found).error? = some error ↔ found = .error error := by
  cases found <;> simp [error?]

@[simp] theorem error?_all {found : Except ε (List Expr)} {error : ε} :
    (all found).error? = some error ↔ found = .error error := by
  cases found <;> simp [error?]

end Answer

/-- The answers to calls, one after another, and the state they lead to. -/
def calls {σ α : Type} (call : σ → Call → α × σ) : σ → List Call → List α × σ
  | s, [] => ([], s)
  | s, c :: cs => ((call s c).1 :: (calls call (call s c).2 cs).1, (calls call (call s c).2 cs).2)

/-- If one state answers every call as the other does, seen through `view`, and they stay so related,
they answer all calls so. -/
theorem calls_of_simulation {σ τ α β : Type} {R : σ → τ → Prop} {f : σ → Call → α × σ}
    {g : τ → Call → β × τ} (view : α → β)
    (step : ∀ s t, R s t → ∀ c, view (f s c).1 = (g t c).1 ∧ R (f s c).2 (g t c).2) {s : σ} {t : τ}
    (start : R s t) (cs : List Call) :
    (calls f s cs).1.map view = (calls g t cs).1 ∧ R (calls f s cs).2 (calls g t cs).2 := by
  induction cs generalizing s t with
  | nil => exact ⟨rfl, start⟩
  | cons c cs ih =>
    obtain ⟨answer, related⟩ := step s t start c
    obtain ⟨answers, related⟩ := ih related
    refine ⟨?_, related⟩
    rw [calls, calls, List.map_cons, answer, answers]

namespace ExprStream

variable [Capacity] {s : ExprStream}

def call (s : ExprStream) : Call → Answer ReadError × ExprStream
  | .read => (.one s.read.1, s.read.2)
  | .readAll => (.all s.readAll.1, s.readAll.2)

/-- What holds of a stream holds behind every read, and the expressions and errors that are found
have properties of their own. -/
structure Maintains (I : ExprStream → Prop) (P : Expr → Prop) (E : ReadError → Prop) : Prop where
  keeps : ∀ s, I s → I s.read.2
  expr : ∀ s e, I s → s.read.1 = .ok (some e) → P e
  error : ∀ s error, I s → s.read.1 = .error error → E error

namespace Maintains

variable {I : ExprStream → Prop} {P : Expr → Prop} {E : ReadError → Prop}

theorem readAll (maintains : Maintains I P E) (holds : I s) :
    I s.readAll.2 ∧ (∀ es, s.readAll.1 = .ok es → ∀ e ∈ es, P e) ∧
      ∀ error, s.readAll.1 = .error error → E error := by
  induction size : s.remaining using Nat.strongRecOn generalizing s with
  | _ n ih =>
    subst size
    have next := maintains.keeps s holds
    rw [readAll_eq]
    cases found : s.read.1 with
    | error error =>
      refine ⟨next, nofun, ?_⟩
      rintro _ ⟨⟩
      exact maintains.error s error holds found
    | ok answer =>
      cases answer with
      | none =>
        refine ⟨next, ?_, nofun⟩
        rintro es ⟨⟩ e ⟨⟩
      | some e =>
        obtain ⟨last, others, failed⟩ := ih _ (remaining_read_lt found) next rfl
        refine ⟨last, ?_, ?_⟩
        · intro es same
          cases rest : s.read.2.readAll.1 with
          | error error => simp [rest, Except.map] at same
          | ok es' =>
            obtain rfl : e :: es' = es := by simpa [rest, Except.map] using same
            exact List.forall_mem_cons.mpr ⟨maintains.expr s e holds found, others es' rest⟩
        · intro error same
          cases rest : s.read.2.readAll.1 with
          | error error' =>
            obtain rfl : error' = error := by simpa [rest, Except.map] using same
            exact failed error' rest
          | ok es' => simp [rest, Except.map] at same

theorem call (maintains : Maintains I P E) (holds : I s) (c : Call) :
    I (s.call c).2 ∧ (∀ e ∈ (s.call c).1.exprs, P e) ∧
      ∀ error, (s.call c).1.error? = some error → E error := by
  cases c with
  | read =>
    refine ⟨maintains.keeps s holds, ?_, ?_⟩
    · intro e member
      exact maintains.expr s e holds (Answer.mem_exprs_one.mp member)
    · intro error raised
      exact maintains.error s error holds (Answer.error?_one.mp raised)
  | readAll =>
    obtain ⟨last, exprs, errors⟩ := maintains.readAll holds
    refine ⟨last, ?_, ?_⟩
    · intro e member
      obtain ⟨es, found, member⟩ := Answer.mem_exprs_all.mp member
      exact exprs es found e member
    · intro error raised
      exact errors error (Answer.error?_all.mp raised)

theorem calls (maintains : Maintains I P E) (holds : I s) (cs : List Call) :
    I (calls ExprStream.call s cs).2 ∧
      ∀ a ∈ (Sexp.calls ExprStream.call s cs).1,
        (∀ e ∈ a.exprs, P e) ∧ ∀ error, a.error? = some error → E error := by
  induction cs generalizing s with
  | nil => exact ⟨holds, nofun⟩
  | cons c cs ih =>
    obtain ⟨next, first⟩ := maintains.call holds c
    obtain ⟨last, others⟩ := ih next
    exact ⟨last, List.forall_mem_cons.mpr ⟨first, others⟩⟩

end Maintains

end ExprStream

end Sexp
