import Sexp.Proofs.ExprStream.Openings
import Sexp.Proofs.ExprStream.Session

set_option autoImplicit false
set_option relaxedAutoImplicit false

/-!
# What calls deliver

Each source has its expressions and its outcome, and the calls on it give these and no others
(`calls_deliver`). This needs a limit on nesting that can be named, unless it is negative: else a
list that lies too deep is refused without a defect, and the next call reads on within the lists that
were open (`read_resumes_within_lists`).
-/

namespace Sexp

/-- How the expressions of a source end. -/
inductive Outcome where
  | finished
  | raised (error : ReadError)

namespace Outcome

/-- What a call for one expression gives when none is left. -/
def one : Outcome → Except ReadError (Option Expr)
  | finished => .ok none
  | raised error => .error error

/-- What a call for all expressions gives when some are left: an error drops them. -/
def all : Outcome → List Expr → Except ReadError (List Expr)
  | finished, es => .ok es
  | raised error, _ => .error error

/-- The answer to a call when no expression is left. -/
def answer (outcome : Outcome) : Call → Answer ReadError
  | .read => .one outcome.one
  | .readAll => .all (outcome.all [])

/-- The status once the outcome is given. Only what has too many digits leaves the stream ready. -/
def status : Outcome → ExprStream.Status
  | finished => .done
  | raised (.defect d) => .failed d
  | raised (.overlongInteger _) => .ready

end Outcome

/-- Expressions that wait to be delivered, and what is given when none is left. -/
structure Delivery where
  undelivered : List Expr
  outcome : Outcome
  given : Bool := false

namespace Delivery

def call (d : Delivery) : Call → Answer ReadError × Delivery
  | .read =>
    match d.undelivered with
    | e :: es => (.one (.ok (some e)), { d with undelivered := es })
    | [] => (.one d.outcome.one, { d with given := true })
  | .readAll =>
    (.all (d.outcome.all d.undelivered), { d with undelivered := [], given := true })

def status (d : Delivery) : ExprStream.Status := if d.given then d.outcome.status else .ready

end Delivery

namespace ExprStream

variable [Capacity] {s : ExprStream} {es : List Expr} {outcome : Outcome}

/-- The expressions that a stream yields when it is read one by one, and its outcome. -/
inductive Yields (outcome : Outcome) : ExprStream → List Expr → Prop
  | last {s : ExprStream} : s.read.1 = outcome.one → Yields outcome s []
  | more {s : ExprStream} {e : Expr} {es : List Expr} :
      s.read.1 = .ok (some e) → Yields outcome s.read.2 es → Yields outcome s (e :: es)

theorem exists_yields (s : ExprStream) : ∃ es outcome, Yields outcome s es := by
  induction size : s.remaining using Nat.strongRecOn generalizing s with
  | _ n ih =>
    subst size
    cases found : s.read.1 with
    | error error => exact ⟨[], .raised error, .last found⟩
    | ok answer =>
      cases answer with
      | none => exact ⟨[], .finished, .last found⟩
      | some e =>
        obtain ⟨es, outcome, others⟩ := ih _ (remaining_read_lt found) _ rfl
        exact ⟨e :: es, outcome, .more found others⟩

/-- The outcome is given: every call gives it again and leaves the stream as it is. -/
structure Settled (outcome : Outcome) (s : ExprStream) : Prop where
  status_eq : s.status = outcome.status
  call_eq : ∀ c, s.call c = (outcome.answer c, s)

theorem settled_of_read (status : s.status = outcome.status) (read : s.read = (outcome.one, s)) :
    Settled outcome s := by
  refine ⟨status, ?_⟩
  intro c
  cases c with
  | read =>
    rw [call, read]
    rfl
  | readAll =>
    rw [call, readAll_eq, read]
    cases outcome <;> rfl

theorem read_of_refuse {conversion : Numeral.Conversion} (ready : s.status = .ready)
    (refused : Step.ofToken s.maxDepth [] s.lookahead = .refuse (.overlongInteger conversion)) :
    s.read = (.error (.overlongInteger conversion), s) := by
  rw [read, ready]
  simp only [readFrom_eq [] s, refused]

/-- The limit does not keep a later call from finding the outcome again. -/
def Firm (maxDepth : Option Int) (outcome : Outcome) : Prop :=
  outcome = .raised (.overlongInteger .writing) → Step.Moderate maxDepth

theorem settled_readFrom {lists : List OpenList} (ready : s.status = .ready)
    (firm : Firm s.maxDepth outcome) (found : (readFrom lists s).1 = outcome.one) :
    Settled outcome (readFrom lists s).2 := by
  fun_induction readFrom lists s with
  | case1 lists s lists' used ih => exact ih ready firm found
  | case2 lists s e used => cases outcome <;> cases found
  | case3 lists s used =>
    cases outcome <;> cases found
    exact settled_of_read rfl rfl
  | case4 lists s d used =>
    cases outcome <;> cases found
    exact settled_of_read rfl rfl
  | case5 lists s conversion used =>
    cases outcome <;> cases found
    have again :
        Step.ofToken s.maxDepth [] s.lookahead = .refuse (.overlongInteger conversion) := by
      cases conversion with
      | reading digits => exact Step.refuse_reading_iff.mpr (Step.refuse_reading_iff.mp used)
      | writing => exact Step.refuse_again (firm rfl) used []
    exact settled_of_read ready (read_of_refuse ready again)

theorem settled_read (ready : s.status = .ready) (firm : Firm s.maxDepth outcome)
    (found : s.read.1 = outcome.one) : Settled outcome s.read.2 := by
  rw [read, ready] at found ⊢
  exact settled_readFrom ready firm found

theorem ready_of_read {e : Expr} (ready : s.status = .ready) (found : s.read.1 = .ok (some e)) :
    s.read.2.status = .ready := by
  rw [read, ready] at found ⊢
  exact ready_of_readFrom ready found

theorem readAll_of_yields (ready : s.status = .ready) (firm : Firm s.maxDepth outcome)
    (yields : Yields outcome s es) :
    s.readAll.1 = outcome.all es ∧ Settled outcome s.readAll.2 := by
  induction yields with
  | @last s found =>
    have settled := settled_read ready firm found
    rw [readAll_eq, found]
    cases outcome <;> exact ⟨rfl, settled⟩
  | @more s e es found _ ih =>
    obtain ⟨others, settled⟩ := ih (ready_of_read ready found) (s.maxDepth_read ▸ firm)
    rw [readAll_eq, found]
    refine ⟨?_, settled⟩
    simp only [others]
    cases outcome <;> rfl

/-- The stream stands where the delivery does. -/
inductive Delivers (outcome : Outcome) : ExprStream → Delivery → Prop
  | waiting {s : ExprStream} {es : List Expr} : s.status = .ready → Firm s.maxDepth outcome →
      Yields outcome s es → Delivers outcome s ⟨es, outcome, false⟩
  | settled {s : ExprStream} : Settled outcome s → Delivers outcome s ⟨[], outcome, true⟩

theorem exists_delivers (source : String) {maxDepth : Option Int}
    (moderate : Step.Moderate maxDepth) :
    ∃ es outcome, Delivers outcome (.ofSource source maxDepth) ⟨es, outcome, false⟩ := by
  obtain ⟨es, outcome, yields⟩ := (ofSource source maxDepth).exists_yields
  exact ⟨es, outcome, .waiting rfl (fun _ => moderate) yields⟩

theorem Delivers.call {d : Delivery} (delivers : Delivers outcome s d) (c : Call) :
    (s.call c).1 = (d.call c).1 ∧ Delivers outcome (s.call c).2 (d.call c).2 := by
  cases delivers with
  | waiting ready firm yields =>
    cases c with
    | read =>
      cases yields with
      | last found => exact ⟨congrArg Answer.one found, .settled (settled_read ready firm found)⟩
      | more found others =>
        exact ⟨congrArg Answer.one found,
          .waiting (ready_of_read ready found) (s.maxDepth_read ▸ firm) others⟩
    | readAll =>
      obtain ⟨found, settled⟩ := readAll_of_yields ready firm yields
      exact ⟨congrArg Answer.all found, .settled settled⟩
  | settled settled =>
    rw [settled.call_eq]
    cases c <;> exact ⟨rfl, .settled settled⟩

theorem Delivers.calls {d : Delivery} (delivers : Delivers outcome s d) (cs : List Call) :
    (calls ExprStream.call s cs).1 = (Sexp.calls Delivery.call d cs).1 ∧
      Delivers outcome (Sexp.calls ExprStream.call s cs).2 (Sexp.calls Delivery.call d cs).2 := by
  have related := calls_of_simulation id (fun _ _ delivers => Delivers.call delivers) delivers cs
  rwa [List.map_id] at related

theorem Delivers.status_eq {d : Delivery} (delivers : Delivers outcome s d) :
    s.status = d.status := by
  cases delivers with
  | waiting ready => exact ready
  | settled settled => exact settled.status_eq

theorem Delivers.call_eq {d : Delivery} (delivers : Delivers outcome s d) (given : d.given = true)
    (c : Call) : s.call c = (outcome.answer c, s) := by
  cases delivers with
  | waiting => cases given
  | settled settled => exact settled.call_eq c

end ExprStream

end Sexp
