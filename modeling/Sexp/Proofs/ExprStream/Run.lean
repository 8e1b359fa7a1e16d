import Sexp.Proofs.TokenStream.Tokenization
import Sexp.Reading

set_option autoImplicit false
set_option relaxedAutoImplicit false

/-!
# Reading as a run over tokens

An expression stream takes tokens on demand. `parseAll_eq_run` says that reading a whole source
comes to the same as taking all its tokens first and going through them one after another.
-/

namespace Sexp

namespace ExprStream

/-- The tokens that a stream still meets. -/
def pending (s : ExprStream) : List Token :=
  if s.lookahead.isTerminal then [s.lookahead] else s.lookahead :: s.tokens.tokenize.1

theorem pending_eq_cons (s : ExprStream) : ∃ ts, s.pending = s.lookahead :: ts := by
  unfold pending
  split
  · exact ⟨[], rfl⟩
  · exact ⟨_, rfl⟩

/-- The expression stream has taken one token of `tokens`, which is ahead. -/
structure Peeks (tokens : TokenStream) (s : ExprStream) : Prop where
  lookahead_eq : s.lookahead = tokens.next.1
  tokens_eq : s.tokens = tokens.next.2

theorem peeks_ofSource (source : String) (maxDepth : Option Int) :
    Peeks (.ofSource source) (.ofSource source maxDepth) := ⟨rfl, rfl⟩

theorem peeks_advance (s : ExprStream) : Peeks s.tokens s.advance := ⟨rfl, rfl⟩

theorem Peeks.pending_eq {tokens : TokenStream} {s : ExprStream} (peeks : Peeks tokens s) :
    s.pending = tokens.tokenize.1 := by
  rw [pending, peeks.lookahead_eq, peeks.tokens_eq, TokenStream.tokenize_eq tokens]
  split <;> rfl

theorem pending_advance {s : ExprStream} (going : s.lookahead.isTerminal = false) :
    s.pending = s.lookahead :: s.advance.pending := by
  rw [s.peeks_advance.pending_eq, pending, going]
  rfl

theorem pending_ofSource (source : String) (maxDepth : Option Int) :
    (ofSource source maxDepth).pending = (tokenize source).result :=
  (peeks_ofSource source maxDepth).pending_eq

end ExprStream

variable [Capacity]

/-- What comes of tokens, one after another, when some lists are open: the expressions that they
complete outside all lists, or the first error. -/
def Step.run (maxDepth : Option Int) : List OpenList → List Token → Except ReadError (List Expr)
  | _, [] => .ok []
  | lists, t :: ts =>
    match ofToken maxDepth lists t with
    | .shift lists => run maxDepth lists ts
    | .deliver e => (run maxDepth [] ts).map (e :: ·)
    | .finish => .ok []
    | .refuse error => .error error

namespace ExprStream

theorem readFrom_eq (lists : List OpenList) (s : ExprStream) :
    readFrom lists s =
      match Step.ofToken s.maxDepth lists s.lookahead with
      | .shift lists => readFrom lists s.advance
      | .deliver e => (.ok (some e), s.advance)
      | .finish =>
        (.ok none, { s with status := .done, log := s.log ++ [.reachedEnd s.lookahead.position] })
      | .refuse (.defect d) =>
        (.error (.defect d),
          { s with status := .failed d, log := s.log ++ [.readFailed d.diagnostic.message] })
      | .refuse (.overlongInteger conversion) => (.error (.overlongInteger conversion), s) := by
  rw [readFrom]
  split <;> rename_i used <;> rw [used]

@[simp] theorem maxDepth_readFrom (lists : List OpenList) (s : ExprStream) :
    (readFrom lists s).2.maxDepth = s.maxDepth := by
  fun_induction readFrom lists s with
  | case1 lists s lists' used ih => exact ih
  | case2 | case3 | case4 | case5 => rfl

@[simp] theorem maxDepth_read (s : ExprStream) : s.read.2.maxDepth = s.maxDepth := by
  unfold read
  split
  · exact maxDepth_readFrom [] s
  · rfl
  · rfl

theorem ready_of_readFrom {lists : List OpenList} {s : ExprStream} {e : Expr}
    (ready : s.status = .ready) (found : (readFrom lists s).1 = .ok (some e)) :
    (readFrom lists s).2.status = .ready := by
  fun_induction readFrom lists s with
  | case1 lists s lists' used ih => exact ih ready found
  | case2 lists s e' used => exact ready
  | case3 | case4 | case5 => simp at found

/-- Reading one expression goes through the tokens up to its end, or to the first error. -/
theorem run_eq_readFrom (lists : List OpenList) (s : ExprStream) :
    Step.run s.maxDepth lists s.pending =
      match (readFrom lists s).1 with
      | .ok (some e) => (Step.run s.maxDepth [] (readFrom lists s).2.pending).map (e :: ·)
      | .ok none => .ok []
      | .error error => .error error := by
  fun_induction readFrom lists s with
  | case1 lists s lists' used ih =>
    rw [pending_advance (Step.not_isTerminal_of_shift used), Step.run, used]
    exact ih
  | case2 lists s e used =>
    rw [pending_advance (Step.not_isTerminal_of_deliver used), Step.run, used]
  | case3 lists s used =>
    obtain ⟨ts, pending⟩ := s.pending_eq_cons
    rw [pending, Step.run, used]
  | case4 lists s d used =>
    obtain ⟨ts, pending⟩ := s.pending_eq_cons
    rw [pending, Step.run, used]
  | case5 lists s conversion used =>
    obtain ⟨ts, pending⟩ := s.pending_eq_cons
    rw [pending, Step.run, used]

theorem readAll_eq_run {s : ExprStream} (ready : s.status = .ready) :
    s.readAll.1 = Step.run s.maxDepth [] s.pending := by
  induction size : s.remaining using Nat.strongRecOn generalizing s with
  | _ n ih =>
    subst size
    have first : s.read = readFrom [] s := by rw [read, ready]
    rw [readAll_eq, run_eq_readFrom, first]
    cases found : (readFrom [] s).1 with
    | error error => rfl
    | ok answer =>
      cases answer with
      | none => rfl
      | some e =>
        have less := remaining_readFrom_lt found
        have rest := ih _ less (ready_of_readFrom ready found) rfl
        rw [maxDepth_readFrom] at rest
        simp only [rest]

end ExprStream

theorem parseAll_eq_run (source : String) (maxDepth : Option Int) :
    (parseAll source maxDepth).result = Step.run maxDepth [] (tokenize source).result := by
  rw [← ExprStream.pending_ofSource source maxDepth]
  exact ExprStream.readAll_eq_run (s := .ofSource source maxDepth) rfl

end Sexp
