import Sexp.Proofs.TokenStream.Classification
import Sexp.Reading

set_option autoImplicit false
set_option relaxedAutoImplicit false

/-!
# Taking all tokens

An induction over the tokens that `tokenize` takes, and what it says of their list: it ends with its
only terminal token.
-/

namespace Sexp

namespace TokenStream

/-- What holds of the last token alone, and goes over from all tokens after one to all tokens with
it, holds of the tokens that any stream gives. -/
theorem tokenize_induction {P : TokenStream → List Token → TokenStream → Prop}
    (last : ∀ s, s.next.1.isTerminal = true → P s [s.next.1] s.next.2)
    (more : ∀ s ts s', s.next.1.isTerminal = false → P s.next.2 ts s' → P s (s.next.1 :: ts) s')
    (s : TokenStream) : P s s.tokenize.1 s.tokenize.2 := by
  induction length : s.rest.length using Nat.strongRecOn generalizing s with
  | _ n ih =>
    subst length
    rw [tokenize_eq]
    split
    · rename_i terminal
      exact last s terminal
    · rename_i going
      have going' := Bool.eq_false_iff.mpr going
      exact more s _ _ going' (ih _ (length_rest_read_lt going') s.next.2 rfl)

theorem tokenize_induction_of_empty {P : TokenStream → List Token → TokenStream → Prop}
    {last : Token} (isLast : last.kind = .empty) (finish : ∀ s, s.read.1 = last → P s [] s.next.2)
    (more : ∀ s body s', s.read.1.isTerminal = false → P s.next.2 body s' →
      P s (s.read.1 :: body) s')
    {s : TokenStream} {body : List Token} (parts : s.tokenize.1 = body ++ [last]) :
    P s body s.tokenize.2 := by
  refine tokenize_induction (P := fun s ts s' => ∀ body, ts = body ++ [last] → P s body s')
    ?_ ?_ s body parts
  · intro s _ body parts
    cases body with
    | nil => exact finish s (List.cons.inj parts).1
    | cons t body => simp at parts
  · intro s ts s' going ih body parts
    cases body with
    | nil =>
      rw [(List.cons.inj parts).1, Token.isTerminal, isLast] at going
      contradiction
    | cons t body =>
      obtain ⟨first, behind⟩ := List.cons.inj parts
      subst first
      exact more s body s' going (ih body behind)

theorem forall_mem_tokenize {P : Token → Prop} (each : ∀ s : TokenStream, P s.read.1)
    (s : TokenStream) : ∀ t ∈ s.tokenize.1, P t := by
  refine tokenize_induction (P := fun _ ts _ => ∀ t ∈ ts, P t) ?_ ?_ s
  · intro s _ t member
    rw [List.mem_singleton.mp member]
    exact each s
  · intro s ts _ _ ih t member
    rcases List.mem_cons.mp member with rfl | member
    · exact each s
    · exact ih t member

end TokenStream

/-- A list of tokens whose last one is terminal, and no other. -/
inductive Terminated : List Token → Prop
  | last {t : Token} : t.isTerminal = true → Terminated [t]
  | cons {t : Token} {ts : List Token} :
      t.isTerminal = false → Terminated ts → Terminated (t :: ts)

theorem Terminated.going {ts before after : List Token} {t : Token} (terminated : Terminated ts)
    (split : ts = before ++ t :: after) : ∀ u ∈ before, u.isTerminal = false := by
  induction terminated generalizing before with
  | last =>
    cases before with
    | nil => simp
    | cons _ before => simp at split
  | cons going _ ih =>
    cases before with
    | nil => simp
    | cons u before =>
      rw [List.cons_append, List.cons.injEq] at split
      obtain ⟨rfl, split⟩ := split
      intro v member
      rcases List.mem_cons.mp member with rfl | member
      · exact going
      · exact ih split v member

theorem Terminated.exists_last {ts : List Token} (terminated : Terminated ts) :
    ∃ body last, ts = body ++ [last] ∧ last.isTerminal = true := by
  induction terminated with
  | @last t terminal => exact ⟨[], t, rfl, terminal⟩
  | @cons t _ _ _ ih =>
    obtain ⟨body, last, split, terminal⟩ := ih
    exact ⟨t :: body, last, by rw [split, List.cons_append], terminal⟩

theorem TokenStream.terminated_tokenize (s : TokenStream) : Terminated s.tokenize.1 := by
  refine tokenize_induction (P := fun _ ts _ => Terminated ts) ?_ ?_ s
  · intro s terminal
    exact .last terminal
  · intro s ts _ going ih
    exact .cons going ih

namespace TokenStream

theorem isTerminal_of_mem_body {s : TokenStream} {body : List Token} {last : Token}
    (parts : s.tokenize.1 = body ++ [last]) : ∀ t ∈ body, t.isTerminal = false :=
  s.terminated_tokenize.going parts

theorem ne_error_of_ended {s : TokenStream} {body : List Token} {last : Token}
    (parts : s.tokenize.1 = body ++ [last]) (isLast : last.kind = .empty) :
    ∀ t ∈ s.tokenize.1, t.kind ≠ .error := by
  rw [parts]
  intro t member kind
  rcases List.mem_append.mp member with member | member
  · have going := isTerminal_of_mem_body parts t member
    rw [Token.isTerminal, kind] at going
    contradiction
  · rw [List.mem_singleton.mp member, isLast] at kind
    contradiction

end TokenStream

end Sexp
