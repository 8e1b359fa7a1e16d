import Sexp.Proofs.ExprStream.Calls
import Sexp.Proofs.ExprStream.Step
import Sexp.Proofs.TokenStream.Spacing

set_option autoImplicit false
set_option relaxedAutoImplicit false

/-!
# Lists that are only opened

A source of nothing but parentheses, each of which opens a list within the last one. A read uses them
up to the capacity and refuses the next one, if the chosen limit is wider than that. Where the limit
cannot be named, the next read goes on from there (`reads_of_unnamed`).
-/

namespace Sexp

private def opening : Token := { kind := .opening, text := "" }

private theorem spells_openings (n : Nat) :
    Spells Token.MayTouch (List.replicate (n + 1) []) (List.replicate n opening)
      (List.replicate n '(') := by
  induction n with
  | zero => exact .finish .nil
  | succ n ih => exact .cons .nil (fun _ _ _ => .inl rfl) ih

theorem tokenize_openings (n : Nat) :
    ∃ ts last, (tokenize (String.ofList (List.replicate n '('))).result = ts ++ [last] ∧
      last.kind = .empty ∧ ts.length = n ∧ ∀ t ∈ ts, t.kind = .opening := by
  have words : ∀ t ∈ List.replicate n opening, Grammar.IsText t.kind t.text.toList := by
    intro t member
    rw [List.eq_of_mem_replicate member]
    exact .opening
  have said := (spells_openings n).content_tokenize_of_mayTouch words
    (.ofSource (String.ofList (List.replicate n '('))) (String.toList_ofList)
  obtain ⟨ts, ends, parts, front, back⟩ := List.map_eq_append_iff.mp said
  obtain ⟨last, rfl, ended⟩ := List.map_eq_singleton_iff.mp back
  refine ⟨ts, last, parts, congrArg Prod.fst ended, ?_, ?_⟩
  · have lengths := congrArg List.length front
    simpa using lengths
  · intro t member
    have content : t.content ∈ (List.replicate n opening).map Token.content := by
      rw [← front]
      exact List.mem_map_of_mem member
    rw [List.map_replicate] at content
    exact congrArg Prod.fst (List.eq_of_mem_replicate content)

namespace ExprStream

/-- A stream that is ready has `n` parentheses before it, and then the end of its source. -/
structure Opens (n : Nat) (maxDepth : Option Int) (s : ExprStream) : Prop where
  pending : ∃ ts last, s.pending = ts ++ [last] ∧ last.kind = .empty ∧ ts.length = n ∧
    ∀ t ∈ ts, t.kind = .opening
  ready : s.status = .ready
  maxDepth_eq : s.maxDepth = maxDepth

theorem opens_ofSource (n : Nat) (maxDepth : Option Int) :
    Opens n maxDepth (.ofSource (String.ofList (List.replicate n '(')) maxDepth) := by
  refine ⟨?_, rfl, rfl⟩
  rw [pending_ofSource]
  exact tokenize_openings n

variable {n k : Nat} {maxDepth : Option Int} {s : ExprStream} {lists : List OpenList}

theorem Opens.lookahead_empty (opens : Opens 0 maxDepth s) : s.lookahead.kind = .empty := by
  obtain ⟨ts, last, pending, ended, length, -⟩ := opens.pending
  obtain rfl : ts = [] := List.eq_nil_of_length_eq_zero length
  obtain ⟨_, ahead⟩ := s.pending_eq_cons
  rw [ahead] at pending
  rw [(List.cons.inj pending).1, ended]

theorem Opens.lookahead_opening (opens : Opens (n + 1) maxDepth s) :
    s.lookahead.kind = .opening ∧ Opens n maxDepth s.advance := by
  obtain ⟨ts, last, pending, ended, length, openings⟩ := opens.pending
  obtain ⟨t, ts, rfl⟩ := List.exists_cons_of_length_eq_add_one length
  obtain ⟨kind, others⟩ := List.forall_mem_cons.mp openings
  obtain ⟨_, ahead⟩ := s.pending_eq_cons
  have first : s.lookahead = t := by
    rw [ahead] at pending
    exact (List.cons.inj pending).1
  subst first
  have going : s.lookahead.isTerminal = false := by
    rw [Token.isTerminal, kind]
    rfl
  rw [pending_advance going] at pending
  exact ⟨kind, ⟨ts, last, (List.cons.inj pending).2, ended, Nat.succ.inj length, others⟩,
    opens.ready, opens.maxDepth_eq⟩

variable [Capacity]

theorem Opens.readFrom_one (opens : Opens (n + 1) maxDepth s)
    (within : Step.exceeds maxDepth (lists.length + 1) = false)
    (room : lists.length + 1 ≤ Capacity.lists) :
    ∃ l, readFrom lists s = readFrom (l :: lists) s.advance ∧ Opens n maxDepth s.advance := by
  obtain ⟨kind, opens'⟩ := opens.lookahead_opening
  have allowed : Step.depthError? s.maxDepth (lists.length + 1) s.lookahead.position = none := by
    rw [opens.maxDepth_eq]
    exact Step.depthError?_eq_none_iff.mpr ⟨within, room⟩
  refine ⟨⟨s.lookahead.position, []⟩, ?_, opens'⟩
  rw [readFrom_eq]
  simp only [Step.ofToken, kind, allowed]

theorem Opens.readFrom_many (lists : List OpenList) (opens : Opens (k + n) maxDepth s)
    (within : Step.exceeds maxDepth (lists.length + k) = false)
    (room : lists.length + k ≤ Capacity.lists) :
    ∃ lists' s', readFrom lists s = readFrom lists' s' ∧ lists'.length = lists.length + k ∧
      Opens n maxDepth s' := by
  induction k generalizing lists s with
  | zero =>
    rw [Nat.zero_add] at opens
    exact ⟨lists, s, rfl, rfl, opens⟩
  | succ k ih =>
    rw [Nat.add_right_comm] at opens
    have within' : Step.exceeds maxDepth (lists.length + 1) = false :=
      Step.not_exceeds_of_le within (by omega)
    obtain ⟨l, first, opens'⟩ := opens.readFrom_one within' (by omega)
    have length : (l :: lists).length + k = lists.length + (k + 1) := by
      rw [List.length_cons]
      omega
    rw [← length] at within room ⊢
    obtain ⟨lists', s', others, depth, opens''⟩ := ih (l :: lists) opens' within room
    exact ⟨lists', s', first.trans others, depth, opens''⟩

theorem Opens.refused (opens : Opens (n + 1) maxDepth s)
    (within : Step.exceeds maxDepth (lists.length + 1) = false)
    (full : Capacity.lists < lists.length + 1) :
    Step.ofToken s.maxDepth lists s.lookahead =
      .refuse (Step.depthError maxDepth (.beyondCapacity · s.lookahead.position)) := by
  apply Step.refuse_of_depthError? opens.lookahead_opening.1
  rw [opens.maxDepth_eq, Step.depthError?, within, if_pos full]
  rfl

theorem Opens.unfinished (opens : Opens 0 maxDepth s) (inside : lists ≠ []) :
    ∃ d, (readFrom lists s).1 = .error (.defect d) := by
  obtain ⟨l, ls, rfl⟩ := List.exists_cons_of_ne_nil inside
  refine ⟨.unfinished l.opened, ?_⟩
  rw [readFrom_eq]
  simp only [Step.ofToken, opens.lookahead_empty]

theorem Opens.read_to_capacity (opens : Opens (Capacity.lists + (n + 1)) maxDepth s)
    (within : Step.exceeds maxDepth (Capacity.lists + 1) = false) :
    ∃ lists s', s.read = readFrom lists s' ∧ Opens (n + 1) maxDepth s' ∧
      Step.ofToken s'.maxDepth lists s'.lookahead =
        .refuse (Step.depthError maxDepth (.beyondCapacity · s'.lookahead.position)) := by
  have start : s.read = readFrom [] s := by rw [read, opens.ready]
  have depth : ([] : List OpenList).length + Capacity.lists = Capacity.lists := Nat.zero_add _
  obtain ⟨lists, s', same, length, opens'⟩ := opens.readFrom_many []
    (Step.not_exceeds_of_le within (by omega)) (Nat.le_of_eq depth)
  rw [depth] at length
  exact ⟨lists, s', start.trans same, opens', opens'.refused (length ▸ within) (by omega)⟩

end ExprStream

end Sexp
