import Sexp.Proofs.Lexeme.Follow
import Sexp.Proofs.TokenStream.Place

set_option autoImplicit false
set_option relaxedAutoImplicit false

/-!
# Text that stands elsewhere

The tokens of a text do not depend on where it stands, but for their positions.
`tokenize_append_lineFeed` says what this makes of two texts on lines of their own: the tokens of
the one, and behind them those of the other.
-/

namespace Sexp

namespace Position

/-- The place in the same column, `n` lines farther down. -/
def down (n : Int) (p : Position) : Position := ⟨p.line + n, p.column⟩

theorem advance_down (n : Int) (p : Position) (c : Char) :
    (p.down n).advance c = (p.advance c).down n := by
  unfold advance
  split
  · simp [nextLine, down, Int.add_right_comm]
  · rfl

theorem after_down (n : Int) (p : Position) (cs : List Char) :
    (p.down n).after cs = (p.after cs).down n := by
  induction cs generalizing p with
  | nil => rfl
  | cons c cs ih => rw [after_cons, after_cons, advance_down, ih]

theorem after_append_lineFeed (cs : List Char) :
    after {} (cs ++ ['\n']) = down (1 + cs.count '\n') {} := by
  have start : ({} : Position) = behind [] := rfl
  rw [start, ← behind_append, List.nil_append]
  simp [behind, down, List.rtakeWhile_concat_neg, Int.add_comm]

end Position

/-- The same token at another place. -/
def Token.relocate (f : Position → Position) (t : Token) : Token := { t with position := f t.position }

namespace TokenStream

variable {n : Int} {s s' : TokenStream}

/-- `s'` has the text of `s` left, `n` lines farther down. -/
structure Below (n : Int) (s s' : TokenStream) : Prop where
  rest_eq : s'.rest = s.rest
  position_eq : s'.position = s.position.down n

/-- `s'` reads the token that `s` reads, `n` lines farther down, and goes on so. -/
structure ReadsBelow (n : Int) (s s' : TokenStream) : Prop where
  token_eq : s'.read.1 = s.read.1.relocate (Position.down n)
  below : Below n s.read.2 s'.read.2

theorem Below.read (below : Below n s s') : ReadsBelow n s s' := by
  refine ⟨?_, ?_, ?_⟩
  · simp only [TokenStream.read, Token.relocate, Lexeme.token, below.rest_eq, below.position_eq,
      Position.after_down]
  · simp only [TokenStream.read, below.rest_eq]
  · simp only [TokenStream.read, below.rest_eq, below.position_eq, Position.after_down]

theorem ReadsBelow.tokenize (reads : ReadsBelow n s s') :
    s'.tokenize.1 = s.tokenize.1.map (Token.relocate (Position.down n)) := by
  refine tokenize_induction (P := fun s ts _ => ∀ s', ReadsBelow n s s' →
    s'.tokenize.1 = ts.map (Token.relocate (Position.down n))) ?_ ?_ s s' reads
  · intro s terminal s' reads
    have terminal' : s'.next.1.isTerminal = true := by
      rw [next_fst, reads.token_eq]
      exact terminal
    rw [tokenize_eq, if_pos terminal']
    simp only [next_fst, reads.token_eq, List.map_singleton]
  · intro s ts _ going ih s' reads
    have going' : ¬ s'.next.1.isTerminal = true := by
      rw [next_fst, reads.token_eq]
      exact Bool.eq_false_iff.mp going
    have below : Below n s.next.2 s'.next.2 := ⟨reads.below.rest_eq, reads.below.position_eq⟩
    rw [tokenize_eq, if_neg going', List.map_cons, ih s'.next.2 below.read]
    simp only [next_fst, reads.token_eq]

variable {more : List Char}

theorem read_append (going : s.read.1.isTerminal = false)
    (stop : ∀ c ∈ more.head?, isSymbolChar c = false) (rest : s'.rest = s.rest ++ more)
    (position : s'.position = s.position) :
    s'.read.1 = s.read.1 ∧ s'.read.2.rest = s.read.2.rest ++ more ∧
      s'.read.2.position = s.read.2.position := by
  have left := split_ne_nil_of_going going
  have scanned := Lexeme.scan_append_of_stop going stop
  simp only [read, rest, position, Gap.split_append_of_left left, scanned, and_self]

theorem error_mem_tokenize_append (error : ∃ t ∈ s.tokenize.1, t.kind = .error)
    (stop : ∀ c ∈ more.head?, isSymbolChar c = false) (noQuote : '"' ∉ more)
    (rest : s'.rest = s.rest ++ more) (position : s'.position = s.position) :
    ∃ t ∈ s'.tokenize.1, t.kind = .error := by
  refine tokenize_induction (P := fun s ts _ => (∃ t ∈ ts, t.kind = .error) → ∀ s',
    s'.rest = s.rest ++ more → s'.position = s.position → ∃ t ∈ s'.tokenize.1, t.kind = .error)
    ?_ ?_ s error s' rest position
  · rintro s - ⟨t, member, error⟩ s' rest -
    obtain rfl := List.mem_singleton.mp member
    have left := split_ne_nil_of_ne_empty (s := s) (by rw [← next_fst, error]; simp)
    have error' : s'.next.1.kind = .error := by
      simp only [next_fst, read, rest, Gap.split_append_of_left left]
      exact Lexeme.scan_append_of_error error stop noQuote
    rw [tokenize_eq, if_pos (by rw [Token.isTerminal, error']; rfl)]
    exact ⟨_, List.mem_singleton.mpr rfl, error'⟩
  · rintro s ts - going ih ⟨t, member, error⟩ s' rest position
    obtain ⟨token, rest', position'⟩ := read_append going stop rest position
    have later : t ∈ ts := by
      refine (List.mem_cons.mp member).resolve_left ?_
      rintro rfl
      rw [Token.isTerminal, error] at going
      contradiction
    obtain ⟨u, member', error'⟩ := ih ⟨t, later, error⟩ s'.next.2 rest' position'
    have going' : ¬ s'.next.1.isTerminal = true := by
      rw [next_fst, token]
      exact Bool.eq_false_iff.mp going
    rw [tokenize_eq, if_neg going']
    exact ⟨u, List.mem_cons_of_mem _ member', error'⟩

theorem readsBelow_of_lineFeed {b : TokenStream} (ended : s.read.1.kind = .empty)
    (rest : s'.rest = s.rest ++ '\n' :: b.rest)
    (position : s'.position.after (s.rest ++ ['\n']) = b.position.down n) :
    ReadsBelow n b s' := by
  have split := Gap.split_append_lineFeed (isGap_of_empty ended) b.rest
  have start : s'.position.after (s.rest ++ '\n' :: (Gap.split b.rest).1) =
      (b.position.after (Gap.split b.rest).1).down n := by
    rw [← Position.after_down, ← position, ← Position.after_append, List.append_assoc,
      List.singleton_append]
  refine ⟨?_, ?_, ?_⟩
  · simp only [read, rest, split, start, Token.relocate, Lexeme.token]
  · simp only [read, rest, split]
  · simp only [read, rest, split, start, Position.after_down]

/-- Text on the lines below a text that is all tokens gives its tokens behind those, which stay
where they are. -/
theorem tokenize_append_lineFeed {body : List Token} {last : Token} {b : TokenStream}
    (parts : s.tokenize.1 = body ++ [last]) (isLast : last.kind = .empty)
    (rest : s'.rest = s.rest ++ '\n' :: b.rest) (start : s'.position = s.position)
    (position : s.position.after (s.rest ++ ['\n']) = b.position.down n) :
    s'.tokenize.1 = body ++ b.tokenize.1.map (Token.relocate (Position.down n)) := by
  refine tokenize_induction_of_empty (P := fun s body _ => ∀ s', s'.rest = s.rest ++ '\n' :: b.rest →
    s'.position = s.position → s.position.after (s.rest ++ ['\n']) = b.position.down n →
    s'.tokenize.1 = body ++ b.tokenize.1.map (Token.relocate (Position.down n)))
    isLast ?_ ?_ parts s' rest start position
  · intro s first s' rest start position
    rw [← start] at position
    exact (readsBelow_of_lineFeed (first ▸ isLast) rest position).tokenize
  · intro s body _ going ih s' rest start position
    obtain ⟨token, rest', start'⟩ := read_append going (by simp; decide) rest start
    have going' : ¬ s'.next.1.isTerminal = true := by
      rw [next_fst, token]
      exact Bool.eq_false_iff.mp going
    have onward : s.next.2.position.after (s.next.2.rest ++ ['\n']) = b.position.down n := by
      rw [← position, Position.after_append, Position.after_append, ← s.position_after_read]
      rfl
    rw [tokenize_eq, if_neg going', ih s'.next.2 rest' start' onward, next_fst, token,
      List.cons_append]

end TokenStream

end Sexp
