import Sexp.Proofs.Position
import Sexp.Proofs.TokenStream.Tokenization

set_option autoImplicit false
set_option relaxedAutoImplicit false

/-!
# Where a token stream stands

However tokens are taken, a stream stands at an index of its source, with just the source from there
on left and the position that counting gives. A read takes a gap and the spelling of its token off
the source, so that the gaps and spellings of all tokens are the source again.
-/

namespace Sexp

open Grammar (Reads NumberReads IsGap)
open Text (Longest)

/-- The characters that a token takes up in its source. -/
def Token.spelling (t : Token) : List Char :=
  match t.kind with
  | .empty => []
  | .opening => ['(']
  | .closing => [')']
  | .string => '"' :: (t.text.toList ++ ['"'])
  | .symbol | .integer | .float => t.text.toList
  | .error =>
    if t.message = some "unexpected end in string" then '"' :: t.text.toList
    else if t.message = some "digits expected" ∨ t.message = some "unexpected '.' in number" then
      t.text.toList
    else []

namespace TokenStream

-- Twelve characters are enough to tell the messages apart.
private theorem strayMessage_ne (c : Char) {words : String}
    (differ : "unexpected character '".toList.take 12 ≠ words.toList.take 12) :
    (Malformation.strayCharacter c).message ≠ words := by
  intro (same : "unexpected character '" ++ c.toString ++ "'" = words)
  have front := congrArg (fun message : String => message.toList.take 12) same
  simp only [String.toList_append, List.append_assoc] at front
  rw [List.take_append_of_le_length (by decide +kernel)] at front
  exact differ front

private theorem strayMessage_ne_unterminated (c : Char) :
    (Malformation.strayCharacter c).message ≠ "unexpected end in string" :=
  strayMessage_ne c (by decide +kernel)

private theorem strayMessage_ne_number (c : Char) :
    ¬ ((Malformation.strayCharacter c).message = "digits expected" ∨
      (Malformation.strayCharacter c).message = "unexpected '.' in number") :=
  not_or.mpr ⟨strayMessage_ne c (by decide +kernel), strayMessage_ne c (by decide +kernel)⟩

private theorem text_eq_nil_of_stray {text front : List Char} {c : Char}
    (reads : Reads text .error front (some (Malformation.strayCharacter c).message)) :
    front = [] := by
  have noString := strayMessage_ne_unterminated c
  have noNumber := strayMessage_ne_number c
  generalize (Malformation.strayCharacter c).message = message at reads noString noNumber
  cases reads with
  | unterminated => exact absurd rfl noString
  | number _ reads =>
    cases reads with
    | lacksFraction => exact absurd (.inl rfl) noNumber
    | secondPoint => exact absurd (.inr rfl) noNumber
  | stray => rfl

private theorem text_of_unterminated {text front : List Char} {message : Option String}
    (reads : Reads text .error front message)
    (unterminated : message = some "unexpected end in string") : text = '"' :: front := by
  cases reads with
  | unterminated => rfl
  | number _ reads =>
    cases reads with
    | lacksFraction => exact absurd (Option.some.inj unterminated) (by decide)
    | secondPoint => exact absurd (Option.some.inj unterminated) (by decide)
  | stray => exact absurd (Option.some.inj unterminated) (strayMessage_ne_unterminated _)

theorem spelling_token_scan (text : List Char) (p : Position) :
    ((Lexeme.scan text).1.token p).spelling = (Lexeme.scan text).1.spelling := by
  have reads := Lexeme.scan_reads text
  cases scanned : (Lexeme.scan text).1 with
  | malformed why front =>
    rw [scanned] at reads
    simp only [Token.spelling, Lexeme.token, Lexeme.kind, Lexeme.message?, Lexeme.text,
      String.toList_ofList, Option.some.injEq]
    cases why with
    | unterminatedString => exact if_pos rfl
    | missingFraction => exact (if_neg (by decide)).trans (if_pos (.inl rfl))
    | secondPoint => exact (if_neg (by decide)).trans (if_pos (.inr rfl))
    | strayCharacter c =>
      have noText : front = [] := text_eq_nil_of_stray reads
      rw [if_neg (strayMessage_ne_unterminated c), if_neg (strayMessage_ne_number c), noText]
      rfl
  | _ => simp [Token.spelling, Lexeme.token, Lexeme.kind, Lexeme.spelling, Lexeme.text]

theorem spelling_read (s : TokenStream) :
    s.read.1.spelling = (Lexeme.scan (Gap.split s.rest).2).1.spelling :=
  spelling_token_scan _ _

theorem rest_eq_append_read (s : TokenStream) :
    s.rest = (Gap.split s.rest).1 ++ (s.read.1.spelling ++ s.read.2.rest) := by
  have scanned := Lexeme.scan_append (Gap.split s.rest).2
  rw [spelling_read]
  change _ = _ ++ (_ ++ (Lexeme.scan (Gap.split s.rest).2).2)
  rw [scanned, Gap.split_append]

theorem index_read (s : TokenStream) :
    s.read.2.index = s.index + (Gap.split s.rest).1.length + s.read.1.spelling.length := by
  rw [spelling_read]
  rfl

theorem position_read (s : TokenStream) :
    s.read.2.position = s.read.1.position.after s.read.1.spelling := by
  rw [spelling_read]
  rfl

theorem position_after_read (s : TokenStream) :
    s.read.2.position.after s.read.2.rest = s.position.after s.rest := by
  have parts := congrArg s.position.after s.rest_eq_append_read
  rw [Position.after_append, Position.after_append] at parts
  rw [parts, position_read]
  rfl

theorem spelling_read_ne_nil {s : TokenStream} (going : s.read.1.isTerminal = false) :
    s.read.1.spelling ≠ [] := by
  rw [spelling_read]
  exact Lexeme.scan_spelling_ne_nil going

theorem spelling_read_of_empty {s : TokenStream} (kind : s.read.1.kind = .empty) :
    s.read.1.spelling = [] := by
  simp only [Token.spelling, kind]

theorem spelling_read_of_stray {s : TokenStream} {c : Char}
    (message : s.read.1.message = some (Malformation.strayCharacter c).message) :
    s.read.1.spelling = [] := by
  simp only [Token.spelling, kind_read_of_message message, message, Option.some.injEq,
    strayMessage_ne_unterminated c, strayMessage_ne_number c, if_false]

private theorem startsNumber_of_message {text front : List Char} {words : String}
    (inNumber : words = "digits expected" ∨ words = "unexpected '.' in number")
    (reads : Reads text .error front (some words)) : Grammar.StartsNumber text := by
  cases reads with
  | number starts _ => exact starts
  | unterminated => exact absurd inNumber (by decide)
  | stray => exact absurd inNumber (strayMessage_ne_number _)

theorem spelling_read_ne_nil_of_number {s : TokenStream} {words : String}
    (message : s.read.1.message = some words)
    (inNumber : words = "digits expected" ∨ words = "unexpected '.' in number") :
    s.read.1.spelling ≠ [] := by
  have reads := s.read_reads
  rw [kind_read_of_message message, message] at reads
  have starts := startsNumber_of_message inNumber reads
  rw [spelling_read, Lexeme.scan_of_startsNumber starts]
  exact Number.scan_spelling_ne_nil ((Lexeme.startsNumber_iff _).mp starts)

theorem rest_read_of_unterminated {s : TokenStream} (kind : s.read.1.kind = .error)
    (message : s.read.1.message = some "unexpected end in string") : s.read.2.rest = [] := by
  have reads := s.read_reads
  rw [kind] at reads
  have rest := List.append_cancel_left (s.rest_eq_append_read.symm.trans (Gap.split_append _).symm)
  have spelling : s.read.1.spelling = '"' :: s.read.1.text.toList := by
    simp only [Token.spelling, kind, message, if_pos]
  rw [text_of_unterminated reads message, spelling] at rest
  simpa using rest

/-- A way to take tokens leads from one state to another. Iterators are of any age here. -/
inductive Operation : TokenStream → TokenStream → Prop
  | read (s : TokenStream) : Operation s s.read.2
  | next (s : TokenStream) : Operation s s.next.2
  | tokenize (s : TokenStream) : Operation s s.tokenize.2
  | drain (s : TokenStream) : Operation s s.drain.2
  | step (it : TokenIterator) (s : TokenStream) : Operation s (it.step s).2.2

/-- The states to which operations in any order lead from the start of a source. -/
inductive Reached (source : String) : TokenStream → Prop
  | start : Reached source (ofSource source)
  | operation {s s' : TokenStream} : Reached source s → Operation s s' → Reached source s'

/-- An operation comes down to reads: what a read keeps and `next` does not touch is kept. -/
theorem Operation.induction {P : TokenStream → TokenStream → Prop} (refl : ∀ s, P s s)
    (trans : ∀ {s s' s''}, P s s' → P s' s'' → P s s'') (read : ∀ s, P s s.read.2)
    (next : ∀ s, P s s.next.2) {s s' : TokenStream} (operation : Operation s s') : P s s' := by
  have all (s : TokenStream) : P s s.tokenize.2 := by
    refine tokenize_induction (P := fun s _ s' => P s s') (fun s _ => next s) ?_ s
    intro s _ s' _ ih
    exact trans (next s) ih
  cases operation with
  | read => exact read s
  | next => exact next s
  | tokenize => exact all s
  | drain => exact all s
  | step it =>
    unfold TokenIterator.step
    split
    · exact refl s
    · exact next s

/-- The stream stands at its index of the source. -/
structure Stands (source : String) (s : TokenStream) : Prop where
  index_le : s.index ≤ source.toList.length
  rest_eq : s.rest = source.toList.drop s.index
  position_eq : s.position = .behind (source.toList.take s.index)

theorem stands_ofSource (source : String) : Stands source (ofSource source) :=
  ⟨Nat.zero_le _, rfl, rfl⟩

theorem Stands.index_add_length {source : String} {s : TokenStream} (stands : Stands source s) :
    s.index + s.rest.length = source.toList.length := by
  have inside := stands.index_le
  rw [stands.rest_eq, List.length_drop]
  omega

theorem Stands.index_eq_length {source : String} {s : TokenStream} (stands : Stands source s)
    (nothing : s.rest = []) : s.index = source.toList.length := by
  have whole := stands.index_add_length
  rw [nothing] at whole
  exact whole

private theorem length_rest_read (s : TokenStream) :
    s.rest.length =
      (Gap.split s.rest).1.length + (s.read.1.spelling.length + s.read.2.rest.length) := by
  have parts := congrArg List.length s.rest_eq_append_read
  simpa only [List.length_append] using parts

theorem Stands.position_token {source : String} {s : TokenStream} (stands : Stands source s) :
    s.read.1.position =
      .behind (source.toList.take (s.index + (Gap.split s.rest).1.length)) := by
  have gap : (source.toList.drop s.index).take (Gap.split s.rest).1.length =
      (Gap.split s.rest).1 := by
    rw [← stands.rest_eq]
    nth_rewrite 2 [← Gap.split_append s.rest]
    exact List.take_left
  rw [List.take_add, Position.behind_append, ← stands.position_eq, gap]
  rfl

theorem Stands.read {source : String} {s : TokenStream} (stands : Stands source s) :
    Stands source s.read.2 := by
  have parts := s.rest_eq_append_read
  have lengths := s.length_rest_read
  have whole := stands.index_add_length
  have start := stands.position_token
  have index := s.index_read
  refine ⟨?_, ?_, ?_⟩
  · omega
  · rw [index, Nat.add_assoc, ← List.drop_drop, ← stands.rest_eq]
    nth_rewrite 2 [parts]
    rw [← List.append_assoc, ← List.length_append, List.drop_left]
  · have spelling : (source.toList.drop (s.index + (Gap.split s.rest).1.length)).take
        s.read.1.spelling.length = s.read.1.spelling := by
      rw [← List.drop_drop, ← stands.rest_eq]
      nth_rewrite 2 [parts]
      rw [List.drop_left, List.take_left]
    rw [index, List.take_add, Position.behind_append, ← start, spelling]
    exact s.position_read

theorem Stands.next {source : String} {s : TokenStream} (stands : Stands source s) :
    Stands source s.next.2 :=
  ⟨stands.read.index_le, stands.read.rest_eq, stands.read.position_eq⟩

theorem Stands.operation {source : String} {s s' : TokenStream} (stands : Stands source s)
    (operation : Operation s s') : Stands source s' := by
  refine operation.induction (P := fun s s' => Stands source s → Stands source s') ?_ ?_ ?_ ?_
    stands
  · exact fun _ stands => stands
  · exact fun first second stands => second (first stands)
  · exact fun _ stands => stands.read
  · exact fun _ stands => stands.next

theorem Reached.stands {source : String} {s : TokenStream} (reached : Reached source s) :
    Stands source s := by
  induction reached with
  | start => exact stands_ofSource source
  | operation _ operation ih => exact ih.operation operation

theorem Operation.index_le {s s' : TokenStream} (operation : Operation s s') :
    s.index ≤ s'.index := by
  refine operation.induction (P := fun s s' => s.index ≤ s'.index) (fun _ => Nat.le_refl _)
    Nat.le_trans ?_ ?_ <;>
    · intro s
      have index := s.index_read
      change s.index ≤ s.read.2.index
      omega

/-- From `s` to `s'` the source has just `gap` and the spelling of `t`, and `t` stands where the gap
ends. -/
structure Consumes (source : String) (s : TokenStream) (gap : List Char) (t : Token)
    (s' : TokenStream) : Prop where
  gap_longest : Longest IsGap (source.toList.drop s.index) gap
  drop_eq : source.toList.drop s.index = gap ++ (t.spelling ++ source.toList.drop s'.index)
  index_eq : s'.index = s.index + gap.length + t.spelling.length
  position_eq : t.position = .behind (source.toList.take (s.index + gap.length))
  unterminated : t.kind = .error → t.message = some "unexpected end in string" →
    s'.index = source.toList.length

theorem Stands.consumes {source : String} {s : TokenStream} (stands : Stands source s) :
    Consumes source s (Gap.split s.rest).1 s.read.1 s.read.2 := by
  refine ⟨?_, ?_, s.index_read, stands.position_token, ?_⟩
  · rw [← stands.rest_eq]
    exact Gap.split_longest s.rest
  · rw [← stands.rest_eq, ← stands.read.rest_eq]
    exact s.rest_eq_append_read
  · intro kind message
    exact stands.read.index_eq_length (rest_read_of_unterminated kind message)

theorem Consumes.next {source : String} {s : TokenStream} {gap : List Char}
    (consumes : Consumes source s gap s.read.1 s.read.2) :
    Consumes source s gap s.next.1 s.next.2 :=
  ⟨consumes.gap_longest, consumes.drop_eq, consumes.index_eq, consumes.position_eq,
    consumes.unterminated⟩

/-- A text is made of gaps and the spellings of tokens in turn, up to what is left of it; each gap
is the longest one at its place. -/
inductive Interleaves (left : List Char) : List (List Char) → List Token → List Char → Prop
  | nil : Interleaves left [] [] left
  | cons {gap text : List Char} {gaps : List (List Char)} {t : Token} {ts : List Token} :
      Longest IsGap (gap ++ (t.spelling ++ text)) gap → Interleaves left gaps ts text →
      Interleaves left (gap :: gaps) (t :: ts) (gap ++ (t.spelling ++ text))

/-- Gaps and the spellings of tokens in turn. -/
def interleave (gaps : List (List Char)) (ts : List Token) : List Char :=
  (List.zipWith (fun gap t => gap ++ t.spelling) gaps ts).flatten

theorem Interleaves.eq_interleave {left text : List Char} {gaps : List (List Char)}
    {ts : List Token} (interleaves : Interleaves left gaps ts text) :
    text = interleave gaps ts ++ left := by
  induction interleaves with
  | nil => rfl
  | @cons gap text gaps t ts _ _ ih =>
    have first : interleave (gap :: gaps) (t :: ts) = gap ++ t.spelling ++ interleave gaps ts := rfl
    rw [first, List.append_assoc, List.append_assoc, ← ih]

theorem interleaves_tokenize (s : TokenStream) :
    ∃ gaps, Interleaves s.tokenize.2.rest gaps s.tokenize.1 s.rest := by
  have read (s : TokenStream) {left : List Char} {gaps : List (List Char)} {ts : List Token}
      (more : Interleaves left gaps ts s.read.2.rest) :
      Interleaves left ((Gap.split s.rest).1 :: gaps) (s.read.1 :: ts) s.rest := by
    have parts := s.rest_eq_append_read
    have longest := Gap.split_longest s.rest
    generalize (Gap.split s.rest).1 = gap at parts longest ⊢
    rw [parts] at longest ⊢
    exact .cons longest more
  refine tokenize_induction (P := fun s ts s' => ∃ gaps, Interleaves s'.rest gaps ts s.rest) ?_ ?_ s
  · intro s _
    exact ⟨_, read s .nil⟩
  · intro s ts s' _ ih
    obtain ⟨gaps, more⟩ := ih
    exact ⟨_, read s more⟩

theorem rest_tokenize_of_empty (s : TokenStream) {body : List Token} {last : Token}
    (parts : s.tokenize.1 = body ++ [last]) (kind : last.kind = .empty) :
    s.tokenize.2.rest = [] := by
  refine tokenize_induction_of_empty (P := fun _ _ s' => s'.rest = []) kind ?_ ?_ parts
  · intro s first
    exact rest_read_of_empty (first ▸ kind)
  · intro s body s' _ ih
    exact ih

theorem positions_tokenize (s : TokenStream) :
    (∀ t ∈ s.tokenize.1, s.position = t.position ∨ s.position.Before t.position) ∧
      s.tokenize.1.Pairwise (fun t u => t.position.Before u.position) := by
  refine tokenize_induction (P := fun s ts _ =>
    (∀ t ∈ ts, s.position = t.position ∨ s.position.Before t.position) ∧
      ts.Pairwise (fun t u => t.position.Before u.position)) ?_ ?_ s
  · intro s _
    refine ⟨?_, List.pairwise_singleton _ _⟩
    intro t member
    rw [List.mem_singleton.mp member]
    exact Position.eq_or_before_after _ _
  · intro s ts _ going ih
    obtain ⟨later, ordered⟩ := ih
    have start : s.position = s.next.1.position ∨ s.position.Before s.next.1.position :=
      Position.eq_or_before_after _ _
    have onward : s.next.1.position.Before s.next.2.position := by
      change s.read.1.position.Before s.read.2.position
      rw [position_read]
      exact Position.before_after (spelling_read_ne_nil going) _
    have before (t : Token) (member : t ∈ ts) : s.next.1.position.Before t.position := by
      rcases later t member with same | behind
      · rwa [← same]
      · exact onward.trans behind
    refine ⟨?_, List.pairwise_cons.mpr ⟨before, ordered⟩⟩
    intro t member
    rcases List.mem_cons.mp member with rfl | member
    · exact start
    · rcases start with same | earlier
      · rw [same]
        exact .inr (before t member)
      · exact .inr (earlier.trans (before t member))

/-- In every state that is reached, the index lies in the source, the position is counted from the
text before the index, no operation goes back, and a read consumes the longest gap and the spelling
of its token. Up to the empty token, the gaps and spellings make up the source, and the tokens stand
one behind the other. -/
theorem reached_consumes (source : String) :
    (∀ s, Reached source s →
      s.index ≤ source.toList.length ∧ s.position = .behind (source.toList.take s.index) ∧
        (∀ s', Operation s s' → s.index ≤ s'.index) ∧
        ∃ gap, Consumes source s gap s.read.1 s.read.2 ∧ Consumes source s gap s.next.1 s.next.2) ∧
      (∀ body last, (Sexp.tokenize source).result = body ++ [last] → last.kind = .empty →
        ∃ gaps, Interleaves [] gaps (Sexp.tokenize source).result source.toList ∧
          source.toList = interleave gaps (Sexp.tokenize source).result) ∧
      (Sexp.tokenize source).result.Pairwise (fun t u => t.position.Before u.position) := by
  refine ⟨?_, ?_, (positions_tokenize (ofSource source)).2⟩
  · intro s reached
    have stands := reached.stands
    exact ⟨stands.index_le, stands.position_eq, fun s' operation => operation.index_le, _,
      stands.consumes, stands.consumes.next⟩
  · intro body last parts kind
    obtain ⟨gaps, interleaves⟩ := interleaves_tokenize (ofSource source)
    rw [rest_tokenize_of_empty _ parts kind] at interleaves
    exact ⟨gaps, interleaves, interleaves.eq_interleave.trans (List.append_nil _)⟩

end TokenStream

end Sexp
