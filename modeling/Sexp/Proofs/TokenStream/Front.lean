import Sexp.Proofs.TokenStream.Spacing

set_option autoImplicit false
set_option relaxedAutoImplicit false

/-!
# Tokens at the front of a text

A token that shows where it ends is read without regard to what is behind it. `Gives.of_front` says
the same of any tokens up to such a one: they are read of every text that begins with theirs.
-/

namespace Sexp.TokenStream

open Grammar

variable {source : String} {s s' : TokenStream} {t : Token} {ts : List Token}

/-- The stream gives these tokens, none of which is terminal, and has come to another state then. -/
inductive Gives : TokenStream → List Token → TokenStream → Prop
  | nil {s : TokenStream} : Gives s [] s
  | cons {s s' : TokenStream} {ts : List Token} : s.read.1.isTerminal = false →
      Gives s.next.2 ts s' → Gives s (s.read.1 :: ts) s'

theorem read_of_front {more : List Char} (going : s.read.1.isTerminal = false)
    (stop : ∀ c ∈ more.head?, ¬ GoesOn s.read.1.kind s.read.1.text.toList c)
    (rest : s'.rest = (Gap.split s.rest).1 ++ (s.read.1.spelling ++ more))
    (position : s'.position = s.position) :
    s'.read.1 = s.read.1 ∧ s'.read.2.rest = more ∧ s'.read.2.position = s.read.2.position := by
  have closed := Gap.isClosedGap_split (split_ne_nil_of_going going)
  have gap : Gap.split s'.rest = ((Gap.split s.rest).1, s.read.1.spelling ++ more) := by
    rw [rest, split_spelled closed (isText_read going)]
  have scanned : Lexeme.scan (s.read.1.spelling ++ more) =
      ((Lexeme.scan (Gap.split s.rest).2).1, more) := by
    rw [spelling_read]
    apply Lexeme.scan_spelling_append (Lexeme.isText_scan going)
    simpa only [read, Lexeme.token, String.toList_ofList] using stop
  have token : s'.read.1 = s.read.1 := by
    change (Lexeme.scan (Gap.split s'.rest).2).1.token (s'.position.after (Gap.split s'.rest).1) = _
    rw [gap, scanned, position]
    rfl
  refine ⟨token, ?_, ?_⟩
  · change (Lexeme.scan (Gap.split s'.rest).2).2 = more
    rw [gap, scanned]
  · rw [position_read, position_read, token]

namespace Gives

theorem tokenize_eq (gives : Gives s ts s') : s.tokenize.1 = ts ++ s'.tokenize.1 := by
  induction gives with
  | nil => rfl
  | cons going _ ih =>
    have more := Bool.eq_false_iff.mp going
    rw [TokenStream.tokenize_eq, next_fst, if_neg more, ih]
    rfl

theorem unique {s'' : TokenStream} (gives : Gives s ts s') (gives' : Gives s ts s'') :
    s' = s'' := by
  induction gives with
  | nil =>
    cases gives'
    rfl
  | cons _ _ ih =>
    cases gives' with
    | cons _ others => exact ih others

theorem stands (gives : Gives s ts s') (stands : Stands source s) : Stands source s' := by
  induction gives with
  | nil => exact stands
  | cons _ _ ih => exact ih stands.next

theorem length_rest_le (gives : Gives s ts s') : s'.rest.length ≤ s.rest.length := by
  induction gives with
  | nil => exact Nat.le_refl _
  | @cons s _ _ _ _ ih => exact Nat.le_trans ih s.length_rest_read_le

theorem length_rest_lt (gives : Gives s (t :: ts) s') : s'.rest.length < s.rest.length := by
  cases gives with
  | cons going others => exact Nat.lt_of_le_of_lt others.length_rest_le (length_rest_read_lt going)

theorem exists_front (gives : Gives s (ts ++ [t]) s') :
    ∃ front, s.rest = front ++ (t.spelling ++ s'.rest) := by
  induction ts generalizing s with
  | nil =>
    cases gives with
    | cons _ none =>
      cases none
      exact ⟨_, s.rest_eq_append_read⟩
  | cons u ts ih =>
    cases gives with
    | cons _ others =>
      obtain ⟨front, parts⟩ := ih others
      refine ⟨(Gap.split s.rest).1 ++ (s.read.1.spelling ++ front), ?_⟩
      nth_rewrite 1 [s.rest_eq_append_read]
      rw [List.append_assoc, List.append_assoc]
      exact congrArg (fun rest => _ ++ (_ ++ rest)) parts

theorem suffix (gives : Gives s ts s') : s'.rest <:+ s.rest := by
  induction gives with
  | nil => exact List.suffix_rfl
  | @cons s _ _ _ _ ih =>
    refine ih.trans ⟨(Gap.split s.rest).1 ++ s.read.1.spelling, ?_⟩
    rw [List.append_assoc]
    exact s.rest_eq_append_read.symm

/-- Tokens up to one that shows where it ends are given of every text that begins with theirs. -/
theorem of_front {u : TokenStream} {front more : List Char} (gives : Gives s ts s')
    (delimited : ∀ t ∈ ts.getLast?, t.isDelimited = true) (parts : s.rest = front ++ s'.rest)
    (rest : u.rest = front ++ more) (position : u.position = s.position) :
    ∃ u', Gives u ts u' ∧ u'.rest = more := by
  induction gives generalizing u front with
  | nil =>
    obtain rfl := List.self_eq_append_left.mp parts
    exact ⟨u, .nil, rest⟩
  | @cons s s' ts going others ih =>
    obtain ⟨behind, within⟩ := others.suffix
    have left : s.read.2.rest = behind ++ s'.rest := within.symm
    have begins : front = (Gap.split s.rest).1 ++ (s.read.1.spelling ++ behind) := by
      rw [s.rest_eq_append_read, left, ← List.append_assoc, ← List.append_assoc] at parts
      rw [← List.append_cancel_right parts, List.append_assoc]
    have stop : ∀ c ∈ (behind ++ more).head?,
        ¬ GoesOn s.read.1.kind s.read.1.text.toList c := by
      cases ts with
      | nil => exact fun c _ => Token.not_goesOn_of_isDelimited (delimited _ rfl) _ c
      | cons u ts =>
        -- The next token begins with the character that is behind this one in the other text too.
        cases behind with
        | nil =>
          have shorter : s'.rest.length < s.read.2.rest.length := others.length_rest_lt
          rw [left] at shorter
          exact absurd shorter (Nat.lt_irrefl _)
        | cons d behind =>
          rintro c head
          obtain rfl := Option.some.inj head
          have ends := Lexeme.not_goesOn_of_scan (Prod.ext rfl left) going
          simpa only [read, Lexeme.token, String.toList_ofList] using ends
    rw [begins, List.append_assoc, List.append_assoc] at rest
    obtain ⟨token, rest', position'⟩ := read_of_front going stop rest position
    have delimited' : ∀ t ∈ ts.getLast?, t.isDelimited = true := by
      intro t last
      apply delimited
      rw [List.getLast?_cons, last]
      rfl
    obtain ⟨u', gives', done⟩ := ih (u := u.next.2) delimited' left rest' position'
    refine ⟨u', ?_, done⟩
    rw [← token]
    exact .cons (token ▸ going) gives'

end Gives

end Sexp.TokenStream
