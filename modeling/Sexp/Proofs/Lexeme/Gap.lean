import Sexp.Proofs.Lexeme.Grammar

set_option autoImplicit false
set_option relaxedAutoImplicit false

/-!
# Gaps are split off whole

The automaton of gaps accepts exactly the gaps of the grammar, so that what `Gap.split` takes off a
text is the longest gap at its front.
-/

namespace Sexp.Gap

open Grammar (IsGap IsClosedGap)
open Text (Longest)

private theorem run_comment {note : List Char} (inLine : '\n' ∉ note) :
    note.foldlM step .comment = some .comment := by
  induction note with
  | nil => rfl
  | cons c note ih =>
    simp only [List.mem_cons, not_or] at inLine
    have inComment : step .comment c = some .comment := if_neg (Ne.symm inLine.1)
    simpa [inComment] using ih inLine.2

private theorem run_of_isGap {cs : List Char} (gap : IsGap cs) :
    (cs.foldlM step .between).isSome ∧ (cs.foldlM step .comment).isSome := by
  induction gap with
  | nil => exact ⟨rfl, rfl⟩
  | @separator c cs separator _ ih =>
    have noComment : c ≠ ';' := by
      rintro rfl
      simp [isSeparator] at separator
    refine ⟨by simpa [step, noComment, separator] using ih.1, ?_⟩
    by_cases lineEnd : c = '\n'
    · simpa [step, lineEnd] using ih.1
    · simpa [step, lineEnd] using ih.2
  | @comment note cs inLine _ ih =>
    constructor <;> simpa [step, run_comment inLine] using ih.2

private theorem isGap_of_run {cs : List Char} :
    ((cs.foldlM step .between).isSome → IsGap cs) ∧
      ((cs.foldlM step .comment).isSome →
        ∃ note gap, cs = note ++ gap ∧ '\n' ∉ note ∧ IsGap gap) := by
  induction cs with
  | nil => exact ⟨fun _ => .nil, fun _ => ⟨[], [], rfl, by simp, .nil⟩⟩
  | cons c cs ih =>
    constructor
    · intro accepted
      by_cases comment : c = ';'
      · subst comment
        obtain ⟨note, gap, rfl, inLine, isGap⟩ := ih.2 (by simpa [step] using accepted)
        exact .comment inLine isGap
      · by_cases separator : isSeparator c = true
        · exact .separator separator (ih.1 (by simpa [step, comment, separator] using accepted))
        · simp [step, comment, separator] at accepted
    · intro accepted
      by_cases lineEnd : c = '\n'
      · subst lineEnd
        have isGap : IsGap cs := ih.1 (by simpa [step] using accepted)
        exact ⟨[], '\n' :: cs, rfl, by simp, .separator rfl isGap⟩
      · obtain ⟨note, gap, rfl, inLine, isGap⟩ := ih.2 (by simpa [step, lineEnd] using accepted)
        exact ⟨c :: note, gap, rfl, by simp [Ne.symm lineEnd, inLine], isGap⟩

theorem isGap_iff (cs : List Char) : IsGap cs ↔ (cs.foldlM step .between).isSome :=
  ⟨fun gap => (run_of_isGap gap).1, isGap_of_run.1⟩

/-- What is split off is the longest gap. -/
theorem split_longest (cs : List Char) : Longest IsGap cs (split cs).1 := by
  have longest := Text.munch_longest step .between cs
  refine ⟨longest.begins, (isGap_iff _).mpr longest.holds, ?_⟩
  intro other begins gap
  exact longest.length_le other begins ((isGap_iff other).mp gap)

theorem isGap_of_isClosedGap {gap : List Char} (closed : IsClosedGap gap) : IsGap gap := by
  induction closed with
  | nil => exact .nil
  | separator separator _ ih => exact .separator separator ih
  | comment inLine _ ih => exact .comment inLine (.separator rfl ih)

theorem isSymbolChar_eq_false {c : Char} (begins : isSeparator c = true ∨ c = ';') :
    isSymbolChar c = false := by
  rcases begins with separator | rfl
  · simp only [isSeparator, List.mem_cons, List.not_mem_nil, or_false, decide_eq_true_eq]
      at separator
    rcases separator with rfl | rfl | rfl | rfl | rfl <;> decide
  · decide

theorem isSymbolChar_head {gap : List Char} (isGap : IsGap gap) :
    ∀ c ∈ gap.head?, isSymbolChar c = false := by
  intro c head
  apply isSymbolChar_eq_false
  cases isGap with
  | nil => cases head
  | separator separator _ =>
    obtain rfl := Option.some.inj head
    exact .inl separator
  | comment =>
    obtain rfl := Option.some.inj head
    exact .inr rfl

private theorem run_of_isClosedGap {gap : List Char} (closed : IsClosedGap gap) :
    gap.foldlM step .between = some .between := by
  induction closed with
  | nil => rfl
  | @separator c cs separator _ ih =>
    have noComment : c ≠ ';' := by
      rintro rfl
      simp [isSeparator] at separator
    simpa [step, noComment, separator] using ih
  | @comment note cs inLine _ ih => simpa [step, run_comment inLine] using ih

private theorem isClosedGap_of_run {cs : List Char} :
    (cs.foldlM step .between = some .between → IsClosedGap cs) ∧
      (cs.foldlM step .comment = some .between →
        ∃ note gap, cs = note ++ '\n' :: gap ∧ '\n' ∉ note ∧ IsClosedGap gap) := by
  induction cs with
  | nil => exact ⟨fun _ => .nil, by simp⟩
  | cons c cs ih =>
    constructor
    · intro accepted
      by_cases comment : c = ';'
      · subst comment
        obtain ⟨note, gap, rfl, inLine, closed⟩ := ih.2 (by simpa [step] using accepted)
        exact .comment inLine closed
      · by_cases separator : isSeparator c = true
        · exact .separator separator (ih.1 (by simpa [step, comment, separator] using accepted))
        · simp [step, comment, separator] at accepted
    · intro accepted
      by_cases lineEnd : c = '\n'
      · subst lineEnd
        exact ⟨[], cs, rfl, by simp, ih.1 (by simpa [step] using accepted)⟩
      · obtain ⟨note, gap, rfl, inLine, closed⟩ := ih.2 (by simpa [step, lineEnd] using accepted)
        exact ⟨c :: note, gap, rfl, by simp [Ne.symm lineEnd, inLine], closed⟩

theorem isClosedGap_split {cs : List Char} (left : (split cs).2 ≠ []) :
    IsClosedGap (split cs).1 := by
  obtain ⟨last, run, stop⟩ := Text.munch_run step .between cs
  obtain ⟨c, rest, begins⟩ := List.exists_cons_of_ne_nil left
  have outside : last = .between := by
    cases last with
    | between => rfl
    | comment =>
      have refused := stop c rest begins
      by_cases lineEnd : c = '\n' <;> simp [step, lineEnd] at refused
  rw [outside] at run
  exact isClosedGap_of_run.1 run

theorem split_append_of_isClosedGap {gap : List Char} (closed : IsClosedGap gap)
    (rest : List Char) : split (gap ++ rest) = (gap ++ (split rest).1, (split rest).2) :=
  Text.munch_append_of_run (run_of_isClosedGap closed)

theorem split_split (cs : List Char) : split (split cs).2 = ([], (split cs).2) := by
  by_cases left : (split cs).2 = []
  · rw [left]
    rfl
  · have again := split_append_of_isClosedGap (isClosedGap_split left) (split cs).2
    rw [split_append] at again
    have gap : (split cs).1 ++ (split (split cs).2).1 = (split cs).1 := congrArg Prod.fst again.symm
    exact Prod.ext (List.append_right_eq_self.mp gap) (congrArg Prod.snd again).symm

theorem split_of_isGap {gap : List Char} (isGap : IsGap gap) : split gap = (gap, []) := by
  obtain ⟨last, run⟩ := Option.isSome_iff_exists.mp ((isGap_iff gap).mp isGap)
  have whole := @Text.munch_append_of_run _ step .between gap [] last run
  simpa [split] using whole

theorem split_of_head {rest : List Char}
    (stop : ∀ c ∈ rest.head?, isSeparator c = false ∧ c ≠ ';') : split rest = ([], rest) := by
  cases rest with
  | nil => rfl
  | cons c rest =>
    obtain ⟨noSeparator, noComment⟩ := stop c rfl
    exact Text.munch_cons_none (by simp [step, noSeparator, noComment])

theorem split_append_of_left {cs : List Char} (left : (split cs).2 ≠ []) (more : List Char) :
    split (cs ++ more) = ((split cs).1, (split cs).2 ++ more) :=
  Text.munch_append_of_left left

theorem split_append_lineFeed {gap : List Char} (isGap : IsGap gap) (rest : List Char) :
    split (gap ++ '\n' :: rest) = (gap ++ '\n' :: (split rest).1, (split rest).2) := by
  obtain ⟨last, run⟩ := Option.isSome_iff_exists.mp ((isGap_iff gap).mp isGap)
  have ended : step last '\n' = some .between := by
    cases last <;> rfl
  have closed : (gap ++ ['\n']).foldlM step .between = some .between := by
    simp [List.foldlM_append, run, ended]
  have whole := @Text.munch_append_of_run _ step .between (gap ++ ['\n']) rest _ closed
  simpa [split] using whole

end Sexp.Gap
