import Sexp.Proofs.ExprStream.Building
import Sexp.Proofs.ExprStream.Schedule

set_option autoImplicit false
set_option relaxedAutoImplicit false

/-!
# What a report of too deep a list says

Two things keep a list from being opened: the chosen limit, and the capacity, which no limit raises.
Both are reported alike, with the limit if one is chosen. `reported_limit_exceeded` says when such a
report is right: the limit is exceeded where it says so, or else the capacity is.
-/

namespace Sexp

open Nesting

theorem Delivery.outcome_of_error {d : Delivery} {cs : List Call} {a : Answer ReadError}
    {error : ReadError} (member : a ∈ (calls Delivery.call d cs).1)
    (raised : a.error? = some error) : d.outcome = .raised error := by
  induction cs generalizing d with
  | nil => cases member
  | cons c cs ih =>
    obtain ⟨undelivered, outcome, given⟩ := d
    rcases List.mem_cons.mp member with rfl | member
    · cases c with
      | read =>
        cases undelivered with
        | nil => cases outcome <;> simp_all [call, Outcome.one, Answer.error?]
        | cons e es => simp [call, Answer.error?] at raised
      | readAll => cases outcome <;> simp_all [call, Outcome.all, Answer.error?]
    · have same := ih member
      cases c with
      | read => cases undelivered <;> exact same
      | readAll => exact same

section

variable [Capacity]

theorem parseAll_of_error {source : String} {maxDepth : Option Int} {cs : List Call}
    {a : Answer ReadError} {error : ReadError} (moderate : Step.Moderate maxDepth)
    (member : a ∈ (calls ExprStream.call (.ofSource source maxDepth) cs).1)
    (raised : a.error? = some error) : (parseAll source maxDepth).result = .error error := by
  obtain ⟨es, outcome, start⟩ := ExprStream.exists_delivers source moderate
  rw [(start.calls cs).1] at member
  have same : outcome = .raised error := Delivery.outcome_of_error member raised
  subst same
  exact Answer.all.inj (start.call .readAll).1

/-- A run fails at a token that is refused, and the lists open there hold the tokens before it. -/
theorem Built.exists_refused {maxDepth : Option Int} {lists : List OpenList}
    {outer front ts : List Token} {error : ReadError} (built : Built lists outer front)
    (failed : Step.run maxDepth lists ts = .error error) :
    ∃ before t after lists' front', ts = before ++ t :: after ∧
      Built lists' (unclosed outer before) front' ∧
      Step.ofToken maxDepth lists' t = .refuse error := by
  induction ts generalizing lists outer front with
  | nil => cases failed
  | cons t ts ih =>
    have later {lists' : List OpenList} {front' : List Token}
        (built' : Built lists' (enclose outer t) front')
        (failed' : Step.run maxDepth lists' ts = .error error) :
        ∃ before u after lists'' front'', t :: ts = before ++ u :: after ∧
          Built lists'' (unclosed outer before) front'' ∧
          Step.ofToken maxDepth lists'' u = .refuse error := by
      obtain ⟨before, u, after, lists'', front'', split, built'', refused⟩ := ih built' failed'
      refine ⟨t :: before, u, after, lists'', front'', ?_, built'', refused⟩
      rw [split, List.cons_append]
    rw [Step.run] at failed
    cases used : Step.ofToken maxDepth lists t with
    | shift lists' =>
      rw [used] at failed
      exact later (built.of_shift used) failed
    | deliver e =>
      rw [used] at failed
      cases rest : Step.run maxDepth [] ts with
      | ok es => simp [rest, Except.map] at failed
      | error error' =>
        obtain rfl : error' = error := by simpa [rest, Except.map] using failed
        have outside := built.enclose_of_deliver used
        exact later (outside ▸ Built.outside) rest
    | finish =>
      rw [used] at failed
      cases failed
    | refuse error' =>
      rw [used] at failed
      cases failed
      exact ⟨[], t, ts, lists, front, rfl, built, used⟩

/-- The error says that lists may be nested at most `limit` deep. -/
def ReadError.ReportsLimit (limit : Int) : ReadError → Prop
  | .defect d => d.diagnostic.message = "maximum nesting depth exceeded" ∧
      d.diagnostic.context = some ("Lists may be nested at most " ++ toString limit ++ " deep")
  | .overlongInteger _ => False

theorem Step.deeper_of_depthError? {limit : Int} {depth : Nat} {position : Position} {d : Defect}
    (deep : depthError? (some limit) depth position = some (.defect d)) :
    d.diagnostic.position = some position ∧ (limit < depth ∨ Capacity.lists < depth) := by
  obtain ⟨beyond, tooDeep⟩ := tooDeep_of_depthError? deep
  cases tooDeep with
  | named _ report =>
    rw [report]
    exact ⟨rfl, beyond.imp_left Step.exceeds_some.mp⟩

namespace ExprStream

/-- The error is one with which a token is refused somewhere. -/
def Refused (maxDepth : Option Int) (error : ReadError) : Prop :=
  ∃ lists t, Step.ofToken maxDepth lists t = .refuse error

/-- A stream with a limit on nesting that failed, if it did, at a token that is refused. -/
structure Grounded (maxDepth : Option Int) (s : ExprStream) : Prop where
  maxDepth_eq : s.maxDepth = maxDepth
  refused : ∀ d, s.status = .failed d → Refused maxDepth (.defect d)

variable {maxDepth : Option Int} {s : ExprStream}

theorem Grounded.readFrom (grounded : Grounded maxDepth s) (lists : List OpenList) :
    Grounded maxDepth (readFrom lists s).2 ∧
      ∀ error, (ExprStream.readFrom lists s).1 = .error error → Refused maxDepth error := by
  fun_induction ExprStream.readFrom lists s with
  | case1 lists s lists' used ih => exact ih ⟨grounded.maxDepth_eq, grounded.refused⟩
  | case2 lists s e used =>
    refine ⟨⟨grounded.maxDepth_eq, grounded.refused⟩, ?_⟩
    rintro _ ⟨⟩
  | case3 lists s used => refine ⟨⟨grounded.maxDepth_eq, ?_⟩, ?_⟩ <;> rintro _ ⟨⟩
  | case4 lists s d used =>
    rw [grounded.maxDepth_eq] at used
    have refused : Refused maxDepth (.defect d) := ⟨lists, s.lookahead, used⟩
    refine ⟨⟨grounded.maxDepth_eq, ?_⟩, ?_⟩ <;> rintro _ ⟨⟩ <;> exact refused
  | case5 lists s conversion used =>
    rw [grounded.maxDepth_eq] at used
    refine ⟨grounded, ?_⟩
    rintro _ ⟨⟩
    exact ⟨lists, s.lookahead, used⟩

theorem Grounded.read (grounded : Grounded maxDepth s) :
    Grounded maxDepth s.read.2 ∧ ∀ error, s.read.1 = .error error → Refused maxDepth error := by
  unfold ExprStream.read
  cases status : s.status with
  | ready => exact grounded.readFrom []
  | failed d =>
    refine ⟨grounded, ?_⟩
    rintro _ ⟨⟩
    exact grounded.refused d status
  | done =>
    refine ⟨grounded, ?_⟩
    rintro _ ⟨⟩

theorem maintains_grounded : Maintains (Grounded maxDepth) (fun _ => True) (Refused maxDepth) where
  keeps := fun _ grounded => grounded.read.1
  expr := fun _ _ _ _ => trivial
  error := fun _ error grounded => grounded.read.2 error

theorem writable_of_reportsLimit {limit : Int} {error : ReadError}
    (refused : Refused (some limit) error) (reports : error.ReportsLimit limit) :
    Numeral.Writable limit := by
  obtain ⟨lists, t, refused⟩ := refused
  cases error with
  | overlongInteger => exact reports.elim
  | defect d =>
    obtain ⟨-, deep⟩ := Step.depthError?_of_refuse refused reports.2
    cases (Step.tooDeep_of_depthError? deep).2 with
    | named found _ =>
      by_contra long
      rw [Step.depthContext?_eq_none_iff.mpr ⟨limit, rfl, long⟩] at found
      cases found

end ExprStream

section Reports

variable {source : String} {limit : Int} {error : ReadError}

theorem deeper_of_parseAll (failed : (parseAll source (some limit)).result = .error error)
    (reports : error.ReportsLimit limit) :
    ∃ d before t after, error = .defect d ∧ (tokenize source).result = before ++ t :: after ∧
      t.kind = .opening ∧ d.diagnostic.position = some t.position ∧
      (limit < (unclosed [] (before ++ [t])).length ∨
        Capacity.lists < (unclosed [] (before ++ [t])).length) := by
  rw [parseAll_eq_run] at failed
  obtain ⟨before, t, after, lists, front, split, built, refused⟩ :=
    Built.outside.exists_refused failed
  cases error with
  | overlongInteger => exact reports.elim
  | defect d =>
    obtain ⟨-, context⟩ := reports
    obtain ⟨kind, deep⟩ := Step.depthError?_of_refuse refused context
    obtain ⟨cited, beyond⟩ := Step.deeper_of_depthError? deep
    have depth : (unclosed [] (before ++ [t])).length = lists.length + 1 := by
      rw [unclosed_append, unclosed_cons, enclose_of_opening kind, built.length_eq]
      rfl
    refine ⟨d, before, t, after, rfl, split, kind, cited, ?_⟩
    rwa [depth]

end Reports

end

/-- When it is reported that lists may be nested at most `limit` deep, a parenthesis has opened more
lists than that, or more than the capacity. The report is right, and points at that parenthesis, if
the limit is within the capacity, or if the source never has more lists open than that: then no
calls on a source with at most `limit` lists open at once raise it. -/
theorem reported_limit_exceeded [Capacity] (source : String) (limit : Int) (cs : List Call)
    (error : ReadError)
    (raised : ∃ a ∈ (calls ExprStream.call (.ofSource source (some limit)) cs).1,
      a.error? = some error)
    (reports : error.ReportsLimit limit) :
    ∃ d before t after, error = .defect d ∧ (tokenize source).result = before ++ t :: after ∧
      t.kind = .opening ∧
      (limit < (unclosed [] (before ++ [t])).length ∨
        Capacity.lists < (unclosed [] (before ++ [t])).length) ∧
      (limit ≤ Capacity.lists ∨ AtMost Capacity.lists (tokenize source).result →
        limit < (unclosed [] (before ++ [t])).length ∧
          d.diagnostic.position = some t.position) := by
  obtain ⟨a, member, raised⟩ := raised
  have grounded : ExprStream.Grounded (some limit) (.ofSource source (some limit)) := ⟨rfl, nofun⟩
  have refused : ExprStream.Refused (some limit) error :=
    ((ExprStream.maintains_grounded.calls grounded cs).2 a member).2 error raised
  have moderate : Step.Moderate (some limit) :=
    Step.moderate_of_writable (ExprStream.writable_of_reportsLimit refused reports)
  obtain ⟨d, before, t, after, same, split, kind, cited, deeper⟩ :=
    deeper_of_parseAll (parseAll_of_error moderate member raised) reports
  refine ⟨d, before, t, after, same, split, kind, deeper, ?_⟩
  intro within
  refine ⟨?_, cited⟩
  rcases within with narrow | few
  · omega
  · have opened := few (before ++ [t]) after (by rw [split, List.append_assoc]; rfl)
    omega

/-- The second parenthesis exceeds a limit of one, and is reported. -/
theorem second_level_reported :
    ∃ error, (∃ a ∈ (calls ExprStream.call (.ofSource "((" (some 1)) [.readAll]).1,
        a.error? = some error) ∧ error.ReportsLimit 1 ∧
      ∃ before t after, (tokenize "((").result = before ++ t :: after ∧
        1 < (unclosed [] (before ++ [t])).length := by
  have tokens : (tokenize "((").result =
      [{ kind := .opening, text := "", position := ⟨1, 1⟩ },
        { kind := .opening, text := "", position := ⟨1, 2⟩ },
        { kind := .empty, text := "", position := ⟨1, 3⟩ }] := by
    decide +kernel
  let d := Defect.tooDeep "Lists may be nested at most 1 deep" ⟨1, 2⟩
  have failed : (parseAll "((" (some 1)).result = .error (.defect d) := by
    rw [parseAll_eq_run, tokens]
    rfl
  have raised : ∃ a ∈ (calls ExprStream.call (.ofSource "((" (some 1)) [.readAll]).1,
      a.error? = some (.defect d) := by
    refine ⟨.all (parseAll "((" (some 1)).result, List.mem_singleton.mpr rfl, ?_⟩
    rw [failed]
    rfl
  have reports : ReadError.ReportsLimit 1 (.defect d) := ⟨rfl, rfl⟩
  obtain ⟨_, before, t, after, _, split, _, _, right⟩ :=
    reported_limit_exceeded "((" 1 [.readAll] _ raised reports
  obtain ⟨exceeded, -⟩ := right (.inl (by decide))
  exact ⟨_, raised, reports, before, t, after, split, by omega⟩

section Openings

variable {n : Nat}

theorem atMost_openings : AtMost n (tokenize (String.ofList (List.replicate n '('))).result := by
  obtain ⟨ts, last, tokens, ended, length, -⟩ := tokenize_openings n
  intro before after split
  have few := length_unclosed_le [] ts
  rw [length, List.length_nil, Nat.zero_add] at few
  rw [tokens] at split
  rcases List.prefix_concat_iff.mp ⟨after, split.symm⟩ with whole | ⟨between, parts⟩
  · have outside : unclosed (unclosed [] ts) [last] = unclosed [] ts := by
      rw [unclosed_cons, enclose, ended]
      rfl
    rwa [whole, unclosed_append, outside]
  · have opened := length_unclosed_le [] before
    rw [← parts, List.length_append] at length
    rw [List.length_nil] at opened
    omega

theorem limit_reported_beyond_capacity [Capacity] {limit : Int} (many : Capacity.lists < n)
    (allowed : n ≤ limit) (writable : Numeral.Writable limit) :
    ∃ error, (parseAll (String.ofList (List.replicate n '(')) (some limit)).result = .error error ∧
      error.ReportsLimit limit := by
  obtain ⟨k, rfl⟩ : ∃ k, n = Capacity.lists + (k + 1) := ⟨n - Capacity.lists - 1, by omega⟩
  have within : Step.exceeds (some limit) (Capacity.lists + 1) = false := by
    rw [Step.exceeds_eq_false_iff]
    rintro _ ⟨⟩
    omega
  have opens := ExprStream.opens_ofSource (Capacity.lists + (k + 1)) (some limit)
  obtain ⟨lists, s, same, -, refused⟩ := opens.read_to_capacity within
  rw [Step.depthError_of_writable writable] at refused
  refine ⟨.defect (.beyondCapacity _ s.lookahead.position), ?_, rfl, rfl⟩
  rw [parseAll, ExprStream.readAll_eq, same, ExprStream.readFrom_eq, refused]

/-- A source with no more lists open than the limit allows is said to exceed it. -/
theorem limit_reported_unexceeded :
    let source := String.ofList (List.replicate 3000 '(')
    AtMost 10000 (tokenize source).result ∧
      ∃ error, (parseAll source (some 10000)).result = .error error ∧
        error.ReportsLimit 10000 := by
  have writable : Numeral.Writable 10000 :=
    Numeral.writable_of_lt_pow 5 (by decide) (by decide)
  exact ⟨atMost_openings.mono (by decide),
    limit_reported_beyond_capacity (by decide) (by decide) writable⟩

end Openings

end Sexp
