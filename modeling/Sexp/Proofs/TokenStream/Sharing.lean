import Sexp.Proofs.TokenStream.Place

set_option autoImplicit false
set_option relaxedAutoImplicit false

/-!
# One stream with many consumers

Calls and iterators that take tokens of one stream take them from one sequence, each token once,
whatever the order in which they are made. `performed_from_one_sequence` compares a stream and its
iterators with a ledger of who has read which token.
-/

namespace Sexp

namespace TokenStream

variable {source : String} {s s' : TokenStream}

/-- The stream after so many tokens are handed out. -/
def after (s : TokenStream) : Nat → TokenStream
  | 0 => s
  | n + 1 => (s.after n).next.2

/-- Two streams stand at the same place of a source. -/
structure SamePlace (s s' : TokenStream) : Prop where
  rest_eq : s.rest = s'.rest
  index_eq : s.index = s'.index
  position_eq : s.position = s'.position

theorem SamePlace.read_eq (same : SamePlace s s') : s.read.1 = s'.read.1 := by
  simp only [read, same.rest_eq, same.position_eq]

theorem SamePlace.trans {s'' : TokenStream} (same : SamePlace s s') (same' : SamePlace s' s'') :
    SamePlace s s'' :=
  ⟨same.rest_eq.trans same'.rest_eq, same.index_eq.trans same'.index_eq,
    same.position_eq.trans same'.position_eq⟩

theorem SamePlace.next (same : SamePlace s s') : SamePlace s.next.2 s'.next.2 := by
  refine ⟨?_, ?_, ?_⟩ <;>
    simp only [TokenStream.next, read, same.rest_eq, same.index_eq, same.position_eq]

theorem stands_after (source : String) (n : Nat) : Stands source ((ofSource source).after n) := by
  induction n with
  | zero => exact stands_ofSource source
  | succ n ih => exact ih.next

theorem Stands.read_eq_fresh (stands : Stands source s) :
    s.read.1.kind = (ofSource (String.ofList (source.toList.drop s.index))).read.1.kind ∧
      s.read.1.text = (ofSource (String.ofList (source.toList.drop s.index))).read.1.text ∧
      s.read.1.message = (ofSource (String.ofList (source.toList.drop s.index))).read.1.message := by
  simp only [TokenStream.read, ofSource, String.toList_ofList, ← stands.rest_eq, Lexeme.token,
    and_self]

end TokenStream

/-- The tokens of a source, one after another, when they are handed out without an end. -/
def tokenAt (source : String) (n : Nat) : Token := ((TokenStream.ofSource source).after n).next.1

namespace Sharing

inductive Request where
  /-- To read a token and tell its kind only. -/
  | classify
  | next
  | tokenize
  /-- To make one more iterator. -/
  | iterate
  | step (i : Nat)

inductive Answer where
  | kind (kind : TokenKind)
  | token (t : Token)
  | tokens (ts : List Token)
  | started
  | handed (t : Option Token)

/-- A stream and the iterators that are made for it, numbered in their order. -/
structure Shared where
  stream : TokenStream
  iterators : List TokenIterator := []

def Shared.perform (s : Shared) : Request → Answer × Shared
  | .classify => (.kind s.stream.read.1.kind, { s with stream := s.stream.read.2 })
  | .next => (.token s.stream.next.1, { s with stream := s.stream.next.2 })
  | .tokenize => (.tokens s.stream.tokenize.1, { s with stream := s.stream.tokenize.2 })
  | .iterate => (.started, { s with iterators := s.iterators ++ [⟨false⟩] })
  | .step i =>
    match s.iterators[i]? with
    | none => (.handed none, s)
    | some it =>
      let (handed, it, stream) := it.step s.stream
      (.handed handed, { stream, iterators := s.iterators.set i it })

def Shared.performAll : Shared → List Request → List Answer × Shared
  | s, [] => ([], s)
  | s, r :: rs =>
    ((s.perform r).1 :: ((s.perform r).2.performAll rs).1, ((s.perform r).2.performAll rs).2)

theorem drain_eq_steps (s : TokenStream) :
    ∃ n, Shared.performAll ⟨s, [⟨false⟩]⟩ (List.replicate n (.step 0)) =
      (s.drain.1.map (fun t => .handed (some t)) ++ [.handed none], ⟨s.drain.2, [⟨true⟩]⟩) := by
  refine TokenStream.tokenize_induction (P := fun s ts s' => ∃ n,
    Shared.performAll ⟨s, [⟨false⟩]⟩ (List.replicate n (.step 0)) =
      ((ts.filter (·.kind ≠ .empty)).map (fun t => .handed (some t)) ++ [.handed none],
        ⟨s', [⟨true⟩]⟩)) ?_ ?_ s
  · intro s terminal
    rw [TokenStream.next_fst] at terminal
    by_cases empty : s.read.1.kind = .empty
    · exact ⟨1, by simp [Shared.performAll, Shared.perform, TokenIterator.step, terminal, empty]⟩
    · -- The error is handed out first, and the next step finds the iterator stopped.
      exact ⟨2, by simp [Shared.performAll, Shared.perform, TokenIterator.step, terminal, empty]⟩
  · rintro s ts s' going ⟨n, others⟩
    rw [TokenStream.next_fst] at going
    have handed : s.read.1.kind ≠ .empty := by
      intro empty
      rw [Token.isTerminal, empty] at going
      contradiction
    refine ⟨n + 1, ?_⟩
    have first : Shared.perform ⟨s, [⟨false⟩]⟩ (.step 0) =
        (.handed (some s.read.1), ⟨s.next.2, [⟨false⟩]⟩) := by
      simp [Shared.perform, TokenIterator.step, going, handed]
    rw [List.replicate_succ, Shared.performAll, first, others]
    simp [handed]

inductive Consumer where
  /-- A call that does not hand out the token that it reads. -/
  | classifier
  | caller
  | iterator (i : Nat)
deriving DecidableEq

/-- A token that is read, and what reads it. -/
structure Reading where
  consumer : Consumer
  token : Token

/-- How many iterators are made, and what is read so far. -/
structure Ledger where
  iterators : Nat := 0
  readings : List Reading := []

namespace Ledger

def add (l : Ledger) (readings : List Reading) : Ledger :=
  { l with readings := l.readings ++ readings }

/-- The iterator has met a terminal token. -/
def Stopped (l : Ledger) (i : Nat) : Prop :=
  ∃ r ∈ l.readings, r.consumer = .iterator i ∧ r.token.isTerminal = true

end Ledger

/-- The next `n` tokens of a sequence of which some are taken. -/
def upcoming (S : Nat → Token) (taken n : Nat) : List Token :=
  (List.range n).map fun k => S (taken + k)

/-- What a request gives, and what it adds to the ledger, when all tokens come from one sequence. -/
inductive Serves (S : Nat → Token) (l : Ledger) : Request → Answer → Ledger → Prop
  | classify : Serves S l .classify (.kind (S l.readings.length).kind)
      (l.add [⟨.classifier, S l.readings.length⟩])
  | next : Serves S l .next (.token (S l.readings.length)) (l.add [⟨.caller, S l.readings.length⟩])
  | tokenize {n : Nat} : Terminated (upcoming S l.readings.length n) →
      Serves S l .tokenize (.tokens (upcoming S l.readings.length n))
        (l.add ((upcoming S l.readings.length n).map (⟨.caller, ·⟩)))
  | iterate : Serves S l .iterate .started { l with iterators := l.iterators + 1 }
  | absent {i : Nat} : l.iterators ≤ i → Serves S l (.step i) (.handed none) l
  /-- An iterator that has met a terminal token reads nothing more. -/
  | stopped {i : Nat} : i < l.iterators → l.Stopped i → Serves S l (.step i) (.handed none) l
  /-- An iterator keeps the empty token to itself. -/
  | finish {i : Nat} : i < l.iterators → ¬ l.Stopped i → (S l.readings.length).kind = .empty →
      Serves S l (.step i) (.handed none) (l.add [⟨.iterator i, S l.readings.length⟩])
  | step {i : Nat} : i < l.iterators → ¬ l.Stopped i → (S l.readings.length).kind ≠ .empty →
      Serves S l (.step i) (.handed (some (S l.readings.length)))
        (l.add [⟨.iterator i, S l.readings.length⟩])

inductive ServesAll (S : Nat → Token) : Ledger → List Request → List Answer → Ledger → Prop
  | nil {l : Ledger} : ServesAll S l [] [] l
  | cons {l l' l'' : Ledger} {r : Request} {rs : List Request} {a : Answer} {as : List Answer} :
      Serves S l r a l' → ServesAll S l' rs as l'' → ServesAll S l (r :: rs) (a :: as) l''

section

variable {source : String} {s : TokenStream} {readings : List Reading}

/-- The stream has read what the readings say, and has nothing else to show. -/
structure Agrees (source : String) (s : TokenStream) (readings : List Reading) : Prop where
  tokens_eq : readings.map Reading.token = (List.range readings.length).map (tokenAt source)
  place : TokenStream.SamePlace s ((TokenStream.ofSource source).after readings.length)
  latest_eq : s.latest = readings.getLast?.map Reading.token
  current_eq :
    s.current = (readings.filter (·.consumer ≠ .classifier)).getLast?.map Reading.token

theorem agrees_ofSource (source : String) : Agrees source (.ofSource source) [] :=
  ⟨rfl, ⟨rfl, rfl, rfl⟩, rfl, rfl⟩

namespace Agrees

theorem read_eq (agrees : Agrees source s readings) :
    s.read.1 = tokenAt source readings.length :=
  agrees.place.read_eq

variable {r : Reading}

private theorem tokens_concat (agrees : Agrees source s readings) (read : r.token = s.read.1) :
    (readings ++ [r]).map Reading.token =
      (List.range (readings ++ [r]).length).map (tokenAt source) := by
  rw [List.map_append, agrees.tokens_eq, List.length_append, List.length_singleton,
    List.range_succ, List.map_append, List.map_singleton, List.map_singleton, read, agrees.read_eq]

theorem classify (agrees : Agrees source s readings) (read : r.token = s.read.1)
    (keeps : r.consumer = .classifier) : Agrees source s.read.2 (readings ++ [r]) := by
  refine ⟨agrees.tokens_concat read, ?_, ?_, ?_⟩
  · have place := agrees.place.next
    rw [List.length_append]
    exact ⟨place.rest_eq, place.index_eq, place.position_eq⟩
  · rw [List.getLast?_concat, Option.map_some, read]
    rfl
  · have same : (readings ++ [r]).filter (·.consumer ≠ .classifier) =
        readings.filter (·.consumer ≠ .classifier) := by
      simp [keeps]
    rw [same]
    exact agrees.current_eq

theorem next (agrees : Agrees source s readings) (read : r.token = s.read.1)
    (hands : r.consumer ≠ .classifier) : Agrees source s.next.2 (readings ++ [r]) := by
  refine ⟨agrees.tokens_concat read, ?_, ?_, ?_⟩
  · rw [List.length_append]
    exact agrees.place.next
  · rw [List.getLast?_concat, Option.map_some, read]
    rfl
  · have last : (readings ++ [r]).filter (·.consumer ≠ .classifier) =
        readings.filter (·.consumer ≠ .classifier) ++ [r] := by
      simp [hands]
    rw [last, List.getLast?_concat, Option.map_some, read]
    rfl

theorem tokenize (agrees : Agrees source s readings) :
    s.tokenize.1 = upcoming (tokenAt source) readings.length s.tokenize.1.length ∧
      Agrees source s.tokenize.2 (readings ++ s.tokenize.1.map (⟨.caller, ·⟩)) := by
  refine TokenStream.tokenize_induction (P := fun s ts s' => ∀ readings, Agrees source s readings →
    ts = upcoming (tokenAt source) readings.length ts.length ∧
      Agrees source s' (readings ++ ts.map (⟨.caller, ·⟩))) ?_ ?_ s readings agrees
  · intro s _ readings agrees
    refine ⟨?_, agrees.next rfl (by simp)⟩
    simp [upcoming, agrees.read_eq]
  · intro s ts s' _ ih readings agrees
    have first : Agrees source s.next.2 (readings ++ [⟨.caller, s.next.1⟩]) :=
      agrees.next rfl (by simp)
    obtain ⟨tokens, others⟩ := ih _ first
    constructor
    · rw [upcoming, List.length_cons, List.range_succ_eq_map, List.map_cons, List.map_map,
        Nat.add_zero, ← agrees.read_eq]
      nth_rewrite 1 [tokens]
      simp [upcoming, Function.comp_def, Nat.add_assoc, Nat.add_comm 1]
    · rwa [List.append_assoc] at others

end Agrees

end

section

variable {l : Ledger} {iterators : List TokenIterator} {i : Nat}

/-- The iterators that have stopped are those that have met a terminal token. -/
structure Tracks (iterators : List TokenIterator) (l : Ledger) : Prop where
  length_eq : iterators.length = l.iterators
  stopped_iff : ∀ i it, iterators[i]? = some it → (it.stopped = true ↔ l.Stopped i)
  made : ∀ r ∈ l.readings, ∀ i, r.consumer = .iterator i → i < l.iterators

theorem tracks_nil : Tracks [] {} := ⟨rfl, nofun, nofun⟩

theorem Ledger.stopped_add {readings : List Reading} :
    (l.add readings).Stopped i ↔
      l.Stopped i ∨ ∃ r ∈ readings, r.consumer = .iterator i ∧ r.token.isTerminal = true := by
  simp only [Stopped, add, List.mem_append, or_and_right, exists_or]

namespace Tracks

theorem add_of_calls (tracks : Tracks iterators l) {readings : List Reading}
    (calls : ∀ r ∈ readings, ∀ i, r.consumer ≠ .iterator i) : Tracks iterators (l.add readings) := by
  refine ⟨tracks.length_eq, ?_, ?_⟩
  · intro i it found
    have none : ¬ ∃ r ∈ readings, r.consumer = .iterator i ∧ r.token.isTerminal = true := by
      rintro ⟨r, member, consumer, -⟩
      exact calls r member i consumer
    rw [tracks.stopped_iff i it found, Ledger.stopped_add, or_iff_left none]
  · intro r member i consumer
    rcases List.mem_append.mp member with earlier | later
    · exact tracks.made r earlier i consumer
    · exact absurd consumer (calls r later i)

theorem iterate (tracks : Tracks iterators l) :
    Tracks (iterators ++ [⟨false⟩]) { l with iterators := l.iterators + 1 } := by
  refine ⟨?_, ?_, ?_⟩
  · rw [List.length_append, tracks.length_eq]
    rfl
  · intro i it found
    rcases Nat.lt_or_ge i iterators.length with old | new
    · rw [List.getElem?_append_left old] at found
      exact tracks.stopped_iff i it found
    · rw [List.getElem?_append_right new] at found
      obtain rfl := List.mem_singleton.mp (List.mem_of_getElem? found)
      have unread : ¬ l.Stopped i := by
        rintro ⟨r, member, consumer, -⟩
        have old := tracks.made r member i consumer
        rw [← tracks.length_eq] at old
        omega
      exact iff_of_false Bool.false_ne_true unread
  · intro r member i consumer
    exact Nat.lt_succ_of_lt (tracks.made r member i consumer)

theorem step (tracks : Tracks iterators l) {it : TokenIterator} (found : iterators[i]? = some it)
    (going : ¬ l.Stopped i) (t : Token) :
    Tracks (iterators.set i ⟨t.isTerminal⟩) (l.add [⟨.iterator i, t⟩]) := by
  obtain ⟨within, -⟩ := List.getElem?_eq_some_iff.mp found
  refine ⟨?_, ?_, ?_⟩
  · rw [List.length_set]
    exact tracks.length_eq
  · intro j it' found'
    rw [Ledger.stopped_add]
    by_cases same : i = j
    · subst same
      rw [List.getElem?_set_self within] at found'
      obtain rfl := Option.some.inj found'
      simp [going]
    · rw [List.getElem?_set_ne same] at found'
      rw [tracks.stopped_iff j it' found']
      simp [same]
  · intro r member j consumer
    rcases List.mem_append.mp member with earlier | later
    · exact tracks.made r earlier j consumer
    · obtain rfl := List.mem_singleton.mp later
      cases consumer
      change i < l.iterators
      rwa [← tracks.length_eq]

end Tracks

end

section

variable {source : String} {s : Shared} {l : Ledger}

private theorem serves_step (agrees : Agrees source s.stream l.readings)
    (tracks : Tracks s.iterators l) (i : Nat) :
    ∃ l', Serves (tokenAt source) l (.step i) (s.perform (.step i)).1 l' ∧
      Agrees source (s.perform (.step i)).2.stream l'.readings ∧
      Tracks (s.perform (.step i)).2.iterators l' := by
  cases found : s.iterators[i]? with
  | none =>
    have missing := List.getElem?_eq_none_iff.mp found
    rw [tracks.length_eq] at missing
    simp only [Shared.perform, found]
    exact ⟨l, .absent missing, agrees, tracks⟩
  | some it =>
    obtain ⟨within, same⟩ := List.getElem?_eq_some_iff.mp found
    have made : i < l.iterators := by rwa [← tracks.length_eq]
    by_cases stopped : it.stopped = true
    · have unchanged : s.iterators.set i it = s.iterators := by rw [← same, List.set_getElem_self]
      simp only [Shared.perform, found, TokenIterator.step, stopped, if_true, unchanged]
      exact ⟨l, .stopped made ((tracks.stopped_iff i it found).mp stopped), agrees, tracks⟩
    · have going : ¬ l.Stopped i := by rwa [← tracks.stopped_iff i it found]
      have read := agrees.read_eq
      have agrees' := agrees.next (r := ⟨.iterator i, tokenAt source l.readings.length⟩) read.symm
        (by simp)
      have tracks' := tracks.step found going (tokenAt source l.readings.length)
      simp only [Shared.perform, found, TokenIterator.step, stopped, Bool.false_eq_true, if_false,
        TokenStream.next_fst, read]
      refine ⟨_, ?_, agrees', tracks'⟩
      split
      · exact .finish made going ‹_›
      · exact .step made going ‹_›

/-- A request gives what the ledger says, and the ledger goes on with what is read. -/
theorem serves_perform (agrees : Agrees source s.stream l.readings) (tracks : Tracks s.iterators l)
    (r : Request) :
    ∃ l', Serves (tokenAt source) l r (s.perform r).1 l' ∧
      Agrees source (s.perform r).2.stream l'.readings ∧ Tracks (s.perform r).2.iterators l' := by
  cases r with
  | classify =>
    simp only [Shared.perform, agrees.read_eq]
    exact ⟨_, .classify, agrees.classify agrees.read_eq.symm rfl, tracks.add_of_calls (by simp)⟩
  | next =>
    simp only [Shared.perform, TokenStream.next_fst, agrees.read_eq]
    exact ⟨_, .next, agrees.next agrees.read_eq.symm (by simp), tracks.add_of_calls (by simp)⟩
  | tokenize =>
    obtain ⟨tokens, agrees'⟩ := agrees.tokenize
    have terminated := s.stream.terminated_tokenize
    have served : Serves (tokenAt source) l .tokenize (.tokens s.stream.tokenize.1)
        (l.add (s.stream.tokenize.1.map (⟨.caller, ·⟩))) := by
      rw [tokens] at terminated ⊢
      exact .tokenize terminated
    exact ⟨_, served, agrees', tracks.add_of_calls (by simp)⟩
  | iterate => exact ⟨_, .iterate, agrees, tracks.iterate⟩
  | step i => exact serves_step agrees tracks i

theorem serves_performAll (agrees : Agrees source s.stream l.readings)
    (tracks : Tracks s.iterators l) (requests : List Request) :
    ∃ l', ServesAll (tokenAt source) l requests (s.performAll requests).1 l' ∧
      Agrees source (s.performAll requests).2.stream l'.readings ∧
      Tracks (s.performAll requests).2.iterators l' := by
  induction requests generalizing s l with
  | nil => exact ⟨l, .nil, agrees, tracks⟩
  | cons r requests ih =>
    obtain ⟨l', serves, agrees, tracks⟩ := serves_perform agrees tracks r
    obtain ⟨l'', servesAll, agrees, tracks⟩ := ih agrees tracks
    exact ⟨l'', .cons serves servesAll, agrees, tracks⟩

end

/-- What a stream shows of the latest token read: its text and, if it is an error, its message. -/
inductive ShowsLatest (s : TokenStream) : Option Token → Prop
  | nothing : s.text = "" → s.error? = none → ShowsLatest s none
  | error {t : Token} {message : String} : t.kind = .error → t.message = some message →
      s.text = t.text → s.error? = some message → ShowsLatest s (some t)
  | other {t : Token} : t.kind ≠ .error → s.text = t.text → s.error? = none →
      ShowsLatest s (some t)

section

variable {source : String} {s : TokenStream} {readings : List Reading}

theorem Agrees.stands (agrees : Agrees source s readings) : TokenStream.Stands source s := by
  have stands := TokenStream.stands_after source readings.length
  refine ⟨?_, ?_, ?_⟩
  · rw [agrees.place.index_eq]
    exact stands.index_le
  · rw [agrees.place.rest_eq, agrees.place.index_eq]
    exact stands.rest_eq
  · rw [agrees.place.position_eq, agrees.place.index_eq]
    exact stands.position_eq

theorem Agrees.showsLatest (agrees : Agrees source s readings) :
    ShowsLatest s (readings.getLast?.map Reading.token) := by
  have latest := agrees.latest_eq
  cases last : readings.getLast? with
  | none =>
    rw [last] at latest
    exact .nothing (by rw [TokenStream.text, latest]; rfl) (by rw [TokenStream.error?, latest]; rfl)
  | some r =>
    rw [last, Option.map_some] at latest
    have read : r.token ∈ (List.range readings.length).map (tokenAt source) := by
      rw [← agrees.tokens_eq]
      exact List.mem_map_of_mem (List.mem_of_getLast? last)
    obtain ⟨n, -, taken⟩ := List.mem_map.mp read
    have text : s.text = r.token.text := by rw [TokenStream.text, latest]; rfl
    have message : s.error? = r.token.message := by rw [TokenStream.error?, latest]; rfl
    rw [Option.map_some]
    by_cases error : r.token.kind = .error
    · obtain ⟨words, said⟩ : ∃ words, r.token.message = some words := by
        rw [← taken] at error ⊢
        exact TokenStream.message_read error
      exact .error error said text (message.trans said)
    · have silent : r.token.message = none := by
        rw [← taken] at error ⊢
        exact TokenStream.message_read_of_ne_error error
      exact .other error text (message.trans silent)

end

/-- Whatever is asked of a stream and of iterators made for it, and in whatever order: all tokens
come from the sequence that the source gives when tokens are handed out without an end, the first
one first, none left out and none given twice. The answers are those of the ledger, in which an
iterator reads nothing more once it has met a terminal token and keeps the empty one to itself. What
the next token says depends on the index alone. The stream shows the latest token read, its error if
it is one, and the latest token that was handed out or taken by an iterator. -/
theorem performed_from_one_sequence (source : String) (requests : List Request) :
    let performed := Shared.performAll { stream := .ofSource source } requests
    let s := performed.2.stream
    let fresh := TokenStream.ofSource (String.ofList (source.toList.drop s.index))
    ∃ l, ServesAll (tokenAt source) {} requests performed.1 l ∧
      l.readings.map Reading.token = (List.range l.readings.length).map (tokenAt source) ∧
      TokenStream.SamePlace s ((TokenStream.ofSource source).after l.readings.length) ∧
      (s.read.1.kind = fresh.read.1.kind ∧ s.read.1.text = fresh.read.1.text ∧
        s.read.1.message = fresh.read.1.message) ∧
      performed.2.iterators.length = l.iterators ∧
      (∀ i it, performed.2.iterators[i]? = some it → (it.stopped = true ↔ l.Stopped i)) ∧
      ShowsLatest s (l.readings.getLast?.map Reading.token) ∧
      s.current = (l.readings.filter (·.consumer ≠ .classifier)).getLast?.map Reading.token := by
  obtain ⟨l, servesAll, agrees, tracks⟩ := serves_performAll (s := { stream := .ofSource source })
    (l := {}) (agrees_ofSource source) tracks_nil requests
  exact ⟨l, servesAll, agrees.tokens_eq, agrees.place, agrees.stands.read_eq_fresh,
    tracks.length_eq, tracks.stopped_iff, agrees.showsLatest, agrees.current_eq⟩

end Sharing

end Sexp
