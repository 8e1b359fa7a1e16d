import Sexp.Proofs.ExprStream.Calls
import Sexp.Proofs.ExprStream.Step
import Sexp.Proofs.TokenStream.Sharing

set_option autoImplicit false
set_option relaxedAutoImplicit false

/-!
# What is taken and what is noted

An expression stream takes tokens from its token stream and notes what goes wrong. The tokens that
calls take are listed here beside the calls. `calls_take_and_note` says that they are the first ones
of the source up to the one ahead, and that the log tells of the token ahead and of the status, once
each.
-/

namespace Sexp

/-- What is noted of a token: its position and message, if it is an error. -/
inductive NotesToken (t : Token) : List Event → Prop
  | formed : t.kind ≠ .error → NotesToken t []
  | malformed {words : String} {event : Event} : t.kind = .error → t.message = some words →
      event.origin = .tokens →
      event.message = "lexical error at " ++ toString t.position ++ ": " ++ words →
      NotesToken t [event]

/-- What is noted of a status, where `t` is the token ahead. A lexical error has the message that is
noted of the token. -/
inductive NotesStatus (t : Token) : ExprStream.Status → List Event → Prop
  | ready : NotesStatus t .ready []
  | done {event : Event} : t.kind = .empty → event.origin = .expressions →
      event.message = "reached end of input at " ++ toString t.position →
      NotesStatus t .done [event]
  | failed {d : Defect} {event : Event} : event.origin = .expressions →
      event.message = "parse failed: " ++ d.diagnostic.message →
      (d.diagnostic.category = .lexical ↔ t.kind = .error) →
      (t.kind = .error → t.message = some d.diagnostic.message) →
      NotesStatus t (.failed d) [event]

/-- What is noted of the result of reading a whole source: how many expressions it has. -/
inductive NotesResult : Except ReadError (List Expr) → List Event → Prop
  | read {es : List Expr} {event : Event} : event.origin = .sources →
      event.message = "parsed " ++ toString es.length ++ " top-level expressions" →
      NotesResult (.ok es) [event]
  | failed {error : ReadError} : NotesResult (.error error) []

theorem notesToken_event? {t : Token} (said : t.kind = .error → ∃ words, t.message = some words) :
    NotesToken t t.event?.toList := by
  by_cases error : t.kind = .error
  · obtain ⟨words, message⟩ := said error
    have noted : t.event? = some (.malformedToken t.position words) := by
      simp [Token.event?, Token.isError, error, message]
    rw [noted]
    exact .malformed error message rfl rfl
  · have silent : t.event? = none := by
      simp [Token.event?, Token.isError, error]
    rw [silent]
    exact .formed error

theorem NotesToken.eq_nil {t : Token} {events : List Event} (notes : NotesToken t events)
    (going : t.isTerminal = false) : events = [] := by
  cases notes with
  | formed => rfl
  | malformed kind =>
    rw [Token.isTerminal, kind] at going
    cases going

theorem exists_notesResult [Capacity] (source : String) (maxDepth : Option Int) :
    ∃ own, (parseAll source maxDepth).events =
        (ExprStream.ofSource source maxDepth).readAll.2.log ++ own ∧
      NotesResult (parseAll source maxDepth).result own := by
  unfold parseAll
  cases (ExprStream.ofSource source maxDepth).readAll with
  | mk result s =>
    cases result with
    | ok es => exact ⟨_, rfl, .read rfl rfl⟩
    | error error => exact ⟨_, rfl, .failed⟩

namespace ExprStream

variable {source : String} {s : ExprStream} {taken : List Token}

/-- The stream has taken these tokens, the last of which is ahead, and has noted what it must. -/
structure Accounts (source : String) (taken : List Token) (s : ExprStream) : Prop where
  front : ∃ earlier, taken = earlier ++ [s.lookahead] ∧
    (tokenize source).result = earlier ++ s.pending
  tokens_eq : s.tokens = (TokenStream.ofSource source).after taken.length
  log_eq : ∃ ofTokens own, s.log = ofTokens ++ own ∧ NotesToken s.lookahead ofTokens ∧
    NotesStatus s.lookahead s.status own

theorem accounts_ofSource (source : String) (maxDepth : Option Int) :
    Accounts source [(ofSource source maxDepth).lookahead] (ofSource source maxDepth) :=
  ⟨⟨[], rfl, (pending_ofSource source maxDepth).symm⟩, rfl,
    _, [], (List.append_nil _).symm, notesToken_event? TokenStream.message_read, .ready⟩

section Taken

variable [Capacity]

/-- The tokens that are taken while an expression is read to its end. -/
def takenFrom (lists : List OpenList) (s : ExprStream) : List Token :=
  match _used : Step.ofToken s.maxDepth lists s.lookahead with
  | .shift lists => s.advance.lookahead :: takenFrom lists s.advance
  | .deliver _ => [s.advance.lookahead]
  | .finish | .refuse _ => []
termination_by s.remaining
decreasing_by exact remaining_advance_lt (Step.not_isTerminal_of_shift _used)

def takenByRead (s : ExprStream) : List Token :=
  match s.status with
  | .ready => takenFrom [] s
  | .failed _ | .done => []

def takenByReadAll (s : ExprStream) : List Token :=
  match _found : s.read.1 with
  | .ok (some _) => s.takenByRead ++ s.read.2.takenByReadAll
  | .ok none | .error _ => s.takenByRead
termination_by s.remaining
decreasing_by exact remaining_read_lt _found

def takenByCall (s : ExprStream) : Call → List Token
  | .read => s.takenByRead
  | .readAll => s.takenByReadAll

def takenByCalls : ExprStream → List Call → List Token
  | _, [] => []
  | s, c :: cs => s.takenByCall c ++ (s.call c).2.takenByCalls cs

private theorem takenFrom_eq (lists : List OpenList) (s : ExprStream) :
    takenFrom lists s =
      match Step.ofToken s.maxDepth lists s.lookahead with
      | .shift lists => s.advance.lookahead :: takenFrom lists s.advance
      | .deliver _ => [s.advance.lookahead]
      | .finish | .refuse _ => [] := by
  rw [takenFrom]
  split <;> rename_i used <;> rw [used]

end Taken

namespace Accounts

theorem log_eq_nil (accounts : Accounts source taken s) (ready : s.status = .ready)
    (going : s.lookahead.isTerminal = false) : s.log = [] := by
  obtain ⟨ofTokens, own, log, ofToken, ofStatus⟩ := accounts.log_eq
  rw [ready] at ofStatus
  cases ofStatus
  rw [log, ofToken.eq_nil going]
  rfl

theorem advance (accounts : Accounts source taken s) (ready : s.status = .ready)
    (going : s.lookahead.isTerminal = false) :
    Accounts source (taken ++ [s.advance.lookahead]) s.advance := by
  refine ⟨⟨taken, rfl, ?_⟩, ?_, ?_⟩
  · obtain ⟨earlier, rfl, whole⟩ := accounts.front
    rw [whole, pending_advance going, List.append_assoc]
    rfl
  · rw [List.length_append]
    exact congrArg (fun tokens : TokenStream => tokens.next.2) accounts.tokens_eq
  · have log : s.advance.log = s.log ++ s.tokens.next.1.event?.toList := rfl
    rw [accounts.log_eq_nil ready going, List.nil_append] at log
    refine ⟨_, [], log.trans (List.append_nil _).symm, notesToken_event? TokenStream.message_read, ?_⟩
    change NotesStatus _ s.status []
    rw [ready]
    exact .ready

theorem ends (accounts : Accounts source taken s) (ready : s.status = .ready)
    {status : ExprStream.Status} {own : List Event} (notes : NotesStatus s.lookahead status own) :
    Accounts source taken { s with status, log := s.log ++ own } := by
  refine ⟨accounts.front, accounts.tokens_eq, ?_⟩
  obtain ⟨ofTokens, none, log, ofToken, ofStatus⟩ := accounts.log_eq
  rw [ready] at ofStatus
  cases ofStatus
  rw [List.append_nil] at log
  exact ⟨ofTokens, own, congrArg (· ++ own) log, ofToken, notes⟩

theorem begins (accounts : Accounts source taken s) :
    taken <+: (tokenize source).result := by
  obtain ⟨earlier, rfl, whole⟩ := accounts.front
  obtain ⟨ts, pending⟩ := s.pending_eq_cons
  exact ⟨ts, by rw [whole, pending, List.append_assoc]; rfl⟩

variable [Capacity]

theorem fails (accounts : Accounts source taken s) (ready : s.status = .ready)
    {lists : List OpenList} {d : Defect}
    (used : Step.ofToken s.maxDepth lists s.lookahead = .refuse (.defect d)) :
    Accounts source taken
      { s with status := .failed d, log := s.log ++ [.readFailed d.diagnostic.message] } := by
  obtain ⟨lexical, message⟩ := Step.lexical_of_refuse used
  refine accounts.ends ready (.failed rfl rfl lexical ?_)
  intro error
  obtain ⟨_, _, _, ofToken, -⟩ := accounts.log_eq
  cases ofToken with
  | formed noError => contradiction
  | malformed _ said _ _ => rw [message error, said, Option.getD_some]

theorem readFrom {lists : List OpenList} (accounts : Accounts source taken s)
    (ready : s.status = .ready) :
    Accounts source (taken ++ takenFrom lists s) (readFrom lists s).2 := by
  fun_induction ExprStream.readFrom lists s generalizing taken with
  | case1 lists s lists' used ih =>
    have next := accounts.advance ready (Step.not_isTerminal_of_shift used)
    have others := ih next ready
    rw [List.append_assoc] at others
    rw [takenFrom_eq, used]
    exact others
  | case2 lists s e used =>
    rw [takenFrom_eq, used]
    exact accounts.advance ready (Step.not_isTerminal_of_deliver used)
  | case3 lists s used =>
    rw [takenFrom_eq, used, List.append_nil]
    exact accounts.ends ready (.done (Step.empty_of_finish used).1 rfl rfl)
  | case4 lists s d used =>
    rw [takenFrom_eq, used, List.append_nil]
    exact accounts.fails ready used
  | case5 lists s conversion used =>
    rw [takenFrom_eq, used, List.append_nil]
    exact accounts

theorem read (accounts : Accounts source taken s) :
    Accounts source (taken ++ s.takenByRead) s.read.2 := by
  unfold ExprStream.read takenByRead
  cases status : s.status with
  | ready => exact accounts.readFrom status
  | failed d => rwa [List.append_nil]
  | done => rwa [List.append_nil]

theorem readAll (accounts : Accounts source taken s) :
    Accounts source (taken ++ s.takenByReadAll) s.readAll.2 := by
  fun_induction takenByReadAll s generalizing taken with
  | case1 s e found ih =>
    have others := ih accounts.read
    rw [List.append_assoc] at others
    rw [readAll_eq, found]
    exact others
  | case2 s found =>
    rw [readAll_eq, found]
    exact accounts.read
  | case3 s error found =>
    rw [readAll_eq, found]
    exact accounts.read

theorem calls (accounts : Accounts source taken s) (cs : List Call) :
    Accounts source (taken ++ s.takenByCalls cs) (calls ExprStream.call s cs).2 := by
  induction cs generalizing s taken with
  | nil =>
    rw [takenByCalls, List.append_nil]
    exact accounts
  | cons c cs ih =>
    have first : Accounts source (taken ++ s.takenByCall c) (s.call c).2 := by
      cases c with
      | read => exact accounts.read
      | readAll => exact accounts.readAll
    rw [takenByCalls, ← List.append_assoc]
    exact ih first

theorem takenByCalls_eq_nil (accounts : Accounts source taken s)
    (terminal : s.lookahead.isTerminal = true) (cs : List Call) : s.takenByCalls cs = [] := by
  obtain ⟨rest, whole⟩ := (accounts.calls cs).begins
  obtain ⟨earlier, rfl, -⟩ := accounts.front
  cases more : s.takenByCalls cs with
  | nil => rfl
  | cons t ts =>
    have terminated : Terminated (tokenize source).result := TokenStream.terminated_tokenize _
    have split : (tokenize source).result = (earlier ++ [s.lookahead]) ++ t :: (ts ++ rest) := by
      rw [← whole, more, List.append_assoc, List.cons_append]
    have going := terminated.going split s.lookahead (by simp)
    rw [terminal] at going
    cases going

end Accounts

end ExprStream

/-- Whatever calls are made of a stream: the tokens that it has taken are the first ones of the
source, the last of them is the one ahead, and none is taken behind a terminal one. The log has what
is noted of the token ahead, and then what is noted of the status. Reading a whole source adds what
is noted of the result. -/
theorem calls_take_and_note [Capacity] (source : String) (maxDepth : Option Int) :
    (∀ cs,
      let start := ExprStream.ofSource source maxDepth
      let taken := start.lookahead :: start.takenByCalls cs
      let s := (calls ExprStream.call start cs).2
      (taken <+: (tokenize source).result ∧ taken.getLast? = some s.lookahead ∧
        s.tokens = (TokenStream.ofSource source).after taken.length ∧
        (s.lookahead.isTerminal = true → ∀ cs', s.takenByCalls cs' = [])) ∧
      ∃ ofTokens own, s.log = ofTokens ++ own ∧ NotesToken s.lookahead ofTokens ∧
        NotesStatus s.lookahead s.status own) ∧
    ∃ own, (parseAll source maxDepth).events =
        (calls ExprStream.call (.ofSource source maxDepth) [.readAll]).2.log ++ own ∧
      NotesResult (parseAll source maxDepth).result own := by
  constructor
  · intro cs start taken s
    have accounts : ExprStream.Accounts source taken s :=
      (ExprStream.accounts_ofSource source maxDepth).calls cs
    obtain ⟨earlier, parts, -⟩ := accounts.front
    refine ⟨⟨accounts.begins, ?_, accounts.tokens_eq, ?_⟩, accounts.log_eq⟩
    · rw [parts, List.getLast?_concat]
    · exact accounts.takenByCalls_eq_nil
  · exact exists_notesResult source maxDepth

end Sexp
