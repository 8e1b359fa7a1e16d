import Sexp.Position

set_option autoImplicit false
set_option relaxedAutoImplicit false

/-!
# Diagnostics

A diagnostic tells a person what is wrong with a source: a message with as many details as are
known.
-/

namespace Sexp

namespace Diagnostic

/-- What a diagnostic is about. -/
inductive Category where
  /-- Anything that has to do with expressions. -/
  | general
  /-- A token that cannot stand where it stands. -/
  | syntactic
  /-- A piece of the source that is no token. -/
  | lexical
  /-- Tokens that form no complete expression. -/
  | structural
deriving DecidableEq

namespace Category

def all : List Category := [general, syntactic, lexical, structural]

/-- One category is another or a special case of it. -/
def isA : Category → Category → Bool
  | _, general => true
  | lexical, syntactic => true
  | c, d => c = d

theorem isA_refl (c : Category) : isA c c = true := by
  cases c <;> rfl

theorem isA_trans {b c d : Category} (bc : isA b c = true) (cd : isA c d = true) :
    isA b d = true := by
  cases b <;> cases c <;> cases d <;> simp_all [isA]

end Category

end Diagnostic

/-- A report of something wrong; details that are not known are missing. -/
structure Diagnostic where
  category : Diagnostic.Category
  message : String
  text : Option String := none
  line : Option Int := none
  column : Option Int := none
  expected : Option String := none
  suggestion : Option String := none
  context : Option String := none
deriving DecidableEq

namespace Diagnostic

/-- The position of a diagnostic, if both its line and its column are known. -/
def position (d : Diagnostic) : Option Position :=
  match d.line, d.column with
  | some line, some column => some ⟨line, column⟩
  | _, _ => none

def located (d : Diagnostic) (p : Position) : Diagnostic :=
  { d with line := some p.line, column := some p.column }

/-- The line for a detail between `before` and `after`; a missing or empty detail has none. -/
def detail (before : String) (value : Option String) (after : String) : List String :=
  match value with
  | none => []
  | some value => if value = "" then [] else [before ++ value ++ after]

def positionLine (p : Option Position) : List String :=
  match p with
  | none => []
  | some p => ["Line: " ++ toString p.line ++ ", Column: " ++ toString p.column]

/-- The lines of a report: the message first, then the details that are known. -/
def lines (d : Diagnostic) : List String :=
  ["Error: " ++ d.message] ++ positionLine d.position ++ detail "Received: '" d.text "'" ++
    detail "Expected: " d.expected "" ++ detail "Context: " d.context "" ++
    detail "Suggestion: " d.suggestion ""

def report (d : Diagnostic) : String := "\n".intercalate d.lines

end Diagnostic

end Sexp
