import ResumableScript.Script.Expr
import ResumableScript.Script.Exchange

/-! Special forms: the lists whose first symbol decides how the rest is evaluated. -/
namespace ResumableScript

inductive SpecialForm where
  | sequence | assign | branch | loop | iterate | conjunction | disjunction | attempt | raise
  deriving DecidableEq, Repr

namespace SpecialForm

def name : SpecialForm → String
  | sequence => "do"
  | assign => "let"
  | branch => "if"
  | loop => "while"
  | iterate => "for"
  | conjunction => "and"
  | disjunction => "or"
  | attempt => "try"
  | raise => "raise"

def all : List SpecialForm :=
  [sequence, assign, branch, loop, iterate, conjunction, disjunction, attempt, raise]

def ofName? (text : String) : Option SpecialForm := all.find? (·.name == text)

end SpecialForm

inductive FormFault where
  | unpairedBindings | unnamedBinding | branchCount | missingCondition | missingIterable
  | unnamedLoopVariable | formBehindClause | raiseCount
  deriving DecidableEq, Repr

namespace FormFault

def form : FormFault → SpecialForm
  | unpairedBindings | unnamedBinding => .assign
  | branchCount => .branch
  | missingCondition => .loop
  | missingIterable | unnamedLoopVariable => .iterate
  | formBehindClause => .attempt
  | raiseCount => .raise

def detail : FormFault → String
  | unpairedBindings => "expected name/value pairs"
  | unnamedBinding => "binding name must be a symbol"
  | branchCount => "expected a condition and one or two branches"
  | missingCondition => "missing condition"
  | missingIterable => "expected a name and an iterable"
  | unnamedLoopVariable => "loop variable must be a symbol"
  | formBehindClause => "body forms may not follow except clauses"
  | raiseCount => "expected an optional :Kind and a message"

def message (fault : FormFault) : String :=
  s!"malformed `{fault.form.name}`: {fault.detail}"

end FormFault

def Expr.isClause : Expr → Bool
  | .list (.symbol head :: _) => head == "except"
  | _ => false

/-- The head of a handler: the kind that it takes, the variable that it binds, and how many forms
these take up before its body. -/
structure Clause where
  kind : Option String
  binding : Option String
  width : Nat
  deriving DecidableEq, Repr

namespace Clause

def ofForms : List Expr → Clause
  | .keyword kind :: .symbol binding :: _ => ⟨some kind, some binding, 2⟩
  | .keyword kind :: _ => ⟨some kind, none, 1⟩
  | .symbol binding :: _ => ⟨none, some binding, 1⟩
  | _ => ⟨none, none, 0⟩

/-- Tool failures are runtime errors under another name. -/
def canonical (kind : String) : String := if kind = "ToolError" then "RuntimeError" else kind

def accepts (clause : Clause) (raised : String) : Bool :=
  match clause.kind with
  | none => true
  | some kind => kind == "Exception" || canonical kind == canonical raised

end Clause

end ResumableScript
