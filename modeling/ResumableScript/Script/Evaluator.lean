import ResumableScript.Script.Form
import ResumableScript.Script.Builtin

/-! Evaluation of scripts. How expressions are counted, external calls answered and prints kept is
left to a discipline, which keeps a book of its own. The state outlives every exit, so that the book
of a failed run can be read. -/
namespace ResumableScript

structure ExternalCall where
  functionName : String
  args : List Json
  kwargs : Json.Members

def ExternalCall.ofValues (name : String) (args : List Value) (kwargs : List (String × Value)) :
    ExternalCall :=
  ⟨name, args.map Value.toJson, kwargs.map fun pair => (pair.1, pair.2.toJson)⟩

inductive LimitFault where
  | steps (allowed : UInt64)
  | depth (allowed : UInt64)
  | time (milliseconds : UInt64)
  deriving DecidableEq, Repr

def LimitFault.message : LimitFault → String
  | steps allowed => s!"step limit of {allowed} exceeded"
  | depth allowed => s!"nesting depth limit of {allowed} exceeded"
  | time milliseconds => s!"time limit of {milliseconds} ms exceeded"

inductive ReplayFault where
  | diverged (answered called : String)
  | exceeded (budget : Nat)
  | unreplayed (entries : Nat)
  deriving DecidableEq, Repr

def ReplayFault.message : ReplayFault → String
  | diverged answered called =>
    s!"replay diverged: journal answers '{answered}' but script called '{called}'"
  | exceeded budget => s!"replay exceeded {budget} steps"
  | unreplayed entries => s!"script finished with {entries} unreplayed journal entries"

/-- A failure that no handler of the script can catch. -/
inductive Fault where
  | malformed (fault : FormFault)
  | limit (fault : LimitFault)
  | replay (fault : ReplayFault)
  | stalled
  deriving DecidableEq, Repr

/-- The ways out of evaluation other than a value. -/
inductive Exit where
  | raised (exception : ScriptException)
  | suspended (call : ExternalCall)
  | failed (fault : Fault)

def Instruction.result : Instruction → Except Exit Value
  | returnValue value => .ok (Value.ofJson value)
  | exception e => .error (.raised e)

abbrev Bindings := List (String × Value)

def Bindings.set (name : String) (value : Value) : Bindings → Bindings
  | [] => [(name, value)]
  | (n, v) :: rest =>
    if n = name then (n, value) :: rest else (n, v) :: Bindings.set name value rest

/-- What a run comes to among the lists of its source. -/
inductive Waypoint where
  | reached (items : List Expr)
  | entered
  | left

/-- How expressions are counted, external calls answered and prints kept while a script runs. What
is left to count shrinks with every expression that is counted, and never grows. -/
structure Discipline (β : Type) where
  externals : List String
  maxDepth : UInt64
  count : β → β
  overrun? : β → Option Fault
  /-- Answers an external call, or suspends on it. -/
  answer : String → List Value → List (String × Value) → β → Except Exit Value × β
  emit : Emission → β → β
  pass : Waypoint → β → β := fun _ book => book
  /-- How many more expressions the budgets can admit. -/
  room : β → Nat
  room_count : ∀ book, overrun? (count book) = none → room (count book) < room book
  room_count_le : ∀ book, room (count book) ≤ room book
  room_answer : ∀ name args kwargs book, room (answer name args kwargs book).2 ≤ room book
  room_emit : ∀ emission book, room (emit emission book) ≤ room book
  room_pass : ∀ waypoint book, room (pass waypoint book) ≤ room book := by
    exact fun _ _ => Nat.le_refl _

def Discipline.tick {β : Type} (d : Discipline β) (book : β) : Except Exit Unit × β :=
  let book := d.count book
  match d.overrun? book with
  | none => (.ok (), book)
  | some fault => (.error (.failed fault), book)

structure Machine (β : Type) where
  book : β
  depth : Nat := 0
  bindings : Bindings := []

/-- A computation on the machine; the state is kept on every exit. -/
def Eval (β α : Type) := Machine β → Except Exit α × Machine β

namespace Eval

variable {β : Type}

@[always_inline, inline]
protected def pure {α : Type} (a : α) : Eval β α := fun m => (.ok a, m)

@[always_inline, inline]
protected def bind {α γ : Type} (x : Eval β α) (f : α → Eval β γ) : Eval β γ := fun m =>
  match x m with
  | (.ok a, m) => f a m
  | (.error exit, m) => (.error exit, m)

instance : Monad (Eval β) where
  pure := Eval.pure
  bind := Eval.bind

@[inline] def exit {α : Type} (exit : Exit) : Eval β α := fun m => (.error exit, m)

def fail {α : Type} (fault : Fault) : Eval β α := exit (.failed fault)

def malformed {α : Type} (fault : FormFault) : Eval β α := fail (.malformed fault)

def raise {α : Type} (kind message : String) : Eval β α := exit (.raised ⟨kind, message⟩)

@[inline] def modify (f : Machine β → Machine β) : Eval β Unit := fun m => (.ok (), f m)

/-- Handles exceptions; what the body did to the state stays. -/
@[inline] def handle {α : Type} (body : Eval β α) (handler : ScriptException → Eval β α) :
    Eval β α :=
  fun m =>
    match body m with
    | (.error (.raised e), m) => handler e m
    | other => other

@[inline] def onBook {α : Type} (step : β → Except Exit α × β) : Eval β α := fun m =>
  let (result, book) := step m.book
  (result, { m with book })

def tick (d : Discipline β) : Eval β Unit := onBook d.tick

/-- Evaluates a list one level deeper, and comes back to the level on every way out. -/
@[inline] def nested {α : Type} (d : Discipline β) (body : Eval β α) : Eval β α := fun m =>
  let inner := { m with depth := m.depth + 1 }
  let (result, m) :=
    if d.maxDepth.toNat < inner.depth then
      (.error (.failed (.limit (.depth d.maxDepth))), inner)
    else body inner
  (result, { m with depth := m.depth - 1 })

def pass (d : Discipline β) (waypoint : Waypoint) : Eval β Unit :=
  modify fun m => { m with book := d.pass waypoint m.book }

@[inline] def within {α : Type} (d : Discipline β) (body : Eval β α) : Eval β α := fun m =>
  let (result, m) := body { m with book := d.pass .entered m.book }
  (result, { m with book := d.pass .left m.book })

def undefined {α : Type} (name : String) : Eval β α :=
  raise "NameError" s!"name '{name}' is not defined"

def readVariable (name : String) : Eval β Value := fun m =>
  match m.bindings.lookup name with
  | some value => (.ok value, m)
  | none => undefined name m

def setVariable (name : String) (value : Value) : Eval β Unit :=
  modify fun m => { m with bindings := Bindings.set name value m.bindings }

def emit (d : Discipline β) (emission : Emission) : Eval β Unit :=
  modify fun m => { m with book := d.emit emission m.book }

def callExternal (d : Discipline β) (name : String) (args : List Value)
    (kwargs : List (String × Value)) : Eval β Value :=
  onBook (d.answer name args kwargs)

def callBuiltin (d : Discipline β) (builtin : Builtin) (args : List Value)
    (kwargs : List (String × Value)) : Eval β Value :=
  match builtin.apply args kwargs with
  | .ok (.value value) => pure value
  | .ok (.emit emission) => do
    emit d emission
    return .nil
  | .error e => exit (.raised e)

/-- External functions come before builtins of the same name. -/
def call (d : Discipline β) (name : String) (args : List Value) (kwargs : List (String × Value)) :
    Eval β Value :=
  if d.externals.contains name then callExternal d name args kwargs
  else match Builtin.ofName? name with
    | some builtin => callBuiltin d builtin args kwargs
    | none => undefined name

def repeatWhile (condition : Eval β Value) (body : Eval β Value) : Nat → Eval β Value
  | 0 => fail .stalled
  | rounds + 1 => do
    let test ← condition
    if test.isTruthy then
      let _ ← body
      repeatWhile condition body rounds
    else return .nil

/-- Repeats a body while a condition holds. Each round evaluates the condition, which counts, so a
book that can admit `n` more expressions never gets through `n + 1` rounds. -/
def loop (d : Discipline β) (condition body : Eval β Value) : Eval β Value := fun m =>
  repeatWhile condition body (d.room m.book + 1) m

def forEach (name : String) (body : Eval β Value) : List Value → Eval β Value
  | [] => pure .nil
  | item :: rest => do
    setVariable name item
    let _ ← body
    forEach name body rest

def iterate (value : Value) : Eval β (List Value) :=
  match value with
  | .list items => pure items
  | .dict entries => pure (entries.map fun entry => .str entry.1)
  | .str text => pure (text.toList.map fun c => .str (String.singleton c))
  | other => raise "TypeError" s!"'{other.typeName}' object is not iterable"

def exceptionValue (e : ScriptException) : Value :=
  .dict [("kind", .str e.kind), ("message", .str e.message)]

def bindCaught (binding : Option String) (e : ScriptException) : Eval β Unit :=
  match binding with
  | some name => setVariable name (exceptionValue e)
  | none => pure ()

/-- Raises what a value says; a caught exception that is raised again keeps its kind, unless
another one is given. -/
def raiseValue (kind : Option String) (value : Value) : Eval β Value :=
  match kind, value with
  | some kind, value => raise kind value.display
  | none, .dict entries =>
    match entries.lookup "kind", entries.lookup "message" with
    | some (.str kind), some (.str message) => raise kind message
    | _, _ => raise "RuntimeError" (Value.dict entries).display
  | none, value => raise "RuntimeError" value.display

end Eval

open Eval

variable {β : Type}

mutual

def Expr.eval (d : Discipline β) : Expr → Eval β Value
  | .nil => do tick d; return .nil
  | .boolean flag => do tick d; return .bool flag
  | .integer value => do tick d; return .int value
  | .float value => do tick d; return .float value
  | .string text => do tick d; return .str text
  | .keyword name => do tick d; return .str name
  | .symbol name => do tick d; readVariable name
  | .list items => do
    tick d
    pass d (.reached items)
    nested d (within d (evalList d items))

def evalList (d : Discipline β) : List Expr → Eval β Value
  | [] => pure .nil
  | .symbol name :: rest =>
    match SpecialForm.ofName? name with
    | some .sequence => evalBody d 0 .nil rest
    | some .assign =>
      if rest.isEmpty || rest.length % 2 != 0 then malformed .unpairedBindings
      else evalPairs d .nil rest
    | some .branch => evalBranch d rest
    | some .loop => evalLoop d rest
    | some .iterate => evalIterate d rest
    | some .conjunction => evalAll d (.bool true) rest
    | some .disjunction => evalAny d (.bool false) rest
    | some .attempt =>
      if (rest.dropWhile fun form => !form.isClause).all Expr.isClause then
        handle (evalGuarded d .nil rest) fun e => evalHandlers d e rest
      else malformed .formBehindClause
    | some .raise => evalRaise d rest
    | none => do
      let (args, kwargs) ← evalArgs d [] rest
      call d name args kwargs
  | _ :: _ => raise "TypeError" "list head is not callable"

/-- The forms behind the first `skipped` ones in turn; the value is the last one's. -/
def evalBody (d : Discipline β) (skipped : Nat) (last : Value) : List Expr → Eval β Value
  | [] => pure last
  | form :: rest =>
    match skipped with
    | 0 => do
      let value ← form.eval d
      evalBody d 0 value rest
    | n + 1 => evalBody d n last rest

def evalPairs (d : Discipline β) (last : Value) : List Expr → Eval β Value
  | .symbol name :: form :: rest => do
    let value ← form.eval d
    setVariable name value
    evalPairs d value rest
  | _ :: _ :: _ => malformed .unnamedBinding
  | _ => pure last

def evalBranch (d : Discipline β) : List Expr → Eval β Value
  | [condition, positive] => do
    if (← condition.eval d).isTruthy then positive.eval d else return .nil
  | [condition, positive, negative] => do
    if (← condition.eval d).isTruthy then positive.eval d else negative.eval d
  | _ => malformed .branchCount

def evalLoop (d : Discipline β) : List Expr → Eval β Value
  | condition :: body => loop d (condition.eval d) (evalBody d 0 .nil body)
  | [] => malformed .missingCondition

def evalIterate (d : Discipline β) : List Expr → Eval β Value
  | .symbol name :: iterable :: body => do
    let items ← Eval.iterate (← iterable.eval d)
    forEach name (evalBody d 0 .nil body) items
  | _ :: _ :: _ => malformed .unnamedLoopVariable
  | _ => malformed .missingIterable

def evalAll (d : Discipline β) (last : Value) : List Expr → Eval β Value
  | [] => pure last
  | form :: rest => do
    let value ← form.eval d
    if value.isTruthy then evalAll d value rest else return value

def evalAny (d : Discipline β) (last : Value) : List Expr → Eval β Value
  | [] => pure last
  | form :: rest => do
    let value ← form.eval d
    if value.isTruthy then return value else evalAny d value rest

def evalGuarded (d : Discipline β) (last : Value) : List Expr → Eval β Value
  | [] => pure last
  | form :: rest =>
    if form.isClause then pure last
    else do
      let value ← form.eval d
      evalGuarded d value rest

/-- The first handler that takes the exception; without one it is raised on. A handler is a list of
the source, though it is not evaluated as one. -/
def evalHandlers (d : Discipline β) (e : ScriptException) : List Expr → Eval β Value
  | [] => exit (.raised e)
  | .list (head :: forms) :: rest =>
    let clause := Clause.ofForms forms
    if (Expr.list (head :: forms)).isClause && clause.accepts e.kind then do
      bindCaught clause.binding e
      within d (evalBody d clause.width .nil forms)
    else evalHandlers d e rest
  | _ :: rest => evalHandlers d e rest

def evalRaise (d : Discipline β) : List Expr → Eval β Value
  | [] => raise "RuntimeError" ""
  | [.keyword kind] => raise kind ""
  | [message] => do raiseValue none (← message.eval d)
  | [.keyword kind, message] => do raiseValue (some kind) (← message.eval d)
  | _ => malformed .raiseCount

/-- Arguments left to right: those by position, and those behind a keyword, of which `given` have
been seen. -/
def evalArgs (d : Discipline β) (given : List String) :
    List Expr → Eval β (List Value × List (String × Value))
  | [] => pure ([], [])
  | [.keyword key] => raise "TypeError" s!"keyword argument ':{key}' is missing a value"
  | .keyword key :: form :: rest => do
    let value ← form.eval d
    if given.contains key then
      raise "TypeError" s!"keyword argument ':{key}' given more than once"
    else
      let (args, kwargs) ← evalArgs d (key :: given) rest
      return (args, (key, value) :: kwargs)
  | form :: rest => do
    let value ← form.eval d
    let (args, kwargs) ← evalArgs d given rest
    return (value :: args, kwargs)

end

end ResumableScript
