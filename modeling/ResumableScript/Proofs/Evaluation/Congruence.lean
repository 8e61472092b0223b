import Mathlib.Data.List.Forall2
import ResumableScript.Script.Evaluator

/-! Evaluation is parametric in its discipline, and sees no more of the parts of a form than what they
do. A relation between computations that the primitives respect, and that every way of putting
computations together keeps, relates whole evaluations: of one script under two disciplines, and of
two scripts whose forms are alike. Each statement about all scripts is an instance of this one
induction. -/
namespace ResumableScript
open Eval

def evalAttempt {β : Type} (d : Discipline β) (forms : List Expr) : Eval β Value :=
  if (forms.dropWhile fun form => !form.isClause).all Expr.isClause then
    handle (evalGuarded d .nil forms) fun e => evalHandlers d e forms
  else malformed .formBehindClause

theorem evalList_try {β : Type} (d : Discipline β) (forms : List Expr) :
    evalList d (.symbol "try" :: forms) = evalAttempt d forms := rfl

variable {β₁ β₂ : Type}

/-- A relation between the computations of two disciplines that is kept by all that looks neither at
variables nor at how deep lists nest. -/
structure Agreement (d₁ : Discipline β₁) (d₂ : Discipline β₂) where
  Rel : {α : Type} → Eval β₁ α → Eval β₂ α → Prop
  pure : ∀ {α : Type} (a : α), Rel (Pure.pure a) (Pure.pure a)
  bind : ∀ {α γ : Type} {x₁ : Eval β₁ α} {x₂ : Eval β₂ α} {f₁ : α → Eval β₁ γ}
    {f₂ : α → Eval β₂ γ}, Rel x₁ x₂ → (∀ a, Rel (f₁ a) (f₂ a)) → Rel (x₁ >>= f₁) (x₂ >>= f₂)
  raised : ∀ {α : Type} (e : ScriptException),
    Rel (exit (.raised e) : Eval β₁ α) (exit (.raised e) : Eval β₂ α)
  malformed : ∀ {α : Type} (fault : FormFault),
    Rel (Eval.malformed fault : Eval β₁ α) (Eval.malformed fault : Eval β₂ α)
  handle : ∀ {α : Type} {x₁ : Eval β₁ α} {x₂ : Eval β₂ α} {h₁ : ScriptException → Eval β₁ α}
    {h₂ : ScriptException → Eval β₂ α},
    Rel x₁ x₂ → (∀ e, Rel (h₁ e) (h₂ e)) → Rel (handle x₁ h₁) (handle x₂ h₂)
  tick : Rel (tick d₁) (tick d₂)
  emit : ∀ emission, Rel (emit d₁ emission) (emit d₂ emission)
  externals : ∀ name, d₁.externals.contains name = d₂.externals.contains name
  callExternal : ∀ name args kwargs, SpecialForm.ofName? name = none →
    d₁.externals.contains name →
    Rel (callExternal d₁ name args kwargs) (callExternal d₂ name args kwargs)

namespace Agreement

variable {d₁ : Discipline β₁} {d₂ : Discipline β₂} (A : Agreement d₁ d₂)

theorem raise {α : Type} (kind message : String) :
    A.Rel (Eval.raise kind message : Eval β₁ α) (Eval.raise kind message : Eval β₂ α) :=
  A.raised ⟨kind, message⟩

theorem callBuiltin (builtin : Builtin) (args : List Value) (kwargs : List (String × Value)) :
    A.Rel (Eval.callBuiltin d₁ builtin args kwargs) (Eval.callBuiltin d₂ builtin args kwargs) := by
  unfold Eval.callBuiltin
  cases builtin.apply args kwargs with
  | error e => exact A.raised e
  | ok outcome =>
    cases outcome with
    | value value => exact A.pure value
    | emit emission => exact A.bind (A.emit emission) fun _ => A.pure _

theorem call {name : String} (plain : SpecialForm.ofName? name = none) (args : List Value)
    (kwargs : List (String × Value)) :
    A.Rel (Eval.call d₁ name args kwargs) (Eval.call d₂ name args kwargs) := by
  unfold Eval.call
  rw [← A.externals name]
  split
  · rename_i member
    exact A.callExternal name args kwargs plain member
  · cases Builtin.ofName? name with
    | some builtin => exact A.callBuiltin builtin args kwargs
    | none => exact A.raise _ _

theorem iterate (value : Value) : A.Rel (Eval.iterate value) (Eval.iterate value) := by
  cases value with
  | list items => exact A.pure _
  | dict entries => exact A.pure _
  | str text => exact A.pure _
  | _ => exact A.raise _ _

theorem raiseValue (kind : Option String) (value : Value) :
    A.Rel (Eval.raiseValue kind value) (Eval.raiseValue kind value) := by
  unfold Eval.raiseValue
  split
  · exact A.raise _ _
  · split <;> exact A.raise _ _
  · exact A.raise _ _

theorem bindCaught {binding : Option String} (e : ScriptException)
    (set : ∀ name ∈ binding, ∀ value, A.Rel (setVariable name value) (setVariable name value)) :
    A.Rel (Eval.bindCaught binding e) (Eval.bindCaught binding e) := by
  cases binding with
  | none => exact A.pure ()
  | some name => exact set name rfl _

theorem forEach {name : String}
    (set : ∀ value, A.Rel (setVariable name value) (setVariable name value)) {body₁ : Eval β₁ Value}
    {body₂ : Eval β₂ Value} (body : A.Rel body₁ body₂) (items : List Value) :
    A.Rel (Eval.forEach name body₁ items) (Eval.forEach name body₂ items) := by
  induction items with
  | nil => exact A.pure _
  | cons item rest ih => exact A.bind (set item) fun _ => A.bind body fun _ => ih

end Agreement

/-- A relation that is kept by every way of putting the parts of one list together. -/
structure Composition (d₁ : Discipline β₁) (d₂ : Discipline β₂) extends Agreement d₁ d₂ where
  setVariable : ∀ name value, Rel (setVariable name value) (setVariable name value)
  loop : ∀ {condition₁ condition₂ : Expr} {body₁ body₂ : List Expr},
    Rel (condition₁.eval d₁) (condition₂.eval d₂) →
    Rel (evalBody d₁ 0 .nil body₁) (evalBody d₂ 0 .nil body₂) →
    Rel (loop d₁ (condition₁.eval d₁) (evalBody d₁ 0 .nil body₁))
      (loop d₂ (condition₂.eval d₂) (evalBody d₂ 0 .nil body₂))

namespace Composition

variable {d₁ : Discipline β₁} {d₂ : Discipline β₂} (C : Composition d₁ d₂)

/-- Expressions that the relation does not tell apart in a `try`: among the forms that it evaluates,
and as its handlers. -/
structure TryAlike (e₁ e₂ : Expr) : Prop where
  clause : e₁.isClause = e₂.isClause
  run : e₁.isClause = false → C.Rel (e₁.eval d₁) (e₂.eval d₂)
  handler : ∀ e rest₁ rest₂, C.Rel (evalHandlers d₁ e rest₁) (evalHandlers d₂ e rest₂) →
    C.Rel (evalHandlers d₁ e (e₁ :: rest₁)) (evalHandlers d₂ e (e₂ :: rest₂))

/-- Expressions that the relation does not tell apart wherever they stand. -/
inductive Alike : Expr → Expr → Prop where
  | atom (e : Expr) (flat : e.list? = none) (run : C.Rel (e.eval d₁) (e.eval d₂)) : Alike e e
  | list {items₁ items₂ : List Expr}
      (run : C.Rel ((Expr.list items₁).eval d₁) ((Expr.list items₂).eval d₂))
      (inTry : C.TryAlike (.list items₁) (.list items₂)) : Alike (.list items₁) (.list items₂)

variable {C}

theorem Alike.eval {e₁ e₂ : Expr} (alike : C.Alike e₁ e₂) : C.Rel (e₁.eval d₁) (e₂.eval d₂) := by
  cases alike with
  | atom _ flat run => exact run
  | list run inTry => exact run

theorem Alike.inTry {e₁ e₂ : Expr} (alike : C.Alike e₁ e₂) : C.TryAlike e₁ e₂ := by
  cases alike with
  | list run inTry => exact inTry
  | atom _ flat run =>
    refine ⟨rfl, fun _ => run, fun e rest₁ rest₂ rest => ?_⟩
    cases e₁ with
    | list items => cases flat
    | _ => exact rest

abbrev AllAlike (C : Composition d₁ d₂) : List Expr → List Expr → Prop := List.Forall₂ C.Alike

variable {forms₁ forms₂ : List Expr}

theorem body (alike : C.AllAlike forms₁ forms₂) (skipped : Nat) (last : Value) :
    C.Rel (evalBody d₁ skipped last forms₁) (evalBody d₂ skipped last forms₂) := by
  induction alike generalizing skipped last with
  | nil =>
    unfold evalBody
    exact C.pure last
  | cons first rest ih =>
    unfold evalBody
    cases skipped with
    | zero => exact C.bind first.eval fun value => ih 0 value
    | succ n => exact ih n last

theorem pairs (last : Value) {forms₁ forms₂ : List Expr} (alike : C.AllAlike forms₁ forms₂) :
    C.Rel (evalPairs d₁ last forms₁) (evalPairs d₂ last forms₂) := by
  cases alike with
  | nil => exact C.pure last
  | @cons e _ _ _ first others =>
    cases others with
    | nil =>
      cases first with
      | atom _ _ => cases e <;> exact C.pure last
      | list _ _ => exact C.pure last
    | cons form rest =>
      cases first with
      | list _ _ => exact C.malformed _
      | atom _ _ =>
        cases e with
        | symbol name =>
          exact C.bind form.eval fun value => C.bind (C.setVariable _ value) fun _ => pairs value rest
        | _ => exact C.malformed _
termination_by forms₁.length

theorem branch (alike : C.AllAlike forms₁ forms₂) :
    C.Rel (evalBranch d₁ forms₁) (evalBranch d₂ forms₂) := by
  match alike with
  | .cons condition (.cons positive .nil) =>
    refine C.bind condition.eval fun value => ?_
    split
    · exact positive.eval
    · exact C.pure _
  | .cons condition (.cons positive (.cons negative .nil)) =>
    refine C.bind condition.eval fun value => ?_
    split
    · exact positive.eval
    · exact negative.eval
  | .nil | .cons _ .nil | .cons _ (.cons _ (.cons _ (.cons _ _))) => exact C.malformed _

theorem repetition (alike : C.AllAlike forms₁ forms₂) :
    C.Rel (evalLoop d₁ forms₁) (evalLoop d₂ forms₂) := by
  cases alike with
  | nil => exact C.malformed _
  | cons condition forms => exact C.loop condition.eval (body forms 0 .nil)

theorem iteration (alike : C.AllAlike forms₁ forms₂) :
    C.Rel (evalIterate d₁ forms₁) (evalIterate d₂ forms₂) := by
  cases alike with
  | nil => exact C.malformed _
  | @cons e _ _ _ first others =>
    cases others with
    | nil =>
      cases first with
      | atom _ _ => cases e <;> exact C.malformed _
      | list _ _ => exact C.malformed _
    | cons iterable forms =>
      cases first with
      | list _ _ => exact C.malformed _
      | atom _ _ =>
        cases e with
        | symbol name =>
          exact C.bind iterable.eval fun value => C.bind (C.iterate value) fun items =>
            C.forEach (C.setVariable name) (body forms 0 .nil) items
        | _ => exact C.malformed _

theorem all (alike : C.AllAlike forms₁ forms₂) (last : Value) :
    C.Rel (evalAll d₁ last forms₁) (evalAll d₂ last forms₂) := by
  induction alike generalizing last with
  | nil => exact C.pure last
  | cons first rest ih =>
    refine C.bind first.eval fun value => ?_
    split
    · exact ih value
    · exact C.pure value

theorem any (alike : C.AllAlike forms₁ forms₂) (last : Value) :
    C.Rel (evalAny d₁ last forms₁) (evalAny d₂ last forms₂) := by
  induction alike generalizing last with
  | nil => exact C.pure last
  | cons first rest ih =>
    refine C.bind first.eval fun value => ?_
    split
    · exact C.pure value
    · exact ih value

theorem raising (alike : C.AllAlike forms₁ forms₂) :
    C.Rel (evalRaise d₁ forms₁) (evalRaise d₂ forms₂) := by
  match alike with
  | .nil => exact C.raise _ _
  | .cons (.atom e flat run) .nil =>
    cases e with
    | keyword kind => exact C.raise _ _
    | _ => exact C.bind run fun value => C.raiseValue none value
  | .cons (.list run inTry) .nil => exact C.bind run fun value => C.raiseValue none value
  | .cons (.atom e _ _) (.cons form .nil) =>
    cases e with
    | keyword kind => exact C.bind form.eval fun value => C.raiseValue _ value
    | _ => exact C.malformed _
  | .cons (.list _ _) (.cons _ .nil) => exact C.malformed _
  | .cons (.atom e _ _) (.cons _ (.cons _ _)) => cases e <;> exact C.malformed _
  | .cons (.list _ _) (.cons _ (.cons _ _)) => exact C.malformed _

theorem arguments (given : List String) : ∀ {forms₁ forms₂ : List Expr},
    C.AllAlike forms₁ forms₂ → C.Rel (evalArgs d₁ given forms₁) (evalArgs d₂ given forms₂)
  | _, _, .nil => C.pure _
  | _, _, .cons (.atom e flat run) .nil => by
    cases e with
    | keyword key => exact C.raise _ _
    | _ => exact C.bind run fun value => C.bind (C.pure _) fun _ => C.pure _
  | _, _, .cons (.list run inTry) .nil =>
    C.bind run fun value => C.bind (C.pure _) fun _ => C.pure _
  | _, _, .cons (.atom e flat run) (.cons form rest) => by
    cases e with
    | keyword key =>
      refine C.bind form.eval fun value => ?_
      split
      · exact C.raise _ _
      · exact C.bind (arguments _ rest) fun _ => C.pure _
    | _ => exact C.bind run fun value => C.bind (arguments given (.cons form rest)) fun _ => C.pure _
  | _, _, .cons (.list run inTry) (.cons form rest) =>
    C.bind run fun value => C.bind (arguments given (.cons form rest)) fun _ => C.pure _

section Attempt

variable (alike : List.Forall₂ C.TryAlike forms₁ forms₂)
include alike

theorem guarded (last : Value) :
    C.Rel (evalGuarded d₁ last forms₁) (evalGuarded d₂ last forms₂) := by
  induction alike generalizing last with
  | nil => exact C.pure last
  | @cons form _ _ _ first rest ih =>
    unfold evalGuarded
    rw [← first.clause]
    cases plain : form.isClause with
    | true => exact C.pure last
    | false => exact C.bind (first.run plain) fun value => ih value

theorem handlers (e : ScriptException) :
    C.Rel (evalHandlers d₁ e forms₁) (evalHandlers d₂ e forms₂) := by
  induction alike with
  | nil => exact C.raised e
  | cons first rest ih => exact first.handler e _ _ ih

theorem clauses : forms₁.map Expr.isClause = forms₂.map Expr.isClause := by
  induction alike with
  | nil => rfl
  | cons first rest ih => rw [List.map_cons, List.map_cons, first.clause, ih]

theorem attempt : C.Rel (evalAttempt d₁ forms₁) (evalAttempt d₂ forms₂) := by
  have ends (forms : List Expr) : (forms.dropWhile fun form => !form.isClause).all Expr.isClause =
      ((forms.map Expr.isClause).dropWhile (!·)).all id := by
    rw [List.dropWhile_map, List.all_map]
    rfl
  unfold evalAttempt
  rw [ends, ends, clauses alike]
  split
  · exact C.handle (guarded alike .nil) fun e => handlers alike e
  · exact C.malformed _

end Attempt

theorem list (alike : C.AllAlike forms₁ forms₂) :
    C.Rel (evalList d₁ forms₁) (evalList d₂ forms₂) := by
  cases alike with
  | nil => exact C.pure _
  | @cons form _ rest₁ rest₂ head rest =>
    cases head with
    | list run inTry => exact C.raise _ _
    | atom _ flat run =>
      cases form with
      | symbol name =>
        have empty : rest₁.isEmpty = rest₂.isEmpty := by cases rest <;> rfl
        unfold evalList
        dsimp only
        cases plain : SpecialForm.ofName? name with
        | none => exact C.bind (arguments [] rest) fun _ => C.call plain _ _
        | some form =>
          cases form with
          | sequence => exact body rest 0 .nil
          | assign =>
            dsimp only
            rw [empty, rest.length_eq]
            split
            · exact C.malformed _
            · exact pairs .nil rest
          | branch => exact branch rest
          | loop => exact repetition rest
          | iterate => exact iteration rest
          | conjunction => exact all rest _
          | disjunction => exact any rest _
          | attempt => exact attempt (rest.imp fun _ _ => Alike.inTry)
          | raise => exact raising rest
      | _ => exact C.raise _ _

theorem isClause (alike : C.AllAlike forms₁ forms₂) :
    (Expr.list forms₁).isClause = (Expr.list forms₂).isClause := by
  cases alike with
  | nil => rfl
  | @cons e _ _ _ head _ =>
    cases head with
    | atom _ _ => cases e <;> rfl
    | list _ _ => rfl

theorem clauseHead (alike : C.AllAlike forms₁ forms₂) :
    Clause.ofForms forms₁ = Clause.ofForms forms₂ := by
  cases alike with
  | nil => rfl
  | @cons e _ _ _ first others =>
    cases first with
    | list _ _ => rfl
    | atom _ _ =>
      cases others with
      | nil => cases e <;> rfl
      | @cons f _ _ _ second _ =>
        cases second with
        | list _ _ => cases e <;> rfl
        | atom _ _ => cases e <;> cases f <;> rfl

theorem handler {head₁ head₂ : Expr}
    (clause : (Expr.list (head₁ :: forms₁)).isClause = (Expr.list (head₂ :: forms₂)).isClause)
    (binds : Clause.ofForms forms₁ = Clause.ofForms forms₂)
    (bodies : C.Rel (within d₁ (evalBody d₁ (Clause.ofForms forms₁).width .nil forms₁))
      (within d₂ (evalBody d₂ (Clause.ofForms forms₁).width .nil forms₂)))
    (e : ScriptException) {rest₁ rest₂ : List Expr}
    (rest : C.Rel (evalHandlers d₁ e rest₁) (evalHandlers d₂ e rest₂)) :
    C.Rel (evalHandlers d₁ e (.list (head₁ :: forms₁) :: rest₁))
      (evalHandlers d₂ e (.list (head₂ :: forms₂) :: rest₂)) := by
  simp only [evalHandlers]
  rw [← clause, ← binds]
  split
  · exact C.bind (C.bindCaught e fun name _ => C.setVariable name) fun _ => bodies
  · exact rest

end Composition

/-- A relation that is kept around lists, too. -/
structure Enclosure (d₁ : Discipline β₁) (d₂ : Discipline β₂) extends Composition d₁ d₂ where
  pass : ∀ waypoint, Rel (pass d₁ waypoint) (pass d₂ waypoint)
  nested : ∀ {α : Type} {x₁ : Eval β₁ α} {x₂ : Eval β₂ α},
    Rel x₁ x₂ → Rel (nested d₁ x₁) (nested d₂ x₂)
  within : ∀ {α : Type} {x₁ : Eval β₁ α} {x₂ : Eval β₂ α},
    Rel x₁ x₂ → Rel (within d₁ x₁) (within d₂ x₂)

namespace Enclosure

variable {d₁ : Discipline β₁} {d₂ : Discipline β₂} {C : Enclosure d₁ d₂}
  {forms₁ forms₂ : List Expr}

/-- Lists that do alike do so as expressions, if the disciplines reach them alike. -/
theorem run (reached : C.Rel (Eval.pass d₁ (.reached forms₁)) (Eval.pass d₂ (.reached forms₂)))
    (inner : C.Rel (evalList d₁ forms₁) (evalList d₂ forms₂)) :
    C.Rel ((Expr.list forms₁).eval d₁) ((Expr.list forms₂).eval d₂) :=
  C.bind C.tick fun _ => C.bind reached fun _ => C.nested (C.within inner)

theorem list (reached : C.Rel (Eval.pass d₁ (.reached forms₁)) (Eval.pass d₂ (.reached forms₂)))
    (alike : C.AllAlike forms₁ forms₂) : C.Alike (.list forms₁) (.list forms₂) :=
  have items := C.run reached (Composition.list alike)
  .list items {
    clause := Composition.isClause alike
    run := fun _ => items
    handler := fun e _ _ rest => by
      cases alike with
      | nil => exact rest
      | cons head forms =>
        exact Composition.handler (Composition.isClause (.cons head forms))
          (Composition.clauseHead forms) (C.within (Composition.body forms _ .nil)) e rest }

end Enclosure

mutual

def Expr.symbols : Expr → List String
  | .symbol name => [name]
  | .list items => symbolsOf items
  | _ => []

def symbolsOf : List Expr → List String
  | [] => []
  | form :: rest => form.symbols ++ symbolsOf rest

end

namespace Enclosure

variable {d₁ : Discipline β₁} {d₂ : Discipline β₂} {C : Enclosure d₁ d₂}

mutual

theorem alike_self : ∀ e : Expr,
    (∀ name ∈ e.symbols, C.Rel (readVariable name) (readVariable name)) → C.Alike e e
  | .symbol name, reads =>
    .atom _ rfl (C.bind C.tick fun _ => reads name List.mem_cons_self)
  | .list items, reads => C.list (C.pass _) (allAlike_self items reads)
  | .nil, _ | .boolean _, _ | .integer _, _ | .float _, _ | .string _, _ | .keyword _, _ =>
    .atom _ rfl (C.bind C.tick fun _ => C.pure _)

theorem allAlike_self : ∀ forms : List Expr,
    (∀ name ∈ symbolsOf forms, C.Rel (readVariable name) (readVariable name)) →
    C.AllAlike forms forms
  | [], _ => .nil
  | form :: rest, reads =>
    .cons (alike_self form fun name inside => reads name (List.mem_append_left _ inside))
      (allAlike_self rest fun name inside => reads name (List.mem_append_right _ inside))

end

end Enclosure

/-- A relation between the computations of two disciplines that evaluation cannot leave. -/
structure Congruence (d₁ : Discipline β₁) (d₂ : Discipline β₂) extends Enclosure d₁ d₂ where
  readVariable : ∀ name, Rel (readVariable name) (readVariable name)

namespace Congruence

variable {d₁ : Discipline β₁} {d₂ : Discipline β₂} (C : Congruence d₁ d₂)

theorem allAlike (forms : List Expr) : C.AllAlike forms forms :=
  Enclosure.allAlike_self forms fun name _ => C.readVariable name

/-- Evaluations under two disciplines are related by every congruence between them. -/
theorem list (items : List Expr) : C.Rel (evalList d₁ items) (evalList d₂ items) :=
  Composition.list (C.allAlike items)

theorem body (skipped : Nat) (last : Value) (forms : List Expr) :
    C.Rel (evalBody d₁ skipped last forms) (evalBody d₂ skipped last forms) :=
  Composition.body (C.allAlike forms) skipped last

end Congruence

end ResumableScript
