import Mathlib.Tactic.Basic
import ResumableScript.Proofs.Evaluation.Apart

/-! Catching exceptions only to raise them again does not show. A body is put into a `try` whose one
handler raises what it has caught, at any place of a script where a sequence of forms is evaluated;
the script goes on as before, but for the variable that the handler binds. -/
namespace ResumableScript
open Eval

def rethrow (name : String) : Expr :=
  .list [.symbol "except", .symbol name, .list [.symbol "raise", .symbol name]]

def rethrown (name : String) (body : List Expr) : Expr :=
  .list (.symbol "try" :: (body ++ [rethrow name]))

/-- The head of a handler that takes exceptions of a kind, or all, and may bind them. -/
def clauseHead (kind binding : Option String) : List Expr :=
  (kind.map Expr.keyword).toList ++ (binding.map Expr.symbol).toList

/-- A place in a form where a sequence of forms is evaluated: all of a `do`, what follows the
condition of a `while` or the iterable of a `for`, the front of a `try`, and what follows the head of
a handler. -/
inductive FormPlace where
  | sequence
  | loop (condition : Expr)
  | iterate (name : String) (iterable : Expr)
  | attempt (clauses : List Expr)
  | handler (before : List Expr) (kind binding : Option String) (after : List Expr)
  | inside (before : List Expr) (place : FormPlace) (after : List Expr)

namespace FormPlace

def fill (body : List Expr) : FormPlace → Expr
  | sequence => .list (.symbol "do" :: body)
  | loop condition => .list (.symbol "while" :: condition :: body)
  | iterate name iterable => .list (.symbol "for" :: .symbol name :: iterable :: body)
  | attempt clauses => .list (.symbol "try" :: (body ++ clauses))
  | handler before kind binding after =>
    .list (.symbol "try" ::
      (before ++ .list (.symbol "except" :: (clauseHead kind binding ++ body)) :: after))
  | inside before place after => .list (before ++ place.fill body :: after)

/-- The head of a handler takes up no form of the sequence behind it. -/
def Takes (body : List Expr) : FormPlace → Prop
  | handler _ kind binding _ =>
    let head := clauseHead kind binding
    Clause.ofForms (head ++ body) = ⟨kind, binding, head.length⟩
  | inside _ place _ => place.Takes body
  | _ => True

end FormPlace

/-- A place in a script where a sequence of forms is evaluated: all of it, or one in some form. -/
inductive Place where
  | whole
  | inside (before : List Expr) (place : FormPlace) (after : List Expr)

namespace Place

def fill (body : List Expr) : Place → List Expr
  | whole => body
  | inside before place after => before ++ place.fill body :: after

def Takes (body : List Expr) : Place → Prop
  | whole => True
  | inside _ place _ => place.Takes body

end Place

section Skipping

variable {β : Type} (d : Discipline β) {body : List Expr}
  (plain : ∀ form ∈ body, form.isClause = false)

theorem evalBody_skip (head : List Expr) (last : Value) (forms : List Expr) :
    evalBody d head.length last (head ++ forms) = evalBody d 0 last forms := by
  induction head with
  | nil => rfl
  | cons form rest ih =>
    rw [← ih]
    rfl

theorem ofForms_list (kind binding : Option String) (items rest : List Expr) :
    let head := clauseHead kind binding
    Clause.ofForms (head ++ .list items :: rest) = ⟨kind, binding, head.length⟩ := by
  cases kind <;> cases binding <;> rfl

include plain

theorem evalGuarded_plain (last : Value) (rest : List Expr) :
    evalGuarded d last (body ++ rest) =
      (evalBody d 0 last body >>= fun value => evalGuarded d value rest) := by
  induction body generalizing last with
  | nil =>
    unfold evalBody
    rfl
  | cons form forms ih =>
    obtain ⟨first, others⟩ := List.forall_mem_cons.mp plain
    rw [List.cons_append, evalGuarded, if_neg (Bool.eq_false_iff.mp first), evalBody, bind_assoc]
    exact congrArg _ (funext fun value => ih others value)

theorem evalHandlers_plain (e : ScriptException) (rest : List Expr) :
    evalHandlers d e (body ++ rest) = evalHandlers d e rest := by
  induction body with
  | nil => rfl
  | cons form forms ih =>
    obtain ⟨first, others⟩ := List.forall_mem_cons.mp plain
    rw [List.cons_append, ← ih others]
    match form with
    | .list (head :: items) =>
      simp only [evalHandlers, first]
      rfl
    | .list [] | .symbol _ | .keyword _ | .string _ | .integer _ | .float _ | .boolean _ | .nil => rfl

theorem evalAttempt_plain (rest : List Expr) :
    evalAttempt d (body ++ rest) =
      if (rest.dropWhile fun form => !form.isClause).all Expr.isClause then
        handle (evalBody d 0 .nil body >>= fun value => evalGuarded d value rest)
          fun e => evalHandlers d e rest
      else malformed .formBehindClause := by
  have passed : (body ++ rest).dropWhile (fun form => !form.isClause) =
      rest.dropWhile fun form => !form.isClause :=
    List.dropWhile_append_of_pos fun form inside => by rw [plain form inside]; rfl
  unfold evalAttempt
  rw [passed, evalGuarded_plain d plain]
  simp only [evalHandlers_plain d plain]

end Skipping

section Wrapping

/-- A machine that has counted, or nests deeper, and is otherwise the same. -/
structure Quiet (m m' : Machine Replay) : Prop where
  unread : m'.book.unread = m.book.unread
  seen : m'.book.printsSeen = m.book.printsSeen
  emitted : m'.book.emitted = m.book.emitted
  bindings : m'.bindings = m.bindings

theorem Quiet.trans {m m' final : Machine Replay} (first : Quiet m m') (second : Quiet m' final) :
    Quiet m final where
  unread := second.unread.trans first.unread
  seen := second.seen.trans first.seen
  emitted := second.emitted.trans first.emitted
  bindings := second.bindings.trans first.bindings

namespace Apart

variable {setting : Setting} {hidden : String} {α : Type} {r : Except Exit α × Machine Replay}
  {y : Eval Replay α} {m m₁ m₂ : Machine Replay}

theorem quiet (apart : Apart hidden m₁ m₂) (quiet : Quiet m₂ m) : Apart hidden m₁ m where
  unread := apart.unread.trans quiet.unread.symm
  seen := apart.seen.trans quiet.seen.symm
  emitted := apart.emitted.trans quiet.emitted.symm
  bindings name visible := quiet.bindings ▸ apart.bindings name visible

theorem Ends.tick (next : ∀ m', Quiet m m' → Ends hidden r (y m')) :
    Ends hidden r ((Eval.tick (Replay.discipline setting) >>= fun _ => y) m) := by
  rcases Replay.tick_spent setting m.book with spent | counted
  · exact .inr (.inl (bind_spent _ spent))
  · have ticked : Eval.tick (Replay.discipline setting) m =
        (.ok (), { m with book := m.book.count }) := by
      unfold Eval.tick onBook
      rw [counted]
    obtain ⟨unread, seen, emitted⟩ := m.book.count_quiet
    rw [bind_apply, ticked]
    exact next _ ⟨unread, seen, emitted, rfl⟩

theorem Ends.nested {d : Discipline Replay} (next : ∀ m', Quiet m m' → Ends hidden r (y m')) :
    Ends hidden r (Eval.nested d y m) := by
  by_cases fits : m.depth + 1 ≤ d.maxDepth.toNat
  · rw [nested_entered y fits]
    rcases next { m with depth := m.depth + 1 } ⟨rfl, rfl, rfl, rfl⟩ with
      spent | spent | ⟨same, apart⟩
    · exact .inl spent
    · exact .inr (.inl spent)
    · exact .inr (.inr ⟨same, apart.quiet ⟨rfl, rfl, rfl, rfl⟩⟩)
  · rw [nested_refused y (Nat.lt_of_not_le fits)]
    exact .inr (.inl ⟨_, rfl, trivial⟩)

theorem Ends.list {r : Except Exit Value × Machine Replay} {items : List Expr}
    (next : ∀ m', Quiet m m' → Ends hidden r (evalList (Replay.discipline setting) items m')) :
    Ends hidden r ((Expr.list items).eval (Replay.discipline setting) m) :=
  .tick fun m' first => by
    show Ends hidden r (Eval.nested _ (evalList (Replay.discipline setting) items) m')
    exact .nested fun m'' second => next m'' (first.trans second)

theorem Ends.raised {γ : Type} {e : ScriptException}
    (ends : Ends hidden ((.error (.raised e), m₁) : Except Exit α × Machine Replay) (y m))
    (f : α → Eval Replay γ) :
    Ends hidden (.error (.raised e), m₁) ((y >>= f) m) := by
  rcases ends with ⟨_, left, spent⟩ | spent | ⟨same, apart⟩
  · cases left
    exact spent.elim
  · exact .inr (.inl (bind_spent f spent))
  · have left : y m = (.error (.raised e), (y m).2) := Prod.ext same.symm rfl
    rw [bind_error left]
    exact .inr (.inr ⟨rfl, apart⟩)

/-- A caught exception holds all that it takes to raise it again. -/
theorem reraise {e : ScriptException} (apart : Apart hidden m₁ m)
    (bound : m.bindings.lookup hidden = some (exceptionValue e)) :
    Ends hidden (.error (.raised e), m₁)
      ((Expr.list [.symbol "raise", .symbol hidden]).eval (Replay.discipline setting) m) := by
  have raises : evalList (Replay.discipline setting) [.symbol "raise", .symbol hidden] =
      Eval.tick (Replay.discipline setting) >>= fun _ =>
        Eval.readVariable hidden >>= fun value => raiseValue none value := bind_assoc _ _ _
  refine .list fun inner first => ?_
  rw [raises]
  refine .tick fun final second => ?_
  have kept : final.bindings.lookup hidden = some (exceptionValue e) := by
    rw [second.bindings, first.bindings, bound]
  have read : Eval.readVariable hidden final = (.ok (exceptionValue e), final) := by
    unfold Eval.readVariable
    rw [kept]
  rw [bind_apply, read]
  exact .inr (.inr ⟨rfl, apart.quiet (first.trans second)⟩)

theorem Goes.rethrow (e : ScriptException) :
    Goes hidden (exit (.raised e))
      (evalHandlers (Replay.discipline setting) e [ResumableScript.rethrow hidden]) := by
  intro m₁ m₂ apart
  let bound := { m₂ with bindings := Bindings.set hidden (exceptionValue e) m₂.bindings }
  have caught : evalHandlers (Replay.discipline setting) e [ResumableScript.rethrow hidden] m₂ =
      ((Expr.list [.symbol "raise", .symbol hidden]).eval (Replay.discipline setting) >>= pure)
        bound := by
    unfold ResumableScript.rethrow evalHandlers
    rfl
  rw [caught]
  have still : Apart hidden m₁ bound := by
    refine ⟨apart.unread, apart.seen, apart.emitted, fun name visible => ?_⟩
    rw [Bindings.lookup_set, if_neg visible]
    exact apart.bindings name visible
  exact (still.reraise (by rw [Bindings.lookup_set, if_pos rfl])).raised _

/-- A body does what it does without the handler that raises its exceptions again. -/
theorem Goes.rethrown {setting₁ setting₂ : Setting} {body : List Expr}
    (plain : ∀ form ∈ body, form.isClause = false)
    (bodies : Goes hidden (evalBody (Replay.discipline setting₁) 0 .nil body)
      (evalBody (Replay.discipline setting₂) 0 .nil body)) :
    Goes hidden (evalBody (Replay.discipline setting₁) 0 .nil body)
      (evalBody (Replay.discipline setting₂) 0 .nil [ResumableScript.rethrown hidden body]) := by
  let d := Replay.discipline setting₂
  have wrapped : evalList d (.symbol "try" :: (body ++ [ResumableScript.rethrow hidden])) =
      Eval.handle (evalBody d 0 .nil body)
        fun e => evalHandlers d e [ResumableScript.rethrow hidden] := by
    have tried : (evalBody d 0 .nil body >>= fun value =>
        evalGuarded d value [ResumableScript.rethrow hidden]) = evalBody d 0 .nil body := bind_pure _
    rw [evalList_try, evalAttempt_plain d plain, tried]
    rfl
  have one : evalBody d 0 .nil [ResumableScript.rethrown hidden body] =
      (ResumableScript.rethrown hidden body).eval d := bind_pure _
  intro m₁ m₂ apart
  rw [one]
  refine .list fun m' quiet => ?_
  rw [wrapped, ← handle_raised (evalBody (Replay.discipline setting₁) 0 .nil body)]
  exact bodies.handle (fun e => .rethrow e) m₁ m' (apart.quiet quiet)

end Apart

end Wrapping

theorem symbolsOf_append (before after : List Expr) :
    symbolsOf (before ++ after) = symbolsOf before ++ symbolsOf after := by
  induction before with
  | nil => rfl
  | cons form rest ih => simp only [List.cons_append, symbolsOf, ih, List.append_assoc]

section Filling

variable {β₁ β₂ : Type} {d₁ : Discipline β₁} {d₂ : Discipline β₂} {C : Enclosure d₁ d₂}

/-- The relation does not tell apart what the two disciplines read from these variables. -/
abbrev Enclosure.Reads (C : Enclosure d₁ d₂) (names : List String) : Prop :=
  ∀ name ∈ names, C.Rel (readVariable name) (readVariable name)

/-- Neither does it tell lists apart by what is in them. -/
abbrev Enclosure.Blind (C : Enclosure d₁ d₂) : Prop :=
  ∀ items₁ items₂, C.Rel (Eval.pass d₁ (.reached items₁)) (Eval.pass d₂ (.reached items₂))

theorem Enclosure.Blind.form (blind : C.Blind) {name : String} {forms₁ forms₂ : List Expr}
    (plain : (name == "except") = false)
    (run : C.Rel (evalList d₁ (.symbol name :: forms₁)) (evalList d₂ (.symbol name :: forms₂))) :
    C.Alike (.list (.symbol name :: forms₁)) (.list (.symbol name :: forms₂)) := by
  have skipped {β : Type} (d : Discipline β) (forms : List Expr) (e : ScriptException)
      (rest : List Expr) :
      evalHandlers d e (.list (.symbol name :: forms) :: rest) = evalHandlers d e rest := by
    have single : ∀ form ∈ [Expr.list (.symbol name :: forms)], form.isClause = false :=
      fun form inside => List.mem_singleton.mp inside ▸ plain
    exact evalHandlers_plain d single e rest
  have items := C.run (blind _ _) run
  refine .list items ⟨rfl, fun _ => items, fun e rest₁ rest₂ rest => ?_⟩
  rw [skipped, skipped]
  exact rest

variable (blind : C.Blind) {body₁ body₂ : List Expr} (plain₁ : ∀ form ∈ body₁, form.isClause = false)
  (plain₂ : ∀ form ∈ body₂, form.isClause = false)
  (bodies : C.Rel (evalBody d₁ 0 .nil body₁) (evalBody d₂ 0 .nil body₂))
include blind plain₁ plain₂ bodies

/-- What stands around two bodies that do alike does not tell them apart. -/
theorem FormPlace.alike : ∀ place : FormPlace, C.Reads (place.fill body₁).symbols →
    place.Takes body₁ → place.Takes body₂ → C.Alike (place.fill body₁) (place.fill body₂)
  | sequence, _, _, _ => blind.form rfl bodies
  | loop condition, reads, _, _ => by
    have test : C.Alike condition condition := Enclosure.alike_self condition fun name inside =>
      reads name (by simp [fill, Expr.symbols, symbolsOf, inside])
    exact blind.form rfl (C.loop test.eval bodies)
  | iterate name iterable, reads, _, _ => by
    have items : C.Alike iterable iterable := Enclosure.alike_self iterable fun name inside =>
      reads name (by simp [fill, Expr.symbols, symbolsOf, inside])
    exact blind.form rfl (C.bind items.eval fun value => C.bind (C.iterate value) fun values =>
      C.forEach (C.setVariable name) bodies values)
  | attempt clauses, reads, _, _ => by
    have rest : C.AllAlike clauses clauses := Enclosure.allAlike_self clauses fun name inside =>
      reads name (by simp [fill, Expr.symbols, symbolsOf, symbolsOf_append, inside])
    have inTry := rest.imp fun _ _ => Composition.Alike.inTry
    refine blind.form rfl ?_
    rw [evalList_try, evalList_try, evalAttempt_plain d₁ plain₁, evalAttempt_plain d₂ plain₂]
    split
    · exact C.handle (C.bind bodies fun value => Composition.guarded inTry value) fun e =>
        Composition.handlers inTry e
    · exact C.malformed _
  | handler before kind binding after, reads, takes₁, takes₂ => by
    have front : C.AllAlike before before := Enclosure.allAlike_self before fun name inside =>
      reads name (by simp [fill, Expr.symbols, symbolsOf, symbolsOf_append, inside])
    have back : C.AllAlike after after := Enclosure.allAlike_self after fun name inside =>
      reads name (by simp [fill, Expr.symbols, symbolsOf, symbolsOf_append, inside])
    -- both heads take up the same forms, so that the bodies are what the handlers run
    have clause : C.TryAlike (.list (.symbol "except" :: (clauseHead kind binding ++ body₁)))
        (.list (.symbol "except" :: (clauseHead kind binding ++ body₂))) := by
      have head₁ : Clause.ofForms (clauseHead kind binding ++ body₁) = _ := takes₁
      have head₂ : Clause.ofForms (clauseHead kind binding ++ body₂) = _ := takes₂
      have handles (forms : List Expr) : (Expr.list (.symbol "except" :: forms)).isClause = true := rfl
      refine ⟨rfl, nofun, fun e rest₁ rest₂ rest => ?_⟩
      simp only [evalHandlers, handles, head₁, head₂, evalBody_skip]
      split
      · exact C.bind (C.bindCaught e fun name _ => C.setVariable name) fun _ => C.within bodies
      · exact rest
    have inTry := List.rel_append (front.imp fun _ _ => Composition.Alike.inTry)
      (.cons clause (back.imp fun _ _ => Composition.Alike.inTry))
    exact blind.form rfl (Composition.attempt inTry)
  | inside before place after, reads, takes₁, takes₂ => by
    have front : C.AllAlike before before := Enclosure.allAlike_self before fun name inside =>
      reads name (by simp [fill, Expr.symbols, symbolsOf_append, inside])
    have back : C.AllAlike after after := Enclosure.allAlike_self after fun name inside =>
      reads name (by simp [fill, Expr.symbols, symbolsOf, symbolsOf_append, inside])
    have here := place.alike (fun name inside => reads name (by
      rw [fill]
      simp [Expr.symbols, symbolsOf, symbolsOf_append, inside])) takes₁ takes₂
    exact C.list (blind _ _) (List.rel_append front (.cons here back))

theorem Place.evalBody_fill (place : Place) (reads : C.Reads (symbolsOf (place.fill body₁)))
    (takes₁ : place.Takes body₁) (takes₂ : place.Takes body₂) :
    C.Rel (evalBody d₁ 0 .nil (place.fill body₁)) (evalBody d₂ 0 .nil (place.fill body₂)) := by
  cases place with
  | whole => exact bodies
  | inside before place after =>
    have front : C.AllAlike before before := Enclosure.allAlike_self before fun name inside =>
      reads name (by simp [fill, symbolsOf_append, inside])
    have back : C.AllAlike after after := Enclosure.allAlike_self after fun name inside =>
      reads name (by simp [fill, symbolsOf, symbolsOf_append, inside])
    have here := place.alike blind plain₁ plain₂ bodies (fun name inside => reads name (by
      simp [fill, symbolsOf, symbolsOf_append, inside])) takes₁ takes₂
    exact Composition.body (List.rel_append front (.cons here back)) 0 .nil

end Filling

theorem FormPlace.takes_list (items : List Expr) : ∀ place : FormPlace, place.Takes [.list items]
  | handler _ kind binding _ => ofForms_list kind binding items []
  | inside _ place _ => place.takes_list items
  | sequence | loop _ | iterate _ _ | attempt _ => trivial

theorem Place.takes_list (items : List Expr) (place : Place) : place.Takes [.list items] := by
  cases place with
  | whole => trivial
  | inside _ place _ => exact place.takes_list items

theorem FormPlace.symbols_fill (body : List Expr) :
    ∀ place : FormPlace, symbolsOf body ⊆ (place.fill body).symbols
  | inside before place after => fun name there => by
    have within := place.symbols_fill body there
    rw [fill]
    simp [Expr.symbols, symbolsOf, symbolsOf_append, within]
  | sequence | loop _ | iterate _ _ | attempt _ | handler _ _ _ _ => fun name there => by
    simp [fill, Expr.symbols, symbolsOf, symbolsOf_append, there]

theorem Place.symbols_fill (body : List Expr) (place : Place) :
    symbolsOf body ⊆ symbolsOf (place.fill body) := by
  cases place with
  | whole => exact List.Subset.refl _
  | inside before place after =>
    intro name there
    have within := place.symbols_fill body there
    simp [fill, symbolsOf, symbolsOf_append, within]

section Scripts

variable {setting₁ setting₂ : Setting} (externals : setting₁.externals = setting₂.externals)
  (delivered : setting₁.delivered = setting₂.delivered) {hidden : String}
include externals delivered

/-- Two replays of one script, with and without a handler that raises everything again. -/
theorem evalBody_rethrown (place : Place) {body : List Expr}
    (plain : ∀ form ∈ body, form.isClause = false) (takes : place.Takes body)
    (fresh : hidden ∉ symbolsOf (place.fill body)) :
    Apart.Goes hidden (evalBody (Replay.discipline setting₁) 0 .nil (place.fill body))
      (evalBody (Replay.discipline setting₂) 0 .nil (place.fill [rethrown hidden body])) := by
  let C := Apart.together hidden externals delivered
  have reads : C.Reads (symbolsOf (place.fill body)) := fun name inside =>
    .readVariable fun same => fresh (same ▸ inside)
  have alike : C.AllAlike body body :=
    Enclosure.allAlike_self body fun name inside => reads name (place.symbols_fill body inside)
  have bodies : C.Rel (evalBody _ 0 .nil body) (evalBody _ 0 .nil [rethrown hidden body]) :=
    .rethrown plain (Composition.body alike 0 .nil)
  have single : ∀ form ∈ [rethrown hidden body], form.isClause = false :=
    fun form inside => List.mem_singleton.mp inside ▸ rfl
  have blind : C.Blind := fun _ _ => .result (.ok ())
  exact place.evalBody_fill blind plain single bodies reads takes (place.takes_list _)

theorem evalScript_rethrown (place : Place) {body : List Expr}
    (plain : ∀ form ∈ body, form.isClause = false) (takes : place.Takes body)
    (fresh : hidden ∉ symbolsOf (place.fill body)) :
    Apart.Goes hidden (evalScript setting₁ (place.fill body))
      (evalScript setting₂ (place.fill [rethrown hidden body])) := by
  intro m₁ m₂ apart
  have ends := evalBody_rethrown externals delivered place plain takes fresh m₁ m₂ apart
  unfold evalScript
  generalize evalBody (Replay.discipline setting₁) 0 .nil (place.fill body) m₁ = r₁ at ends
  generalize evalBody (Replay.discipline setting₂) 0 .nil _ m₂ = r₂ at ends
  obtain ⟨result₁, m₁'⟩ := r₁
  obtain ⟨result₂, m₂'⟩ := r₂
  rcases ends with ⟨exit, left, spent⟩ | ⟨exit, left, spent⟩ | ⟨same, apart⟩
  · cases left
    exact .inl ⟨exit, rfl, spent⟩
  · cases left
    exact .inr (.inl ⟨exit, rfl, spent⟩)
  · cases same
    cases result₁ with
    | error exit => exact .inr (.inr ⟨rfl, apart⟩)
    | ok value =>
      -- either both have answers left or neither has
      have unread : m₁'.book.unread = m₂'.book.unread := apart.unread
      dsimp only
      rw [unread]
      split <;> exact .inr (.inr ⟨rfl, apart⟩)

end Scripts

end ResumableScript
