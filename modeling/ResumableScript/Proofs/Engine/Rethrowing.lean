import Mathlib.Tactic.Basic
import ResumableScript.Proofs.Engine.Resumption
import ResumableScript.Proofs.Engine.Session
import ResumableScript.Proofs.Engine.Sourced
import ResumableScript.Proofs.Evaluation.Rethrowing

/-! A host cannot tell whether a script catches exceptions only to raise them again. Step by step its
session shows the same, from the first pause to the end, whatever the answers are. All that the
longer source moves is the place of a fault in a body that holds it and cannot be read. -/
namespace ResumableScript

/-- The second source has a body of the first, at this place, in a `try` that raises every exception
again, by means of a variable that the first does not have. -/
structure Rethrows (source source' : String) (place : Place) (body : List Expr) (name : String) :
    Prop where
  plain : ∀ form ∈ body, form.isClause = false
  takes : place.Takes body
  fresh : name ∉ symbolsOf (place.fill body)
  readable : Script.parse source = .ok (place.fill body)
  readable' : Script.parse source' = .ok (place.fill [rethrown name body])

def Step.WithinBudgets (step : Step) : Prop :=
  ∀ fault, step.outcome = .error fault → ¬ fault.IsBudget

/-- What a host sees of two sources is the same. Only the column of a fault in a body is counted past
the source, and so moves with it: it lies as many bytes before the end of both bodies. -/
inductive Sight.Alike (source source' : String) : Sight → Sight → Prop where
  | same (sight : Sight) : Alike source source' sight sight
  | unread (c : Continuation) (here : c.source = source) (fault : Json.Fault) (left : Nat) :
      Alike source source' (.failed (.checkpoint (c.unread fault left)))
        (.failed (.checkpoint ((c.sourced source').unread fault left)))

structure Step.Alike (source source' : String) (step step' : Step) : Prop where
  sight : step.sight.Alike source source' step'.sight
  prints : step.prints = step'.prints

/-- Two outcomes that are the same but for the source that a pause keeps. -/
inductive Resourced (source source' : String) :
    Except StepFault Progress → Except StepFault Progress → Prop where
  | paused (call : ExternalCall) (c : Continuation) (here : c.source = source) :
      Resourced source source' (.ok (.paused call (.dump c)))
        (.ok (.paused call (.dump (c.sourced source'))))
  | finished (output : Json) :
      Resourced source source' (.ok (.finished output)) (.ok (.finished output))
  | failed (fault : StepFault) : Resourced source source' (.error fault) (.error fault)
  | unread (c : Continuation) (here : c.source = source) (fault : Json.Fault) (left : Nat) :
      Resourced source source' (.error (.checkpoint (c.unread fault left)))
        (.error (.checkpoint ((c.sourced source').unread fault left)))

structure Step.Resourced (source source' : String) (step step' : Step) : Prop where
  prints : step.prints = step'.prints
  outcome : ResumableScript.Resourced source source' step.outcome step'.outcome

section Steps

variable {source source' : String} {place : Place} {body : List Expr} {name : String}
  {c : Continuation} {engine engine' : Engine}

theorem Resourced.sight {outcome outcome' : Except StepFault Progress}
    (same : Resourced source source' outcome outcome') :
    (Sight.ofOutcome outcome).Alike source source' (Sight.ofOutcome outcome') := by
  cases same <;> simp only [Sight.ofOutcome]
  case unread c here fault left => exact .unread c here fault left
  all_goals exact .same _

theorem Step.Resourced.alike {step step' : Step} (same : Step.Resourced source source' step step') :
    step.Alike source source' step' := ⟨same.outcome.sight, same.prints⟩

theorem Step.Alike.shows {step step' : Step} (alike : step.Alike source source' step')
    (accepted : step.Accepted) : (step.sight, step.prints) = (step'.sight, step'.prints) := by
  refine Prod.ext ?_ alike.prints
  have sights := alike.sight
  generalize seen : step.sight = sight at sights ⊢
  generalize step'.sight = sight' at sights ⊢
  cases sights with
  | same => rfl
  | unread c here fault left =>
    have failed : step.outcome = .error (.checkpoint (c.unread fault left)) := by
      unfold Step.sight Sight.ofOutcome at seen
      split at seen
      · cases seen
      · cases seen
      · next outcome => exact outcome.trans (congrArg _ (Sight.failed.inj seen))
    exact absurd rfl (accepted _ failed)

theorem shows_of_alike {steps steps' : List Step}
    (alike : List.Forall₂ (Step.Alike source source') steps steps')
    (accepted : ∀ step ∈ steps, step.Accepted) :
    steps.map (fun step => (step.sight, step.prints)) =
      steps'.map fun step => (step.sight, step.prints) := by
  induction alike with
  | nil => rfl
  | cons first rest ih =>
    rw [List.forall_mem_cons] at accepted
    rw [List.map_cons, List.map_cons, first.shows accepted.1, ih accepted.2]

theorem outcome_sourced (here : c.source = source) (printsSeen : Nat)
    (result : Except Exit Value) :
    Resourced source source' (Engine.outcome c printsSeen result)
      (Engine.outcome (c.sourced source') printsSeen result) := by
  cases result with
  | ok value => exact .finished _
  | error exit =>
    cases exit with
    | raised e => exact .failed _
    | suspended call => exact .paused call (Engine.suspend c call printsSeen) here
    | failed fault => exact .failed _

/-- A loop never runs out of rounds, so it would be a limit that ends an evaluation early. -/
theorem evaluate_unspent {forms : List Expr} (readable : Script.parse c.source = .ok forms)
    (within : (engine.execute c).WithinBudgets) : ¬ IsSpent (engine.evaluate c forms).1 := by
  rintro ⟨exit, left, spent⟩
  obtain ⟨fault, rfl, stalled⟩ := spent.fault
  have outcome : (engine.execute c).outcome = .error (.evaluation fault) := by
    rw [execute_eq engine c readable, left]
    rfl
  rcases stalled with rfl | budget
  · exact (execute_budget engine c forms readable).2.1 outcome
  · exact within _ outcome budget

theorem execute_rethrown (rethrows : Rethrows source source' place body name)
    (here : c.source = source) (within : (engine.execute c).WithinBudgets)
    (within' : (engine'.execute (c.sourced source')).WithinBudgets) :
    Step.Resourced source source' (engine.execute c) (engine'.execute (c.sourced source')) := by
  have readable : Script.parse c.source = _ := here ▸ rethrows.readable
  have readable' : Script.parse (c.sourced source').source = _ := rethrows.readable'
  let setting := c.setting engine
  let setting' := (c.sourced source').setting engine'
  have externals : setting.externals = setting'.externals := rfl
  have delivered : setting.delivered = setting'.delivered := rfl
  have goes := evalScript_rethrown externals delivered place rethrows.plain rethrows.takes
    rethrows.fresh
  have ran := execute_eq engine c readable
  have ran' := execute_eq engine' (c.sourced source') readable'
  rcases goes c.machine c.machine ⟨rfl, rfl, rfl, fun _ _ => rfl⟩ with spent | spent | ⟨same, apart⟩
  · exact absurd spent (evaluate_unspent readable within)
  · exact absurd spent (evaluate_unspent readable' within')
  · have result : (engine'.evaluate (c.sourced source') _).1 = (engine.evaluate c _).1 := same.symm
    have seen : (engine'.evaluate (c.sourced source') _).2.book.printsSeen =
      (engine.evaluate c _).2.book.printsSeen := apart.seen.symm
    refine ⟨?_, ?_⟩
    · rw [ran, ran']
      exact congrArg List.reverse apart.emitted
    · rw [ran, ran']
      dsimp only
      rw [result, seen]
      exact outcome_sourced here _ _

theorem answer_sourced (source' : String) (answer : Instruction) :
    (c.sourced source').answer answer = (c.answer answer).map (·.sourced source') := by
  unfold Continuation.answer Continuation.sourced
  cases c.pending <;> rfl

theorem resumeRun_rethrown (rethrows : Rethrows source source' place body name)
    (here : c.source = source) (answer : Instruction)
    (within : (engine.resumeRun (.dump c) answer).WithinBudgets)
    (within' : (engine'.resumeRun (.dump (c.sourced source')) answer).WithinBudgets) :
    Step.Resourced source source' (engine.resumeRun (.dump c) answer)
      (engine'.resumeRun (.dump (c.sourced source')) answer) := by
  unfold Engine.resumeRun at within within' ⊢
  have own : c.sourced c.source = c := rfl
  rcases Checkpoint.load_dump_sourced c with ⟨read, loads⟩ | ⟨fault, left, refused⟩
  · have loaded : (Checkpoint.dump c).load = .ok (read.sourced c.source) := own ▸ loads c.source
    rw [loaded] at within ⊢
    rw [loads source'] at within' ⊢
    simp only [answer_sourced] at within within' ⊢
    cases taken : read.answer answer with
    | error fault => exact ⟨rfl, .failed (.checkpoint fault)⟩
    | ok next =>
      simp only [taken, Except.map] at within within' ⊢
      have kept : (next.sourced c.source).source = source := here
      exact execute_rethrown rethrows kept within within'
  · have loaded : (Checkpoint.dump c).load = .error (c.unread fault left) := own ▸ refused c.source
    rw [loaded, refused source']
    -- not `rfl`, which would compare the columns first
    exact ⟨Eq.refl [], .unread c here fault left⟩

end Steps

theorem Engine.mem_resumeAll (engines : Nat → Engine) (taken : Nat) (step : Step)
    (answers : List Instruction) : step ∈ Engine.resumeAll engines taken step answers := by
  unfold Engine.resumeAll
  split
  · exact List.mem_singleton_self _
  · split
    · exact List.mem_cons_self
    · exact List.mem_singleton_self _

section Sessions

variable {source source' : String} {place : Place} {body : List Expr} {name : String}
  {engines engines' : Nat → Engine}

theorem resumeAll_rethrown (rethrows : Rethrows source source' place body name)
    (answers : List Instruction) {taken : Nat} {step step' : Step}
    (same : Step.Resourced source source' step step')
    (within : ∀ later ∈ Engine.resumeAll engines taken step answers, later.WithinBudgets)
    (within' : ∀ later ∈ Engine.resumeAll engines' taken step' answers, later.WithinBudgets) :
    List.Forall₂ (Step.Alike source source') (Engine.resumeAll engines taken step answers)
      (Engine.resumeAll engines' taken step' answers) := by
  induction answers generalizing taken step step' with
  | nil => exact .cons same.alike .nil
  | cons answer rest ih =>
    have alike := same.alike
    obtain ⟨outcome, prints⟩ := step
    obtain ⟨outcome', prints'⟩ := step'
    obtain ⟨-, outcomes⟩ := same
    cases outcomes with
    | finished output => exact .cons alike .nil
    | failed fault => exact .cons alike .nil
    | unread c here fault left => exact .cons alike .nil
    | paused call c here =>
      simp only [Engine.resumeAll, List.forall_mem_cons] at within within' ⊢
      have next := resumeRun_rethrown rethrows here answer
        (within.2 _ (Engine.mem_resumeAll _ _ _ _)) (within'.2 _ (Engine.mem_resumeAll _ _ _ _))
      exact .cons alike (ih next within.2 within'.2)

theorem Engine.Resumed.resumeAll {externals : List String} {limits : Limits}
    {before : List Instruction} {step later : Step} {taken : Nat} {answers : List Instruction}
    (reached : Engine.Resumed source externals limits before step)
    (there : later ∈ Engine.resumeAll engines taken step answers) :
    ∃ more, more <+: answers ∧ Engine.Resumed source externals limits (before ++ more) later := by
  induction answers generalizing before step taken with
  | nil =>
    obtain rfl := List.mem_singleton.mp there
    exact ⟨[], List.nil_prefix, by rwa [List.append_nil]⟩
  | cons answer rest ih =>
    rw [Engine.resumeAll] at there
    split at there
    · next paused =>
      rcases List.mem_cons.mp there with rfl | there
      · exact ⟨[], List.nil_prefix, by rwa [List.append_nil]⟩
      · obtain ⟨more, first, reached'⟩ := ih (reached.resumed (engines taken) paused answer) there
        refine ⟨answer :: more, List.cons_prefix_cons.mpr ⟨rfl, first⟩, ?_⟩
        rwa [← List.append_cons] at reached'
    · obtain rfl := List.mem_singleton.mp there
      exact ⟨[], List.nil_prefix, by rwa [List.append_nil]⟩

theorem session_accepted (engines : Nat → Engine) (source : String) (externals : List String)
    (limits : Limits) {answers : List Instruction}
    (stored : ∀ answer ∈ answers, answer.Storable Checkpoint.answerLevels) :
    ∀ step ∈ Engine.session engines source externals limits answers, step.Accepted := by
  intro step there
  obtain ⟨more, first, reached⟩ := (Engine.Resumed.created (engines 0)).resumeAll there
  exact reached.accepted fun answer member => stored answer
    (first.subset (List.dropLast_subset _ member))

/-- The sessions of the two scripts show the same: every pause with its function and arguments, the
value or the exception at the end, and the prints of every step, unless a limit or a budget ends one of
their steps. Where a checkpoint cannot keep an answer, both fail at the same step for the same fault
in its body, as many bytes before the end of it. -/
theorem session_rethrown (rethrows : Rethrows source source' place body name)
    (engines engines' : Nat → Engine) (externals : List String) (limits : Limits)
    (answers : List Instruction)
    (within : ∀ step ∈ Engine.session engines source externals limits answers, step.WithinBudgets)
    (within' : ∀ step ∈ Engine.session engines' source' externals limits answers,
      step.WithinBudgets) :
    List.Forall₂ (Step.Alike source source') (Engine.session engines source externals limits answers)
        (Engine.session engines' source' externals limits answers) ∧
      ((∀ answer ∈ answers, answer.Storable Checkpoint.answerLevels) →
        (Engine.session engines source externals limits answers).map
            (fun step => (step.sight, step.prints)) =
          (Engine.session engines' source' externals limits answers).map
            fun step => (step.sight, step.prints)) := by
  let c : Continuation := { source, externals, limits }
  have first : Step.Resourced source source' ((engines 0).execute c)
      ((engines' 0).execute (c.sourced source')) :=
    execute_rethrown rethrows rfl (within _ (Engine.mem_resumeAll _ _ _ _))
      (within' _ (Engine.mem_resumeAll _ _ _ _))
  have alike := resumeAll_rethrown rethrows answers first within within'
  refine ⟨alike, fun stored => ?_⟩
  exact shows_of_alike alike (session_accepted engines source externals limits stored)

end Sessions

theorem session_withinBudgets (engines : Nat → Engine) {source : String} (externals : List String)
    (limits : Limits) (answers : List Instruction) {forms : List Expr}
    (readable : Script.parse source = .ok forms)
    (timely : ∀ n, limits.Timely (engines n).clock)
    (storable : ∀ answer ∈ answers, answer.Storable Checkpoint.answerLevels)
    (within : ∀ fault, (evalDirect externals limits answers forms).1 = .error (.failed fault) →
      ¬ (StepFault.evaluation fault).IsBudget) :
    ∀ step ∈ Engine.session engines source externals limits answers, step.WithinBudgets := by
  intro step there fault failed budget
  have sights := (session_faithful engines externals limits answers readable timely storable).sights
  have shown : step.sight ∈ _ := sights ▸ List.mem_map_of_mem there
  rw [Step.sight, failed] at shown
  -- a step that has failed shows the end of the direct run, as it shows no pause
  rcases List.mem_append.mp shown with paused | ends
  · obtain ⟨pause, -, same⟩ := List.mem_map.mp paused
    cases same
  · have ended : Sight.failed fault = Sight.ofResult _ := List.mem_singleton.mp ends
    generalize (evalDirect externals limits answers forms).1 = result at within ended
    cases result with
    | ok value => cases ended
    | error exit =>
      cases exit with
      | suspended call => cases ended
      | raised e =>
        cases ended
        exact budget
      | failed evaluation =>
        cases ended
        exact within evaluation rfl budget

section Spelled

mutual

def Expr.spelledAlike : Expr → Expr → Bool
  | .symbol name, .symbol other => name == other
  | .list items, .list others => allSpelledAlike items others
  | _, _ => false

def allSpelledAlike : List Expr → List Expr → Bool
  | [], [] => true
  | first :: rest, other :: others => first.spelledAlike other && allSpelledAlike rest others
  | _, _ => false

end

theorem eq_of_spelledAlike :
    ∀ forms others : List Expr, allSpelledAlike forms others = true → forms = others := by
  refine allSpelledAlike.induct (fun e other => e.spelledAlike other = true → e = other)
    (fun forms others => allSpelledAlike forms others = true → forms = others)
    ?symbol ?list ?unlike ?nil ?cons ?shorter
  case symbol =>
    intro name other same
    rw [Expr.spelledAlike] at same
    rw [eq_of_beq same]
  case list =>
    intro items others ih same
    rw [Expr.spelledAlike] at same
    rw [ih same]
  case unlike =>
    intro e other symbols lists same
    rw [Expr.spelledAlike] at same
    · cases same
    · exact symbols
    · exact lists
  case nil => exact fun _ => rfl
  case cons =>
    intro first rest other others same ih both
    rw [allSpelledAlike, Bool.and_eq_true] at both
    rw [same both.1, ih both.2]
  case shorter =>
    intro forms others none some same
    rw [allSpelledAlike] at same
    · cases same
    · exact none
    · exact some

theorem parse_spelledAlike {source : String} {forms : List Expr}
    (alike : (Script.parse source).toOption.any (allSpelledAlike · forms) = true) :
    Script.parse source = .ok forms := by
  cases read : Script.parse source with
  | error e =>
    rw [read] at alike
    cases alike
  | ok others =>
    rw [read] at alike
    rw [eq_of_spelledAlike others forms alike]

end Spelled

/-- An exception that a host answers with, which a handler around the body catches and passes on to
another call. -/
theorem session_rethrown_caught :
    let source := "(try (do (f) (g)) (except e (h e)))"
    let source' := "(try (do (try (f) (g) (except x (raise x)))) (except e (h e)))"
    let answers : List Instruction := [.exception ⟨"ValueError", "no"⟩, .returnValue .null]
    let session (source : String) := Engine.session (fun _ => {}) source ["f", "g", "h"] {} answers
    (∃ place body, Rethrows source source' place body "x") ∧
      (∀ step ∈ session source, step.WithinBudgets) ∧
      (∀ step ∈ session source', step.WithinBudgets) ∧
      (session source).map (fun step => (step.sight, step.prints)) =
        (session source').map fun step => (step.sight, step.prints) := by
  intro source source' answers session
  let clause : Expr := .list [.symbol "except", .symbol "e", .list [.symbol "h", .symbol "e"]]
  let place : Place := .inside [] (.inside [.symbol "try"] .sequence [clause]) []
  let body : List Expr := [.list [.symbol "f"], .list [.symbol "g"]]
  have readable : Script.parse source = .ok (place.fill body) :=
    parse_spelledAlike (by decide +kernel)
  have readable' : Script.parse source' = .ok (place.fill [rethrown "x" body]) :=
    parse_spelledAlike (by decide +kernel)
  have plain : ∀ form ∈ body, form.isClause = false := by
    simp only [body, List.forall_mem_cons]
    exact ⟨rfl, rfl, List.forall_mem_nil _⟩
  have fresh : "x" ∉ symbolsOf (place.fill body) := by decide
  have rethrows : Rethrows source source' place body "x" :=
    ⟨plain, trivial, fresh, readable, readable'⟩
  have inTime : ∀ n : Nat, ({} : Limits).Timely ((fun _ => {} : Nat → Engine) n).clock :=
    fun _ _ _ _ _ => (by decide : 0 < ({} : Limits).maxDurationMs.toNat)
  have kept : ∀ answer ∈ answers, answer.Storable Checkpoint.answerLevels := by
    simp only [answers, List.forall_mem_cons]
    exact ⟨trivial, .null _, List.forall_mem_nil _⟩
  have finishes {forms : List Expr} (h : (evalDirect ["f", "g", "h"] {} answers forms).1.isOk = true) :
      ∀ fault, (evalDirect ["f", "g", "h"] {} answers forms).1 = .error (.failed fault) →
        ¬ (StepFault.evaluation fault).IsBudget := by
    intro fault failed
    rw [failed] at h
    cases h
  have within : ∀ step ∈ session source, step.WithinBudgets :=
    session_withinBudgets _ _ _ _ readable inTime kept (finishes (by decide +kernel))
  have within' : ∀ step ∈ session source', step.WithinBudgets :=
    session_withinBudgets _ _ _ _ readable' inTime kept (finishes (by decide +kernel))
  exact ⟨⟨place, body, rethrows⟩, within, within',
    (session_rethrown rethrows _ _ _ _ _ within within').2 kept⟩

end ResumableScript
