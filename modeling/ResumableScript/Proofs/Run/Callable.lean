import ResumableScript.Engine.Step
import ResumableScript.Proofs.Script.Exactness
import ResumableScript.Run.Preamble

/-! Calls of the functions that a preamble lists. A name that it lists is read as a symbol and reaches the
function, unless it is a word that the language keeps for itself. -/
namespace ResumableScript.Preamble

open Script

/-- The words that stand for atoms, and those that start special forms. -/
def reserved : List String := ["nil", "true", "false"] ++ SpecialForm.all.map SpecialForm.name

def bareCall (name : String) : String := "(" ++ name ++ ")"

section Reading

theorem isLetter_code {c : Char} (letter : isLetter c = true) :
    (65 ≤ c.toNat ∧ c.toNat ≤ 90) ∨ (97 ≤ c.toNat ∧ c.toNat ≤ 122) := by
  simp only [isLetter, Bool.or_eq_true, Bool.and_eq_true, decide_eq_true_eq, Char.le_def,
    UInt32.le_iff_toNat_le] at letter
  exact letter.symm

theorem isSymbol_symbolic {name : String} (symbol : isSymbol name = true) : IsSymbol name.toList := by
  unfold isSymbol at symbol
  split at symbol
  · cases symbol
  · next first rest text =>
    rw [text]
    simp only [Bool.and_eq_true, Bool.or_eq_true, List.all_eq_true, beq_iff_eq, decide_eq_true_eq,
      Char.le_def, UInt32.le_iff_toNat_le] at symbol
    obtain ⟨start, inner⟩ := symbol
    have leading : IsPlain first.toNat ∧ 65 ≤ first.toNat := by
      unfold IsPlain
      rcases start with letter | rfl
      · have := isLetter_code letter
        omega
      · decide
    have following : ∀ c ∈ rest, IsPlain c.toNat := by
      intro c there
      unfold IsPlain
      rcases inner c there with ((letter | digit) | rfl) | rfl
      · have := isLetter_code letter
        omega
      · exact .inr (.inl digit)
      · decide
      · decide
    refine isSymbol_word ?_ ?_ ?_
    · rw [List.all_cons, isSymbolChar_of_plain leading.1, Bool.true_and, List.all_eq_true]
      exact fun c there => isSymbolChar_of_plain (following c there)
    · rintro rfl
      exact absurd leading.2 (by decide)
    · rintro (rfl | rfl | digit)
      · exact absurd leading.2 (by decide)
      · exact absurd leading.2 (by decide)
      · exact absurd (Nat.le_trans leading.2 (isDigit_code digit).2) (by decide)

theorem symbolAtom_written {name : String} (symbol : IsSymbol name.toList) :
    ∃ d : Datum, d.expr? = some (symbolAtom name) ∧ d.Written name.toList := by
  by_cases noTrue : name = "true"
  · subst noTrue
    exact ⟨.boolean true, rfl, rfl⟩
  by_cases noFalse : name = "false"
  · subst noFalse
    exact ⟨.boolean false, rfl, rfl⟩
  by_cases noNil : name = "nil"
  · subst noNil
    exact ⟨.nil, rfl, rfl⟩
  · rw [symbolAtom_symbol noNil noTrue noFalse]
    exact ⟨.symbol name, rfl, symbol, noNil, noTrue, noFalse, rfl⟩

theorem parse_bareCall {name : String} (symbol : IsSymbol name.toList) :
    Script.parse (bareCall name) = .ok [.list [symbolAtom name]] := by
  obtain ⟨d, spelled, written⟩ := symbolAtom_written symbol
  have inner : Datum.AllWritten [d] name.toList :=
    ⟨[], _, [], .nil, written, .nil, fun _ => nofun, by simp⟩
  have outer : Datum.AllWritten [.list [d]] (bareCall name).toList :=
    ⟨[], _, [], .nil, ⟨_, inner, rfl⟩, .nil, False.elim, by simp [bareCall]⟩
  refine of_mapError.1 _ ?_
  rw [parse_written outer]
  refine Datum.readAll_fits _ maxNesting _ (by simp [Datum.exprs?, Datum.expr?, spelled]) ?_
  have flat := symbolAtom_nesting name
  simp [Expr.nestingItems, Expr.nesting, flat, maxNesting]

end Reading

section Calling

def started (source : String) (externals : List String) : Continuation :=
  { source, externals, limits := {} }

def inside : Machine Replay := { book := { unread := [], steps := 1 }, depth := 1 }

theorem createRun_list (engine : Engine) {source : String} (externals : List String) {items : List Expr}
    (read : Script.parse source = .ok [.list items]) {result : Except Exit Value} {m : Machine Replay}
    (evaluated : evalList (Replay.discipline ((started source externals).setting engine)) items inside =
      (result, m)) (live : m.book.unread = []) :
    engine.createRun source externals {} =
      ⟨Engine.outcome (started source externals) m.book.printsSeen result, m.book.emitted.reverse⟩ := by
  have counted : Eval.tick (Replay.discipline ((started source externals).setting engine))
      (started source externals).machine = (.ok (), { book := { unread := [], steps := 1 } }) := by
    simp [Eval.tick, Eval.onBook, Discipline.tick, Replay.discipline, started, Continuation.machine,
      Continuation.setting, Replay.count, Replay.overrun?]
  have shallow : ¬ (Replay.discipline ((started source externals).setting engine)).maxDepth.toNat < 0 + 1 :=
    show ¬ (100 : UInt64).toNat < 1 by decide
  let start : Machine Replay := { book := { unread := [], steps := 1 } }
  have first : (Expr.list items).eval (Replay.discipline ((started source externals).setting engine))
      (started source externals).machine = (result, { m with depth := m.depth - 1 }) := by
    simp only [Expr.eval, Bind.bind, Eval.bind, counted]
    show Eval.nested _ (evalList _ items) start = _
    simp only [Eval.nested, start, if_neg shallow]
    exact congrArg (fun done : Except Exit Value × Machine Replay =>
      (done.1, { done.2 with depth := done.2.depth - 1 })) evaluated
  have same : (started source externals).source = source := rfl
  change Engine.execute engine (started source externals) = _
  simp only [Engine.execute, same, read, Engine.evaluate, evalScript, evalBody, Bind.bind, Eval.bind,
    first]
  cases result with
  | ok value => simp [Pure.pure, Eval.pure, live]
  | error exit => rfl

/-- A word that the language keeps for itself ends in a value or an error, whatever functions there are. -/
theorem evalList_reserved (d : Discipline Replay) (m : Machine Replay) {name : String}
    (kept : name ∈ reserved) :
    ∃ result, evalList d [symbolAtom name] m = (result, m) ∧ ∀ call, result ≠ .error (.suspended call) := by
  simp only [reserved, SpecialForm.all, SpecialForm.name, List.map_cons, List.map_nil, List.cons_append,
    List.nil_append, List.mem_cons, List.not_mem_nil, or_false] at kept
  rcases kept with rfl | rfl | rfl | rfl | rfl | rfl | rfl | rfl | rfl | rfl | rfl | rfl <;>
    exact ⟨_, rfl, nofun⟩

theorem createRun_reserved (engine : Engine) {name : String} (kept : name ∈ reserved)
    (symbol : IsSymbol name.toList) (externals : List String) (call : ExternalCall)
    (checkpoint : Checkpoint) (prints : List Emission) :
    engine.createRun (bareCall name) externals {} ≠ ⟨.ok (.paused call checkpoint), prints⟩ := by
  intro paused
  obtain ⟨result, evaluated, unsuspended⟩ := evalList_reserved _ inside kept
  rw [createRun_list engine externals (parse_bareCall symbol) evaluated rfl] at paused
  cases result with
  | ok value => cases paused
  | error exit =>
    cases exit with
    | suspended call => exact unsuspended call rfl
    | raised e => cases paused
    | failed fault => cases paused

theorem createRun_free (engine : Engine) {name : String} (free : name ∉ reserved)
    (symbol : IsSymbol name.toList) {externals : List String} (offered : name ∈ externals) :
    ∃ checkpoint, engine.createRun (bareCall name) externals {} =
      ⟨.ok (.paused ⟨name, [], []⟩ checkpoint), []⟩ := by
  simp only [reserved, List.cons_append, List.nil_append, List.mem_cons, not_or] at free
  obtain ⟨noNil, noTrue, noFalse, noForm⟩ := free
  have form : SpecialForm.ofName? name = none := by
    rw [SpecialForm.ofName?, List.find?_eq_none]
    intro f there same
    exact noForm (List.mem_map.mpr ⟨f, there, by simpa using same⟩)
  have known : (Replay.discipline
      ((started (bareCall name) externals).setting engine)).externals.contains name = true :=
    List.contains_iff_mem.mpr offered
  have evaluated : evalList (Replay.discipline ((started (bareCall name) externals).setting engine))
      [symbolAtom name] inside = (.error (.suspended ⟨name, [], []⟩), inside) := by
    rw [symbolAtom_symbol noNil noTrue noFalse]
    simp only [evalList, form, evalArgs, Eval.call, known]
    rfl
  rw [createRun_list engine externals (parse_bareCall symbol) evaluated rfl]
  exact ⟨_, rfl⟩

end Calling

/-- A function that a preamble lists can be called by its name if and only if the name is none of the
words that the language keeps for itself. Called without arguments as a script of its own, it suspends
the script on a call without any, whatever functions there are beside it. -/
theorem listed_callable (engine : Engine) {name : String} {externals : List String}
    (listed : isSymbol name = true) (offered : name ∈ externals) :
    (∃ checkpoint, engine.createRun (bareCall name) externals {} =
      ⟨.ok (.paused ⟨name, [], []⟩ checkpoint), []⟩) ↔ name ∉ reserved := by
  have symbol := isSymbol_symbolic listed
  constructor
  · rintro ⟨checkpoint, paused⟩ kept
    exact createRun_reserved engine kept symbol externals _ checkpoint [] paused
  · exact fun free => createRun_free engine free symbol offered

/-- A builtin's name is free. -/
theorem listed_callable_print :
    isSymbol "print" = true ∧ "print" ∈ ["search", "print"] ∧ "print" ∉ reserved ∧
      ∃ checkpoint, ({} : Engine).createRun "(print)" ["search", "print"] {} =
        ⟨.ok (.paused ⟨"print", [], []⟩ checkpoint), []⟩ := by
  have listed : isSymbol "print" = true := by decide
  have offered : "print" ∈ ["search", "print"] := by decide
  have free : "print" ∉ reserved := by decide
  exact ⟨listed, offered, free, (listed_callable {} listed offered).mpr free⟩

/-- The word for nothing is listed as a function, which no script can call. -/
theorem nil_listed :
    isSymbol "nil" = true ∧ "nil" ∈ ["nil"] ∧ ∀ call checkpoint prints,
      ({} : Engine).createRun "(nil)" ["nil"] {} ≠ ⟨.ok (.paused call checkpoint), prints⟩ := by
  have listed : isSymbol "nil" = true := by decide
  exact ⟨listed, by decide, createRun_reserved {} (by decide) (isSymbol_symbolic listed) ["nil"]⟩

end ResumableScript.Preamble
