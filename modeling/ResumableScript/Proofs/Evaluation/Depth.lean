import Mathlib.Tactic.Basic
import ResumableScript.Proofs.Evaluation.Progress

/-! How deep lists nest is a matter of the source. A located run keeps count of the lists of its
source that stand around what it evaluates, and writes down every list that it comes to; it takes no
part in the evaluation itself. The machine comes back to its depth on every way out of an expression,
so at any time it counts no more lists than stand around the one at hand. -/
namespace ResumableScript
open Eval

/-- A list of a source, and how many lists stand around it there. -/
structure SourceList where
  above : Nat
  items : List Expr

mutual

def Expr.lists (above : Nat) : Expr → List SourceList
  | .list items => ⟨above, items⟩ :: listsOf (above + 1) items
  | _ => []

def listsOf (above : Nat) : List Expr → List SourceList
  | [] => []
  | form :: rest => form.lists above ++ listsOf above rest

end

/-- A book, how many lists of the source its run is inside, and the lists that it has come to. -/
structure Located (β : Type) where
  book : β
  above : Nat := 0
  visits : List SourceList := []

variable {β : Type}

def Located.pass (d : Discipline β) (waypoint : Waypoint) (l : Located β) : Located β :=
  let book := d.pass waypoint l.book
  match waypoint with
  | .reached items => { l with book, visits := l.visits ++ [⟨l.above, items⟩] }
  | .entered => { l with book, above := l.above + 1 }
  | .left => { l with book, above := l.above - 1 }

theorem Located.book_pass (d : Discipline β) (waypoint : Waypoint) (l : Located β) :
    (l.pass d waypoint).book = d.pass waypoint l.book := by
  cases waypoint <;> rfl

def Discipline.located (d : Discipline β) : Discipline (Located β) where
  externals := d.externals
  maxDepth := d.maxDepth
  count l := { l with book := d.count l.book }
  overrun? l := d.overrun? l.book
  answer name args kwargs l :=
    let (result, book) := d.answer name args kwargs l.book
    (result, { l with book })
  emit emission l := { l with book := d.emit emission l.book }
  pass := Located.pass d
  room l := d.room l.book
  room_count l := d.room_count l.book
  room_count_le l := d.room_count_le l.book
  room_answer name args kwargs l := d.room_answer name args kwargs l.book
  room_emit emission l := d.room_emit emission l.book
  room_pass waypoint l := l.book_pass d waypoint ▸ d.room_pass waypoint l.book

namespace Machine

def located (m : Machine β) : Machine (Located β) := { m with book := { book := m.book } }

def plain (m : Machine (Located β)) : Machine β := { m with book := m.book.book }

end Machine

def Exit.IsDepth : Exit → Prop
  | .failed (.limit (.depth _)) => True
  | _ => False

/-- A discipline that leaves the depth of lists to the evaluator. -/
structure Discipline.Shallow (d : Discipline β) : Prop where
  tick : ∀ book exit, (d.tick book).1 = .error exit → ¬ exit.IsDepth
  answer : ∀ name args kwargs book exit,
    (d.answer name args kwargs book).1 = .error exit → ¬ exit.IsDepth

/-- The machine is where it was in the source, and has come to these lists since. -/
structure Located.Moves (m m' : Machine (Located β)) (visited : List SourceList) : Prop where
  depth : m'.depth = m.depth
  above : m'.book.above = m.book.above
  visits : m'.book.visits = m.book.visits ++ visited

theorem Located.Moves.trans {m m' m'' : Machine (Located β)} {visited later : List SourceList}
    (first : Moves m m' visited) (second : Moves m' m'' later) : Moves m m'' (visited ++ later) where
  depth := second.depth.trans first.depth
  above := second.above.trans first.above
  visits := by rw [second.visits, first.visits, List.append_assoc]

structure Located.Leaves (d : Discipline β) {α : Type} (lists : List SourceList)
    (m : Machine (Located β)) (plain : Except Exit α × Machine β)
    (located : Except Exit α × Machine (Located β)) (visited : List SourceList) : Prop where
  erased : plain = (located.1, located.2.plain)
  moves : Moves m located.2 visited
  inside : visited ⊆ lists
  deep : d.Shallow → ∀ exit, located.1 = .error exit → exit.IsDepth →
    ∃ list, visited.getLast? = some list ∧ d.maxDepth.toNat ≤ list.above

theorem Located.Leaves.followed {d : Discipline β} {α : Type} {lists : List SourceList}
    {m m' : Machine (Located β)} {plain : Except Exit α × Machine β}
    {located : Except Exit α × Machine (Located β)} {visited later : List SourceList}
    (moves : Moves m m' visited) (inside : visited ⊆ lists)
    (left : Leaves d lists m' plain located later) :
    Leaves d lists m plain located (visited ++ later) where
  erased := left.erased
  moves := moves.trans left.moves
  inside := List.append_subset.mpr ⟨inside, left.inside⟩
  deep shallow exit failed level := by
    obtain ⟨list, last, tooDeep⟩ := left.deep shallow exit failed level
    exact ⟨list, by rw [List.getLast?_append, last, Option.some_or], tooDeep⟩

/-- Below a level of the source, a located computation goes as the plain one, comes back to its
place, comes to these lists only, and fails for their depth only at one that lies too deep. -/
def Locates (d : Discipline β) (above : Nat) (lists : List SourceList) {α : Type} (x : Eval β α)
    (y : Eval (Located β) α) : Prop :=
  ∀ m : Machine (Located β), m.book.above = above → m.depth ≤ above →
    ∃ visited, Located.Leaves d lists m (x m.plain) (y m) visited

namespace Locates

variable {d : Discipline β} {above : Nat} {lists : List SourceList} {α γ : Type}

theorem flat {x : Eval β α} {y : Eval (Located β) α}
    (erased : ∀ m, x m.plain = ((y m).1, (y m).2.plain)) (depth : ∀ m, (y m).2.depth = m.depth)
    (place : ∀ m, (y m).2.book.above = m.book.above ∧ (y m).2.book.visits = m.book.visits)
    (level : d.Shallow → ∀ m exit, (y m).1 = .error exit → ¬ exit.IsDepth) : Locates d above lists x y :=
  fun m _ _ => ⟨[], {
    erased := erased m
    moves := ⟨depth m, (place m).1, (place m).2.trans (List.append_nil _).symm⟩
    inside := List.nil_subset _
    deep := fun shallow exit failed deep => absurd deep (level shallow m exit failed) }⟩

theorem pure (a : α) : Locates d above lists (Pure.pure a) (Pure.pure a) :=
  flat (fun _ => rfl) (fun _ => rfl) (fun _ => ⟨rfl, rfl⟩) fun _ => nofun

theorem exit {exit : Exit} (level : ¬ exit.IsDepth) :
    Locates d above lists (Eval.exit exit : Eval β α) (Eval.exit exit) :=
  flat (fun _ => rfl) (fun _ => rfl) (fun _ => ⟨rfl, rfl⟩)
    fun _ _ _ failed => Except.error.inj failed ▸ level

theorem bind {x : Eval β α} {y : Eval (Located β) α} {f : α → Eval β γ}
    {g : α → Eval (Located β) γ} (first : Locates d above lists x y)
    (next : ∀ a, Locates d above lists (f a) (g a)) :
    Locates d above lists (x >>= f) (y >>= g) := by
  intro m here low
  obtain ⟨visited, erased, moves, inside, deep⟩ := first m here low
  rw [bind_apply, bind_apply, erased]
  generalize y m = after at *
  obtain ⟨result, m'⟩ := after
  cases result with
  | ok a =>
    obtain ⟨later, left⟩ := next a m' (moves.above.trans here) (Nat.le_trans (Nat.le_of_eq moves.depth) low)
    exact ⟨visited ++ later, left.followed moves inside⟩
  | error exit =>
    exact ⟨visited, rfl, moves, inside, fun shallow exit failed =>
      deep shallow exit (by cases failed; rfl)⟩

theorem handle {x : Eval β α} {y : Eval (Located β) α} {h : ScriptException → Eval β α}
    {k : ScriptException → Eval (Located β) α} (body : Locates d above lists x y)
    (caught : ∀ e, Locates d above lists (h e) (k e)) :
    Locates d above lists (Eval.handle x h) (Eval.handle y k) := by
  intro m here low
  obtain ⟨visited, erased, moves, inside, deep⟩ := body m here low
  unfold Eval.handle
  rw [erased]
  generalize y m = after at *
  obtain ⟨result, m'⟩ := after
  cases result with
  | ok a => exact ⟨visited, rfl, moves, inside, deep⟩
  | error exit =>
    cases exit with
    | raised e =>
      obtain ⟨later, left⟩ := caught e m' (moves.above.trans here) (Nat.le_trans (Nat.le_of_eq moves.depth) low)
      exact ⟨visited ++ later, left.followed moves inside⟩
    | suspended call => exact ⟨visited, rfl, moves, inside, deep⟩
    | failed fault => exact ⟨visited, rfl, moves, inside, deep⟩

theorem within {x : Eval β α} {y : Eval (Located β) α} (inner : Locates d (above + 1) lists x y) :
    Locates d above lists (Eval.within d x) (Eval.within d.located y) := by
  rintro m rfl low
  let deeper : Machine (Located β) := { m with book := m.book.pass d .entered }
  obtain ⟨visited, erased, moves, inside, deep⟩ := inner deeper rfl (Nat.le_succ_of_le low)
  refine ⟨visited, ?_, ⟨moves.depth, congrArg (· - 1) moves.above, moves.visits⟩, inside, deep⟩
  exact congrArg (fun after : Except Exit α × Machine β =>
    (after.1, { after.2 with book := d.pass .left after.2.book })) erased

/-- One level deeper in the source is at most one level deeper for the machine, so a list that the
machine refuses lies at least as deep. -/
theorem list {items : List Expr} {x : Eval β α} {y : Eval (Located β) α}
    (member : ⟨above, items⟩ ∈ lists) (inner : Locates d (above + 1) lists x y) :
    Locates d above lists
      (Eval.pass d (.reached items) >>= fun _ => Eval.nested d (Eval.within d x))
      (Eval.pass d.located (.reached items) >>= fun _ =>
        Eval.nested d.located (Eval.within d.located y)) := by
  rintro m rfl low
  let come : Machine (Located β) := { m with book := m.book.pass d (.reached items) }
  have here : [⟨m.book.above, items⟩] ⊆ lists :=
    List.cons_subset.mpr ⟨member, List.nil_subset _⟩
  show ∃ visited, Located.Leaves d lists m (Eval.nested d (Eval.within d x) come.plain)
    (Eval.nested d.located (Eval.within d.located y) come) visited
  by_cases fits : m.depth + 1 ≤ d.maxDepth.toNat
  · rw [nested_entered _ (m := come.plain) fits, nested_entered _ (d := d.located) (m := come) fits]
    let deeper : Machine (Located β) :=
      { come with depth := m.depth + 1, book := come.book.pass d .entered }
    obtain ⟨later, erased, moves, inside, deep⟩ := inner deeper rfl (Nat.succ_le_succ low)
    refine ⟨[⟨m.book.above, items⟩] ++ later, ?_, ⟨congrArg (· - 1) moves.depth,
      congrArg (· - 1) moves.above, moves.visits.trans (List.append_assoc _ _ _)⟩,
      List.append_subset.mpr ⟨here, inside⟩, fun shallow exit failed level => ?_⟩
    · exact congrArg (fun after : Except Exit α × Machine β => (after.1,
        { after.2 with depth := after.2.depth - 1, book := d.pass .left after.2.book })) erased
    · obtain ⟨list, last, tooDeep⟩ := deep shallow exit failed level
      exact ⟨list, by rw [List.getLast?_append, last, Option.some_or], tooDeep⟩
  · -- the machine is no deeper than the source, so the refused list lies deep enough there
    rw [nested_refused _ (m := come.plain) (Nat.lt_of_not_le fits),
      nested_refused _ (d := d.located) (m := come) (Nat.lt_of_not_le fits)]
    refine ⟨_, rfl, ⟨rfl, rfl, rfl⟩, here, fun _ _ _ _ => ⟨⟨m.book.above, items⟩, rfl, ?_⟩⟩
    exact Nat.le_trans (Nat.le_of_lt_succ (Nat.lt_of_not_le fits)) low

end Locates

theorem externals_located (d : Discipline β) (name : String) :
    d.externals.contains name = d.located.externals.contains name := rfl

theorem tick_located (d : Discipline β) (l : Located β) :
    d.located.tick l = ((d.tick l.book).1, { l with book := (d.tick l.book).2 }) := by
  unfold Discipline.tick
  simp only [Discipline.located]
  split <;> rfl

section Evaluation

theorem tick_locates (d : Discipline β) (above : Nat) (lists : List SourceList) :
    Locates d above lists (tick d) (tick d.located) := by
  have counted (m : Machine (Located β)) : tick d.located m =
      ((d.tick m.book.book).1, { m with book := { m.book with book := (d.tick m.book.book).2 } }) := by
    unfold tick onBook
    rw [tick_located]
  refine .flat (fun m => ?_) (fun m => ?_) (fun m => ?_) ?_
  · rw [counted]
    rfl
  · rw [counted]
  · rw [counted]
    exact ⟨rfl, rfl⟩
  · exact fun shallow m => counted m ▸ shallow.tick m.book.book

theorem loop_locates {d : Discipline β} {above : Nat} {lists : List SourceList}
    {condition body : Eval β Value} {conditionAt bodyAt : Eval (Located β) Value}
    (test : Locates d above lists condition conditionAt) (work : Locates d above lists body bodyAt) :
    Locates d above lists (loop d condition body) (loop d.located conditionAt bodyAt) := by
  have rounds (n : Nat) :
      Locates d above lists (repeatWhile condition body n) (repeatWhile conditionAt bodyAt n) := by
    induction n with
    | zero => exact .exit id
    | succ n ih =>
      refine .bind test fun value => ?_
      split
      · exact .bind work fun _ => ih
      · exact .pure _
  exact fun m here low => rounds _ m here low

def locating (d : Discipline β) (lists : List SourceList) (above : Nat) : Composition d d.located where
  Rel := Locates d above lists
  pure := .pure
  bind := .bind
  raised _ := .exit id
  malformed _ := .exit id
  handle := .handle
  tick := tick_locates d above lists
  emit _ := .flat (fun _ => rfl) (fun _ => rfl) (fun _ => ⟨rfl, rfl⟩) fun _ _ => nofun
  externals := externals_located d
  callExternal name args kwargs _ _ :=
    .flat (fun _ => rfl) (fun _ => rfl) (fun _ => ⟨rfl, rfl⟩)
      fun shallow m => shallow.answer name args kwargs m.book.book
  setVariable _ _ :=
    .flat (fun _ => rfl) (fun _ => rfl) (fun _ => ⟨rfl, rfl⟩) fun _ _ => nofun
  loop := loop_locates

variable {d : Discipline β} {lists : List SourceList} {above : Nat}

theorem readVariable_locates (name : String) :
    Locates d above lists (readVariable name) (readVariable name) := by
  intro m here low
  have same : m.plain.bindings = m.bindings := rfl
  unfold readVariable
  rw [same]
  cases m.bindings.lookup name with
  | some value => exact Locates.pure value m here low
  | none => exact Locates.exit id m here low

mutual

/-- An expression is located wherever it stands. A list is put together one level below. -/
theorem alike_located (above : Nat) : ∀ e : Expr, e.lists above ⊆ lists →
    (locating d lists above).Alike e e
  | .list items, within => by
    obtain ⟨member, inner⟩ := List.cons_subset.mp within
    have forms := allAlike_located (above + 1) items inner
    have inside : Locates d (above + 1) lists (evalList d items) (evalList d.located items) :=
      Composition.list forms
    have run := Locates.bind (tick_locates d above lists) fun _ => .list member inside
    refine .list run ⟨rfl, fun _ => run, fun e rest₁ rest₂ rest => ?_⟩
    cases forms with
    | nil => exact rest
    | cons _ others =>
      exact Composition.handler rfl rfl (Locates.within (Composition.body others _ .nil)) e rest
  | .symbol name, _ =>
    .atom _ rfl (Locates.bind (tick_locates d above lists) fun _ => readVariable_locates name)
  | .nil, _ | .boolean _, _ | .integer _, _ | .float _, _ | .string _, _ | .keyword _, _ =>
    .atom _ rfl (Locates.bind (tick_locates d above lists) fun _ => .pure _)

theorem allAlike_located (above : Nat) : ∀ forms : List Expr, listsOf above forms ⊆ lists →
    (locating d lists above).AllAlike forms forms
  | [], _ => .nil
  | form :: rest, within =>
    have ⟨first, others⟩ := List.append_subset.mp within
    .cons (alike_located above form first) (allAlike_located above rest others)

end

end Evaluation

theorem eval_depth (d : Discipline β) (e : Expr) (m : Machine β) :
    (e.eval d m).2.depth = m.depth := by
  obtain ⟨visited, left⟩ := (alike_located (d := d) m.depth e (List.Subset.refl _)).eval
    { m with book := { book := m.book, above := m.depth } } rfl (Nat.le_refl _)
  have erased : e.eval d m = _ := left.erased
  rw [erased]
  exact left.moves.depth

/-- What a located run of a whole source shows of the plain one. -/
theorem body_located (d : Discipline β) (forms : List Expr) (m : Machine β) (top : m.depth = 0) :
    let located := evalBody d.located 0 .nil forms m.located
    evalBody d 0 .nil forms m = (located.1, located.2.plain) ∧
      located.2.book.visits ⊆ listsOf 0 forms ∧
      (d.Shallow → ∀ exit, located.1 = .error exit → exit.IsDepth →
        ∃ list, located.2.book.visits.getLast? = some list ∧ d.maxDepth.toNat ≤ list.above) := by
  intro located
  have alike := allAlike_located (d := d) 0 forms (List.Subset.refl _)
  obtain ⟨visited, left⟩ := Composition.body alike 0 .nil m.located rfl (Nat.le_of_eq top)
  have visits : located.2.book.visits = visited := left.moves.visits
  exact ⟨left.erased, visits ▸ left.inside, visits ▸ left.deep⟩

end ResumableScript
