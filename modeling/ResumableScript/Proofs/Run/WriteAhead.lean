import Mathlib.Tactic.Basic
import ResumableScript.Proofs.Run.Conduct

/-! The history is written ahead of what it records. A run whose sink fails makes no request behind
the record that was not stored, and up to there the same requests as a run whose sink does not. -/
namespace ResumableScript

/-- The host with a sink that takes so many more records, and then none. -/
def Host.failing {σ : Type} (reason : String) (host : Host σ) : Host (Nat × σ) where
  append record
    | (0, s) => (.error reason, (0, s))
    | (n + 1, s) =>
      let (answer, s) := host.append record s
      (answer, (n, s))
  start payload s :=
    let (reply, rest) := host.start payload s.2
    (reply, (s.1, rest))
  resume payload s :=
    let (reply, rest) := host.resume payload s.2
    (reply, (s.1, rest))
  execute call s :=
    let (outcome, rest) := host.execute call s.2
    (outcome, (s.1, rest))
  poll s :=
    let (signal, rest) := host.poll s.2
    (signal, (s.1, rest))

theorem recordsOf_append (before after : List HostRequest) :
    recordsOf (before ++ after) = recordsOf before ++ recordsOf after := List.filterMap_append

theorem length_recordsOf_cons (request : HostRequest) (rest : List HostRequest) :
    (recordsOf (request :: rest)).length =
      (recordsOf rest).length + (recordsOf [request]).length := by
  cases request <;> rfl

theorem recordsOf_split {requests : List HostRequest} {i : Nat} {record : Record}
    (h : (recordsOf requests)[i]? = some record) :
    ∃ before after, requests = before ++ .append record :: after ∧ (recordsOf before).length = i := by
  induction requests generalizing i with
  | nil => cases h
  | cons request rest ih =>
    cases own : request.record? with
    | none =>
      have same : recordsOf (request :: rest) = recordsOf rest := List.filterMap_cons_none own
      rw [same] at h
      obtain ⟨before, after, rfl, count⟩ := ih h
      refine ⟨request :: before, after, rfl, ?_⟩
      rw [← count]
      exact congrArg List.length (List.filterMap_cons_none own)
    | some first =>
      have same : recordsOf (request :: rest) = first :: recordsOf rest :=
        List.filterMap_cons_some own
      rw [same] at h
      cases i with
      | zero =>
        cases request <;> cases own
        cases h
        exact ⟨[], rest, rfl, rfl⟩
      | succ i =>
        obtain ⟨before, after, rfl, count⟩ := ih h
        refine ⟨request :: before, after, rfl, ?_⟩
        rw [← count]
        exact congrArg List.length (List.filterMap_cons_some own)

namespace Plan

variable {α σ : Type} {host : Host σ} {p p' : Plan (Except RunError α)} {s s' : σ}
  {request : HostRequest}

theorem next_failing (reason : String) (h : p.next? host s = some (request, p', s')) (n : Nat) :
    p.next? (host.failing reason) (n + (recordsOf [request]).length, s) =
      some (request, p', (n, s')) := by
  cases p <;> cases h <;> rfl

/-- With a sink that fails, a plan goes as far as the record that is not stored, and no further. -/
theorem Obeys.failing {conduct : Conduct} {last : Option HostRequest} (meets : host.Meets conduct)
    (reason : String) (h : p.Obeys conduct last) {before after : List HostRequest} {record : Record}
    (split : p.trace host s = before ++ .append record :: after) :
    let start := ((recordsOf before).length, s)
    p.trace (host.failing reason) start = before ++ [.append record] ∧
      (p.run (host.failing reason) start).1 = .error (.history reason) := by
  induction before generalizing p last s with
  | nil =>
    cases p with
    | append record' next =>
      cases split
      obtain ⟨-, gives, -⟩ := h
      constructor
      · show _ :: (next (.error reason)).trace _ _ = _
        rw [gives]
        rfl
      · show ((next (.error reason)).run _ _).1 = _
        rw [gives]
        rfl
    | _ => cases split
  | cons head before ih =>
    obtain ⟨p', s', step, rest⟩ := next_of_trace split
    rcases (h.next meets step).2 with goesOn | givesUp
    · obtain ⟨trace, run⟩ := ih goesOn.1 rest
      have step' := next_failing reason step (recordsOf before).length
      dsimp only
      rw [length_recordsOf_cons, trace_next step', run_next step', trace, run]
      exact ⟨rfl, rfl⟩
    · rw [givesUp.trace s'] at rest
      cases before <;> cases rest

end Plan

/-- Nothing is relied on: whatever the steps reply, requests stand behind their records. -/
def Reliance.anything : Reliance := ⟨fun _ => True, fun _ => True, fun _ => True⟩

theorem Host.meets_anything {σ : Type} (host : Host σ) : host.Meets Reliance.anything.conduct where
  start _ _ _ _ := fun _ _ _ _ => ⟨trivial, trivial⟩
  resume _ _ _ _ := fun _ _ _ _ => ⟨trivial, trivial⟩

theorem Run.whole_anything (rounds : Nat) (tools : List ToolDefinition) (opening : Opening) :
    Plan.Obeys Reliance.anything.conduct (Run.whole rounds tools opening) none := by
  refine Run.whole_obeys rounds tools ?_
  cases opening with
  | fresh limits request => exact fun _ _ => trivial
  | again callId call => exact fun _ _ => trivial

theorem before_eq_of_getLast? {before : List HostRequest} {request : HostRequest}
    (h : before.getLast?.or none = some request) : ∃ earlier, before = earlier ++ [request] := by
  rw [Option.or_none] at h
  exact List.getLast?_eq_some_iff.mp h

/-- Whatever the host answers, a run whose sink fails has offered the records up to that one, has
otherwise requested what comes before that record, and returns the failure. So a tool is executed,
and a script is started, only right behind the record of it, which has been stored. -/
theorem history_failure_abandons {σ : Type} (host : Host σ) (rounds : Nat)
    (tools : List ToolDefinition) (opening : Opening) (s : σ) :
    let run := Run.whole rounds tools opening
    let requests := Plan.trace host run s
    (∀ reason (i : Nat) record, (recordsOf requests)[i]? = some record →
      let failing := host.failing reason
      ∃ before after, requests = before ++ .append record :: after ∧
        (recordsOf before).length = i ∧
        Plan.trace failing run (i, s) = before ++ [.append record] ∧
        recordsOf (Plan.trace failing run (i, s)) = (recordsOf requests).take (i + 1) ∧
        (Plan.run failing run (i, s)).1 = .error (.history reason)) ∧
    (∀ before call after, requests = before ++ .execute call :: after →
      ∃ earlier callId entry, before = earlier ++ [.append ⟨callId, .toolCall entry⟩] ∧
        entry.toolName = call.name ∧ entry.toolArgs = .object call.arguments ∧
        (host.append ⟨callId, .toolCall entry⟩ (Plan.after host run earlier.length s)).1 = .ok ()) ∧
    (∀ before payload after, requests = before ++ .start payload :: after →
      ∃ earlier callId code preamble, before = earlier ++ [.append ⟨callId, .start code preamble⟩] ∧
        payload.code = Preamble.join preamble code ∧
        (host.append ⟨callId, .start code preamble⟩
          (Plan.after host run earlier.length s)).1 = .ok ()) := by
  intro run requests
  have obeys : Plan.Obeys Reliance.anything.conduct run none := Run.whole_anything rounds tools opening
  have meets := host.meets_anything
  refine ⟨?failing, ?execute, ?start⟩
  case failing =>
    intro reason i record offered
    obtain ⟨before, after, split, rfl⟩ := recordsOf_split offered
    obtain ⟨trace, result⟩ := obeys.failing meets reason split
    refine ⟨before, after, split, rfl, trace, ?_, result⟩
    have records : recordsOf requests = recordsOf before ++ record :: recordsOf after := by
      rw [split, recordsOf_append]
      rfl
    rw [trace, records, recordsOf_append, List.take_length_add_append]
    rfl
  case execute =>
    intro before call after split
    -- only the record of its call may come right before an execution
    have allowed := obeys.allowed meets split
    generalize behind : before.getLast?.or none = last at allowed
    cases allowed with
    | @execute callId entry _ name arguments =>
      obtain ⟨earlier, rfl⟩ := before_eq_of_getLast? behind
      rw [List.append_assoc] at split
      exact ⟨earlier, callId, entry, rfl, name, arguments, obeys.stored meets split⟩
  case start =>
    intro before payload after split
    have allowed := obeys.allowed meets split
    generalize behind : before.getLast?.or none = last at allowed
    cases allowed with
    | @start callId code preamble _ joined _ =>
      obtain ⟨earlier, rfl⟩ := before_eq_of_getLast? behind
      rw [List.append_assoc] at split
      exact ⟨earlier, callId, code, preamble, rfl, joined, obeys.stored meets split⟩

/-- A sink that takes the start of a run and then fails: the call is not made. -/
theorem history_failure_abandons_oneCall :
    let run := Run.fresh 2 {} [{ name := "lookup" }]
      { callId := "7", code := "", preamble := some "" }
    let failing := oneCallHost.failing "full"
    ∃ record, (recordsOf (Plan.trace oneCallHost run ()))[1]? = some record ∧
      recordsOf (Plan.trace failing run (1, ())) =
        (recordsOf (Plan.trace oneCallHost run ())).take 2 ∧
      (Plan.run failing run (1, ())).1 = .error (.history "full") := by
  intro run failing
  obtain ⟨record, offered⟩ : ∃ record, (recordsOf (Plan.trace oneCallHost run ()))[1]? = some record :=
    ⟨_, rfl⟩
  obtain ⟨before, after, -, -, -, records, result⟩ :=
    (history_failure_abandons oneCallHost 2 [{ name := "lookup" }]
      (.fresh {} { callId := "7", code := "", preamble := some "" }) ()).1 "full" 1 record offered
  exact ⟨record, offered, records, result⟩

end ResumableScript
