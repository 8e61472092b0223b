import Mathlib.Tactic.Basic
import ResumableScript.Proofs.Engine.Boundary
import ResumableScript.Proofs.Run.Conduct
import ResumableScript.Worker.Service

/-! The boundary of a run. Over the script engine, a run only ever calls tools from its list: what a
script may call out to is what the run has offered, from its first step to its last. -/
namespace ResumableScript

/-- A host that gets its replies from script engines, if it gets any. -/
structure Host.OnEngine {σ : Type} (host : Host σ) : Prop where
  start : ∀ payload s reply, (host.start payload s).1 = .ok reply →
    ∃ (engine : Engine) (id : String), engine.reply (.start id payload) = .ok reply
  resume : ∀ payload s reply, (host.resume payload s).1 = .ok reply →
    ∃ (engine : Engine) (id : String), engine.reply (.resume id payload) = .ok reply

/-- A run that has offered these functions is called only on them. -/
def Reliance.within (names : List String) : Reliance where
  opened payload := payload.externals = names
  offered call := call.Offered names
  kept checkpoint := checkpoint.Seals names

theorem Engine.reply_paused {engine : Engine} {request : WorkerRequest} {names : List String}
    (confined : (engine.step request).Confined names) {call : ExternalCall} {checkpoint : Checkpoint}
    {prints : List Emission}
    (replied : engine.reply request = .ok ⟨.paused call checkpoint, prints⟩) :
    call.Offered names ∧ checkpoint.Seals names := by
  unfold Engine.reply at replied
  dsimp only at replied
  cases outcome : (engine.step request).outcome with
  | error fault =>
    rw [outcome] at replied
    cases replied
  | ok progress =>
    rw [outcome] at replied
    cases replied
    exact confined call checkpoint outcome

theorem Host.OnEngine.meets {σ : Type} {host : Host σ} (onEngine : host.OnEngine)
    (names : List String) : host.Meets (Reliance.within names).conduct where
  start payload s last allowed := by
    intro call checkpoint prints replied
    obtain ⟨engine, id, same⟩ := onEngine.start payload s _ replied
    cases allowed with
    | start joined opened =>
      have opened : payload.externals = names := opened
      refine Engine.reply_paused ?_ same
      rw [← opened]
      exact execute_confined engine _
  resume payload s last allowed := by
    intro call checkpoint prints replied
    obtain ⟨engine, id, same⟩ := onEngine.resume payload s _ replied
    cases allowed with
    | resume kept => exact Engine.reply_paused (resumeRun_confined engine kept _) same

theorem ofCall_known {definitions : List ToolDefinition} {call : ExternalCall}
    (known : call.functionName ∈ definitions.map (·.name)) (name : String) :
    Pending.ofCall definitions call ≠ .unknown name := by
  obtain ⟨tool, member, same⟩ := List.mem_map.mp known
  unfold Pending.ofCall
  cases found : definitions.find? (·.name == call.functionName) with
  | some tool => nofun
  | none =>
    have other := List.find?_eq_none.mp found tool member
    simp [same] at other

section Requests

variable {σ : Type} {host : Host σ} {names : List String} {p : Plan (Except RunError RunResult)} {s : σ}

theorem toolCall_within (meets : host.Meets (Reliance.within names).conduct)
    (obeys : p.Obeys (Reliance.within names).conduct none) {callId : String} {entry : CallEntry}
    (recorded : .append ⟨callId, .toolCall entry⟩ ∈ p.trace host s) : entry.toolName ∈ names := by
  obtain ⟨before, after, split⟩ := List.append_of_mem recorded
  have allowed := obeys.allowed meets split
  generalize before.getLast?.or none = last at allowed
  cases allowed with
  | @toolCall _ _ _ call offered name =>
    rw [name]
    exact offered.1
  | append noCall => cases noCall

theorem execute_within (meets : host.Meets (Reliance.within names).conduct)
    (obeys : p.Obeys (Reliance.within names).conduct none) {call : Invocation}
    (executed : .execute call ∈ p.trace host s) : call.name ∈ names := by
  obtain ⟨before, after, split⟩ := List.append_of_mem executed
  have allowed := obeys.allowed meets split
  generalize behind : before.getLast?.or none = last at allowed
  cases allowed with
  | @execute callId entry _ name arguments =>
    have recorded : .append ⟨callId, .toolCall entry⟩ ∈ p.trace host s := by
      rw [Option.or_none] at behind
      rw [split]
      exact List.mem_append_left _ (List.mem_of_getLast? behind)
    rw [← name]
    exact toolCall_within meets obeys recorded

end Requests

/-- A script pauses only on the functions it was created with, and on no special form, whatever it
is answered. A run over the script engine therefore finds the tool of every call that it records,
and hands its executor only calls of the tools in its list. -/
theorem sandbox_boundary (source : String) (externals : List String) (limits : Limits)
    (tools : List ToolDefinition) :
    (∀ step, Engine.Reached source externals limits step → ∀ call checkpoint,
      step.outcome = .ok (.paused call checkpoint) →
      call.functionName ∈ externals ∧ ∀ form : SpecialForm, call.functionName ≠ form.name) ∧
    ∀ (σ : Type) (host : Host σ), host.OnEngine → ∀ rounds limits request s,
      let definitions := RuntimeTool.extend tools
      let requests := Plan.trace host (Run.fresh rounds limits tools request) s
      (∀ callId entry, .append ⟨callId, .toolCall entry⟩ ∈ requests →
        ∀ call : ExternalCall, call.functionName = entry.toolName →
        ∀ name, Pending.ofCall definitions call ≠ .unknown name) ∧
      ∀ call, .execute call ∈ requests → call.name ∈ definitions.map (·.name) := by
  constructor
  · intro step reached call checkpoint paused
    exact (reached.confined call checkpoint paused).1
  · intro σ host onEngine rounds limits request s definitions requests
    have meets := onEngine.meets (definitions.map (·.name))
    have obeys := Run.whole_obeys rounds tools
      (show Run.Opening.Relied (Reliance.within (definitions.map (·.name))) tools
        (.fresh limits request) from fun _ externals => externals)
    constructor
    · intro callId entry recorded call same name
      refine ofCall_known ?_ name
      rw [same]
      exact toolCall_within meets obeys recorded
    · intro call executed
      exact execute_within meets obeys executed

def engineHost : Host Unit where
  append _ s := (.ok (), s)
  start payload s := ((Engine.steady 1).reply (.start "" payload), s)
  resume payload s := ((Engine.steady 1).reply (.resume "" payload), s)
  execute _ s := (.ok (.ofText "found"), s)
  poll s := (none, s)

theorem engineHost_onEngine : engineHost.OnEngine where
  start _ _ _ replied := ⟨_, _, replied⟩
  resume _ _ _ replied := ⟨_, _, replied⟩

/-- One call of a tool, as the condition of a special form. -/
theorem sandbox_boundary_oneCall :
    let tools : List ToolDefinition := [{ name := "lookup" }]
    let run := Run.fresh 1 {} tools
      { callId := "7", code := "(if (lookup) (len \"ab\"))", preamble := some "" }
    ∃ call, .execute call ∈ Plan.trace engineHost run () ∧
      call.name ∈ (RuntimeTool.extend tools).map (·.name) := by
  intro tools run
  have executes : (Plan.trace engineHost run ()).any (fun
      | .execute _ => true
      | _ => false) = true := by decide +kernel
  obtain ⟨request, member, executed⟩ := List.any_eq_true.mp executes
  cases request with
  | execute call =>
    have within := ((sandbox_boundary "" [] {} tools).2 Unit engineHost engineHost_onEngine 1 {}
      { callId := "7", code := "(if (lookup) (len \"ab\"))", preamble := some "" } ()).2
    exact ⟨call, member, within call member⟩
  | _ => cases executed

end ResumableScript
