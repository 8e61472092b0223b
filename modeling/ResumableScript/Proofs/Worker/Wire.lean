import Mathlib.Tactic.Basic
import ResumableScript.Proofs.Json.Fields
import ResumableScript.Proofs.Run.Recovery
import ResumableScript.Worker.Service

/-! Requests and responses are read back from the JSON that they are written as, checkpoints that
are not empty among it, and details of errors that are not `null`. -/
namespace ResumableScript
open Json (Fits ReadsAs bytes)

section Requests

theorem Emission.ofJson?_toJson (e : Emission) : Emission.ofJson? e.toJson = some e := by
  simp [Emission.ofJson?, Emission.toJson]

theorem Checkpoint.ofJson?_toJson {checkpoint : Checkpoint} (filled : checkpoint.bytes ≠ []) :
    Checkpoint.ofJson? checkpoint.toJson = some checkpoint := by
  simp [Checkpoint.ofJson?, Checkpoint.toJson, Checkpoint.decode_encode filled, Except.toOption]

def Progress.Filled : Progress → Prop
  | paused _ checkpoint => checkpoint.bytes ≠ []
  | finished _ => True

theorem Progress.ofJson?_toJson {progress : Progress} (filled : progress.Filled) :
    Progress.ofJson? progress.toJson = some progress := by
  cases progress with
  | finished output => simp [Progress.ofJson?, Progress.toJson]
  | paused call checkpoint =>
    have back := Checkpoint.ofJson?_toJson filled
    simp [Progress.ofJson?, Progress.toJson, back]

theorem StartPayload.ofJson?_toJson (payload : StartPayload) :
    StartPayload.ofJson? payload.toJson = some payload := by
  simp [StartPayload.ofJson?, StartPayload.toJson, Limits.ofJson?_toJson]

def ResumePayload.Filled (payload : ResumePayload) : Prop := payload.checkpoint.bytes ≠ []

theorem ResumePayload.ofJson?_toJson {payload : ResumePayload} (filled : payload.Filled) :
    ResumePayload.ofJson? payload.toJson = some payload := by
  have back := Checkpoint.ofJson?_toJson filled
  simp [ResumePayload.ofJson?, ResumePayload.toJson, back, Instruction.ofJson?_toJson]

def WorkerRequest.Filled : WorkerRequest → Prop
  | start _ _ => True
  | resume _ payload => payload.Filled

theorem WorkerRequest.ofJson?_toJson {request : WorkerRequest} (filled : request.Filled) :
    WorkerRequest.ofJson? request.toJson = some request := by
  cases request with
  | start id payload =>
    have back := StartPayload.ofJson?_toJson payload
    simp [WorkerRequest.ofJson?, WorkerRequest.toJson, back]
  | resume id payload =>
    have back := ResumePayload.ofJson?_toJson filled
    simp [WorkerRequest.ofJson?, WorkerRequest.toJson, back]

/-- The worker takes the line of a request for that request. -/
theorem Service.handleLine_line (engine : Engine) {request : WorkerRequest}
    (filled : request.Filled) (faithful : request.toJson.Faithful) :
    handleLine engine request.line = some (handleRequest engine request) := by
  have id : (request.toJson.get? "id").bind Json.asString? = some request.id := by
    cases request <;> simp [WorkerRequest.toJson, Json.get?, WorkerRequest.id]
  unfold handleLine WorkerRequest.line
  rw [(Json.faithful_iff.mp faithful).parse_compact]
  dsimp only
  rw [id, WorkerRequest.read, WorkerRequest.ofJson?_toJson filled]

theorem Checkpoint.ofJson?_of_fits (v : Json) (fits : Fits Checkpoint.shape v) :
    ∃ checkpoint, Checkpoint.ofJson? v = some checkpoint := by
  unfold Checkpoint.shape at fits
  cases v with
  | string text =>
    rw [Fits, Json.misfit?, Json.Shape.refusal?] at fits
    cases decoded : Checkpoint.decode text with
    | ok checkpoint => exact ⟨checkpoint, by simp [Checkpoint.ofJson?, decoded, Except.toOption]⟩
    | error fault => simp [decoded] at fits
  | array | object =>
    simp [Fits, Json.misfit?, Json.Shape.takesArray, Json.Shape.takesObject,
      Json.Shape.alternatives?] at fits
  | null | bool | number => simp [Fits, Json.misfit?, Json.Shape.refusal?, Json.Shape.expected?] at fits

theorem StartPayload.ofJson?_of_fits (v : Json) (fits : Fits StartPayload.shape v) :
    ∃ payload, StartPayload.ofJson? v = some payload := by
  obtain ⟨fields, found, fit⟩ := Json.fields?_of_fits fits
  have found : Json.fields? ["code", "external_functions", "limits"] v = some fields := found
  obtain ⟨code, code_eq⟩ := fit.required "code" rfl (fun _ => rfl) Json.asString?_of_fits
  obtain ⟨externals, externals_eq⟩ := fit.defaulted "external_functions" [] rfl
    (Json.listOf?_of_fits Json.asString?_of_fits)
  obtain ⟨limits, limits_eq⟩ := fit.defaulted "limits" {} rfl Limits.ofJson?_of_fits
  refine ⟨⟨code, externals, limits⟩, ?_⟩
  simp only [StartPayload.ofJson?, found, Option.bind_eq_bind, Option.bind_some]
  rw [code_eq, externals_eq, limits_eq]
  rfl

theorem ResumePayload.ofJson?_of_fits (v : Json) (fits : Fits ResumePayload.shape v) :
    ∃ payload, ResumePayload.ofJson? v = some payload := by
  obtain ⟨fields, found, fit⟩ := Json.fields?_of_fits fits
  have found : Json.fields? ["checkpoint", "instruction"] v = some fields := found
  obtain ⟨checkpoint, checkpoint_eq⟩ :=
    fit.required "checkpoint" rfl (fun _ => rfl) Checkpoint.ofJson?_of_fits
  obtain ⟨instruction, instruction_eq⟩ :=
    fit.required "instruction" rfl (fun _ => rfl) Instruction.ofJson?_of_fits
  refine ⟨⟨checkpoint, instruction⟩, ?_⟩
  simp only [ResumePayload.ofJson?, found, Option.bind_eq_bind, Option.bind_some]
  rw [checkpoint_eq, instruction_eq]
  rfl

theorem WorkerRequest.ofJson?_of_misfit? {json : Json} (none : WorkerRequest.misfit? json = none) :
    ∃ request, WorkerRequest.ofJson? json = some request := by
  unfold WorkerRequest.misfit? at none
  split at none
  · cases none
  · next kind found =>
    split at none
    · cases none
    · next shape named =>
      obtain ⟨members, rfl⟩ : ∃ members, json = .object members := by
        cases json with
        | object members => exact ⟨members, rfl⟩
        | _ => cases found
      have tagged : Json.tagged? "kind" (.object members) = some (kind, .object members) := by
        simp [show members.lookup "kind" = some (.string kind) from found, Json.asString?]
      unfold WorkerRequest.shape? at named
      unfold WorkerRequest.ofJson?
      rw [tagged]
      split at named
      · cases named
        obtain ⟨fields, whole, fit⟩ := Json.fields?_of_fits none
        have whole : Json.fields? ["id", "payload"] (.object members) = some fields := whole
        obtain ⟨id, id_eq⟩ := fit.required "id" rfl (fun _ => rfl) Json.asString?_of_fits
        obtain ⟨payload, payload_eq⟩ :=
          fit.required "payload" rfl (fun _ => rfl) StartPayload.ofJson?_of_fits
        refine ⟨.start id payload, ?_⟩
        simp only [whole, Option.bind_eq_bind, Option.bind_some]
        rw [id_eq, payload_eq]
        rfl
      · cases named
        obtain ⟨fields, whole, fit⟩ := Json.fields?_of_fits none
        have whole : Json.fields? ["id", "payload"] (.object members) = some fields := whole
        obtain ⟨id, id_eq⟩ := fit.required "id" rfl (fun _ => rfl) Json.asString?_of_fits
        obtain ⟨payload, payload_eq⟩ :=
          fit.required "payload" rfl (fun _ => rfl) ResumePayload.ofJson?_of_fits
        refine ⟨.resume id payload, ?_⟩
        simp only [whole, Option.bind_eq_bind, Option.bind_some]
        rw [id_eq, payload_eq]
        rfl
      · cases named
  · cases none

/-- A request that cannot be read has a fault, which is the one that is told. -/
theorem WorkerRequest.read_error {json : Json} {fault : Json.Fault}
    (unread : WorkerRequest.read json = .error fault) : WorkerRequest.misfit? json = some fault := by
  unfold WorkerRequest.read at unread
  split at unread
  · cases unread
  · next none =>
    cases told : WorkerRequest.misfit? json with
    | none =>
      obtain ⟨request, found⟩ := WorkerRequest.ofJson?_of_misfit? told
      rw [none] at found
      cases found
    | some own =>
      rw [told] at unread
      cases unread
      rfl

end Requests

section Responses

def SerializedError.Detailed (e : SerializedError) : Prop := e.details ≠ some .null

theorem SerializedError.ofJson?_toJson {e : SerializedError} (detailed : e.Detailed) :
    SerializedError.ofJson? e.toJson = some e := by
  obtain ⟨kind, message, details⟩ := e
  cases details with
  | none =>
    simp [SerializedError.ofJson?, SerializedError.toJson, Json.optionalMember]
  | some details =>
    have there : details.isNull = false := by
      cases details with
      | null => exact absurd rfl detailed
      | _ => rfl
    simp [SerializedError.ofJson?, SerializedError.toJson, Json.optionalMember, there]

structure WorkerResponse.Filled (response : WorkerResponse) : Prop where
  progress : ∀ progress ∈ response.progress, progress.Filled
  error : ∀ e ∈ response.error, e.Detailed

theorem WorkerResponse.ofJson?_toJson {response : WorkerResponse} (filled : response.Filled) :
    WorkerResponse.ofJson? response.toJson = some response := by
  obtain ⟨id, ok, progress, printOutput, error⟩ := response
  have prints := Json.listOf?_map printOutput Emission.ofJson?_toJson
  have progressed p (there : progress = some p) : p.toJson.isNull = false ∧
      Progress.ofJson? p.toJson = some p := by
    refine ⟨?_, Progress.ofJson?_toJson (filled.progress p there)⟩
    cases p <;> rfl
  have failed e (there : error = some e) : e.toJson.isNull = false ∧
      SerializedError.ofJson? e.toJson = some e :=
    ⟨rfl, SerializedError.ofJson?_toJson (filled.error e there)⟩
  cases progress <;> cases error <;>
    simp [WorkerResponse.ofJson?, WorkerResponse.toJson, Json.optionalMember, prints,
      progressed, failed]

theorem Json.forall_mem_optionalMember {key : String} {value : Option Json}
    {P : String × Json → Prop} :
    (∀ member ∈ Json.optionalMember key value, P member) ↔ ∀ v ∈ value, P (key, v) := by
  cases value <;> simp [Json.optionalMember]

variable {levels : Nat}

theorem Emission.reads {e : Emission} (stored : e.toJson.Storable levels) :
    ReadsAs Emission.shape levels (bytes e.toJson) e.toJson := by
  unfold Emission.toJson at stored
  cases stored with
  | object levels _ distinct inner =>
    apply Json.object_reads rfl rfl distinct
    simp only [List.forall_mem_cons] at inner ⊢
    obtain ⟨values, -⟩ := inner
    refine ⟨⟨_, rfl, ?_⟩, ⟨_, rfl, Json.anyText_reads _⟩, nofun⟩
    cases values with
    | array levels _ items =>
      apply Json.array_reads rfl (fun _ => rfl)
      intro v there
      exact (items v there).reads

theorem SerializedError.reads {e : SerializedError} (stored : e.toJson.Storable levels) :
    ReadsAs (.orNull SerializedError.shape) levels (bytes e.toJson) e.toJson := by
  unfold SerializedError.toJson at stored
  cases stored with
  | object levels _ distinct inner =>
    apply Json.object_reads rfl rfl distinct
    simp only [List.forall_mem_append, List.forall_mem_cons, Json.forall_mem_optionalMember]
      at inner ⊢
    obtain ⟨-, details⟩ := inner
    refine ⟨⟨⟨_, rfl, Json.anyText_reads _⟩, ⟨_, rfl, Json.anyText_reads _⟩, nofun⟩, ?_⟩
    intro v there
    exact ⟨_, rfl, (details v there).reads⟩

theorem WorkerResponse.reads {response : WorkerResponse} (stored : response.toJson.Storable levels) :
    ReadsAs WorkerResponse.shape levels (bytes response.toJson) response.toJson := by
  unfold WorkerResponse.toJson at stored
  cases stored with
  | object levels _ distinct inner =>
    apply Json.object_reads rfl rfl distinct
    simp only [List.forall_mem_append, List.forall_mem_cons, Json.forall_mem_optionalMember]
      at inner ⊢
    obtain ⟨⟨⟨⟨-, ok, -⟩, progress⟩, prints, -⟩, error⟩ := inner
    refine ⟨⟨⟨⟨⟨_, rfl, Json.anyText_reads _⟩, ⟨_, rfl, ok.reads⟩, nofun⟩, ?progress⟩,
      ⟨_, rfl, ?prints⟩, nofun⟩, ?error⟩
    case progress =>
      intro v there
      exact ⟨_, rfl, (progress v there).reads⟩
    case prints =>
      cases prints with
      | array levels _ items =>
        apply Json.array_reads rfl (fun _ => rfl)
        intro v there
        have stored := items v there
        obtain ⟨e, -, rfl⟩ := List.mem_map.mp there
        exact Emission.reads stored
    case error =>
      intro v there
      have stored := error v there
      obtain ⟨e, -, rfl⟩ := Option.map_eq_some_iff.mp there
      exact ⟨_, rfl, SerializedError.reads stored⟩

theorem WorkerResponse.ofLine?_line {response : WorkerResponse} (filled : response.Filled)
    (faithful : response.toJson.Faithful) :
    WorkerResponse.ofLine? response.line = some response := by
  have read : Json.parseBytes WorkerResponse.shape (Text.utf8 response.line) = .ok response.toJson :=
    (WorkerResponse.reads (Json.faithful_iff.mp faithful)).parseBytes (Nat.le_refl _)
  unfold WorkerResponse.ofLine?
  rw [read]
  exact WorkerResponse.ofJson?_toJson filled

end Responses

end ResumableScript
