import Mathlib.Tactic.Basic
import ResumableScript.Engine.Checkpoint
import ResumableScript.Proofs.Json.Fitting

/-! A checkpoint gives back the continuation that it was made of. There are two halves to it: each
record is read off the JSON value that it is written as, and the text of that value is read for the
record's shape as it stands. -/
namespace ResumableScript
open Json (Fits ReadsAs bytes)

section Records

theorem Json.asUInt64?_ofUInt64 (n : UInt64) : Json.asUInt64? (Json.ofUInt64 n) = some n := by
  unfold Json.ofUInt64 Json.asUInt64?
  dsimp only
  rw [if_pos (Int.natCast_nonneg _), Int.toNat_natCast, UInt64.ofNat_toNat]

theorem Json.listOf?_map {α : Type} {read : Json → Option α} {write : α → Json} (items : List α)
    (back : ∀ item, read (write item) = some item) :
    Json.listOf? read (.array (items.map write)) = some items := by
  show (items.map write).mapM read = some items
  induction items with
  | nil => rfl
  | cons item rest ih => rw [List.map_cons, List.mapM_cons, back, ih]; rfl

theorem Limits.ofJson?_toJson (limits : Limits) : Limits.ofJson? limits.toJson = some limits := by
  have steps : Limits.ofJson? limits.toJson = (do
      let maxSteps ← Json.asUInt64? (Json.ofUInt64 limits.maxSteps)
      let maxDepth ← Json.asUInt64? (Json.ofUInt64 limits.maxDepth)
      let maxDurationMs ← Json.asUInt64? (Json.ofUInt64 limits.maxDurationMs)
      return ⟨maxSteps, maxDepth, maxDurationMs⟩) := rfl
  rw [steps]
  simp only [Json.asUInt64?_ofUInt64]
  rfl

theorem Instruction.ofJson?_toJson (instruction : Instruction) :
    Instruction.ofJson? instruction.toJson = some instruction := by
  cases instruction <;> rfl

theorem JournalEntry.ofJson?_toJson (entry : JournalEntry) :
    JournalEntry.ofJson? entry.toJson = some entry := by
  have fields : JournalEntry.ofJson? entry.toJson =
      (Instruction.ofJson? entry.instruction.toJson).bind
        fun instruction => some ⟨entry.functionName, instruction⟩ := rfl
  rw [fields, Instruction.ofJson?_toJson]
  rfl

theorem Continuation.ofJson?_toJson (c : Continuation) :
    Continuation.ofJson? c.toJson = some c := by
  obtain ⟨source, externals, limits, journal, pending, printsDelivered⟩ := c
  have fields : Continuation.ofJson?
      (Continuation.mk source externals limits journal pending printsDelivered).toJson = (do
      let externals ← Json.listOf? Json.asString? (Json.ofStrings externals)
      let limits ← Limits.ofJson? limits.toJson
      let journal ← Json.listOf? JournalEntry.ofJson? (.array (journal.map JournalEntry.toJson))
      let printsDelivered ← Json.asUInt64? (Json.ofUInt64 printsDelivered)
      return ⟨source, externals, limits, journal, pending, printsDelivered⟩) := by
    cases pending <;> rfl
  have names : Json.listOf? Json.asString? (Json.ofStrings externals) = some externals :=
    Json.listOf?_map externals fun _ => rfl
  rw [fields, names, Limits.ofJson?_toJson, Json.asUInt64?_ofUInt64,
    Json.listOf?_map journal JournalEntry.ofJson?_toJson]
  rfl

end Records

section Shapes

theorem Limits.ofJson?_of_fits (v : Json) (fits : Fits Limits.shape v) :
    ∃ limits, Limits.ofJson? v = some limits := by
  let default : Limits := {}
  obtain ⟨fields, found, fit⟩ := Json.fields?_of_fits fits
  have found : Json.fields? fieldNames v = some fields := found
  obtain ⟨maxSteps, steps⟩ := fit.defaulted "max_steps" default.maxSteps rfl Json.asUInt64?_of_fits
  obtain ⟨maxDepth, depth⟩ := fit.defaulted "max_depth" default.maxDepth rfl Json.asUInt64?_of_fits
  obtain ⟨maxDurationMs, duration⟩ :=
    fit.defaulted "max_duration_ms" default.maxDurationMs rfl Json.asUInt64?_of_fits
  refine ⟨⟨maxSteps, maxDepth, maxDurationMs⟩, ?_⟩
  simp only [Limits.ofJson?, found, Option.bind_eq_bind, Option.bind_some]
  rw [steps, depth, duration]
  rfl

theorem ScriptException.ofJson?_of_fits (v : Json) (fits : Fits ScriptException.shape v) :
    ∃ e, ScriptException.ofJson? v = some e := by
  obtain ⟨fields, found, fit⟩ := Json.fields?_of_fits fits
  have found : Json.fields? fieldNames v = some fields := found
  obtain ⟨kind, named⟩ := fit.required "kind" rfl (fun _ => rfl) Json.asString?_of_fits
  obtain ⟨message, told⟩ := fit.required "message" rfl (fun _ => rfl) Json.asString?_of_fits
  refine ⟨⟨kind, message⟩, ?_⟩
  simp only [ScriptException.ofJson?, found, Option.bind_eq_bind, Option.bind_some]
  rw [named, told]
  rfl

theorem Instruction.ofJson?_of_fits (v : Json) (fits : Fits Instruction.shape v) :
    ∃ instruction, Instruction.ofJson? v = some instruction := by
  obtain ⟨name, content, inner, alone, there, fits⟩ := Json.alternative?_of_fits fits
  rw [Instruction.ofJson?, alone]
  by_cases returned : name = "return_value"
  · subst returned
    exact ⟨.returnValue content, rfl⟩
  · by_cases raised : name = "exception"
    · subst raised
      cases there
      obtain ⟨e, back⟩ := ScriptException.ofJson?_of_fits content fits
      exact ⟨.exception e, by simp [back]⟩
    · simp [List.lookup_cons, beq_false_of_ne returned, beq_false_of_ne raised] at there

theorem JournalEntry.ofJson?_of_fits (v : Json) (fits : Fits JournalEntry.shape v) :
    ∃ entry, JournalEntry.ofJson? v = some entry := by
  obtain ⟨fields, found, fit⟩ := Json.fields?_of_fits fits
  have found : Json.fields? fieldNames v = some fields := found
  obtain ⟨functionName, named⟩ := fit.required "function_name" rfl (fun _ => rfl) Json.asString?_of_fits
  obtain ⟨instruction, answered⟩ :=
    fit.required "instruction" rfl (fun _ => rfl) Instruction.ofJson?_of_fits
  refine ⟨⟨functionName, instruction⟩, ?_⟩
  simp only [JournalEntry.ofJson?, found, Option.bind_eq_bind, Option.bind_some]
  rw [named, answered]
  rfl

theorem Continuation.ofJson?_of_fits {v : Json} (fits : Fits Continuation.shape v) :
    ∃ c, Continuation.ofJson? v = some c := by
  obtain ⟨fields, found, fit⟩ := Json.fields?_of_fits fits
  have found : Json.fields? fieldNames v = some fields := found
  obtain ⟨source, source_eq⟩ := fit.required "source" rfl (fun _ => rfl) Json.asString?_of_fits
  obtain ⟨externals, externals_eq⟩ :=
    fit.required "external_functions" rfl (fun _ => rfl)
      (Json.listOf?_of_fits Json.asString?_of_fits)
  obtain ⟨limits, limits_eq⟩ := fit.required "limits" rfl (fun _ => rfl) Limits.ofJson?_of_fits
  obtain ⟨journal, journal_eq⟩ :=
    fit.required "journal" rfl (fun _ => rfl) (Json.listOf?_of_fits JournalEntry.ofJson?_of_fits)
  obtain ⟨pending, pending_eq⟩ := fit.nullable "pending" rfl Json.orNull_of_fits
  obtain ⟨delivered, delivered_eq⟩ :=
    fit.required "prints_delivered" rfl (fun _ => rfl) Json.asUInt64?_of_fits
  refine ⟨⟨source, externals, limits, journal, pending, delivered⟩, ?_⟩
  simp only [Continuation.ofJson?, found, Option.bind_eq_bind, Option.bind_some]
  rw [source_eq, externals_eq, limits_eq, journal_eq, pending_eq, delivered_eq]
  rfl

theorem Continuation.ofBody_ok {bytes : List UInt8} {c : Continuation} :
    Continuation.ofBody bytes = .ok c ↔
      ∃ v, Json.parseBytes Continuation.shape bytes = .ok v ∧ Continuation.ofJson? v = some c := by
  unfold Continuation.ofBody
  cases parsed : Json.parseBytes Continuation.shape bytes with
  | error e => simp
  | ok v =>
    obtain ⟨found, back⟩ := Continuation.ofJson?_of_fits (Json.parseBytes_fits parsed)
    simp [back]

end Shapes

section Texts

variable {levels : Nat}

/-- An answer that a checkpoint can keep: a returned value may nest so many levels. -/
def Instruction.Storable (levels : Nat) : Instruction → Prop
  | returnValue value => value.Storable levels
  | exception _ => True

theorem Json.anyText_reads (text : String) :
    ReadsAs .anyText levels (bytes (.string text)) (.string text) :=
  (Json.string_reads text).reads rfl

theorem Json.ofUInt64_reads (label : String) (n : UInt64) :
    ReadsAs (.whole label) levels (bytes (Json.ofUInt64 n)) (Json.ofUInt64 n) :=
  (Json.integer_reads n.toNat _).reads (if_pos (Int.natCast_nonneg _))

theorem Json.ofStrings_reads (texts : List String) :
    ReadsAs (.each .anyText) (levels + 1) (bytes (Json.ofStrings texts)) (Json.ofStrings texts) := by
  refine Json.array_reads rfl (fun _ => rfl) fun v there => ?_
  obtain ⟨text, -, rfl⟩ := List.mem_map.mp there
  exact Json.anyText_reads text

theorem pending_reads (pending : Option String) :
    let written := (pending.map Json.string).getD .null
    ReadsAs (.orNull .anyText) levels (bytes written) written := by
  cases pending with
  | none => exact Json.null_reads.reads rfl
  | some text => exact (Json.string_reads text).reads rfl

theorem Limits.reads (limits : Limits) :
    ReadsAs Limits.shape (levels + 1) (bytes limits.toJson) limits.toJson := by
  refine Json.object_reads rfl rfl (show Limits.fieldNames.Nodup by decide) ?_
  simp only [List.forall_mem_cons]
  exact ⟨⟨_, rfl, Json.ofUInt64_reads "u64" _⟩, ⟨_, rfl, Json.ofUInt64_reads "usize" _⟩,
    ⟨_, rfl, Json.ofUInt64_reads "u64" _⟩, nofun⟩

theorem ScriptException.reads (e : ScriptException) :
    ReadsAs ScriptException.shape (levels + 1) (bytes e.toJson) e.toJson := by
  refine Json.object_reads rfl rfl (show ScriptException.fieldNames.Nodup by decide) ?_
  simp only [List.forall_mem_cons]
  exact ⟨⟨_, rfl, Json.anyText_reads _⟩, ⟨_, rfl, Json.anyText_reads _⟩, nofun⟩

theorem Instruction.reads {instruction : Instruction} (h : instruction.Storable (levels + 1)) :
    ReadsAs Instruction.shape (levels + 2) (bytes instruction.toJson) instruction.toJson := by
  cases instruction with
  | returnValue value => exact Json.variant_reads rfl (Json.Storable.reads h)
  | exception e => exact Json.variant_reads rfl e.reads

theorem JournalEntry.reads {entry : JournalEntry} (h : entry.instruction.Storable (levels + 1)) :
    ReadsAs JournalEntry.shape (levels + 3) (bytes entry.toJson) entry.toJson := by
  refine Json.object_reads rfl rfl (show JournalEntry.fieldNames.Nodup by decide) ?_
  simp only [List.forall_mem_cons]
  exact ⟨⟨_, rfl, Json.anyText_reads _⟩, ⟨_, rfl, Instruction.reads h⟩, nofun⟩

/-- The body of a checkpoint nests four levels around each returned value. -/
theorem Continuation.reads {c : Continuation}
    (h : ∀ entry ∈ c.journal, entry.instruction.Storable (levels + 1)) :
    ReadsAs Continuation.shape (levels + 5) (bytes c.toJson) c.toJson := by
  refine Json.object_reads rfl rfl (show Continuation.fieldNames.Nodup by decide) ?_
  simp only [List.forall_mem_cons]
  have journal : ReadsAs (.each JournalEntry.shape) (levels + 4)
      (bytes (.array (c.journal.map JournalEntry.toJson)))
      (.array (c.journal.map JournalEntry.toJson)) := by
    refine Json.array_reads rfl (fun _ => rfl) fun v there => ?_
    obtain ⟨entry, member, rfl⟩ := List.mem_map.mp there
    exact JournalEntry.reads (h entry member)
  exact ⟨⟨_, rfl, Json.anyText_reads _⟩, ⟨_, rfl, Json.ofStrings_reads _⟩, ⟨_, rfl, c.limits.reads⟩,
    ⟨_, rfl, journal⟩, ⟨_, rfl, pending_reads _⟩, ⟨_, rfl, Json.ofUInt64_reads "usize" _⟩, nofun⟩

end Texts

def Checkpoint.answerLevels : Nat := 123

theorem Continuation.ofBody_body {c : Continuation}
    (h : ∀ entry ∈ c.journal, entry.instruction.Storable Checkpoint.answerLevels) :
    Continuation.ofBody c.body = .ok c := by
  have read : Json.parseBytes Continuation.shape c.body = .ok c.toJson :=
    Json.ReadsAs.parseBytes (Continuation.reads h) (Nat.le_refl _)
  unfold Continuation.ofBody
  rw [read]
  dsimp only
  rw [Continuation.ofJson?_toJson, Option.getD_some]

section Header

variable (hash body : List UInt8)

theorem Checkpoint.take_magic :
    (Checkpoint.magic ++ Checkpoint.version ++ hash ++ body).take 4 = Checkpoint.magic := rfl

theorem Checkpoint.take_version :
    ((Checkpoint.magic ++ Checkpoint.version ++ hash ++ body).drop 4).take 2 =
      Checkpoint.version := rfl

theorem Checkpoint.take_hash (size : hash.length = 32) :
    ((Checkpoint.magic ++ Checkpoint.version ++ hash ++ body).drop 6).take 32 = hash := by
  show (hash ++ body).take 32 = hash
  rw [← size, List.take_left]

theorem Checkpoint.drop_header (size : hash.length = 32) :
    (Checkpoint.magic ++ Checkpoint.version ++ hash ++ body).drop Checkpoint.headerLength = body := by
  apply List.drop_left'
  simp [Checkpoint.magic, Checkpoint.version, Checkpoint.headerLength, size]

theorem Checkpoint.header_fits (size : hash.length = 32) :
    ¬ (Checkpoint.magic ++ Checkpoint.version ++ hash ++ body).length < Checkpoint.headerLength := by
  simp [Checkpoint.magic, Checkpoint.version, Checkpoint.headerLength, size]

end Header

theorem Checkpoint.load_dump_body (c : Continuation) :
    (Checkpoint.dump c).load = match Continuation.ofBody c.body with
      | .ok c => .ok c
      | .error e => .error (.invalidContinuation e) := by
  have size := Digest.length_blake3 c.body
  unfold Checkpoint.load Checkpoint.dump
  dsimp only
  rw [if_neg (Checkpoint.header_fits _ _ size), Checkpoint.take_magic, Checkpoint.take_version,
    Checkpoint.take_hash _ _ size, Checkpoint.drop_header _ _ size]
  rw [if_neg (not_not_intro rfl), if_neg (not_not_intro rfl)]
  refine (if_neg (not_not_intro rfl)).trans ?_
  cases Continuation.ofBody c.body <;> rfl

theorem Checkpoint.load_dump {c : Continuation}
    (h : ∀ entry ∈ c.journal, entry.instruction.Storable Checkpoint.answerLevels) :
    (Checkpoint.dump c).load = .ok c := by
  rw [Checkpoint.load_dump_body, Continuation.ofBody_body h]

section Kept

def Continuation.created (c : Continuation) : Json.Members :=
  [("source", .string c.source), ("external_functions", Json.ofStrings c.externals),
    ("limits", c.limits.toJson)]

def Continuation.progress (c : Continuation) : Json.Members :=
  [("journal", .array (c.journal.map JournalEntry.toJson)),
    ("pending", (c.pending.map Json.string).getD .null),
    ("prints_delivered", Json.ofUInt64 c.printsDelivered)]

theorem Continuation.body_eq (c : Continuation) :
    c.body = Json.byte '\x7b' :: (Json.membersText true c.created ++
      (Json.membersText false c.progress ++ [Json.byte '\x7d'])) := by
  have text : c.body = bytes (.object (c.created ++ c.progress)) := rfl
  have members : Text.utf8 (Json.compactMembers (c.created ++ c.progress)) =
      Json.membersText true (c.created ++ c.progress) := rfl
  rw [text, Json.utf8_object, members, Json.membersText_append, List.append_assoc]
  rfl

theorem Continuation.created_reads (c : Continuation) : ∀ member ∈ c.created,
    ∃ inner, Continuation.shape.member? member.1 = some inner ∧
      ReadsAs inner 1 (bytes member.2) member.2 := by
  simp only [Continuation.created, List.forall_mem_cons]
  exact ⟨⟨_, rfl, Json.anyText_reads _⟩, ⟨_, rfl, Json.ofStrings_reads _⟩, ⟨_, rfl, c.limits.reads⟩,
    nofun⟩

theorem Continuation.created_fields (c : Continuation) : ∀ member ∈ c.created,
    Continuation.shape.isField member.1 = true ∧ c.created.lookup member.1 = some member.2 := by
  simp only [Continuation.created, List.forall_mem_cons]
  exact ⟨⟨rfl, rfl⟩, ⟨rfl, rfl⟩, ⟨rfl, rfl⟩, nofun⟩

theorem Continuation.ofJson?_created {c c' : Continuation} {members : Json.Members}
    (kept : ∀ member ∈ c.created, members.lookup member.1 = some member.2)
    (h : Continuation.ofJson? (.object members) = some c') :
    c'.source = c.source ∧ c'.externals = c.externals ∧ c'.limits = c.limits := by
  have names : Json.listOf? Json.asString? (Json.ofStrings c.externals) = some c.externals :=
    Json.listOf?_map c.externals fun _ => rfl
  simp only [Continuation.created, List.forall_mem_cons] at kept
  obtain ⟨source, externals, limits, -⟩ := kept
  simp only [Continuation.ofJson?, Json.fields?, Json.Fields.required, Json.Fields.get?, source,
    externals, limits, names, Limits.ofJson?_toJson, Json.asString?, Option.bind_eq_bind,
    Option.bind_some, Option.bind_eq_some_iff] at h
  obtain ⟨journal, -, pending, -, printsDelivered, -, same⟩ := h
  cases same
  exact ⟨rfl, rfl, rfl⟩

def Continuation.back (c : Continuation) : Json.Bytes :=
  Json.membersText false c.progress ++ [Json.byte '\x7d']

/-- To read a body is to read what follows what the run was created with, for which fuel enough is
left. -/
theorem Continuation.readValue_body (c : Continuation) :
    ∃ fuel, 2 * c.back.length + 2 ≤ fuel ∧
      Json.readValue Continuation.shape (2 * c.body.length + 2) Json.maxLevels c.body =
        (Json.readMembers Continuation.shape c.created fuel 126 c.back).map
          fun read => (.object read.1, read.2) := by
  have list : Json.byte '\x7b' ≠ Json.byte '[' := by decide
  have text : c.body = Json.byte '\x7b' :: (Json.membersText true c.created ++ c.back) := c.body_eq
  have lengths : c.body.length = 1 + (Json.membersText true c.created).length + c.back.length := by
    rw [text, List.length_cons, List.length_append]
    omega
  have some : 0 < (Json.membersText true c.created).length := by
    rw [created, Json.membersText_cons]
    exact Nat.succ_pos _
  have delimited : Json.Delimited c.back := Json.delimited_membersText _ (Json.delimited_brace [])
  have distinct : (c.created.map Prod.fst).Nodup := by
    show ["source", "external_functions", "limits"].Nodup
    decide
  obtain ⟨left, spent, same⟩ : ∃ left, left + 1 + 3 = 2 * c.body.length + 1 ∧
      Json.readMembers Continuation.shape [] (2 * c.body.length + 1) 126
        (Json.membersText true c.created ++ c.back) =
      Json.readMembers Continuation.shape c.created (left + 1) 126 c.back :=
    Json.readMembers_front c.created_reads [] distinct _ 125 c.back delimited
      (show 2 * (Json.membersText true c.created).length < 2 * c.body.length + 1 by omega)
  have front : Json.skipSpace c.body =
      Json.byte '\x7b' :: (Json.membersText true c.created ++ c.back) :=
    (congrArg Json.skipSpace text).trans (Json.skipSpace_cons _ (by decide))
  refine ⟨left + 1, by omega, ?_⟩
  rw [Json.readValue, front]
  dsimp only
  rw [if_neg list, if_pos rfl, ← same]
  rfl

theorem readValue_created {c : Continuation} {json : Json} {rest : Json.Bytes}
    (h : Json.readValue Continuation.shape (2 * c.body.length + 2) Json.maxLevels c.body =
      .ok (json, rest)) :
    ∃ members : Json.Members, json = .object members ∧
      ∀ member ∈ c.created, members.lookup member.1 = some member.2 := by
  obtain ⟨fuel, -, same⟩ := c.readValue_body
  rw [same] at h
  cases read : Json.readMembers Continuation.shape c.created fuel 126 c.back with
  | error e =>
    rw [read] at h
    cases h
  | ok result =>
    rw [read] at h
    cases h
    refine ⟨result.1, rfl, fun member there => ?_⟩
    obtain ⟨field, first⟩ := c.created_fields member there
    exact Json.readMembers_keeps field _ first read

theorem Continuation.ofBody_kept {c c' : Continuation} (h : Continuation.ofBody c.body = .ok c') :
    c'.source = c.source ∧ c'.externals = c.externals ∧ c'.limits = c.limits := by
  obtain ⟨json, parsed, back⟩ := Continuation.ofBody_ok.mp h
  obtain ⟨rest, read, -⟩ := Json.parseBytes_ok parsed
  obtain ⟨members, rfl, kept⟩ := readValue_created read
  exact Continuation.ofJson?_created kept back

theorem Checkpoint.load_dump_kept {c c' : Continuation} (h : (Checkpoint.dump c).load = .ok c') :
    c'.source = c.source ∧ c'.externals = c.externals ∧ c'.limits = c.limits := by
  rw [Checkpoint.load_dump_body] at h
  split at h
  · next read =>
    cases h
    exact Continuation.ofBody_kept read
  · cases h

end Kept

end ResumableScript
