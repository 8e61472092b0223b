import Mathlib.Logic.Basic
import Mathlib.Tactic.Basic
import ResumableScript.Proofs.Engine.Checkpoint
import ResumableScript.Proofs.Json.Nesting

/-! Which bytes are a checkpoint. What was packed is unpacked again, unless it nests too deep, and
any other bytes are refused by the first check that they fail. -/
namespace ResumableScript
open Json (Within)

section Nesting

variable {c : Continuation}

theorem Continuation.answer_within {entry : JournalEntry} {v : Json} (there : entry ∈ c.journal)
    (returned : entry.instruction = .returnValue v) : Within v 4 c.toJson := by
  have answer : Within v 1 entry.instruction.toJson := by
    rw [returned]
    exact .member (List.mem_singleton.mpr rfl) .here
  have written : Within v 2 entry.toJson :=
    .member (List.mem_cons_of_mem _ (List.mem_singleton.mpr rfl)) answer
  have journal : Within v 3 (.array (c.journal.map JournalEntry.toJson)) :=
    .item (List.mem_map_of_mem there) written
  have field : ("journal", Json.array (c.journal.map JournalEntry.toJson)) ∈
      c.created ++ c.progress :=
    List.mem_append_right _ List.mem_cons_self
  exact .member field journal

theorem Instruction.toJson_storable {levels : Nat} {instruction : Instruction}
    (h : instruction.Storable (levels + 1)) : instruction.toJson.Storable (levels + 2) := by
  cases instruction with
  | returnValue value =>
    refine .object _ _ (by simp) ?_
    simp only [List.forall_mem_singleton]
    exact h
  | exception e =>
    refine .object _ _ (by simp) ?_
    simp only [List.forall_mem_singleton]
    refine .object _ _ (show ScriptException.fieldNames.Nodup by decide) ?_
    simp only [List.forall_mem_cons]
    exact ⟨.string _ _, .string _ _, nofun⟩

theorem JournalEntry.toJson_storable {levels : Nat} {entry : JournalEntry}
    (h : entry.instruction.Storable (levels + 1)) : entry.toJson.Storable (levels + 3) := by
  refine .object _ _ (show JournalEntry.fieldNames.Nodup by decide) ?_
  simp only [List.forall_mem_cons]
  exact ⟨.string _ _, Instruction.toJson_storable h, nofun⟩

theorem Limits.toJson_storable (levels : Nat) (limits : Limits) :
    limits.toJson.Storable (levels + 1) := by
  refine .object _ _ (show Limits.fieldNames.Nodup by decide) ?_
  simp only [List.forall_mem_cons]
  exact ⟨.integer _ _ _, .integer _ _ _, .integer _ _ _, nofun⟩

/-- A body comes back from its text when the returned values do, and they nest four levels less. -/
theorem Continuation.toJson_storable {levels : Nat} :
    c.toJson.Storable (levels + 5) ↔
      ∀ entry ∈ c.journal, entry.instruction.Storable (levels + 1) := by
  constructor
  · intro h entry there
    cases returned : entry.instruction with
    | exception e => exact trivial
    | returnValue v =>
      obtain ⟨fits, floats, keys⟩ := Json.storable_iff.mp h
      have inner := Continuation.answer_within there returned
      have outer := inner.nesting_le
      exact Json.storable_of_nesting (by omega) (floats.within inner) (keys.within inner)
  · intro h
    refine .object _ _ (show Continuation.fieldNames.Nodup by decide) ?_
    simp only [List.forall_mem_cons]
    refine ⟨.string _ _, .array _ _ ?names, Limits.toJson_storable _ _, .array _ _ ?entries,
      ?pending, .integer _ _ _, nofun⟩
    case names =>
      intro v there
      obtain ⟨name, -, rfl⟩ := List.mem_map.mp there
      exact .string _ _
    case entries =>
      intro v there
      obtain ⟨entry, member, rfl⟩ := List.mem_map.mp there
      exact JournalEntry.toJson_storable (h entry member)
    case pending =>
      cases c.pending with
      | none => exact .null _
      | some name => exact .string _ _

/-- The limit is exact: a body that nests deeper is packed, and refused when it comes back. -/
theorem Checkpoint.load_dump_deep {levels : Nat}
    (stored : ∀ entry ∈ c.journal, entry.instruction.Storable (levels + 1))
    (deep : Json.maxLevels < c.toJson.nesting) :
    ∃ column, (Checkpoint.dump c).load =
      .error (.invalidContinuation ⟨.tooDeep, ⟨1, column⟩⟩) := by
  obtain ⟨column, refused⟩ := (Continuation.reads stored).tooDeep deep
  have unread : Continuation.ofBody c.body = .error ⟨.tooDeep, ⟨1, column⟩⟩ := by
    rw [Continuation.ofBody, Continuation.body, show Text.utf8 _ = c.toJson.bytes from rfl, refused]
  exact ⟨column, by rw [Checkpoint.load_dump_body, unread]⟩

end Nesting

/-- Which check refuses which bytes: those before it accept them. -/
inductive Checkpoint.Refused : List UInt8 → CheckpointFault → Prop where
  | truncated (bytes : List UInt8) (short : bytes.length < headerLength) :
      Refused bytes (.truncated bytes.length)
  | badMagic (letters rest : List UInt8) (four : letters.length = 4) (long : 34 ≤ rest.length)
      (other : letters ≠ magic) : Refused (letters ++ rest) .badMagic
  | unsupportedVersion (high low : UInt8) (rest : List UInt8) (long : 32 ≤ rest.length)
      (other : 256 * high.toNat + low.toNat ≠ 1) :
      Refused (magic ++ high :: low :: rest)
        (.unsupportedVersion (256 * high.toNat + low.toNat))
  | digestMismatch (hash body : List UInt8) (size : hash.length = 32)
      (other : hash ≠ Digest.blake3 body) :
      Refused (magic ++ version ++ hash ++ body) .digestMismatch
  | invalidContinuation (body : List UInt8) (e : Json.ParseError)
      (unread : Continuation.ofBody body = .error e) :
      Refused (magic ++ version ++ Digest.blake3 body ++ body) (.invalidContinuation e)

section Header

open Checkpoint

theorem cut (n : Nat) {bytes : List UInt8} (long : n ≤ bytes.length) :
    ∃ front back, bytes = front ++ back ∧ front.length = n :=
  ⟨bytes.take n, bytes.drop n, (List.take_append_drop n bytes).symm, List.length_take_of_le long⟩

theorem cut_version {rest : List UInt8} (long : 34 ≤ rest.length) :
    ∃ high low hash body, rest = high :: low :: (hash ++ body) ∧ hash.length = 32 := by
  match rest with
  | high :: low :: rest =>
    obtain ⟨hash, body, rfl, size⟩ := cut 32 (show 32 ≤ rest.length by simpa using long)
    exact ⟨high, low, hash, body, rfl, size⟩
  | [] | [_] => simp at long

theorem cut_header {bytes : List UInt8} (long : headerLength ≤ bytes.length) :
    ∃ letters high low hash body, bytes = letters ++ high :: low :: (hash ++ body) ∧
      letters.length = 4 ∧ hash.length = 32 := by
  obtain ⟨letters, rest, rfl, four⟩ := cut 4 (Nat.le_trans (by decide) long)
  have rest_long : 34 ≤ rest.length := by
    rw [List.length_append, four, headerLength] at long
    omega
  obtain ⟨high, low, hash, body, rfl, size⟩ := cut_version rest_long
  exact ⟨letters, high, low, hash, body, rfl, four, size⟩

theorem version_eq {high low : UInt8} : [high, low] = version ↔ 256 * high.toNat + low.toNat = 1 := by
  have bound := low.toNat_lt
  constructor
  · intro same
    cases same
    rfl
  · intro one
    have high_zero : high = 0 := UInt8.toNat_inj.mp (show high.toNat = 0 by omega)
    have low_one : low = 1 := UInt8.toNat_inj.mp (show low.toNat = 1 by omega)
    rw [high_zero, low_one, version]

theorem Checkpoint.load_parts {letters hash : List UInt8} (four : letters.length = 4)
    (size : hash.length = 32) (high low : UInt8) (body : List UInt8) :
    Checkpoint.load ⟨letters ++ high :: low :: (hash ++ body)⟩ =
      if letters ≠ magic then .error .badMagic
      else if 256 * high.toNat + low.toNat ≠ 1 then
        .error (.unsupportedVersion (256 * high.toNat + low.toNat))
      else if hash ≠ Digest.blake3 body then .error .digestMismatch
      else match Continuation.ofBody body with
        | .ok c => .ok c
        | .error e => .error (.invalidContinuation e) := by
  have long : ¬ (letters ++ high :: low :: (hash ++ body)).length < headerLength := by
    simp only [List.length_append, List.length_cons, four, size, headerLength]
    omega
  have front : (letters ++ high :: low :: (hash ++ body)).take 4 = letters := List.take_left' four
  have behind (n : Nat) : (letters ++ high :: low :: (hash ++ body)).drop (4 + n) =
      (high :: low :: (hash ++ body)).drop n := by
    rw [← List.drop_drop, List.drop_left' four]
  have number : ((letters ++ high :: low :: (hash ++ body)).drop 4).take 2 = [high, low] :=
    congrArg (List.take 2) (behind 0)
  have digest : ((letters ++ high :: low :: (hash ++ body)).drop 6).take 32 = hash :=
    (congrArg (List.take 32) (behind 2)).trans (List.take_left' size)
  have rest : (letters ++ high :: low :: (hash ++ body)).drop headerLength = body :=
    (behind 34).trans (List.drop_left' size)
  have value : [high, low].foldl (fun n b => 256 * n + b.toNat) 0 = 256 * high.toNat + low.toNat := by
    simp
  unfold Checkpoint.load
  dsimp only
  rw [if_neg long, front, number, digest, rest, value]
  exact if_congr Iff.rfl rfl <| if_congr (not_congr version_eq) rfl <| if_congr ne_comm rfl rfl

theorem Checkpoint.load_short {bytes : List UInt8} (short : bytes.length < headerLength) :
    Checkpoint.load ⟨bytes⟩ = .error (.truncated bytes.length) := if_pos short

theorem Checkpoint.load_framed {hash : List UInt8} (size : hash.length = 32) (body : List UInt8) :
    Checkpoint.load ⟨magic ++ version ++ hash ++ body⟩ =
      if hash ≠ Digest.blake3 body then .error .digestMismatch
      else match Continuation.ofBody body with
        | .ok c => .ok c
        | .error e => .error (.invalidContinuation e) := by
  have parts := Checkpoint.load_parts (show magic.length = 4 from rfl) size 0 1 body
  rw [if_neg (not_not_intro rfl), if_neg (not_not_intro (by decide))] at parts
  rw [← parts]
  simp [version]

theorem Checkpoint.load_ok {bytes : List UInt8} {c : Continuation} :
    Checkpoint.load ⟨bytes⟩ = .ok c ↔
      ∃ body, bytes = magic ++ version ++ Digest.blake3 body ++ body ∧
        Continuation.ofBody body = .ok c := by
  constructor
  · intro loaded
    by_cases short : bytes.length < headerLength
    · rw [Checkpoint.load_short short] at loaded
      cases loaded
    obtain ⟨letters, high, low, hash, body, rfl, four, size⟩ := cut_header (Nat.not_lt.mp short)
    rw [Checkpoint.load_parts four size] at loaded
    split at loaded
    · cases loaded
    split at loaded
    · cases loaded
    split at loaded
    · cases loaded
    split at loaded
    · next letters_eq number hash_eq _ _ read =>
      cases loaded
      have version_found : [high, low] = version := version_eq.mpr (not_not.mp number)
      refine ⟨body, ?_, read⟩
      rw [← not_not.mp letters_eq, ← version_found, ← not_not.mp hash_eq]
      simp
    · cases loaded
  · rintro ⟨body, rfl, read⟩
    rw [Checkpoint.load_framed (Digest.length_blake3 body), if_neg (not_not_intro rfl), read]

theorem Checkpoint.load_error {bytes : List UInt8} {fault : CheckpointFault} :
    Checkpoint.load ⟨bytes⟩ = .error fault ↔ Refused bytes fault := by
  constructor
  · intro failed
    by_cases short : bytes.length < headerLength
    · rw [Checkpoint.load_short short] at failed
      cases failed
      exact .truncated bytes short
    obtain ⟨letters, high, low, hash, body, rfl, four, size⟩ := cut_header (Nat.not_lt.mp short)
    rw [Checkpoint.load_parts four size] at failed
    split at failed
    · next other =>
      cases failed
      exact .badMagic letters _ four (by simp [size]) other
    split at failed
    · next letters_eq other =>
      cases failed
      obtain rfl := not_not.mp letters_eq
      exact .unsupportedVersion high low _ (by simp [size]) other
    · next letters_eq number =>
      obtain rfl := not_not.mp letters_eq
      have framed : magic ++ high :: low :: (hash ++ body) = magic ++ version ++ hash ++ body := by
        rw [← version_eq.mpr (not_not.mp number)]
        simp
      rw [framed]
      split at failed
      · next other =>
        cases failed
        exact .digestMismatch hash body size other
      split at failed
      · cases failed
      · next hash_eq _ _ unread =>
        cases failed
        obtain rfl := not_not.mp hash_eq
        exact .invalidContinuation body _ unread
  · intro refused
    cases refused with
    | truncated _ short => exact Checkpoint.load_short short
    | badMagic letters rest four long other =>
      obtain ⟨high, low, hash, body, rfl, size⟩ := cut_version long
      rw [Checkpoint.load_parts four size, if_pos other]
    | unsupportedVersion high low rest long other =>
      obtain ⟨hash, body, rfl, size⟩ := cut 32 long
      rw [Checkpoint.load_parts rfl size, if_neg (not_not_intro rfl), if_pos other]
    | digestMismatch hash body size other =>
      rw [Checkpoint.load_framed size, if_pos other]
    | invalidContinuation body e unread =>
      rw [Checkpoint.load_framed (Digest.length_blake3 body), if_neg (not_not_intro rfl), unread]

end Header

/-- A checkpoint is `RLMC`, the version 1, the hash of the body and the body; what is not is refused
by the first check that it fails. So a changed header is refused with the body that it was made for,
and a changed body with the header, unless their hashes collide. Objects are maps, so that no body
has an object with a key twice. -/
theorem checkpoint_format :
    (∀ c : Continuation, c.toJson.nesting ≤ 127 → c.toJson.FloatsReadBack → c.toJson.KeysDistinct →
      (Checkpoint.dump c).load = .ok c) ∧
    (∀ bytes c, Checkpoint.load ⟨bytes⟩ = .ok c ↔ 38 ≤ bytes.length ∧ ∃ body,
      bytes = Text.utf8 "RLMC" ++ [0, 1] ++ Digest.blake3 body ++ body ∧
        Continuation.ofBody body = .ok c) ∧
    (∀ bytes fault, Checkpoint.load ⟨bytes⟩ = .error fault ↔ Checkpoint.Refused bytes fault) ∧
    (∀ (c : Continuation) header, header.length = 38 →
      header ++ c.body ≠ (Checkpoint.dump c).bytes →
      ∃ fault, Checkpoint.load ⟨header ++ c.body⟩ = .error fault) ∧
    ∀ (c : Continuation) body, Digest.blake3 body ≠ Digest.blake3 c.body →
      Checkpoint.load ⟨(Checkpoint.dump c).bytes.take 38 ++ body⟩ = .error .digestMismatch := by
  have letters : Text.utf8 "RLMC" = Checkpoint.magic := by decide
  refine ⟨fun c shallow floats keys => ?_, fun bytes c => ?_, fun _ _ => Checkpoint.load_error,
    fun c header size other => ?_, fun c body other => ?_⟩
  · have storable : c.toJson.Storable 127 := Json.storable_of_nesting shallow floats keys
    exact Checkpoint.load_dump (Continuation.toJson_storable.mp storable)
  · rw [Checkpoint.load_ok, letters]
    constructor
    · rintro ⟨body, rfl, read⟩
      have long := Checkpoint.header_fits (Digest.blake3 body) body (Digest.length_blake3 body)
      exact ⟨Nat.not_lt.mp long, body, rfl, read⟩
    · exact fun ⟨_, packed⟩ => packed
  · cases loaded : Checkpoint.load ⟨header ++ c.body⟩ with
    | error fault => exact ⟨fault, rfl⟩
    | ok found =>
      -- what loads is framed by its own header, so this would be the header of the body
      obtain ⟨body, same, -⟩ := Checkpoint.load_ok.mp loaded
      have framed : (Checkpoint.magic ++ Checkpoint.version ++ Digest.blake3 body).length = 38 := by
        simp [Digest.length_blake3, Checkpoint.magic, Checkpoint.version]
      obtain ⟨rfl, rfl⟩ := List.append_inj same (size.trans framed.symm)
      exact absurd rfl other
  · have size := Digest.length_blake3 c.body
    have header : (Checkpoint.dump c).bytes.take 38 =
        Checkpoint.magic ++ Checkpoint.version ++ Digest.blake3 c.body := by
      refine List.take_left' ?_
      simp [size, Checkpoint.magic, Checkpoint.version]
    rw [header, Checkpoint.load_framed size, if_pos other.symm]

theorem checkpoint_format_nested :
    let c : Continuation :=
      { source := "(f 1)", externals := ["f"], limits := {}
        journal := [⟨"f", .returnValue (.array [.number (.float 1.5 (by decide +kernel)),
          .object [("a", .null)]])⟩, ⟨"f", .exception ⟨"Boom", "no"⟩⟩]
        pending := some "f", printsDelivered := 2 }
    (c.toJson.nesting ≤ 127 ∧ c.toJson.FloatsReadBack ∧ c.toJson.KeysDistinct) ∧
      (Checkpoint.dump c).load = .ok c := by
  intro c
  have float : (Json.number (.float 1.5 (by decide +kernel))).Storable 1 := .float _ _ _ rfl
  have object : (Json.object [("a", .null)]).Storable 1 := by
    refine .object _ _ (by decide) ?_
    simp only [List.forall_mem_singleton]
    exact .null 0
  have storable : c.toJson.Storable (1 + 5) := by
    rw [Continuation.toJson_storable]
    simp only [c, List.forall_mem_cons]
    refine ⟨.array _ _ ?_, trivial, List.forall_mem_nil _⟩
    simp only [List.forall_mem_cons]
    exact ⟨float, object, List.forall_mem_nil _⟩
  obtain ⟨fits, floats, keys⟩ := Json.storable_iff.mp storable
  have shallow : c.toJson.nesting ≤ 127 := Nat.le_trans fits (by decide)
  exact ⟨⟨shallow, floats, keys⟩, checkpoint_format.1 c shallow floats keys⟩

end ResumableScript
