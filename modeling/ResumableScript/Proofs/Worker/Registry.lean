import Mathlib.Logic.Relation
import ResumableScript.Proofs.Lookup
import ResumableScript.Worker.Pool

/-! No pending request of a pool is orphaned. A pool is changed by one event after the other, in any
order: requests, responses, requests given up, stops, and exits. Each worker may report its own exit
at any time and more than once, early or long after it has been replaced. -/
namespace ResumableScript

/-- A pool with the workers that were started for it, in order, by key and generation. -/
structure PoolLife where
  pool : Pool := {}
  started : List (String × Nat) := []
  deriving DecidableEq

/-- Only a worker that was started can report its exit. -/
def PoolEvent.Possible (started : List (String × Nat)) : PoolEvent → Prop
  | .exit key generation _ => (key, generation) ∈ started
  | _ => True

def Pool.starts (pool : Pool) : PoolEvent → List (String × Nat)
  | .request _ key (.ok ()) =>
    if pool.workers.lookup key = none then [(key, pool.nextGeneration)] else []
  | _ => []

namespace PoolLife

def after (life : PoolLife) (event : PoolEvent) : PoolLife :=
  ⟨(life.pool.step event).1, life.started ++ life.pool.starts event⟩

inductive Step : PoolLife → PoolLife → Prop
  | event (life : PoolLife) {event : PoolEvent} (possible : event.Possible life.started) :
    Step life (life.after event)

def Later : PoolLife → PoolLife → Prop := Relation.ReflTransGen Step

end PoolLife

theorem lookup_filter {workers : List (String × Nat)} {key : String} {generation : Nat}
    {keep : String × Nat → Bool} (h : workers.lookup key = some generation)
    (stays : keep (key, generation) = true) :
    (workers.filter keep).lookup key = some generation := by
  obtain ⟨before, after, rfl, other⟩ := List.lookup_eq_some_iff.mp h
  refine List.lookup_eq_some_iff.mpr ⟨before.filter keep, after.filter keep, ?_, ?_⟩
  · simp [stays]
  · intro worker there
    exact other worker (List.mem_filter.mp there).1

namespace PoolLife

/-- Generations are given out in order, and every pending request is with the worker of its key. -/
structure Sound (life : PoolLife) : Prop where
  generations : life.started.map Prod.snd = List.range' 1 life.started.length
  next : life.pool.nextGeneration = life.started.length + 1
  registered : life.pool.workers ⊆ life.started
  manned : ∀ entry ∈ life.pool.pending,
    life.pool.workers.lookup entry.2.workerKey = some entry.2.generation

structure Gone (key : String) (generation : Nat) (life : PoolLife) : Prop where
  past : generation < life.pool.nextGeneration
  unregistered : (key, generation) ∉ life.pool.workers

variable {life later : PoolLife} {key : String} {generation : Nat}

theorem Sound.young (sound : life.Sound) (there : (key, generation) ∈ life.started) :
    generation < life.pool.nextGeneration := by
  have drawn : generation ∈ life.started.map Prod.snd := List.mem_map_of_mem there
  rw [sound.generations, List.mem_range'_1] at drawn
  rw [sound.next]
  omega

theorem sound_new : Sound {} where
  generations := rfl
  next := rfl
  registered := List.nil_subset _
  manned := by simp

theorem request_sound (sound : life.Sound) (id key : String) (spawned : Except String Unit) :
    (life.after (.request id key spawned)).Sound := by
  cases known : life.pool.workers.lookup key with
  | some generation =>
    have same : life.after (.request id key spawned) =
        ⟨life.pool.file id key generation, life.started⟩ := by
      simp only [after, Pool.step, Pool.request, known]
      cases spawned <;> simp [Pool.starts, known]
    rw [same]
    constructor
    · exact sound.generations
    · exact sound.next
    · exact sound.registered
    · intro entry there
      rcases List.mem_cons.mp there with rfl | there
      · exact known
      · exact sound.manned entry there
  | none =>
    cases spawned with
    | error reason =>
      have same : life.after (.request id key (.error reason)) = life := by
        simp [after, Pool.step, Pool.request, known, Pool.starts]
      rw [same]
      exact sound
    | ok spawned =>
      have same : life.after (.request id key (.ok spawned)) =
          ⟨(life.pool.spawn key).file id key life.pool.nextGeneration,
            life.started ++ [(key, life.pool.nextGeneration)]⟩ := by
        simp [after, Pool.step, Pool.request, known, Pool.starts]
      rw [same]
      constructor
      · simp [sound.generations, sound.next, List.range'_concat, Nat.add_comm]
      · simp [Pool.file, Pool.spawn, sound.next]
      · intro worker there
        rcases List.mem_cons.mp there with rfl | there
        · simp
        · exact List.mem_append_left _ (sound.registered there)
      · intro entry there
        rcases List.mem_cons.mp there with rfl | there
        · simp [Pool.file, Pool.spawn]
        · -- its key has a worker already, so it is not the key of the new one
          have found := sound.manned entry there
          have other : (entry.2.workerKey == key) = false := by
            rw [beq_eq_false_iff_ne]
            rintro rfl
            simp [known] at found
          simpa [Pool.file, Pool.spawn, List.lookup_cons, other] using found

theorem settle_sound (sound : life.Sound) (id : String) (result : Except WorkerError WorkerReply) :
    Sound ⟨(life.pool.settle id result).1, life.started⟩ := by
  unfold Pool.settle
  split
  · constructor
    · exact sound.generations
    · exact sound.next
    · exact sound.registered
    · intro entry there
      exact sound.manned entry (List.mem_filter.mp there).1
  · exact sound

theorem exit_sound (sound : life.Sound) (key : String) (generation : Nat) (reason : String) :
    Sound ⟨(life.pool.exit key generation reason).1, life.started⟩ := by
  constructor
  · exact sound.generations
  · exact sound.next
  · exact fun worker there => sound.registered (List.mem_filter.mp there).1
  · intro entry there
    simp only [Pool.exit, List.partition_eq_filter_filter, List.mem_filter] at there
    obtain ⟨there, other⟩ := there
    refine lookup_filter (sound.manned entry there) ?_
    simpa [PendingRequest.isFor, Decidable.imp_iff_not_or] using other

theorem stop_sound (sound : life.Sound) : Sound ⟨life.pool.stop.1, life.started⟩ := by
  constructor
  · exact sound.generations
  · exact sound.next
  · exact List.nil_subset _
  · simp [Pool.stop]

theorem after_unstarted {event : PoolEvent} (quiet : life.pool.starts event = []) :
    life.after event = ⟨(life.pool.step event).1, life.started⟩ := by
  simp [after, quiet]

theorem after_sound (sound : life.Sound) (event : PoolEvent) : (life.after event).Sound := by
  cases event with
  | request id key spawned => exact request_sound sound id key spawned
  | sendFailed id =>
    rw [after_unstarted rfl]
    exact settle_sound sound id _
  | respond response =>
    rw [after_unstarted rfl]
    exact settle_sound sound response.id _
  | timeout id =>
    rw [after_unstarted rfl]
    exact settle_sound sound id _
  | exit key generation reason =>
    rw [after_unstarted rfl]
    exact exit_sound sound key generation reason
  | stop =>
    rw [after_unstarted rfl]
    exact stop_sound sound

theorem Later.event (h : life.Later later) (event : PoolEvent)
    (possible : event.Possible later.started) : life.Later (later.after event) :=
  h.tail (.event later possible)

theorem Later.sound (h : life.Later later) (sound : life.Sound) : later.Sound := by
  induction h with
  | refl => exact sound
  | tail _ step ih =>
    cases step with
    | event possible => exact after_sound ih _

/-- No event registers a worker of the past again, since a new worker has a generation of its own. -/
theorem after_gone (gone : life.Gone key generation) (event : PoolEvent) :
    (life.after event).Gone key generation := by
  obtain ⟨past, unregistered⟩ := gone
  cases event with
  | request id key' spawned =>
    cases known : life.pool.workers.lookup key' with
    | some registered =>
      constructor <;> simpa [after, Pool.step, Pool.request, known, Pool.file]
    | none =>
      cases spawned with
      | error reason => constructor <;> simpa [after, Pool.step, Pool.request, known]
      | ok spawned =>
        constructor
        · simp [after, Pool.step, Pool.request, known, Pool.file, Pool.spawn]
          omega
        · -- the new worker may have the same key, but not the generation
          have young : generation ≠ life.pool.nextGeneration := Nat.ne_of_lt past
          simp [after, Pool.step, Pool.request, known, Pool.file, Pool.spawn, young, unregistered]
  | exit key' generation' reason =>
    constructor
    · exact past
    · intro there
      exact unregistered (List.mem_filter.mp there).1
  | stop =>
    constructor
    · exact past
    · simp [after, Pool.step, Pool.stop]
  | sendFailed id | respond response | timeout id =>
    simp only [after, Pool.step, Pool.settle]
    split <;> exact ⟨past, unregistered⟩

theorem Later.gone (h : life.Later later) (gone : life.Gone key generation) :
    later.Gone key generation := by
  induction h with
  | refl => exact gone
  | tail _ step ih =>
    cases step with
    | event possible => exact after_gone ih _

theorem exit_gone (sound : life.Sound) (there : (key, generation) ∈ life.started) (reason : String) :
    (life.after (.exit key generation reason)).Gone key generation := by
  constructor
  · exact sound.young there
  · simp [after, Pool.step, Pool.exit]

/-- As long as a word can count the workers that were started, it can hold every generation. -/
theorem Sound.words (sound : life.Sound) (few : life.started.length + 1 < UInt64.size) :
    life.pool.nextGeneration < UInt64.size ∧
      ∀ entry ∈ life.pool.pending, entry.2.generation < UInt64.size := by
  have next : life.pool.nextGeneration < UInt64.size := by rwa [sound.next]
  refine ⟨next, fun entry there => Nat.lt_trans ?_ next⟩
  exact sound.young (sound.registered (mem_of_lookup (sound.manned entry there)))

theorem Sound.not_pending (sound : life.Sound) (gone : life.Gone key generation) :
    ∀ entry ∈ life.pool.pending, entry.2.isFor key generation = false := by
  intro entry there
  have registered := mem_of_lookup (sound.manned entry there)
  rw [Bool.eq_false_iff]
  intro same
  simp only [PendingRequest.isFor, Bool.and_eq_true, beq_iff_eq] at same
  rw [same.1, same.2] at registered
  exact gone.unregistered registered

end PoolLife

/-- However the events of a pool come, every pending request is with the worker that is registered
for its key, no generation is given out twice, and a request whose worker cannot be started changes
nothing. Once the exit of a worker has been reported, no request is pending with that worker, and
none ever will be. -/
theorem requests_never_orphaned {life : PoolLife} (reached : PoolLife.Later {} life) :
    (∀ entry ∈ life.pool.pending,
      life.pool.workers.lookup entry.2.workerKey = some entry.2.generation) ∧
    (life.started.map Prod.snd = List.range' 1 life.started.length ∧
      (life.started.map Prod.snd).Nodup) ∧
    (∀ id key reason, life.pool.workers.lookup key = none →
      life.after (.request id key (.error reason)) = life) ∧
    ∀ key generation reason, (key, generation) ∈ life.started →
      ∀ later, (life.after (.exit key generation reason)).Later later →
        ∀ entry ∈ later.pool.pending, entry.2.isFor key generation = false := by
  have sound : life.Sound := reached.sound PoolLife.sound_new
  refine ⟨sound.manned, ⟨sound.generations, ?distinct⟩, ?refused, ?gone⟩
  case distinct =>
    rw [sound.generations]
    exact List.nodup_range'
  case refused =>
    intro id key reason unknown
    simp [PoolLife.after, Pool.step, Pool.request, unknown, Pool.starts]
  case gone =>
    intro key generation reason there later rest
    have exited := PoolLife.after_sound sound (.exit key generation reason)
    have gone := PoolLife.exit_gone sound there reason
    exact (rest.sound exited).not_pending (rest.gone gone)

/-- A pool whose first worker is gone, with a request that waits for the second. -/
def replacedWorker : PoolLife :=
  [.request "1" "k" (.ok ()), .exit "k" 1 "killed", .request "2" "k" (.ok ())].foldl PoolLife.after {}

theorem replacedWorker_reached : PoolLife.Later {} replacedWorker := by
  have new : PoolLife.Later {} {} := .refl
  have first := new.event (.request "1" "k" (.ok ())) trivial
  have exited := first.event (.exit "k" 1 "killed") (List.mem_singleton.mpr rfl)
  exact exited.event (.request "2" "k" (.ok ())) trivial

/-- The first worker's exit is reported again, late; the request stays with the second. -/
theorem requests_never_orphaned_replacedWorker :
    replacedWorker.pool.pending = [("2", ⟨"k", 2⟩)] ∧
      replacedWorker.pool.workers.lookup "k" = some 2 ∧
      ∀ later, (replacedWorker.after (.exit "k" 1 "closed")).Later later →
        ∀ entry ∈ later.pool.pending, entry.2.isFor "k" 1 = false := by
  obtain ⟨manned, -, -, gone⟩ := requests_never_orphaned replacedWorker_reached
  have waiting : replacedWorker.pool.pending = [("2", ⟨"k", 2⟩)] := by decide
  have started : ("k", 1) ∈ replacedWorker.started := by decide
  refine ⟨waiting, ?_, gone "k" 1 "closed" started⟩
  exact manned ("2", ⟨"k", 2⟩) (by rw [waiting]; exact List.mem_singleton.mpr rfl)

end ResumableScript
