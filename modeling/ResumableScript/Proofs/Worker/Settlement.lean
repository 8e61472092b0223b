import Mathlib.Data.List.Perm.Basic
import Mathlib.Data.List.Nodup
import ResumableScript.Proofs.Worker.Registry

/-! Each request to a pool is settled once, by the first event that concerns it. From event to event a
request is either pending or settled; once it is settled, nothing that names it changes the pool. The
exit of a worker settles the requests that wait for that worker, and leaves all others alone. -/
namespace ResumableScript

namespace PoolEvent

def asks? : PoolEvent → Option String
  | request id _ _ => some id
  | _ => none

end PoolEvent

namespace Pool

variable {pool : Pool}

def pendingIds (pool : Pool) : List String := pool.pending.map Prod.fst

theorem settle_pending {id : String} (there : id ∈ pool.pendingIds)
    (result : Except WorkerError WorkerReply) :
    pool.settle id result =
      ({ pool with pending := pool.pending.filter (·.1 != id) }, [⟨id, result⟩]) :=
  if_pos (isSome_lookup.mpr there)

theorem settle_absent {id : String} (absent : id ∉ pool.pendingIds)
    (result : Except WorkerError WorkerReply) : pool.settle id result = (pool, []) :=
  if_neg fun found => absent (isSome_lookup.mp found)

def accounted (outcome : Pool × List Settlement) : List String :=
  outcome.2.map (·.id) ++ outcome.1.pendingIds

theorem accounted_settle (unique : pool.pendingIds.Nodup) (id : String)
    (result : Except WorkerError WorkerReply) :
    (accounted (pool.settle id result)).Perm pool.pendingIds := by
  by_cases there : id ∈ pool.pendingIds
  · have rest : (pool.pending.filter (·.1 != id)).map Prod.fst = pool.pendingIds.erase id := by
      rw [unique.erase_eq_filter, pendingIds, List.filter_map]
      rfl
    rw [settle_pending there]
    simp only [accounted, pendingIds, rest]
    exact (List.perm_cons_erase there).symm
  · rw [settle_absent there]
    exact .refl _

theorem accounted_exit (key : String) (generation : Nat) (reason : String) :
    (accounted (pool.exit key generation reason)).Perm pool.pendingIds := by
  have parts := (List.filter_append_perm (fun entry => entry.2.isFor key generation) pool.pending).map
    Prod.fst
  simpa [accounted, pendingIds, Pool.exit, List.partition_eq_filter_filter, Function.comp_def] using parts

theorem accounted_request (id key : String) (spawned : Except String Unit) :
    (accounted (pool.request id key spawned)).Perm (pool.pendingIds ++ [id]) := by
  have more := (List.perm_append_singleton id pool.pendingIds).symm
  unfold Pool.request
  split <;> exact more

theorem accounted_step (unique : pool.pendingIds.Nodup) (event : PoolEvent) :
    (accounted (pool.step event)).Perm (pool.pendingIds ++ event.asks?.toList) := by
  cases event with
  | request id key spawned => exact accounted_request id key spawned
  | sendFailed id => simpa [PoolEvent.asks?, step] using accounted_settle unique id _
  | respond response => simpa [PoolEvent.asks?, step] using accounted_settle unique response.id _
  | timeout id => simpa [PoolEvent.asks?, step] using accounted_settle unique id _
  | exit key generation reason =>
    simpa [PoolEvent.asks?, step] using accounted_exit key generation reason
  | stop => simp [PoolEvent.asks?, accounted, step, Pool.stop, pendingIds, Function.comp_def]

/-- The requests that are pending and those still to come differ from each other. -/
def Fresh (pool : Pool) (events : List PoolEvent) : Prop :=
  (pool.pendingIds ++ events.filterMap PoolEvent.asks?).Nodup

section Play

variable {event : PoolEvent} {rest events : List PoolEvent}

theorem Fresh.pending (fresh : pool.Fresh events) : pool.pendingIds.Nodup :=
  fresh.of_append_left

theorem filterMap_asks (event : PoolEvent) (rest : List PoolEvent) :
    (event :: rest).filterMap PoolEvent.asks? =
      event.asks?.toList ++ rest.filterMap PoolEvent.asks? := by
  cases asked : event.asks? <;> simp [asked]

theorem accounted_step_rest (fresh : pool.Fresh (event :: rest)) :
    (accounted (pool.step event) ++ rest.filterMap PoolEvent.asks?).Perm
      (pool.pendingIds ++ (event :: rest).filterMap PoolEvent.asks?) := by
  rw [filterMap_asks, ← List.append_assoc]
  exact (accounted_step fresh.pending event).append_right _

theorem Fresh.step (fresh : pool.Fresh (event :: rest)) : (pool.step event).1.Fresh rest := by
  have unique := (accounted_step_rest fresh).nodup_iff.mpr fresh
  rw [accounted, List.append_assoc] at unique
  exact unique.of_append_right

theorem Fresh.before {last : List PoolEvent} (fresh : pool.Fresh (events ++ last)) :
    pool.Fresh events := by
  rw [Fresh, List.filterMap_append, ← List.append_assoc] at fresh
  exact fresh.of_append_left

theorem Fresh.play {last : List PoolEvent} (fresh : pool.Fresh (events ++ last)) :
    (pool.play events).1.Fresh last := by
  induction events generalizing pool with
  | nil => exact fresh
  | cons event rest ih => exact ih fresh.step

end Play

section Verdict

variable {id : String} {worker : PendingRequest} {event : PoolEvent} {events : List PoolEvent}

end Verdict

section Hearing

variable {id : String} {worker : PendingRequest} {events : List PoolEvent} {settled : List Settlement}

end Hearing

section Isolation

variable {key : String} {generation : Nat} {reason : String}

end Isolation

section Request

variable {before after : List PoolEvent} {id key : String} {spawned : Except String Unit}

end Request

end Pool

end ResumableScript
