import Mathlib.Data.List.Nodup

/-! Looking up in lists of pairs, whose keys may or may not differ. -/
namespace ResumableScript

variable {α β : Type} [BEq α] [LawfulBEq α] {key : α} {value : β} {pairs : List (α × β)}

theorem isSome_lookup : (pairs.lookup key).isSome ↔ key ∈ pairs.map Prod.fst := by
  simp [List.lookup_isSome_iff]

theorem lookup_fresh (fresh : key ∉ pairs.map Prod.fst) : pairs.lookup key = none := by
  rw [← Option.not_isSome_iff_eq_none]
  exact fun found => fresh (isSome_lookup.mp found)

theorem mem_of_lookup (h : pairs.lookup key = some value) : (key, value) ∈ pairs := by
  obtain ⟨before, after, rfl, -⟩ := List.lookup_eq_some_iff.mp h
  simp

theorem lookup_iff_mem (unique : (pairs.map Prod.fst).Nodup) :
    pairs.lookup key = some value ↔ (key, value) ∈ pairs := by
  refine ⟨mem_of_lookup, fun there => ?_⟩
  obtain ⟨before, after, rfl⟩ := List.append_of_mem there
  refine List.lookup_eq_some_iff.mpr ⟨before, after, rfl, fun pair earlier => ?_⟩
  rw [List.map_append, List.map_cons] at unique
  have other := List.disjoint_of_nodup_append unique (List.mem_map_of_mem earlier)
  refine bne_iff_ne.mpr fun same : key = pair.1 => other ?_
  rw [← same]
  exact List.mem_cons_self

end ResumableScript
