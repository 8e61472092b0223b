import Mathlib.Tactic.Basic
import ResumableScript.Proofs.Json.Fuel

/-! What a reader gives is made of what readers give for its parts. So a property that goes from the
parts to the whole is one of everything that is read. -/
namespace ResumableScript.Json

theorem pair_of_map {α γ : Type} {read : Reader α} {f : α → γ} {c : γ} {t : Bytes}
    (h : (read.map fun (a, s) => (f a, s)) = .ok (c, t)) : ∃ a, read = .ok (a, t) ∧ f a = c := by
  cases read with
  | error e => cases h
  | ok result =>
    cases h
    exact ⟨result.1, rfl, rfl⟩

theorem const_of_map {γ : Type} {read : Except Failure Bytes} {v w : γ} {t : Bytes}
    (h : (read.map fun s => (v, s)) = .ok (w, t)) : read = .ok t ∧ v = w := by
  cases read with
  | error e => cases h
  | ok s =>
    cases h
    exact ⟨rfl, rfl⟩

theorem enter_ok {levels inner : Nat} {s : Bytes} (h : enter levels s = .ok inner) :
    levels = inner + 1 := by
  cases levels with
  | zero => cases h
  | succ n =>
    cases h
    rfl

theorem readFitting_ok {shape : Shape} {b : UInt8} {s t : Bytes} {v : Json}
    (h : readFitting shape b s = .ok (v, t)) :
    readScalar b s = .ok (v, t) ∧ shape.refusal? v = none := by
  unfold readFitting at h
  split at h
  · cases h
  · next scalar =>
    split at h
    · cases h
    · next fits =>
      cases h
      exact ⟨scalar, fits⟩

theorem readVariant_known {known : List (String × Shape)} {s t : Bytes} {name : String}
    (h : readVariant known s = .ok (name, t)) : ∃ inner, known.lookup name = some inner := by
  unfold readVariant at h
  split at h
  · cases h
  split at h
  · split at h
    · cases h
    · next named =>
      obtain ⟨-, rfl⟩ := const_of_map h
      unfold readName at named
      split at named
      · cases named
      split at named
      · next there =>
        cases named
        exact Option.isSome_iff_exists.mp there
      · cases named
  split at h
  · cases h
  split at h
  · cases h
  split at h <;> cases h

/-- Properties of what is read for a shape where so many levels are left. Those of items and members
are about what is read from an index on, and about what becomes of the members read before. -/
structure Inherited (value : Shape → Nat → Json → Prop)
    (items : Shape → Nat → Nat → List Json → Prop)
    (members : Shape → Nat → Members → Members → Prop)
    (content : List (String × Shape) → Nat → Members → Prop) : Prop where
  scalar {shape : Shape} {levels : Nat} {b : UInt8} {s t : Bytes} {v : Json}
    (read : readScalar b s = .ok (v, t)) (fits : shape.refusal? v = none) : value shape levels v
  array {shape : Shape} {levels : Nat} {read : List Json} (takes : shape.takesArray = true)
    (inner : items shape 0 levels read) : value shape (levels + 1) (.array read)
  object {shape : Shape} {levels : Nat} {read : Members} (plain : shape.alternatives? = none)
    (takes : shape.takesObject = true) (inner : members shape levels [] read) :
    value shape (levels + 1) (.object read)
  variant {shape : Shape} {levels : Nat} {known : List (String × Shape)} {read : Members}
    (alternatives : shape.alternatives? = some known) (inner : content known levels read) :
    value shape (levels + 1) (.object read)
  ended {shape : Shape} {index levels : Nat}
    (none : shape.item? index = none ∨ shape.shortage? index = none) : items shape index levels []
  item {shape inner : Shape} {index levels : Nat} {v : Json} {rest : List Json}
    (here : shape.item? index = some inner) (first : value inner levels v)
    (more : items shape (index + 1) levels rest) : items shape index levels (v :: rest)
  closed {shape : Shape} {levels : Nat} {read : Members} (whole : shape.lacked? read = none) :
    members shape levels read read
  member {shape : Shape} {levels : Nat} {key : String} {v : Json} {read result : Members}
    (known : ∀ inner, shape.member? key = some inner → value inner levels v)
    (unknown : shape.member? key = none → v = .null)
    (more : members shape levels (read.put key v) result) : members shape levels read result
  content {known : List (String × Shape)} {levels : Nat} {name : String} {inner : Shape} {v : Json}
    (named : known.lookup name = some inner) (first : value inner levels v) :
    content known levels [(name, v)]

section Inherited

variable {value : Shape → Nat → Json → Prop} {items : Shape → Nat → Nat → List Json → Prop}
  {members : Shape → Nat → Members → Members → Prop}
  {content : List (String × Shape) → Nat → Members → Prop}
  (inherited : Inherited value items members content) {fuel : Nat}

include inherited

theorem Inherited.readValue
    (inArray : ∀ {shape index levels s read t},
      readItems shape index fuel levels s = .ok (read, t) → items shape index levels read)
    (inObject : ∀ {shape before levels s read t},
      readMembers shape before fuel levels s = .ok (read, t) → members shape levels before read)
    (inVariant : ∀ {known levels s read t},
      readContent known fuel levels s = .ok (read, t) → content known levels read)
    {shape : Shape} {levels : Nat} {s t : Bytes} {v : Json}
    (h : readValue shape (fuel + 1) levels s = .ok (v, t)) : value shape levels v := by
  rw [Json.readValue] at h
  split at h
  · cases h
  split at h
  · next known alternatives =>
    split at h
    · split at h
      · cases h
      · next inner entered =>
        obtain ⟨read, found, rfl⟩ := pair_of_map h
        exact enter_ok entered ▸ inherited.variant alternatives (inVariant found)
    · exact absurd h refuseName_ne_ok
  next plain =>
  split at h
  · split at h
    · cases h
    next takes =>
    split at h
    · cases h
    · next inner entered =>
      obtain ⟨read, found, rfl⟩ := pair_of_map h
      exact enter_ok entered ▸ inherited.array (by simpa using takes) (inArray found)
  split at h
  · split at h
    · cases h
    next takes =>
    split at h
    · cases h
    · next inner entered =>
      obtain ⟨read, found, rfl⟩ := pair_of_map h
      exact enter_ok entered ▸ inherited.object plain (by simpa using takes) (inObject found)
  · obtain ⟨read, fits⟩ := readFitting_ok h
    exact inherited.scalar read fits

theorem Inherited.readItems
    (values : ∀ {shape levels s v t},
      Json.readValue shape fuel levels s = .ok (v, t) → value shape levels v)
    (behind : ∀ {shape index levels s read t},
      readItems shape index fuel levels s = .ok (read, t) → items shape index levels read)
    {shape : Shape} {index levels : Nat} {s t : Bytes} {read : List Json}
    (h : readItems shape index (fuel + 1) levels s = .ok (read, t)) :
    items shape index levels read := by
  rw [Json.readItems] at h
  split at h
  · next none =>
    obtain ⟨-, rfl⟩ := const_of_map h
    exact inherited.ended (.inl none)
  next inner here =>
  split at h
  · cases h
  · split at h
    · cases h
    · next none =>
      cases h
      exact inherited.ended (.inr none)
  split at h
  · cases h
  · next item s' first =>
    obtain ⟨rest, more, rfl⟩ := pair_of_map h
    exact inherited.item here (values first) (behind more)

theorem Inherited.readMembers
    (values : ∀ {shape levels s v t},
      Json.readValue shape fuel levels s = .ok (v, t) → value shape levels v)
    (behind : ∀ {shape before levels s read t},
      readMembers shape before fuel levels s = .ok (read, t) → members shape levels before read)
    {shape : Shape} {before read : Members} {levels : Nat} {s t : Bytes}
    (h : readMembers shape before (fuel + 1) levels s = .ok (read, t)) :
    members shape levels before read := by
  rw [Json.readMembers] at h
  split at h
  · cases h
  · split at h
    · cases h
    · next whole =>
      cases h
      exact inherited.closed whole
  split at h
  · cases h
  split at h
  · cases h
  split at h
  · cases h
  dsimp only at h
  split at h
  · cases h
  · next v s' found =>
    refine inherited.member (fun inner known => ?_) (fun unknown => ?_) (behind h)
    · rw [known] at found
      exact values found
    · rw [unknown] at found
      exact (const_of_map found).2.symm

theorem Inherited.readContent
    (values : ∀ {shape levels s v t},
      Json.readValue shape fuel levels s = .ok (v, t) → value shape levels v)
    {known : List (String × Shape)} {read : Members} {levels : Nat} {s t : Bytes}
    (h : readContent known (fuel + 1) levels s = .ok (read, t)) : content known levels read := by
  rw [Json.readContent] at h
  split at h
  · cases h
  next name colon named =>
  obtain ⟨inner, there⟩ := readVariant_known named
  split at h
  · cases h
  · next v s' found =>
    obtain ⟨-, rfl⟩ := const_of_map h
    rw [there, Option.getD_some] at found
    exact inherited.content there (values found)

theorem Inherited.read (fuel : Nat) :
    (∀ {shape levels s v t}, Json.readValue shape fuel levels s = .ok (v, t) →
      value shape levels v) ∧
    (∀ {shape index levels s read t}, Json.readItems shape index fuel levels s = .ok (read, t) →
      items shape index levels read) ∧
    (∀ {shape before levels s read t},
      Json.readMembers shape before fuel levels s = .ok (read, t) →
      members shape levels before read) ∧
    ∀ {known levels s read t}, Json.readContent known fuel levels s = .ok (read, t) →
      content known levels read := by
  induction fuel with
  | zero => exact ⟨nofun, nofun, nofun, nofun⟩
  | succ fuel ih =>
    obtain ⟨values, inArray, inObject, inVariant⟩ := ih
    exact ⟨inherited.readValue inArray inObject inVariant, inherited.readItems values inArray,
      inherited.readMembers values inObject, inherited.readContent values⟩

end Inherited
end ResumableScript.Json
