import Mathlib.Tactic.Basic
import ResumableScript.Proofs.Json.OneLine
import ResumableScript.Proofs.Json.Parts
import ResumableScript.Proofs.Json.RoundTrip

/-! How deep values nest. A reader gives no value that nests deeper than it was allowed to go, and
what it gives does not depend on how much deeper it would have been allowed to go. A printed value
is therefore read back if it nests no deeper than that, and is refused for its depth otherwise. -/
namespace ResumableScript.Json

mutual

def nesting : Json → Nat
  | array items => nestingItems items + 1
  | object members => nestingMembers members + 1
  | _ => 0

def nestingItems : List Json → Nat
  | [] => 0
  | item :: rest => max item.nesting (nestingItems rest)

def nestingMembers : Members → Nat
  | [] => 0
  | (_, v) :: rest => max v.nesting (nestingMembers rest)

end

inductive Within (v : Json) : Nat → Json → Prop where
  | here : Within v 0 v
  | item {n : Nat} {item : Json} {items : List Json} (there : item ∈ items)
      (inner : Within v n item) : Within v (n + 1) (array items)
  | member {n : Nat} {member : String × Json} {members : Members} (there : member ∈ members)
      (inner : Within v n member.2) : Within v (n + 1) (object members)

def FloatsReadBack (v : Json) : Prop :=
  ∀ n x finite, Within (number (.float x finite)) n v →
    parse (Decimal.floatText x) = .ok (number (.float x finite))

def KeysDistinct (v : Json) : Prop :=
  ∀ n members, Within (object members) n v → (members.map Prod.fst).Nodup

theorem nestingItems_le {items : List Json} {levels : Nat} :
    nestingItems items ≤ levels ↔ ∀ item ∈ items, item.nesting ≤ levels := by
  induction items with
  | nil => simp [nestingItems]
  | cons item rest ih => rw [nestingItems, Nat.max_le, ih, List.forall_mem_cons]

theorem nestingMembers_le {members : Members} {levels : Nat} :
    nestingMembers members ≤ levels ↔ ∀ member ∈ members, member.2.nesting ≤ levels := by
  induction members with
  | nil => simp [nestingMembers]
  | cons member rest ih => rw [nestingMembers, Nat.max_le, ih, List.forall_mem_cons]

theorem Within.nesting_le {v w : Json} {n : Nat} (h : Within v n w) :
    v.nesting + n ≤ w.nesting := by
  induction h with
  | here => exact Nat.le_refl _
  | item there inner ih =>
    have outer := nestingItems_le.mp (Nat.le_refl _) _ there
    rw [nesting]
    omega
  | member there inner ih =>
    have outer := nestingMembers_le.mp (Nat.le_refl _) _ there
    rw [nesting]
    omega

theorem Within.trans {u v w : Json} {m n : Nat} (inner : Within u m v) (outer : Within v n w) :
    Within u (m + n) w := by
  induction outer with
  | here => exact inner
  | item there _ ih => exact .item there ih
  | member there _ ih => exact .member there ih

section Storable

variable {v w : Json} {n : Nat}

theorem FloatsReadBack.within (h : w.FloatsReadBack) (inner : Within v n w) : v.FloatsReadBack :=
  fun _ x finite there => h _ x finite (there.trans inner)

theorem KeysDistinct.within (h : w.KeysDistinct) (inner : Within v n w) : v.KeysDistinct :=
  fun _ members there => h _ members (there.trans inner)

theorem storable_of_nesting {levels : Nat} (fits : v.nesting ≤ levels)
    (floats : v.FloatsReadBack) (keys : v.KeysDistinct) : v.Storable levels := by
  -- every bracket takes up one of the levels
  induction levels generalizing v with
  | zero =>
    cases v with
    | null => exact .null 0
    | bool flag => exact .bool 0 flag
    | string text => exact .string 0 text
    | number value =>
      cases value with
      | integer n bounds => exact .integer 0 n bounds
      | float x finite => exact .float 0 x finite (floats 0 x finite .here)
    | array items => cases fits
    | object members => cases fits
  | succ levels ih =>
    cases v with
    | null => exact .null _
    | bool flag => exact .bool _ flag
    | string text => exact .string _ text
    | number value =>
      cases value with
      | integer n bounds => exact .integer _ n bounds
      | float x finite => exact .float _ x finite (floats 0 x finite .here)
    | array items =>
      refine .array levels items fun item there => ?_
      have inner : Within item 1 (array items) := .item there .here
      exact ih (nestingItems_le.mp (Nat.le_of_succ_le_succ fits) item there)
        (floats.within inner) (keys.within inner)
    | object members =>
      refine .object levels members (keys 0 members .here) fun member there => ?_
      have inner : Within member.2 1 (object members) := .member there .here
      exact ih (nestingMembers_le.mp (Nat.le_of_succ_le_succ fits) member there)
        (floats.within inner) (keys.within inner)

theorem Storable.nesting_le {levels : Nat} (h : v.Storable levels) : v.nesting ≤ levels := by
  induction h with
  | null | bool | string | integer | float => exact Nat.zero_le _
  | array levels items inner ih => exact Nat.succ_le_succ (nestingItems_le.mpr ih)
  | object levels members distinct inner ih => exact Nat.succ_le_succ (nestingMembers_le.mpr ih)

theorem Storable.within {levels : Nat} (h : w.Storable levels) (inner : Within v n w) :
    ∃ left, v.Storable left := by
  induction inner generalizing levels with
  | here => exact ⟨levels, h⟩
  | item there _ ih =>
    cases h with
    | array _ _ inner => exact ih (inner _ there)
  | member there _ ih =>
    cases h with
    | object _ _ _ inner => exact ih (inner _ there)

/-- The three reasons why a value may not come back from its text. -/
theorem storable_iff {levels : Nat} :
    v.Storable levels ↔ v.nesting ≤ levels ∧ v.FloatsReadBack ∧ v.KeysDistinct := by
  constructor
  · intro h
    refine ⟨h.nesting_le, fun n x finite there => ?_, fun n members there => ?_⟩
    · obtain ⟨_, inner⟩ := h.within there
      cases inner with
      | float _ _ _ back => exact back
    · obtain ⟨_, inner⟩ := h.within there
      cases inner with
      | object _ _ distinct _ => exact distinct
  · exact fun ⟨fits, floats, keys⟩ => storable_of_nesting fits floats keys

end Storable

section Reading

theorem nestingMembers_put {levels : Nat} {key : String} {v : Json} {members : Members}
    (value : v.nesting ≤ levels) (read : nestingMembers members ≤ levels) :
    nestingMembers (members.put key v) ≤ levels := by
  induction members with
  | nil => simpa [Members.put, nestingMembers] using value
  | cons member rest ih =>
    obtain ⟨name, other⟩ := member
    rw [nestingMembers, Nat.max_le] at read
    rw [Members.put]
    split
    · rw [nestingMembers, Nat.max_le]
      exact ⟨value, read.2⟩
    · rw [nestingMembers, Nat.max_le]
      exact ⟨read.1, ih read.2⟩

theorem readNumber_nesting {negative : Bool} {s t : Bytes} {v : Json}
    (h : readNumber negative s = .ok (v, t)) : v.nesting = 0 := by
  unfold readNumber at h
  split at h
  · cases h
  split at h
  · cases h
    rfl
  · cases h

theorem readScalar_nesting {b : UInt8} {s t : Bytes} {v : Json} (h : readScalar b s = .ok (v, t)) :
    v.nesting = 0 := by
  unfold readScalar at h
  split at h
  · obtain ⟨-, rfl⟩ := const_of_map h
    rfl
  split at h
  · obtain ⟨-, rfl⟩ := const_of_map h
    rfl
  split at h
  · obtain ⟨-, rfl⟩ := const_of_map h
    rfl
  split at h
  · exact readNumber_nesting h
  split at h
  · exact readNumber_nesting h
  split at h
  · obtain ⟨text, -, rfl⟩ := pair_of_map h
    rfl
  · cases h

theorem inherited_nesting :
    Inherited (fun _ levels v => v.nesting ≤ levels)
      (fun _ _ levels read => nestingItems read ≤ levels)
      (fun _ levels before read => nestingMembers before ≤ levels → nestingMembers read ≤ levels)
      (fun _ levels read => nestingMembers read ≤ levels) where
  scalar read _ := readScalar_nesting read ▸ Nat.zero_le _
  array _ inner := Nat.succ_le_succ inner
  object _ _ inner := Nat.succ_le_succ (inner (Nat.zero_le _))
  variant _ inner := Nat.succ_le_succ inner
  ended _ := Nat.zero_le _
  item _ first more := Nat.max_le.mpr ⟨first, more⟩
  closed _ before := before
  member {shape levels key v _ _} known unknown more before := by
    refine more (nestingMembers_put ?_ before)
    cases found : shape.member? key with
    | some inner => exact known inner found
    | none =>
      rw [unknown found]
      exact Nat.zero_le _
  content _ first := Nat.max_le.mpr ⟨first, Nat.zero_le _⟩

theorem readValue_nesting {shape : Shape} {fuel levels : Nat} {s t : Bytes} {v : Json}
    (h : readValue shape fuel levels s = .ok (v, t)) : v.nesting ≤ levels :=
  (inherited_nesting.read fuel).1 h

/-- A reader that may not go as deep reads alike, or refuses to go on for that reason. -/
inductive Curtailed {α : Type} (deep : Except Failure α) : Except Failure α → Prop where
  | failed {shallow : Except Failure α} (e : Failure) (h : deep = .error e) : Curtailed deep shallow
  | same : Curtailed deep deep
  | tooDeep (left : Bytes) : Curtailed deep (failAt .tooDeep left)

theorem Curtailed.map {α γ : Type} {deep shallow : Except Failure α} (f : α → γ)
    (h : Curtailed deep shallow) : Curtailed (deep.map f) (shallow.map f) := by
  cases h with
  | failed e failed =>
    rw [failed]
    exact .failed e rfl
  | same => exact .same
  | tooDeep left => exact .tooDeep left

theorem Curtailed.entering {α : Type} {extra levels : Nat} {s : Bytes} {f : Nat → Except Failure α}
    (inner : ∀ left, Curtailed (f (left + extra)) (f left)) :
    Curtailed (match enter (levels + extra) s with | .error e => .error e | .ok left => f left)
      (match enter levels s with | .error e => .error e | .ok left => f left) := by
  cases levels with
  | zero => exact .tooDeep _
  | succ left =>
    rw [Nat.add_right_comm]
    exact inner left

theorem Curtailed.choice {α : Type} {deep shallow : Except Failure α} (h : Curtailed deep shallow) :
    (∃ e, deep = .error e) ∨ shallow = deep ∨ ∃ left, shallow = failAt .tooDeep left := by
  cases h with
  | failed e failed => exact .inl ⟨e, failed⟩
  | same => exact .inr (.inl rfl)
  | tooDeep left => exact .inr (.inr ⟨left, rfl⟩)

/-- What is read does not depend on how much deeper the reader might have gone. -/
theorem read_curtailed (extra fuel : Nat) :
    (∀ shape levels s, Curtailed (readValue shape fuel (levels + extra) s)
      (readValue shape fuel levels s)) ∧
    (∀ shape index levels s, Curtailed (readItems shape index fuel (levels + extra) s)
      (readItems shape index fuel levels s)) ∧
    (∀ shape read levels s, Curtailed (readMembers shape read fuel (levels + extra) s)
      (readMembers shape read fuel levels s)) ∧
    ∀ known levels s, Curtailed (readContent known fuel (levels + extra) s)
      (readContent known fuel levels s) := by
  induction fuel with
  | zero => exact ⟨fun _ _ _ => .same, fun _ _ _ _ => .same, fun _ _ _ _ => .same, fun _ _ _ => .same⟩
  | succ fuel ih =>
    obtain ⟨values, items, members, content⟩ := ih
    refine ⟨?value, ?items, ?members, ?content⟩
    case value =>
      intro shape levels s
      rw [readValue, readValue]
      cases skipSpace s with
      | nil => exact .same
      | cons b r =>
        dsimp only
        cases shape.alternatives? with
        | some known =>
          dsimp only
          split
          · exact .entering fun left => (content known left r).map _
          · exact .same
        | none =>
          dsimp only
          split
          · split
            · exact .same
            · exact .entering fun left => (items shape 0 left r).map _
          split
          · split
            · exact .same
            · exact .entering fun left => (members shape [] left r).map _
          · exact .same
    case items =>
      intro shape index levels s
      rw [readItems, readItems]
      split
      · exact .same
      next inner here =>
      split
      · exact .same
      · exact .same
      · next behind found =>
        obtain ⟨e, failed⟩ | same | ⟨left, tooDeep⟩ := (values inner levels behind).choice
        · rw [failed]
          exact .failed _ rfl
        · rw [same]
          split
          · exact .same
          · exact (items shape (index + 1) levels _).map _
        · rw [tooDeep]
          exact .tooDeep left
    case members =>
      intro shape read levels s
      rw [readMembers, readMembers]
      split
      · exact .same
      · exact .same
      split
      · exact .same
      split
      · exact .same
      split
      · exact .same
      next key _ _ _ _ start _ =>
      cases shape.member? key with
      | some inner =>
        dsimp only
        obtain ⟨e, failed⟩ | same | ⟨left, tooDeep⟩ := (values inner levels start).choice
        · rw [failed]
          exact .failed _ rfl
        · rw [same]
          cases readValue inner fuel (levels + extra) start with
          | error e => exact .same
          | ok result => exact members shape _ levels result.2
        · rw [tooDeep]
          exact .tooDeep left
      | none =>
        dsimp only
        split
        · exact .same
        · exact members shape _ levels _
    case content =>
      intro known levels s
      rw [readContent, readContent]
      split
      · exact .same
      · next name start named =>
        obtain ⟨e, failed⟩ | same | ⟨left, tooDeep⟩ :=
          (values ((known.lookup name).getD .any) levels start).choice
        · rw [failed]
          exact .failed _ rfl
        · rw [same]
          exact .same
        · rw [tooDeep]
          exact .tooDeep left

end Reading

theorem ReadsAs.tooDeep {shape : Shape} {levels : Nat} {v : Json}
    (h : ReadsAs shape levels (bytes v) v) (deep : maxLevels < v.nesting) :
    ∃ column, Json.parseBytes shape (bytes v) = .error ⟨.tooDeep, ⟨1, column⟩⟩ := by
  have atEnd : Delimited [] := by rintro b ⟨⟩
  obtain ⟨rest, whole, -⟩ := h.read (2 * (bytes v).length + 2) maxLevels [] (by omega) atEnd
  rw [List.append_nil, Nat.add_comm levels] at whole
  have curtailed := (read_curtailed levels (2 * (bytes v).length + 2)).1 shape maxLevels (bytes v)
  rw [whole] at curtailed
  generalize parsed : readValue shape (2 * (bytes v).length + 2) maxLevels (bytes v) = read
    at curtailed
  cases curtailed with
  | failed e failed => cases failed
  | same => exact absurd (readValue_nesting parsed) (Nat.not_le.mpr deep)
  | tooDeep left =>
    have position := position_oneLine (compact_oneLine v) (Nat.sub_le (bytes v).length left.length)
    refine ⟨(bytes v).length - left.length, ?_⟩
    rw [Json.parseBytes, readText, parsed, ← position]
    rfl

theorem parse_nesting {text : String} {v : Json} (parsed : parse text = .ok v) :
    v.nesting ≤ maxLevels := by
  obtain ⟨rest, read, -⟩ := parseBytes_ok parsed
  exact readValue_nesting read

end ResumableScript.Json
