import Mathlib.Tactic.Basic
import ResumableScript.Json.Decode
import ResumableScript.Json.Misfit
import ResumableScript.Proofs.Json.Nesting

/-! A reader of a shape gives values of that shape only, and a structure that has its shape has all
its fields, so that what was read for a shape can be taken apart by it. -/
namespace ResumableScript.Json

def Fits (shape : Shape) (v : Json) : Prop := misfit? shape v = none

section Reading

theorem misfitMember?_put {shape : Shape} {key : String} {v : Json} {members : Members}
    (value : ∀ inner, shape.member? key = some inner → Fits inner v)
    (read : misfitMember? shape members = none) :
    misfitMember? shape (members.put key v) = none := by
  induction members with
  | nil =>
    rw [Members.put, misfitMember?]
    split
    · rfl
    · next inner known =>
      rw [value inner known]
      rfl
  | cons member rest ih =>
    obtain ⟨name, other⟩ := member
    rw [Members.put]
    split
    · next same =>
      subst same
      rw [misfitMember?] at read ⊢
      split at read
      · exact read
      · next inner known =>
        rw [value inner known]
        exact (Option.or_eq_none_iff.mp read).2
    · rw [misfitMember?] at read ⊢
      split at read
      · exact ih read
      · rw [Option.or_eq_none_iff] at read ⊢
        exact ⟨read.1, ih read.2⟩

theorem lengthFault?_of_item? {length : Nat} (shape : Shape)
    (before : ∀ index < length, (shape.item? index).isSome)
    (none : shape.item? length = none ∨ shape.shortage? length = none) :
    shape.lengthFault? length = .none := by
  fun_induction Shape.lengthFault? length shape with
  | case1 inner ih | case2 inner ih => exact ih before none
  | case3 label known long =>
    have last := before known.length long
    simp [Shape.item?] at last
  | case4 label known long =>
    rcases none with none | none
    · have all : known.length ≤ length := by simpa [Shape.item?] using none
      simp [Shape.shortage?, List.drop_eq_nil_of_le all]
    · exact none
  | case5 => rfl

theorem readScalar_misfit? {shape : Shape} {b : UInt8} {s t : Bytes} {v : Json}
    (h : readScalar b s = .ok (v, t)) : misfit? shape v = shape.refusal? v := by
  cases v with
  | array items =>
    have flat := readScalar_nesting h
    cases flat
  | object members =>
    have flat := readScalar_nesting h
    cases flat
  | _ => rw [misfit?]

theorem inherited_fits :
    Inherited (fun shape _ v => Fits shape v)
      (fun shape index _ read => (∀ before < index, (shape.item? before).isSome) →
        misfitItem? shape index read = none ∧ shape.lengthFault? (index + read.length) = none)
      (fun shape _ before read => misfitMember? shape before = none →
        misfitMember? shape read = none ∧ shape.lacked? read = none)
      (fun known _ read => Shape.variantFault? known read = none ∧
        misfitMember? (.oneOf known) read = none) where
  scalar read fits := (readScalar_misfit? read).trans fits
  array takes inner := by
    obtain ⟨fits, length⟩ := inner fun _ below => absurd below (Nat.not_lt_zero _)
    rw [Nat.zero_add] at length
    rw [Fits, misfit?, if_pos takes, fits, length]
    rfl
  object plain takes inner := by
    obtain ⟨fits, whole⟩ := inner rfl
    rw [Fits, misfit?, plain]
    dsimp only
    rw [if_pos takes, fits, whole]
    rfl
  variant {shape _ known _} alternatives inner := by
    have same : shape = .oneOf known := by
      cases shape <;> cases alternatives
      rfl
    rw [Fits, misfit?, alternatives]
    dsimp only
    rw [inner.1, same, inner.2]
    rfl
  ended {shape _ _} none before := ⟨rfl, lengthFault?_of_item? shape before none⟩
  item {shape _ index _ _ rest} here first more before := by
    have further : ∀ earlier < index + 1, (shape.item? earlier).isSome := by
      intro earlier below
      rcases Nat.lt_succ_iff_lt_or_eq.mp below with below | rfl
      · exact before earlier below
      · rw [here]
        rfl
    obtain ⟨fits, length⟩ := more further
    rw [misfitItem?, here]
    dsimp only
    rw [first, fits, List.length_cons, Nat.add_comm rest.length, ← Nat.add_assoc, length]
    exact ⟨rfl, rfl⟩
  closed whole before := ⟨before, whole⟩
  member known _ more before := more (misfitMember?_put known before)
  content {known _ name inner _} named first := by
    have member : (Shape.oneOf known).member? name = some inner := named
    rw [Shape.variantFault?, named, misfitMember?, member]
    dsimp only
    rw [first]
    exact ⟨rfl, rfl⟩

theorem readValue_fits {shape : Shape} {fuel levels : Nat} {s t : Bytes} {v : Json}
    (h : readValue shape fuel levels s = .ok (v, t)) : Fits shape v :=
  (inherited_fits.read fuel).1 h

theorem parseBytes_fits {shape : Shape} {bytes : Bytes} {v : Json}
    (h : parseBytes shape bytes = .ok v) : Fits shape v := by
  obtain ⟨rest, read, -⟩ := parseBytes_ok h
  exact readValue_fits read

end Reading

section Structures

def Fields.areListed : Fields → Bool
  | named _ => false
  | listed _ => true

/-- What a structure finds in its fields: a value of the field's shape, or none if it may lack it. -/
def Fields.Fit (known : List (String × Shape)) (fields : Fields) : Prop :=
  ∀ name inner, known.lookup name = some inner →
    (∃ v, fields.get? name = some v ∧ Fits inner.given v) ∨
      fields.get? name = none ∧ inner.mayLack fields.areListed = true

variable {label : String} {known : List (String × Shape)}

theorem lookup_fits {shape inner : Shape} {name : String} {v : Json} {members : Members}
    (known : shape.member? name = some inner) (fits : misfitMember? shape members = none)
    (found : members.lookup name = some v) : Fits inner v := by
  induction members with
  | nil => cases found
  | cons member rest ih =>
    obtain ⟨key, other⟩ := member
    rw [misfitMember?] at fits
    by_cases same : name = key
    · subst same
      simp only [known, Option.or_eq_none_iff] at fits
      simp only [List.lookup_cons_self, Option.some.injEq] at found
      exact found ▸ fits.1
    · rw [List.lookup_cons, beq_false_of_ne same] at found
      split at fits
      · exact ih fits found
      · exact ih (Option.or_eq_none_iff.mp fits).2 found

theorem named_fit {members : Members}
    (fits : misfitMember? (.fields label known) members = none)
    (whole : (Shape.fields label known).lacked? members = none) :
    (Fields.named members).Fit known := by
  intro name inner there
  have member : (Shape.fields label known).member? name = some inner.given := by
    rw [Shape.member?, there]
    rfl
  cases found : members.lookup name with
  | none =>
    refine .inr ⟨found, ?_⟩
    rw [Shape.lacked?, Option.map_eq_none_iff, List.find?_eq_none] at whole
    simpa [found, Fields.areListed] using whole (name, inner) (mem_of_lookup there)
  | some v => exact .inl ⟨v, found, lookup_fits member fits found⟩

theorem listed_fit {front rest : List (String × Shape)} {items : List Json}
    (fits : misfitItem? (.fields label (front ++ rest)) front.length items = none)
    (whole : (Shape.fields label (front ++ rest)).shortage? (front.length + items.length) = none) :
    (Fields.listed ((rest.map Prod.fst).zip items)).Fit rest := by
  intro name inner there
  -- on the fields that are left, each of which takes an item while there are any
  induction rest generalizing front items with
  | nil => cases there
  | cons field rest ih =>
    cases items with
    | nil =>
      refine .inr ⟨rfl, ?_⟩
      rw [Shape.shortage?, Option.map_eq_none_iff, List.length_nil, Nat.add_zero, List.drop_left,
        List.findIdx?_eq_none_iff] at whole
      simpa [Fields.areListed] using whole (name, inner) (mem_of_lookup there)
    | cons item items =>
      obtain ⟨key, shape⟩ := field
      have here : (Shape.fields label (front ++ (key, shape) :: rest)).item? front.length =
          some shape.given := by
        simp [Shape.item?]
      rw [misfitItem?, here] at fits
      obtain ⟨first, more⟩ := Option.or_eq_none_iff.mp fits
      have behind := @ih (front ++ [(key, shape)]) items
      simp only [List.append_assoc, List.singleton_append, List.length_append, List.length_cons,
        List.length_nil, Nat.zero_add] at behind whole
      by_cases same : name = key
      · subst same
        simp only [List.lookup_cons_self, Option.some.injEq] at there
        subst there
        exact .inl ⟨item, by simp [Fields.get?], first⟩
      · have passed : (Fields.listed (((key, shape) :: rest).map Prod.fst |>.zip (item :: items))).get?
            name = (Fields.listed ((rest.map Prod.fst).zip items)).get? name := by
          have missed : (name == key) = false := beq_false_of_ne same
          simp [Fields.get?, List.lookup_cons, missed]
        rw [List.lookup_cons, beq_false_of_ne same] at there
        rw [passed]
        exact behind more (by rwa [Nat.add_assoc, Nat.add_comm 1]) there

theorem fields?_of_fits {v : Json} (fits : Fits (.fields label known) v) :
    ∃ fields, fields? (known.map Prod.fst) v = some fields ∧ fields.Fit known := by
  cases v with
  | object members =>
    rw [Fits, misfit?] at fits
    obtain ⟨members_fit, whole⟩ := Option.or_eq_none_iff.mp fits
    exact ⟨_, rfl, named_fit members_fit (Option.map_eq_none_iff.mp whole)⟩
  | array items =>
    have takes : (Shape.fields label known).takesArray = true := rfl
    rw [Fits, misfit?, if_pos takes] at fits
    obtain ⟨items_fit, whole⟩ := Option.or_eq_none_iff.mp fits
    rw [Shape.lengthFault?] at whole
    split at whole
    · cases whole
    · next short =>
      have few : items.length ≤ (known.map Prod.fst).length := by
        rw [List.length_map]
        omega
      refine ⟨_, if_pos few, @listed_fit label [] known items items_fit ?_⟩
      rwa [List.length_nil, Nat.zero_add]
  | null | bool | number | string => simp [Fits, misfit?, Shape.refusal?, Shape.expected?] at fits

variable {α : Type} {fields : Fields} {inner : Shape} {read : Json → Option α}

theorem Fields.Fit.required (fit : fields.Fit known) (name : String)
    (there : known.lookup name = some inner)
    (must : ∀ listed, inner.mayLack listed = false)
    (reads : ∀ v, Fits inner v → ∃ a, read v = some a) : ∃ a, fields.required name read = some a := by
  have given : inner.given = inner := by
    cases inner with
    | orDefault _ => cases must true
    | _ => rfl
  rcases fit name inner there with ⟨v, found, fits⟩ | ⟨-, lacks⟩
  · rw [Fields.required, found]
    exact reads v (given ▸ fits)
  · rw [must] at lacks
    cases lacks

theorem Fields.Fit.defaulted (fit : fields.Fit known) (name : String) (default : α)
    (there : known.lookup name = some (.orDefault inner))
    (reads : ∀ v, Fits inner v → ∃ a, read v = some a) :
    ∃ a, fields.defaulted name default read = some a := by
  rcases fit name _ there with ⟨v, found, fits⟩ | ⟨none, -⟩
  · rw [Fields.defaulted, found]
    exact reads v fits
  · rw [Fields.defaulted, none]
    exact ⟨default, rfl⟩

theorem Fields.Fit.optional (fit : fields.Fit known) (name : String)
    (there : known.lookup name = some (.orDefault inner))
    (reads : ∀ v, Fits inner v → v = .null ∨ ∃ a, read v = some a) :
    ∃ a, fields.optional name read = some a := by
  unfold Fields.optional
  rcases fit name _ there with ⟨v, found, fits⟩ | ⟨none, -⟩
  · rw [found]
    split
    · exact ⟨_, rfl⟩
    · exact ⟨_, rfl⟩
    · next other same =>
      cases same
      rcases reads v fits with rfl | ⟨a, back⟩
      · exact absurd rfl other
      · exact ⟨some a, by rw [back]; rfl⟩
  · rw [none]
    exact ⟨_, rfl⟩

theorem Fields.Fit.nullable (fit : fields.Fit known) (name : String)
    (there : known.lookup name = some (.orNull inner))
    (reads : ∀ v, Fits (.orNull inner) v → v = .null ∨ ∃ a, read v = some a) :
    ∃ a, fields.nullable name read = some a := by
  rcases fit name _ there with ⟨v, found, fits⟩ | ⟨none, lacks⟩
  · rcases reads v fits with rfl | ⟨a, back⟩
    · exact ⟨.none, by cases fields <;> simp [Fields.nullable, found]⟩
    · cases v with
      | null => exact ⟨.none, by cases fields <;> simp [Fields.nullable, found]⟩
      | _ => exact ⟨some a, by cases fields <;> simp [Fields.nullable, found, back]⟩
  · cases fields with
    | named members => exact ⟨.none, by simp [Fields.nullable, none]⟩
    | listed pairs => cases lacks

end Structures

section Leaves

theorem text_of_fits {label : String} {v : Json} (fits : Fits (.text label) v) :
    ∃ text, v = .string text := by
  cases v with
  | string text => exact ⟨text, rfl⟩
  | array | object =>
    simp [Fits, misfit?, Shape.takesArray, Shape.takesObject, Shape.alternatives?] at fits
  | null | bool | number => simp [Fits, misfit?, Shape.refusal?, Shape.expected?] at fits

theorem asString?_of_fits {label : String} (v : Json) (fits : Fits (.text label) v) :
    ∃ text, v.asString? = some text := by
  obtain ⟨text, rfl⟩ := text_of_fits fits
  exact ⟨text, rfl⟩

theorem orNull_of_fits {label : String} (v : Json) (fits : Fits (.orNull (.text label)) v) :
    v = .null ∨ ∃ text, v.asString? = some text := by
  cases v with
  | null => exact .inl rfl
  | string text => exact .inr ⟨text, rfl⟩
  | array | object =>
    simp [Fits, misfit?, Shape.takesArray, Shape.takesObject, Shape.alternatives?] at fits
  | bool | number => simp [Fits, misfit?, Shape.refusal?, Shape.expected?] at fits

theorem asUInt64?_of_fits {label : String} (v : Json) (fits : Fits (.whole label) v) :
    ∃ n, v.asUInt64? = some n := by
  cases v with
  | number n =>
    cases n with
    | integer n bounds =>
      by_cases positive : 0 ≤ n
      · exact ⟨_, if_pos positive⟩
      · simp [Fits, misfit?, Shape.refusal?, positive] at fits
    | float x finite => simp [Fits, misfit?, Shape.refusal?, Shape.expected?] at fits
  | array | object =>
    simp [Fits, misfit?, Shape.takesArray, Shape.takesObject, Shape.alternatives?] at fits
  | null | bool | string => simp [Fits, misfit?, Shape.refusal?, Shape.expected?] at fits

theorem listOf?_of_fits {α : Type} {shape : Shape} {read : Json → Option α}
    (reads : ∀ v, Fits shape v → ∃ a, read v = some a) (v : Json) (fits : Fits (.each shape) v) :
    ∃ as, listOf? read v = some as := by
  cases v with
  | array items =>
    rw [Fits, misfit?, if_pos (show (Shape.each shape).takesArray = true from rfl)] at fits
    have each := (Option.or_eq_none_iff.mp fits).1
    clear fits
    show ∃ as, items.mapM read = some as
    generalize 0 = index at each
    induction items generalizing index with
    | nil => exact ⟨[], rfl⟩
    | cons item rest ih =>
      obtain ⟨first, more⟩ := Option.or_eq_none_iff.mp each
      obtain ⟨a, here⟩ := reads item first
      obtain ⟨as, there⟩ := ih (index + 1) more
      exact ⟨a :: as, by rw [List.mapM_cons, here, there]; rfl⟩
  | object => simp [Fits, misfit?, Shape.takesObject, Shape.alternatives?] at fits
  | null | bool | number | string => simp [Fits, misfit?, Shape.refusal?, Shape.expected?] at fits

theorem alternative?_of_fits {known : List (String × Shape)} {v : Json}
    (fits : Fits (.oneOf known) v) : ∃ name content inner,
      v.alternative? = some (name, content) ∧ known.lookup name = some inner ∧
        Fits inner content := by
  cases v with
  | object members =>
    rw [Fits, misfit?] at fits
    obtain ⟨named, content⟩ := Option.or_eq_none_iff.mp fits
    unfold Shape.variantFault? at named
    split at named
    · next name v =>
      split at named
      · next there =>
        obtain ⟨inner, there⟩ := Option.isSome_iff_exists.mp there
        have member : (Shape.oneOf known).member? name = some inner := there
        rw [misfitMember?, member] at content
        exact ⟨name, v, inner, rfl, there, (Option.or_eq_none_iff.mp content).1⟩
      · cases named
    · cases named
  | array => simp [Fits, misfit?, Shape.takesArray] at fits
  | null | bool | number | string => simp [Fits, misfit?, Shape.refusal?, Shape.expected?] at fits

end Leaves

end ResumableScript.Json
