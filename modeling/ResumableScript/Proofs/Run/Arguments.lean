import Mathlib.Tactic.Basic
import ResumableScript.Proofs.Json.Nesting
import ResumableScript.Proofs.Lookup
import ResumableScript.Run.Arguments

/-! Which calls a tool takes, and what it is then given. A call is refused for the first of its
faults: too many positional arguments, a keyword that is in the way or unknown, a required argument
that is missing, and an argument that does not fit its type, in this order. Whether an argument is
given by its place or by its name makes no difference. -/
namespace ResumableScript

def Decimal.Magnitude.Is (m : Magnitude) (n : Nat) : Prop :=
  m.mantissa * Nat.pow 2 m.exponent.toNat = n * Nat.pow 2 (-m.exponent).toNat

theorem Decimal.isWhole_iff {x : Float} :
    isWhole x = true ↔ ∃ n, (Magnitude.ofBits x.toBits).Is n := by
  unfold isWhole Magnitude.Is
  generalize Magnitude.ofBits x.toBits = m
  dsimp only
  rw [Bool.or_eq_true, decide_eq_true_eq, beq_iff_eq]
  rcases Int.le_total 0 m.exponent with up | down
  · have none : (-m.exponent).toNat = 0 := by omega
    simp [up, none]
  · have same : m.exponent.natAbs = (-m.exponent).toNat := by omega
    have none : m.exponent.toNat = 0 := by omega
    rw [same, none]
    constructor
    · rintro (up | whole)
      · have zero : (-m.exponent).toNat = 0 := by omega
        exact ⟨m.mantissa, by simp [zero]⟩
      · obtain ⟨n, is⟩ := Nat.dvd_of_mod_eq_zero whole
        exact ⟨n, by rw [is, Nat.mul_comm n]; simp⟩
    · rintro ⟨n, is⟩
      refine .inr (Nat.mod_eq_zero_of_dvd ⟨n, ?_⟩)
      rw [Nat.mul_comm] at is
      simpa [Nat.mul_comm] using is

namespace Arguments

inductive OfType : String → Json → Prop where
  | null : OfType "null" .null
  | boolean (flag : Bool) : OfType "boolean" (.bool flag)
  | string (text : String) : OfType "string" (.string text)
  | array (items : List Json) : OfType "array" (.array items)
  | object (members : Json.Members) : OfType "object" (.object members)
  | number (value : Json.Number) : OfType "number" (.number value)
  | integer (value : Int) (bounds) : OfType "integer" (.number (.integer value bounds))
  | whole (x : Float) (finite) {n : Nat} (is : (Decimal.Magnitude.ofBits x.toBits).Is n) :
      OfType "integer" (.number (.float x finite))
  | unknown {name : String} (value : Json)
      (other : name ∉ ["string", "boolean", "number", "integer", "array", "object", "null"]) :
      OfType name value

/-- A value fits what a schema says of its type: one type, or one of several. -/
inductive Fits : Json → Json → Prop where
  | one {name : String} {value : Json} (type : OfType name value) : Fits (.string name) value
  | choice {names : List Json} {name : String} {value : Json} (listed : .string name ∈ names)
      (type : OfType name value) : Fits (.array names) value
  | unread {expected : Json} (value : Json) (noName : ∀ name, expected ≠ .string name)
      (noChoice : ∀ names, expected ≠ .array names) : Fits expected value

theorem isOfType_iff {name : String} {value : Json} :
    isOfType name value = true ↔ OfType name value := by
  constructor
  · intro h
    unfold isOfType at h
    split at h
    · exact .string _
    · exact .boolean _
    · exact .number _
    · exact .array _
    · exact .object _
    · exact .null
    · exact .integer _ _
    · obtain ⟨n, is⟩ := Decimal.isWhole_iff.mp h
      exact .whole _ _ is
    · exact .unknown _ (by simpa [typeNames] using h)
  · intro h
    cases h with
    | whole x finite is => exact Decimal.isWhole_iff.mpr ⟨_, is⟩
    | unknown value other =>
      unfold isOfType
      split
      case h_9 => simpa [typeNames] using other
      all_goals exact absurd (by simp) other
    | _ => rfl

theorem fits_iff {expected value : Json} : fits expected value = true ↔ Fits expected value := by
  constructor
  · intro h
    unfold fits at h
    split at h
    · exact .one (isOfType_iff.mp h)
    · obtain ⟨name, listed, type⟩ := List.any_eq_true.mp h
      obtain ⟨json, there, same⟩ := List.mem_filterMap.mp listed
      cases json <;> cases same
      exact .choice there (isOfType_iff.mp type)
    · next noName noChoice => exact .unread value noName noChoice
  · intro h
    cases h with
    | one type => exact isOfType_iff.mpr type
    | @choice names name value listed type =>
      refine List.any_eq_true.mpr ⟨name, ?_, isOfType_iff.mpr type⟩
      exact List.mem_filterMap.mpr ⟨_, listed, rfl⟩
    | unread value noName noChoice =>
      cases expected with
      | string name => exact absurd rfl (noName name)
      | array names => exact absurd rfl (noChoice names)
      | _ => rfl

section Contract

variable (tool : ToolDefinition) (args : List Json) (kwargs : Json.Members)

/-- The schemas of the parameters that a tool declares: the members of the object `properties`. -/
def schemas : Json.Members :=
  match tool.parameters with
  | .object fields =>
    match fields.lookup "properties" with
    | some (.object properties) => properties
    | _ => []
  | _ => []

/-- The names that have to be given: the strings of the array `required`. -/
def requiredNames : List String :=
  match tool.parameters with
  | .object fields =>
    match fields.lookup "required" with
    | some (.array names) => names.filterMap fun
      | .string name => some name
      | _ => none
    | _ => []
  | _ => []

/-- No other names may be given: `additionalProperties` is `false`. -/
def Closed : Prop :=
  ∃ fields, tool.parameters = .object fields ∧
    fields.lookup "additionalProperties" = some (.bool false)

def declared : List String := (schemas tool).map Prod.fst

def filled : List String := (declared tool).take args.length

/-- All that a call gives, under the names that it gives it. -/
def given : Json.Members := (declared tool).zip args ++ kwargs

/-- A `null` is no argument, unless there has to be one. -/
def kept : Json.Members :=
  (given tool args kwargs).filter fun
    | (name, .null) => decide (name ∈ requiredNames tool)
    | _ => true

/-- A keyword that may stand behind the positional arguments. -/
def Admits (keyword : String × Json) : Prop :=
  keyword.1 ∉ filled tool args ∧ (Closed tool → keyword.1 ∈ declared tool)

def Supplied (name : String) : Prop := name ∈ (given tool args kwargs).map Prod.fst

def WellTyped (argument : String × Json) : Prop :=
  ∀ schema expected, (argument.1, .object schema) ∈ schemas tool →
    schema.lookup "type" = some expected → Fits expected argument.2

structure Accepts : Prop where
  few : args.length ≤ (declared tool).length
  admits : ∀ keyword ∈ kwargs, Admits tool args keyword
  complete : ∀ name ∈ requiredNames tool, Supplied tool args kwargs name
  typed : ∀ argument ∈ kept tool args kwargs, WellTyped tool argument

/-- The fault that a call is refused for: what would be found before it is not there. -/
inductive FirstFault : ArgumentFault → Prop where
  | tooMany (many : (declared tool).length < args.length) :
      FirstFault (.tooManyPositional (declared tool).length args.length)
  | duplicate {before after : Json.Members} {name : String} {value : Json}
      (few : args.length ≤ (declared tool).length)
      (split : kwargs = before ++ (name, value) :: after)
      (clean : ∀ keyword ∈ before, Admits tool args keyword)
      (again : name ∈ filled tool args) : FirstFault (.duplicate name)
  | unknown {before after : Json.Members} {name : String} {value : Json}
      (few : args.length ≤ (declared tool).length)
      (split : kwargs = before ++ (name, value) :: after)
      (clean : ∀ keyword ∈ before, Admits tool args keyword)
      (free : name ∉ filled tool args) (closed : Closed tool)
      (undeclared : name ∉ declared tool) : FirstFault (.unknown name)
  | missing {before after : List String} {name : String}
      (few : args.length ≤ (declared tool).length)
      (admits : ∀ keyword ∈ kwargs, Admits tool args keyword)
      (split : requiredNames tool = before ++ name :: after)
      (there : ∀ other ∈ before, Supplied tool args kwargs other)
      (absent : ¬ Supplied tool args kwargs name) : FirstFault (.missing name)
  | mismatch {before after schema : Json.Members} {name : String} {value expected : Json}
      (few : args.length ≤ (declared tool).length)
      (admits : ∀ keyword ∈ kwargs, Admits tool args keyword)
      (complete : ∀ name ∈ requiredNames tool, Supplied tool args kwargs name)
      (split : kept tool args kwargs = before ++ (name, value) :: after)
      (typed : ∀ argument ∈ before, WellTyped tool argument)
      (property : (name, .object schema) ∈ schemas tool)
      (type : schema.lookup "type" = some expected) (unfit : ¬ Fits expected value) :
      FirstFault (.mismatch name (typeLabel expected) (typeName value))

end Contract

section Checks

variable {tool : ToolDefinition} {args : List Json} {kwargs : Json.Members}

theorem properties_eq (tool : ToolDefinition) : tool.properties = schemas tool := by
  unfold ToolDefinition.properties schemas
  cases tool.parameters with
  | object fields =>
    simp only [Json.get?]
    cases fields.lookup "properties" with
    | none => rfl
    | some properties => cases properties <;> rfl
  | _ => rfl

theorem required_eq (tool : ToolDefinition) : tool.required = requiredNames tool := by
  have read : Json.asString? = fun | .string name => some name | _ => none := by
    funext json
    cases json <;> rfl
  unfold ToolDefinition.required requiredNames
  rw [read]
  cases tool.parameters with
  | object fields =>
    simp only [Json.get?]
    cases fields.lookup "required" with
    | none => rfl
    | some names => cases names <;> rfl
  | _ => rfl

theorem isClosed_iff (tool : ToolDefinition) : tool.isClosed = true ↔ Closed tool := by
  unfold ToolDefinition.isClosed Closed
  cases tool.parameters with
  | object fields =>
    simp only [Json.get?, Json.object.injEq, exists_eq_left']
    cases fields.lookup "additionalProperties" with
    | none => simp
    | some flag => cases flag <;> simp [Json.asBool?]
  | _ => simp [Json.get?]

instance (tool : ToolDefinition) : Decidable (Closed tool) :=
  decidable_of_iff _ (isClosed_iff tool)

theorem keeps_eq (argument : String × Json) :
    (!argument.2.isNull || (requiredNames tool).contains argument.1) =
      match argument with
      | (name, .null) => decide (name ∈ requiredNames tool)
      | _ => true := by
  obtain ⟨name, value⟩ := argument
  cases value <;> simp [Json.isNull]

theorem declared_nodup (distinct : tool.parameters.KeysDistinct) : (declared tool).Nodup := by
  unfold declared schemas
  split
  · next fields parameters =>
    rw [parameters] at distinct
    split
    · next properties found => exact distinct 1 properties (.member (mem_of_lookup found) .here)
    · exact List.nodup_nil
  · exact List.nodup_nil

theorem declaredType?_iff (distinct : (declared tool).Nodup) {name : String} {expected : Json} :
    declaredType? tool name = some expected ↔
      ∃ schema, (name, .object schema) ∈ schemas tool ∧ schema.lookup "type" = some expected := by
  unfold declaredType?
  rw [properties_eq, Option.bind_eq_some_iff]
  constructor
  · rintro ⟨schema, found, type⟩
    cases schema with
    | object schema => exact ⟨schema, mem_of_lookup found, type⟩
    | _ => cases type
  · rintro ⟨schema, property, type⟩
    exact ⟨.object schema, (lookup_iff_mem distinct).mpr property, type⟩

def typeFault? (tool : ToolDefinition) (argument : String × Json) : Option ArgumentFault :=
  (declaredType? tool argument.1).bind fun expected =>
    if fits expected argument.2 then none
    else some (.mismatch argument.1 (typeLabel expected) (typeName argument.2))

theorem mismatch?_eq (arguments : Json.Members) :
    mismatch? tool arguments = arguments.findSome? (typeFault? tool) := by
  unfold mismatch?
  congr
  funext argument
  unfold typeFault?
  dsimp only
  cases declaredType? tool argument.1 <;> rfl

theorem typeFault?_some (distinct : (declared tool).Nodup) {argument : String × Json}
    {fault : ArgumentFault} :
    typeFault? tool argument = some fault ↔ ∃ schema expected,
      (argument.1, .object schema) ∈ schemas tool ∧ schema.lookup "type" = some expected ∧
        ¬ Fits expected argument.2 ∧
        .mismatch argument.1 (typeLabel expected) (typeName argument.2) = fault := by
  unfold typeFault?
  rw [Option.bind_eq_some_iff]
  simp only [declaredType?_iff distinct, ite_eq_iff, fits_iff]
  constructor
  · rintro ⟨expected, ⟨schema, property, type⟩, ⟨-, ⟨⟩⟩ | ⟨unfit, same⟩⟩
    exact ⟨schema, expected, property, type, unfit, Option.some.inj same⟩
  · rintro ⟨schema, expected, property, type, unfit, rfl⟩
    exact ⟨expected, ⟨schema, property, type⟩, .inr ⟨unfit, rfl⟩⟩

theorem typeFault?_none (distinct : (declared tool).Nodup) {argument : String × Json} :
    typeFault? tool argument = none ↔ WellTyped tool argument := by
  rw [Option.eq_none_iff_forall_ne_some]
  constructor
  · intro faultless schema expected property type
    by_contra unfit
    exact faultless _ ((typeFault?_some distinct).mpr ⟨schema, expected, property, type, unfit, rfl⟩)
  · intro typed fault found
    obtain ⟨schema, expected, property, type, unfit, -⟩ := (typeFault?_some distinct).mp found
    exact unfit (typed schema expected property type)

def keywordFault? (tool : ToolDefinition) (args : List Json) (keyword : String × Json) :
    Option ArgumentFault :=
  if keyword.1 ∈ filled tool args then some (.duplicate keyword.1)
  else if Closed tool ∧ keyword.1 ∉ declared tool then some (.unknown keyword.1)
  else none

theorem keywordFault?_none {keyword : String × Json} :
    keywordFault? tool args keyword = none ↔ Admits tool args keyword := by
  unfold keywordFault? Admits
  by_cases taken : keyword.1 ∈ filled tool args
  · simp [taken]
  · by_cases refused : Closed tool ∧ keyword.1 ∉ declared tool
    · simp [taken, refused]
    · rw [if_neg taken, if_neg refused]
      simpa [taken] using refused

theorem keywordFault?_some {keyword : String × Json} {fault : ArgumentFault} :
    keywordFault? tool args keyword = some fault ↔
      (keyword.1 ∈ filled tool args ∧ .duplicate keyword.1 = fault) ∨
      (keyword.1 ∉ filled tool args ∧ (Closed tool ∧ keyword.1 ∉ declared tool) ∧
        .unknown keyword.1 = fault) := by
  unfold keywordFault?
  by_cases taken : keyword.1 ∈ filled tool args
  · simp [taken]
  · by_cases refused : Closed tool ∧ keyword.1 ∉ declared tool
    · simp [taken, refused]
    · rw [if_neg taken, if_neg refused]
      simp only [taken, refused, false_and, and_false, or_false, reduceCtorEq]

theorem addKeyword_eq {taken : Json.Members} {keyword : String × Json}
    (apart : keyword.1 ∈ taken.map Prod.fst ↔ keyword.1 ∈ filled tool args) :
    addKeyword tool taken keyword =
      (keywordFault? tool args keyword).elim (.ok (taken ++ [keyword])) .error := by
  have undeclared : (tool.properties.lookup keyword.1).isNone = true ↔
      keyword.1 ∉ declared tool := by
    rw [properties_eq, declared, ← isSome_lookup, Option.isNone_iff_eq_none,
      Option.not_isSome_iff_eq_none]
  unfold addKeyword keywordFault?
  simp only [isSome_lookup, apart, Bool.and_eq_true, undeclared, isClosed_iff]
  split
  · rfl
  · split <;> rfl

/-- Keywords are taken up to the first that has a fault. They differ from one another, so that only
the positional arguments can be in their way. -/
theorem foldlM_addKeyword {taken : Json.Members} (distinct : (kwargs.map Prod.fst).Nodup)
    (apart : ∀ keyword ∈ kwargs, keyword.1 ∈ taken.map Prod.fst ↔ keyword.1 ∈ filled tool args) :
    kwargs.foldlM (addKeyword tool) taken =
      (kwargs.findSome? (keywordFault? tool args)).elim (.ok (taken ++ kwargs)) .error := by
  induction kwargs generalizing taken with
  | nil => simp [pure, Except.pure]
  | cons keyword rest ih =>
    obtain ⟨other, distinct⟩ := List.nodup_cons.mp distinct
    rw [List.foldlM_cons, addKeyword_eq (apart keyword List.mem_cons_self), List.findSome?_cons]
    cases keywordFault? tool args keyword with
    | some fault => rfl
    | none =>
      have still : ∀ later ∈ rest,
          later.1 ∈ (taken ++ [keyword]).map Prod.fst ↔ later.1 ∈ filled tool args := by
        intro later there
        have differs : later.1 ≠ keyword.1 := fun same => other (same ▸ List.mem_map_of_mem there)
        simpa [differs] using apart later (List.mem_cons_of_mem _ there)
      have more := ih distinct still
      rw [List.append_assoc] at more
      exact more

def firstFault? (tool : ToolDefinition) (args : List Json) (kwargs : Json.Members) :
    Option ArgumentFault :=
  (if (declared tool).length < args.length then
      some (.tooManyPositional (declared tool).length args.length) else none).or <|
  (kwargs.findSome? (keywordFault? tool args)).or <|
  (((requiredNames tool).find? fun name => ((kept tool args kwargs).lookup name).isNone).map .missing).or <|
  (kept tool args kwargs).findSome? (typeFault? tool)

theorem names_zip (names : List String) (args : List Json) :
    (names.zip args).map Prod.fst = names.take args.length := by
  induction names generalizing args with
  | nil => simp
  | cons name names ih => cases args <;> simp [ih]

theorem convert_eq (distinct : (kwargs.map Prod.fst).Nodup) :
    convert tool args kwargs =
      (firstFault? tool args kwargs).elim (.ok (kept tool args kwargs)) .error := by
  have apart : ∀ keyword ∈ kwargs,
      keyword.1 ∈ ((declared tool).zip args).map Prod.fst ↔ keyword.1 ∈ filled tool args :=
    fun _ _ => by rw [names_zip, filled]
  have taken := foldlM_addKeyword distinct apart
  have count : (declared tool).length = (schemas tool).length := List.length_map ..
  unfold convert firstFault?
  rw [count, ← mismatch?_eq, properties_eq, required_eq]
  by_cases many : (schemas tool).length < args.length
  · rw [if_pos many, if_pos many]
    rfl
  · rw [if_neg many, if_neg many, Option.none_or]
    show kwargs.foldlM (addKeyword tool) ((declared tool).zip args) >>= _ = _
    rw [taken]
    cases kwargs.findSome? (keywordFault? tool args) with
    | some fault => rfl
    | none =>
      rw [Option.none_or]
      dsimp only [Option.elim, bind, Except.bind]
      unfold kept given
      simp only [keeps_eq]
      cases (requiredNames tool).find? _ with
      | some name => rfl
      | none => cases mismatch? tool _ <;> rfl

theorem isNone_kept {name : String} (required : name ∈ requiredNames tool) :
    ((kept tool args kwargs).lookup name).isNone = true ↔ ¬ Supplied tool args kwargs name := by
  rw [Option.isNone_iff_eq_none, ← Option.not_isSome_iff_eq_none, not_iff_not, isSome_lookup]
  unfold Supplied kept
  constructor
  · intro there
    exact (List.filter_sublist.map _).subset there
  · intro there
    obtain ⟨argument, given, rfl⟩ := List.mem_map.mp there
    refine List.mem_map_of_mem (List.mem_filter.mpr ⟨given, ?_⟩)
    split
    · exact decide_eq_true required
    · rfl

theorem supplied_iff {names : List String} (required : names ⊆ requiredNames tool) :
    (∀ name ∈ names, ¬ ((kept tool args kwargs).lookup name).isNone = true) ↔
      ∀ name ∈ names, Supplied tool args kwargs name :=
  forall₂_congr fun name there => by rw [isNone_kept (required there), not_not]

theorem firstFault?_none (distinct : (declared tool).Nodup) :
    firstFault? tool args kwargs = none ↔ Accepts tool args kwargs := by
  unfold firstFault?
  simp only [Option.or_eq_none_iff, Option.map_eq_none_iff, List.find?_eq_none,
    List.findSome?_eq_none_iff, keywordFault?_none, typeFault?_none distinct, ite_eq_right_iff,
    reduceCtorEq, imp_false, Nat.not_lt, supplied_iff (List.Subset.refl (requiredNames tool))]
  constructor
  · rintro ⟨few, admits, complete, typed⟩
    exact ⟨few, admits, complete, typed⟩
  · rintro ⟨few, admits, complete, typed⟩
    exact ⟨few, admits, complete, typed⟩

theorem firstFault?_some (distinct : (declared tool).Nodup) {fault : ArgumentFault} :
    firstFault? tool args kwargs = some fault ↔ FirstFault tool args kwargs fault := by
  unfold firstFault?
  simp only [Option.or_eq_some_iff, Option.map_eq_none_iff, Option.map_eq_some_iff,
    List.find?_eq_none, List.findSome?_eq_none_iff, keywordFault?_none, List.findSome?_eq_some_iff,
    keywordFault?_some, typeFault?_some distinct, typeFault?_none distinct,
    List.find?_eq_some_iff_append, supplied_iff (List.Subset.refl (requiredNames tool)), ite_eq_right_iff,
    Option.ite_none_right_eq_some, reduceCtorEq, imp_false, Nat.not_lt, Bool.not_eq_true',
    ← Bool.not_eq_true]
  constructor
  · rintro (⟨many, ⟨⟩⟩ | ⟨few, ⟨before, keyword, after, split, refused, clean⟩ | ⟨admits, late⟩⟩)
    · exact .tooMany many
    · rcases refused with ⟨again, rfl⟩ | ⟨free, ⟨closed, undeclared⟩, rfl⟩
      · exact .duplicate few split clean again
      · exact .unknown few split clean free closed undeclared
    · rcases late with ⟨name, ⟨absent, before, after, split, there⟩, rfl⟩ |
        ⟨complete, before, argument, after, split, ⟨schema, expected, property, type, unfit, rfl⟩, typed⟩
      · have earlier : before ⊆ requiredNames tool := by simp [split]
        refine .missing few admits split ((supplied_iff earlier).mp there) ?_
        exact (isNone_kept (by simp [split])).mp absent
      · exact .mismatch few admits complete split typed property type unfit
  · intro first
    cases first with
    | tooMany many => exact .inl ⟨many, rfl⟩
    | duplicate few split clean again =>
      exact .inr ⟨few, .inl ⟨_, _, _, split, .inl ⟨again, rfl⟩, clean⟩⟩
    | unknown few split clean free closed undeclared =>
      exact .inr ⟨few, .inl ⟨_, _, _, split, .inr ⟨free, ⟨closed, undeclared⟩, rfl⟩, clean⟩⟩
    | @missing before after name few admits split there absent =>
      have earlier : before ⊆ requiredNames tool := by simp [split]
      refine .inr ⟨few, .inr ⟨admits, .inl ⟨name, ⟨?_, before, after, split, ?_⟩, rfl⟩⟩⟩
      · exact (isNone_kept (by simp [split])).mpr absent
      · exact (supplied_iff earlier).mpr there
    | mismatch few admits complete split typed property type unfit =>
      exact .inr ⟨few, .inr ⟨admits, .inr ⟨complete, _, _, _, split,
        ⟨_, _, property, type, unfit, rfl⟩, typed⟩⟩⟩

end Checks

/-- A call is taken exactly if it has no fault, and then with the arguments in the order of their
parameters and keywords, without the `null`s that are not required. It is refused exactly for the
first of its faults. -/
theorem converted_or_refused (tool : ToolDefinition) (args : List Json) (kwargs : Json.Members)
    (schema : tool.parameters.KeysDistinct) (keywords : (kwargs.map Prod.fst).Nodup) :
    (∀ arguments, convert tool args kwargs = .ok arguments ↔
      Accepts tool args kwargs ∧ arguments = kept tool args kwargs) ∧
    ∀ fault, convert tool args kwargs = .error fault ↔ FirstFault tool args kwargs fault := by
  have distinct := declared_nodup schema
  rw [convert_eq keywords]
  simp only [← firstFault?_none distinct, ← firstFault?_some distinct]
  cases firstFault? tool args kwargs <;> simp [eq_comm]

def searchTool : ToolDefinition where
  name := "search"
  parameters := .object [
    ("properties", .object [("query", .object [("type", .string "string")]),
      ("limit", .object [("type", .array [.string "integer", .string "null"])])]),
    ("required", .array [.string "query"]), ("additionalProperties", .bool false)]

theorem searchTool_distinct : searchTool.parameters.KeysDistinct := by
  have text : (Json.object [("type", .string "string")]).Storable 2 :=
    .object 1 _ (by simp) (by simpa using .string 1 _)
  have choice : (Json.object [("type", .array [.string "integer", .string "null"])]).Storable 2 :=
    .object 1 _ (by simp) (by simpa using .array 0 _ (by simpa using ⟨.string 0 _, .string 0 _⟩))
  have properties : (Json.object [("query", .object [("type", .string "string")]),
      ("limit", .object [("type", .array [.string "integer", .string "null"])])]).Storable 3 :=
    .object 2 _ (by simp) (by simpa using ⟨text, choice⟩)
  have required : (Json.array [.string "query"]).Storable 3 :=
    .array 2 _ (by simpa using .string 2 _)
  exact (Json.storable_iff.mp (.object 3 _ (by simp)
    (by simpa using ⟨properties, required, .bool 3 _⟩))).2.2

/-- A `null` that is dropped. Two faulty keywords, the second of which also is no parameter; a
required name that is left out; and a `null` that is kept, as its name is required, but no text. -/
theorem converted_or_refused_search :
    let twice : Json.Members := [("limit", .null), ("query", .null), ("page", .null)]
    declared searchTool = ["query", "limit"] ∧ requiredNames searchTool = ["query"] ∧
      searchTool.parameters.KeysDistinct ∧ (twice.map Prod.fst).Nodup ∧
      Accepts searchTool [.string "rust"] [("limit", .null)] ∧
      kept searchTool [.string "rust"] [("limit", .null)] = [("query", .string "rust")] ∧
      FirstFault searchTool [.string "rust"] twice (.duplicate "query") ∧
      FirstFault searchTool [] [("page", .null)] (.unknown "page") ∧
      FirstFault searchTool [] [("limit", .ofInt64 5)] (.missing "query") ∧
      FirstFault searchTool [.null] [] (.mismatch "query" "string" "null") := by
  intro twice
  have keywords : (twice.map Prod.fst).Nodup := by simp [twice]
  have none : (([] : Json.Members).map Prod.fst).Nodup := List.nodup_nil
  have one (name : String) (value : Json) : ([(name, value)].map Prod.fst).Nodup :=
    List.nodup_singleton name
  obtain ⟨accepts, same⟩ := (converted_or_refused searchTool [.string "rust"] [("limit", .null)]
    searchTool_distinct (one _ _)).1 [("query", .string "rust")] |>.mp rfl
  have again := (converted_or_refused searchTool [.string "rust"] twice searchTool_distinct
    keywords).2 (.duplicate "query") |>.mp rfl
  have other := (converted_or_refused searchTool [] [("page", .null)] searchTool_distinct
    (one _ _)).2 (.unknown "page") |>.mp rfl
  have missing := (converted_or_refused searchTool [] [("limit", .ofInt64 5)] searchTool_distinct
    (one _ _)).2 (.missing "query") |>.mp rfl
  have untyped := (converted_or_refused searchTool [.null] [] searchTool_distinct
    none).2 (.mismatch "query" "string" "null") |>.mp rfl
  exact ⟨rfl, rfl, searchTool_distinct, keywords, accepts, same.symm, again, other, missing, untyped⟩

theorem zip_take (names : List String) (args : List Json) (k : Nat) :
    names.zip (args.take k) = (names.zip args).take k := by
  induction names generalizing args k with
  | nil => simp
  | cons name names ih => cases args <;> cases k <;> simp [ih]

theorem foldlM_declared {tool : ToolDefinition} (distinct : (declared tool).Nodup)
    (args : List Json) (k : Nat) :
    (((declared tool).zip args).drop k).foldlM (addKeyword tool) (((declared tool).zip args).take k) =
      .ok ((declared tool).zip args) := by
  have early : (((declared tool).zip args).take k).map Prod.fst = filled tool (args.take k) := by
    rw [← zip_take, names_zip, filled]
  have unique : (((declared tool).zip args).map Prod.fst).Nodup := by
    rw [names_zip]
    exact distinct.sublist (List.take_sublist ..)
  rw [← List.take_append_drop k ((declared tool).zip args), List.map_append, early] at unique
  obtain ⟨-, late, apart⟩ := List.nodup_append.mp unique
  have admits : ∀ keyword ∈ ((declared tool).zip args).drop k, Admits tool (args.take k) keyword := by
    intro keyword there
    refine ⟨fun here => apart _ here _ (List.mem_map_of_mem there) rfl, fun _ => ?_⟩
    exact (List.of_mem_zip (List.mem_of_mem_drop there)).1
  have faultless : (((declared tool).zip args).drop k).findSome? (keywordFault? tool (args.take k)) =
      none :=
    List.findSome?_eq_none_iff.mpr fun keyword there => keywordFault?_none.mpr (admits keyword there)
  rw [foldlM_addKeyword late fun _ _ => by rw [early], faultless, Option.elim, List.take_append_drop]

/-- From any place on, arguments may come as keywords instead, whatever other keywords there are. -/
theorem positional_as_keywords (tool : ToolDefinition) (schema : tool.parameters.KeysDistinct)
    (args : List Json) (few : args.length ≤ (declared tool).length) (kwargs : Json.Members) (k : Nat) :
    convert tool (args.take k) (((declared tool).zip args).drop k ++ kwargs) =
      convert tool args kwargs := by
  have count : (declared tool).length = (schemas tool).length := List.length_map ..
  have fewer : (args.take k).length ≤ args.length := List.length_take_le' k args
  unfold convert
  rw [properties_eq, if_neg (by omega), if_neg (by omega)]
  show List.foldlM _ ((declared tool).zip (args.take k)) _ >>= _ =
    List.foldlM _ ((declared tool).zip args) _ >>= _
  rw [zip_take, List.foldlM_append, foldlM_declared (declared_nodup schema)]
  rfl

/-- The number does not fit, wherever it stands. -/
theorem positional_as_keywords_search :
    searchTool.parameters.KeysDistinct ∧
      [Json.string "rust", .string "all"].length ≤ (declared searchTool).length ∧
      convert searchTool [.string "rust"] [("limit", .string "all")] =
        convert searchTool [.string "rust", .string "all"] [] ∧
      convert searchTool [.string "rust", .string "all"] [] =
        .error (.mismatch "limit" "integer | null" "string") :=
  ⟨searchTool_distinct, by decide, positional_as_keywords searchTool searchTool_distinct
    [.string "rust", .string "all"] (by decide) [] 1, rfl⟩

end Arguments

end ResumableScript
