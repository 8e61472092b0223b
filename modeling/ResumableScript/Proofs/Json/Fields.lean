import Mathlib.Tactic.Basic
import ResumableScript.Proofs.Engine.Checkpoint
import ResumableScript.Proofs.Json.Nesting

/-! What a structure reads off the members of an object, and how a value comes back from the text of
its JSON form. -/
namespace ResumableScript.Json

section Reading

variable {α : Type}

/-- The lookup of a field as a choice, so that two names are compared as strings and no comparison
is unfolded. -/
@[simp] theorem lookup_cons (key name : String) (value : Json) (rest : Members) :
    List.lookup key ((name, value) :: rest) = if key = name then some value else rest.lookup key := by
  rw [List.lookup_cons]
  by_cases same : key = name
  · simp [same]
  · have differ : (key == name) = false := by simp [same]
    simp [same, differ]

@[simp] theorem asString?_string (text : String) : asString? (string text) = some text := rfl

@[simp] theorem asBool?_bool (flag : Bool) : asBool? (bool flag) = some flag := rfl

@[simp] theorem asArray?_array (items : List Json) : asArray? (array items) = some items := rfl

@[simp] theorem asObject?_object (members : Members) :
    asObject? (object members) = some members := rfl

@[simp] theorem asInt64?_ofInt64 (n : Int64) : asInt64? (ofInt64 n) = some n := by
  have below : n.toInt < 9223372036854775808 := n.toInt_lt
  simp [asInt64?, ofInt64, below]

@[simp] theorem listOf?_ofStrings (texts : List String) :
    listOf? asString? (ofStrings texts) = some texts := listOf?_map texts asString?_string

@[simp] theorem tagged?_object (tag : String) (members : Members) :
    tagged? tag (object members) =
      ((members.lookup tag).bind asString?).map fun kind => (kind, object members) := by
  simp only [tagged?]
  rcases members.lookup tag with _ | value
  · rfl
  · cases value <;> rfl

@[simp] theorem fields?_object (names : List String) (members : Members) :
    fields? names (object members) = some (.named members) := rfl

variable (members : Members) (name : String) (read : Json → Option α)

@[simp] theorem required_named :
    (Fields.named members).required name read = (members.lookup name).bind read := rfl

@[simp] theorem defaulted_named (default : α) :
    (Fields.named members).defaulted name default read =
      (members.lookup name).elim (some default) read := by
  unfold Fields.defaulted
  simp only [Fields.get?]
  cases members.lookup name <;> rfl

@[simp] theorem optional_named :
    (Fields.named members).optional name read = (members.lookup name).elim (some none)
      fun value => if value.isNull then some none else (read value).map some := by
  unfold Fields.optional
  simp only [Fields.get?]
  rcases members.lookup name with _ | _ | _ <;> rfl

end Reading

/-- A JSON form that its text gives back: it nests no deeper than texts may, its floats are what
their texts say, and no object in it has a key twice. -/
def Faithful (v : Json) : Prop := v.nesting ≤ 127 ∧ v.FloatsReadBack ∧ v.KeysDistinct

theorem faithful_iff {v : Json} : v.Faithful ↔ v.Storable maxLevels := storable_iff.symm

/-- Decoding the compact text of a value's JSON form gives the value back. -/
def RoundTrips {α : Type} (toJson : α → Json) (ofJson? : Json → Option α) (valid : α → Prop) :
    Prop :=
  ∀ a, valid a → (toJson a).Faithful → (parse (toJson a).compact).toOption.bind ofJson? = some a

theorem roundTrips {α : Type} {toJson : α → Json} {ofJson? : Json → Option α} {valid : α → Prop}
    (back : ∀ a, valid a → ofJson? (toJson a) = some a) : RoundTrips toJson ofJson? valid := by
  intro a holds faithful
  rw [(faithful_iff.mp faithful).parse_compact]
  exact back a holds

end ResumableScript.Json
