import Mathlib
import ResumableScript.Proofs.Double.Value
import ResumableScript.Proofs.Json.Nesting
import ResumableScript.Proofs.Lookup
import ResumableScript.Script.Value

/-! Values outside and inside a script. What a script hands out comes back to it as it was. What it is
handed keeps all but the order of members and integers beyond its own range: dictionaries are kept in
the order of their keys, and such integers become doubles. -/
namespace ResumableScript

@[elab_as_elim]
theorem Json.inductionOn {motive : Json → Prop} (null : motive .null)
    (bool : ∀ flag, motive (.bool flag)) (number : ∀ n, motive (.number n))
    (string : ∀ text, motive (.string text))
    (array : ∀ items, (∀ v ∈ items, motive v) → motive (.array items))
    (object : ∀ members, (∀ member ∈ members, motive member.2) → motive (.object members))
    (v : Json) : motive v := by
  induction levels : v.nesting using Nat.strongRecOn generalizing v with
  | ind n ih =>
    subst levels
    cases v with
    | null => exact null
    | bool flag => exact bool flag
    | number n => exact number n
    | string text => exact string text
    | array items =>
      exact array items fun item there =>
        ih _ (Nat.lt_succ_of_le (nestingItems_le.mp (Nat.le_refl _) item there)) item rfl
    | object members =>
      exact object members fun member there =>
        ih _ (Nat.lt_succ_of_le (nestingMembers_le.mp (Nat.le_refl _) member there)) member.2 rfl

namespace Value

section Entries

variable {α : Type} {key : String} {value : Value} {entries : Entries}

def Increasing (pairs : List (String × α)) : Prop := pairs.Pairwise fun a b => a.1 < b.1

theorem Increasing.nodup {pairs : List (String × α)} (h : Increasing pairs) :
    (pairs.map Prod.fst).Nodup :=
  List.pairwise_map.mpr (h.imp fun less => ne_of_lt less)

theorem Increasing.eq_of_perm {pairs others : List (String × α)} (h : Increasing pairs)
    (h' : Increasing others) (same : pairs.Perm others) : pairs = others :=
  same.eq_of_pairwise (fun _ _ _ _ less greater => absurd greater (String.lt_asymm less)) h h'

theorem mem_insert {entry : String × Value} (there : entry ∈ entries.insert key value) :
    entry = (key, value) ∨ entry ∈ entries := by
  induction entries with
  | nil => exact .inl (List.mem_singleton.mp there)
  | cons first rest ih =>
    obtain ⟨k, v⟩ := first
    rw [Entries.insert] at there
    split at there
    · exact List.mem_cons.mp there
    · split at there
      · exact (List.mem_cons.mp there).imp id (List.mem_cons_of_mem _)
      · rcases List.mem_cons.mp there with rfl | there
        · exact .inr List.mem_cons_self
        · exact (ih there).imp id (List.mem_cons_of_mem _)

theorem increasing_insert (h : Increasing entries) : Increasing (entries.insert key value) := by
  induction entries with
  | nil => exact List.pairwise_singleton _ _
  | cons first rest ih =>
    obtain ⟨k, v⟩ := first
    obtain ⟨least, h⟩ := List.pairwise_cons.mp h
    rw [Entries.insert]
    split
    · next less =>
      refine List.pairwise_cons.mpr ⟨fun entry there => ?_, List.pairwise_cons.mpr ⟨least, h⟩⟩
      rcases List.mem_cons.mp there with rfl | there
      · exact less
      · exact String.lt_trans less (least entry there)
    · next notLess =>
      split
      · next same =>
        subst same
        exact List.pairwise_cons.mpr ⟨least, h⟩
      · next differ =>
        have less : k < key := lt_of_le_of_ne (String.not_lt.mp notLess) differ
        refine List.pairwise_cons.mpr ⟨fun entry there => ?_, ih h⟩
        rcases mem_insert there with rfl | there
        · exact less
        · exact least entry there

theorem insert_perm (fresh : key ∉ entries.map Prod.fst) :
    (entries.insert key value).Perm ((key, value) :: entries) := by
  induction entries with
  | nil => exact .refl _
  | cons first rest ih =>
    obtain ⟨k, v⟩ := first
    rw [List.map_cons, List.mem_cons, not_or] at fresh
    rw [Entries.insert]
    split
    · exact .refl _
    · rw [if_neg fun same => fresh.1 same.symm]
      exact ((ih fresh.2).cons _).trans (.swap _ _ _)

def insertAll (entries : Entries) (pairs : Entries) : Entries :=
  pairs.foldl (fun entries pair => Entries.insert pair.1 pair.2 entries) entries

theorem increasing_insertAll (h : Increasing entries) (pairs : Entries) :
    Increasing (insertAll entries pairs) := by
  induction pairs generalizing entries with
  | nil => exact h
  | cons pair rest ih => exact ih (increasing_insert h)

theorem mem_insertAll {pairs : Entries} {entry : String × Value}
    (there : entry ∈ insertAll entries pairs) : entry ∈ entries ∨ entry ∈ pairs := by
  induction pairs generalizing entries with
  | nil => exact .inl there
  | cons pair rest ih =>
    rcases ih there with there | there
    · rcases mem_insert there with rfl | there
      · exact .inr List.mem_cons_self
      · exact .inl there
    · exact .inr (List.mem_cons_of_mem _ there)

theorem insertAll_perm {pairs : Entries} (distinct : ((entries ++ pairs).map Prod.fst).Nodup) :
    (insertAll entries pairs).Perm (entries ++ pairs) := by
  induction pairs generalizing entries with
  | nil => rw [List.append_nil]; exact .refl _
  | cons pair rest ih =>
    obtain ⟨key, value⟩ := pair
    have fresh : key ∉ entries.map Prod.fst := by
      rw [List.map_append, List.nodup_append] at distinct
      exact fun there => distinct.2.2 key there key List.mem_cons_self rfl
    have moved : (Entries.insert key value entries ++ rest).Perm (entries ++ (key, value) :: rest) :=
      ((insert_perm fresh).append_right rest).trans List.perm_middle.symm
    exact (ih ((moved.map Prod.fst).nodup_iff.mpr distinct)).trans moved

theorem increasing_ofList (pairs : Entries) : Increasing (Entries.ofList pairs) :=
  increasing_insertAll List.Pairwise.nil pairs

theorem mem_ofList {pairs : Entries} {entry : String × Value} (there : entry ∈ Entries.ofList pairs) :
    entry ∈ pairs := by
  have inserted : entry ∈ insertAll [] pairs := there
  exact (mem_insertAll inserted).resolve_left List.not_mem_nil

theorem ofList_perm {pairs : Entries} (distinct : (pairs.map Prod.fst).Nodup) :
    (Entries.ofList pairs).Perm pairs := by
  have new : (([] ++ pairs).map Prod.fst).Nodup := distinct
  exact insertAll_perm new

theorem ofList_increasing {pairs : Entries} (h : Increasing pairs) : Entries.ofList pairs = pairs :=
  (increasing_ofList pairs).eq_of_perm h (ofList_perm h.nodup)

end Entries

inductive Finite : Value → Prop where
  | nil : Finite nil
  | bool (flag : Bool) : Finite (bool flag)
  | int (value : Int64) : Finite (int value)
  | float (value : Float) (finite : value.isFinite = true) : Finite (float value)
  | str (text : String) : Finite (str text)
  | list (items : List Value) (each : ∀ v ∈ items, Finite v) : Finite (list items)
  | dict (entries : Entries) (each : ∀ entry ∈ entries, Finite entry.2) : Finite (dict entries)

section Lists

theorem toJsonItems_eq (items : List Value) : toJsonItems items = items.map toJson := by
  induction items with
  | nil => rfl
  | cons item rest ih => rw [toJsonItems, ih, List.map_cons]

theorem toJsonMembers_eq (entries : Entries) :
    toJsonMembers entries = entries.map fun entry => (entry.1, entry.2.toJson) := by
  induction entries with
  | nil => rfl
  | cons entry rest ih => rw [toJsonMembers, ih, List.map_cons]

theorem ofJsonItems_eq (items : List Json) : ofJsonItems items = items.map ofJson := by
  induction items with
  | nil => rfl
  | cons item rest ih => rw [ofJsonItems, ih, List.map_cons]

theorem ofJsonMembers_eq (members : Json.Members) :
    ofJsonMembers members = members.map fun member => (member.1, ofJson member.2) := by
  induction members with
  | nil => rfl
  | cons member rest ih => rw [ofJsonMembers, ih, List.map_cons]

end Lists

theorem ofFloat_finite {x : Float} (finite : x.isFinite = true) :
    Json.ofFloat x = .number (.float x finite) := by
  rw [Json.ofFloat, Json.Number.ofFloat?, dif_pos finite]

theorem map_eq_self {α : Type} {f : α → α} {items : List α} (same : ∀ a ∈ items, f a = a) :
    items.map f = items :=
  (List.map_congr_left same).trans (List.map_id' items)

theorem ofJson_toJson {v : Value} (ordered : v.Ordered) (finite : v.Finite) : ofJson v.toJson = v := by
  induction ordered with
  | nil | bool | str => rfl
  | int n =>
    have inRange : n.toInt < 9223372036854775808 := n.toInt_lt
    simp [toJson, Json.ofInt64, ofJson, ofNumber, inRange]
  | float x =>
    cases finite with
    | float _ finite =>
      rw [toJson, ofFloat_finite finite]
      rfl
  | list items each ih =>
    cases finite with
    | list _ finite =>
      have same : ofJsonItems (toJsonItems items) = items := by
        rw [toJsonItems_eq, ofJsonItems_eq, List.map_map]
        exact map_eq_self fun v there => ih v there (finite v there)
      rw [toJson, ofJson, same]
  | dict entries increasing each ih =>
    cases finite with
    | dict _ finite =>
      have same : ofJsonMembers (toJsonMembers entries) = entries := by
        rw [toJsonMembers_eq, ofJsonMembers_eq, List.map_map]
        exact map_eq_self fun entry there =>
          congrArg (Prod.mk entry.1) (ih entry there (finite entry there))
      rw [toJson, ofJson, same, ofList_increasing increasing]

section Handed

theorem ordered_ofNumber (n : Json.Number) : (ofNumber n).Ordered := by
  unfold ofNumber
  split
  · split
    · exact .int _
    · exact .float _
  · exact .float _

theorem ordered_ofJson (v : Json) : (ofJson v).Ordered := by
  induction v using Json.inductionOn with
  | null => exact .nil
  | bool flag => exact .bool flag
  | number n => exact ordered_ofNumber n
  | string text => exact .str text
  | array items ih =>
    rw [ofJson, ofJsonItems_eq]
    exact .list _ (List.forall_mem_map.mpr ih)
  | object members ih =>
    rw [ofJson, ofJsonMembers_eq]
    refine .dict _ (increasing_ofList _) fun entry there => ?_
    obtain ⟨member, given, rfl⟩ := List.mem_map.mp (mem_ofList there)
    exact ih member given

theorem nearest_ofNumber {n : Int} (beyond : 9223372036854775808 ≤ n)
    (bounds : -9223372036854775808 ≤ n ∧ n < 18446744073709551616) :
    ∃ x, ofNumber (.integer n bounds) = float x ∧ Double.Nearest x n :=
  ⟨Float.ofInt n, if_neg (by omega), Double.nearest_ofInt (by omega) (by omega)⟩

theorem finite_ofNumber (n : Json.Number) : (ofNumber n).Finite := by
  cases n with
  | integer n bounds =>
    rcases Int.lt_or_le n 9223372036854775808 with inRange | beyond
    · rw [ofNumber, if_pos inRange]
      exact .int _
    · obtain ⟨x, same, nearest⟩ := nearest_ofNumber beyond bounds
      rw [same]
      exact .float x nearest.finite
  | float x finite => exact .float x finite

theorem finite_ofJson (v : Json) : (ofJson v).Finite := by
  induction v using Json.inductionOn with
  | null => exact .nil
  | bool flag => exact .bool flag
  | number n => exact finite_ofNumber n
  | string text => exact .str text
  | array items ih =>
    rw [ofJson, ofJsonItems_eq]
    exact .list _ (List.forall_mem_map.mpr ih)
  | object members ih =>
    rw [ofJson, ofJsonMembers_eq]
    refine .dict _ fun entry there => ?_
    obtain ⟨member, given, rfl⟩ := List.mem_map.mp (mem_ofList there)
    exact ih member given

end Handed

/-- What becomes of a value that goes into a script and out again: the members of objects are put in
the order of their keys, and integers beyond the range of a script become doubles. -/
inductive Converted : Json → Json → Prop where
  | null : Converted .null .null
  | bool (flag : Bool) : Converted (.bool flag) (.bool flag)
  | string (text : String) : Converted (.string text) (.string text)
  | float (x : Float) (finite : x.isFinite = true) :
      Converted (.number (.float x finite)) (.number (.float x finite))
  | integer (n : Int) (bounds : -9223372036854775808 ≤ n ∧ n < 18446744073709551616)
      (inRange : n ≤ Int64.maxValue.toInt) :
      Converted (.number (.integer n bounds)) (.number (.integer n bounds))
  | beyond (n : Int) (bounds : -9223372036854775808 ≤ n ∧ n < 18446744073709551616)
      (greater : Int64.maxValue.toInt < n) (x : Float) (finite : x.isFinite = true)
      (nearest : Double.Nearest x n) :
      Converted (.number (.integer n bounds)) (.number (.float x finite))
  | array (items items' : List Json) (length : items'.length = items.length)
      (each : ∀ pair ∈ items.zip items', Converted pair.1 pair.2) :
      Converted (.array items) (.array items')
  | object (members members' : Json.Members)
      (keys : (members'.map Prod.fst).Perm (members.map Prod.fst)) (increasing : Increasing members')
      (each : ∀ key v v', (key, v) ∈ members → (key, v') ∈ members' → Converted v v') :
      Converted (.object members) (.object members')

section Converted

theorem converted_number (n : Json.Number) : Converted (.number n) (ofNumber n).toJson := by
  have greatest : Int64.maxValue.toInt = 9223372036854775807 := Int64.toInt_maxValue
  cases n with
  | integer n bounds =>
    rcases Int.lt_or_le n 9223372036854775808 with inRange | beyond
    · have same : (ofNumber (.integer n bounds)).toJson = .number (.integer n bounds) := by
        rw [ofNumber, if_pos inRange]
        have word : (Int64.ofInt n).toInt = n := Int64.toInt_ofInt_of_le bounds.1 inRange
        simp only [toJson, Json.ofInt64, word]
      rw [same]
      exact .integer n bounds (by omega)
    · obtain ⟨x, same, nearest⟩ := nearest_ofNumber beyond bounds
      rw [same, toJson, ofFloat_finite nearest.finite]
      exact .beyond n bounds (by omega) x nearest.finite nearest
  | float x finite =>
    rw [ofNumber, toJson, ofFloat_finite finite]
    exact .float x finite

theorem converted_items {items : List Json} (each : ∀ v ∈ items, Converted v (ofJson v).toJson) :
    Converted (.array items) (ofJson (.array items)).toJson := by
  rw [ofJson, toJson, ofJsonItems_eq, toJsonItems_eq, List.map_map]
  refine .array _ _ (List.length_map _) fun pair there => ?_
  have paired := List.zip_map' (f := id) (g := toJson ∘ ofJson) (l := items)
  rw [List.map_id] at paired
  rw [paired, List.mem_map] at there
  obtain ⟨v, given, rfl⟩ := there
  exact each v given

theorem converted_members {members : Json.Members} (distinct : (members.map Prod.fst).Nodup)
    (each : ∀ member ∈ members, Converted member.2 (ofJson member.2).toJson) :
    Converted (.object members) (ofJson (.object members)).toJson := by
  rw [ofJson, toJson, ofJsonMembers_eq, toJsonMembers_eq]
  have kept : (members.map fun member => (member.1, ofJson member.2)).map Prod.fst =
      members.map Prod.fst := List.map_map
  refine .object _ _ ?keys ?increasing ?each
  case keys =>
    have sorted := (ofList_perm (kept ▸ distinct)).map Prod.fst
    rw [kept] at sorted
    rw [List.map_map]
    exact sorted
  case increasing => exact List.pairwise_map.mpr (increasing_ofList _)
  case each =>
    intro key v v' given there
    obtain ⟨entry, sorted, same⟩ := List.mem_map.mp there
    obtain ⟨member, source, rfl⟩ := List.mem_map.mp (mem_ofList sorted)
    cases same
    have only := (lookup_iff_mem distinct).mpr given
    rw [(lookup_iff_mem distinct).mpr source] at only
    cases only
    exact each _ given

theorem converted_ofJson (v : Json) (distinct : v.KeysDistinct) : Converted v (ofJson v).toJson := by
  induction v using Json.inductionOn with
  | null => exact .null
  | bool flag => exact .bool flag
  | number n => exact converted_number n
  | string text => exact .string text
  | array items ih =>
    exact converted_items fun item there => ih item there (distinct.within (.item there .here))
  | object members ih =>
    exact converted_members (distinct 0 members .here) fun member there =>
      ih member there (distinct.within (.member there .here))

end Converted

/-- A value that a script hands out comes back to it as it was. A value that it is handed goes out again
with the same members, in the order of their keys at every level, and with the nearest double for an
integer beyond the range of a script; a second time changes nothing. -/
theorem boundary_faithful :
    (∀ v : Value, v.Ordered → v.Finite → ofJson v.toJson = v) ∧
      ∀ v : Json, v.KeysDistinct → Converted v (ofJson v).toJson ∧
        (ofJson (ofJson v).toJson).toJson = (ofJson v).toJson :=
  ⟨fun _ => ofJson_toJson, fun v distinct =>
    ⟨converted_ofJson v distinct, by rw [ofJson_toJson (ordered_ofJson v) (finite_ofJson v)]⟩⟩

/-- A dictionary with a float goes out and in, and an object with its members out of order and an
integer beyond the range of a script goes in and out. -/
theorem boundary_faithful_unordered :
    let v : Value := dict [("a", float 0.5), ("b", list [nil, int (-3)])]
    let given : Json := .object [("b", .number (.integer 9223372036854775808 (by decide))),
      ("a", .array [.null])]
    v.Ordered ∧ v.Finite ∧ ofJson v.toJson = v ∧ given.KeysDistinct ∧
      Converted given (ofJson given).toJson ∧
      ∃ x finite, Double.Nearest x 9223372036854775808 ∧ (ofJson given).toJson =
        .object [("a", .array [.null]), ("b", .number (.float x finite))] := by
  intro v given
  have ordered : v.Ordered := by
    refine .dict _ (by decide) ?_
    simp only [List.forall_mem_cons]
    refine ⟨.float _, .list _ ?_, List.forall_mem_nil _⟩
    simp only [List.forall_mem_cons]
    exact ⟨.nil, .int _, List.forall_mem_nil _⟩
  have finite : v.Finite := by
    refine .dict _ ?_
    simp only [List.forall_mem_cons]
    refine ⟨.float _ (by decide +kernel), .list _ ?_, List.forall_mem_nil _⟩
    simp only [List.forall_mem_cons]
    exact ⟨.nil, .int _, List.forall_mem_nil _⟩
  have storable : given.Storable 2 := by
    refine .object _ _ (by decide) ?_
    simp only [List.forall_mem_cons]
    refine ⟨.integer _ _ _, .array _ _ ?_, List.forall_mem_nil _⟩
    simp only [List.forall_mem_cons]
    exact ⟨.null 0, List.forall_mem_nil _⟩
  have distinct : given.KeysDistinct := (Json.storable_iff.mp storable).2.2
  obtain ⟨back, handed⟩ := boundary_faithful
  have nearest : Double.Nearest (Float.ofInt 9223372036854775808) 9223372036854775808 :=
    Double.nearest_ofInt (by decide) (by decide)
  refine ⟨ordered, finite, back v ordered finite, distinct, (handed given distinct).1, _,
    nearest.finite, nearest, ?_⟩
  have read : ofJson given =
      dict [("a", list [nil]), ("b", float (Float.ofInt 9223372036854775808))] := by
    have sooner : "a" < "b" := by decide
    simp [given, ofJson, ofJsonMembers, ofJsonItems, ofNumber, Entries.ofList, Entries.insert, sooner]
  rw [read, toJson, toJsonMembers_eq]
  simp only [List.map_cons, List.map_nil, toJson, toJsonItems, ofFloat_finite nearest.finite]

end Value

end ResumableScript
