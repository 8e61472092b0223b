import Mathlib.Tactic.Basic
import ResumableScript.Proofs.Json.OneLine
import ResumableScript.Proofs.Script.Reading
import ResumableScript.Run.Preamble

/-! The preamble is inert. Descriptions are cut into lines, values are escaped and names are symbols,
so that each line of it is a comment; only the name of a type is taken over as it stands, and can
break a line. -/
namespace ResumableScript.Preamble
open Script (skip)

section TypeNames

/-- The names of types that the hint for a plain schema takes over, where `items` are those of the
hint for its items. -/
def plainTypeNames (schema : Json.Members) (items : List String) : List String :=
  match (schema.lookup "enum").bind Json.asArray? with
  | some _ => []
  | none =>
    match schema.lookup "type" with
    | some (.string "array") => items
    | some (.string name) => [name]
    | some (.array names) => names.filterMap Json.asString?
    | _ => []

mutual

def typeNames : Json → List String
  | .object schema =>
    match distinct (unionHints "anyOf" schema), distinct (unionHints "oneOf" schema) with
    | [], [] => plainTypeNames schema (itemTypeNames schema)
    | [], _ => unionTypeNames "oneOf" schema
    | _, _ => unionTypeNames "anyOf" schema
  | _ => []

def unionTypeNames (key : String) : List (String × Json) → List String
  | [] => []
  | (k, value) :: rest => if k = key then arrayTypeNames value else unionTypeNames key rest

def arrayTypeNames : Json → List String
  | .array options => eachTypeNames options
  | _ => []

def eachTypeNames : List Json → List String
  | [] => []
  | option :: rest => typeNames option ++ eachTypeNames rest

def itemTypeNames : List (String × Json) → List String
  | [] => []
  | (k, value) :: rest => if k = "items" then typeNames value else itemTypeNames rest

end

/-- The names of types that the signature of a tool shows. -/
def shownTypeNames (tool : ToolDefinition) : List String :=
  if isSymbol tool.name then
    (tool.properties.filter fun property => isSymbol property.1).flatMap fun property =>
      typeNames property.2
  else []

end TypeNames

section Hints

theorem scriptType_oneLine {name : String} (plain : OneLine name) : OneLine (scriptType name) := by
  unfold scriptType
  split <;> first | exact plain | simp [OneLine]

theorem mem_collected {texts seen : List String} {text : String}
    (h : text ∈ texts.foldl (fun seen text => if seen.contains text then seen else text :: seen) seen) :
    text ∈ seen ∨ text ∈ texts := by
  induction texts generalizing seen with
  | nil => exact .inl h
  | cons first rest ih =>
    rw [List.foldl_cons] at h
    rcases ih h with there | there
    · split at there
      · exact .inl there
      · rcases List.mem_cons.mp there with rfl | there
        · exact .inr List.mem_cons_self
        · exact .inl there
    · exact .inr (List.mem_cons_of_mem _ there)

theorem alternatives_oneLine {texts : List String} (all : ∀ text ∈ texts, OneLine text) :
    OneLine (alternatives texts) :=
  OneLine.intercalate (by simp [OneLine]) all

theorem distinct_oneLine {texts : List String} (all : ∀ text ∈ texts, OneLine text) :
    OneLine (alternatives (distinct texts)) := by
  refine alternatives_oneLine ?_
  intro text there
  unfold distinct at there
  rw [List.mem_reverse] at there
  rcases mem_collected there with none | there
  · cases none
  · exact all text there

theorem plainHint_oneLine {schema : Json.Members} {items : Option String} {itemNames : List String}
    (inner : (∀ name ∈ itemNames, OneLine name) → ∀ hint, items = some hint → OneLine hint)
    (plain : ∀ name ∈ plainTypeNames schema itemNames, OneLine name) :
    OneLine (plainHint schema items) := by
  unfold plainHint
  split
  · next values listed =>
    refine alternatives_oneLine ?_
    intro text there
    obtain ⟨value, -, rfl⟩ := List.mem_map.mp there
    exact compact_oneLine value
  · next unlisted =>
    split
    · next array =>
      have shown : plainTypeNames schema itemNames = itemNames := by
        simp [plainTypeNames, unlisted, array]
      rw [shown] at plain
      split
      · next hint =>
        show OneLine ("list " ++ hint)
        exact OneLine.append (by simp [OneLine]) (inner plain hint rfl)
      · simp [OneLine]
    · next name _ named =>
      have shown : plainTypeNames schema itemNames = [name] := by
        simp [plainTypeNames, unlisted, named]
      rw [shown] at plain
      exact scriptType_oneLine (plain name List.mem_cons_self)
    · next names named =>
      have shown : plainTypeNames schema itemNames = names.filterMap Json.asString? := by
        simp [plainTypeNames, unlisted, named]
      rw [shown] at plain
      refine alternatives_oneLine ?_
      intro text there
      obtain ⟨name, member, rfl⟩ := List.mem_map.mp there
      exact scriptType_oneLine (plain name member)
    · simp [OneLine]

mutual

theorem typeHint_oneLine : ∀ schema : Json,
    (∀ name ∈ typeNames schema, OneLine name) → OneLine (typeHint schema)
  | .object schema, plain => by
    have any := unionHints_oneLine "anyOf" schema
    have one := unionHints_oneLine "oneOf" schema
    have items := itemsHint_oneLine schema
    unfold typeNames at plain
    unfold typeHint
    cases anyHints : distinct (unionHints "anyOf" schema) with
    | cons first more =>
      rw [anyHints] at plain
      show OneLine (alternatives (first :: more))
      rw [← anyHints]
      exact distinct_oneLine (any plain)
    | nil =>
      cases oneHints : distinct (unionHints "oneOf" schema) with
      | cons first more =>
        rw [anyHints, oneHints] at plain
        show OneLine (alternatives (first :: more))
        rw [← oneHints]
        exact distinct_oneLine (one plain)
      | nil =>
        rw [anyHints, oneHints] at plain
        exact plainHint_oneLine items plain
  | .null, _ | .bool _, _ | .number _, _ | .string _, _ | .array _, _ => by simp [typeHint, OneLine]

theorem unionHints_oneLine (key : String) : ∀ schema : List (String × Json),
    (∀ name ∈ unionTypeNames key schema, OneLine name) → ∀ hint ∈ unionHints key schema, OneLine hint
  | [], _ => nofun
  | (k, value) :: rest, plain => by
    rw [unionTypeNames] at plain
    rw [unionHints]
    split
    · next same => exact arrayHints_oneLine value (by rwa [if_pos same] at plain)
    · next other => exact unionHints_oneLine key rest (by rwa [if_neg other] at plain)

theorem arrayHints_oneLine : ∀ options : Json, (∀ name ∈ arrayTypeNames options, OneLine name) →
    ∀ hint ∈ arrayHints options, OneLine hint
  | .array options, plain => hints_oneLine options plain
  | .null, _ | .bool _, _ | .number _, _ | .string _, _ | .object _, _ => nofun

theorem hints_oneLine : ∀ options : List Json, (∀ name ∈ eachTypeNames options, OneLine name) →
    ∀ hint ∈ hints options, OneLine hint
  | [], _ => nofun
  | option :: rest, plain => by
    have first := typeHint_oneLine option fun name there => plain name (List.mem_append_left _ there)
    have others := hints_oneLine rest fun name there => plain name (List.mem_append_right _ there)
    intro hint there
    rcases List.mem_cons.mp there with rfl | there
    · exact first
    · exact others hint there

theorem itemsHint_oneLine : ∀ schema : List (String × Json),
    (∀ name ∈ itemTypeNames schema, OneLine name) →
      ∀ hint, itemsHint? schema = some hint → OneLine hint
  | [], _ => nofun
  | (k, value) :: rest, plain => by
    rw [itemTypeNames] at plain
    rw [itemsHint?]
    split
    · next same =>
      rw [if_pos same] at plain
      rintro _ ⟨⟩
      exact typeHint_oneLine value plain
    · next other => exact itemsHint_oneLine rest (by rwa [if_neg other] at plain)

end

end Hints

section Lines

theorem splitLines_cons_ne {c : Char} (other : c ≠ '\n') {s line : List Char}
    {more : List (List Char)} (rest : splitLines s = line :: more) :
    splitLines (c :: s) = (c :: line) :: more := by
  rw [splitLines, rest]
  exact if_neg other

theorem splitLines_newline (s : List Char) : splitLines ('\n' :: s) = [] :: splitLines s := by
  rw [splitLines]
  cases rest : splitLines s with
  | cons line more => rfl
  | nil =>
    cases s with
    | nil => cases rest
    | cons c s =>
      rw [splitLines] at rest
      split at rest
      · split at rest <;> cases rest
      · cases rest

theorem splitLines_append {line : List Char} (oneLine : '\n' ∉ line) (rest : List Char) :
    splitLines (line ++ '\n' :: rest) = line :: splitLines rest := by
  induction line with
  | nil => exact splitLines_newline rest
  | cons c line ih =>
    rw [List.mem_cons, not_or] at oneLine
    exact splitLines_cons_ne (Ne.symm oneLine.1) (ih oneLine.2)

theorem splitLines_single {line : List Char} (oneLine : '\n' ∉ line) : splitLines line = [line] := by
  induction line with
  | nil => rfl
  | cons c line ih =>
    rw [List.mem_cons, not_or] at oneLine
    exact splitLines_cons_ne (Ne.symm oneLine.1) (ih oneLine.2)

theorem splitLines_intercalate {lines : List (List Char)} (nonempty : lines ≠ [])
    (oneLine : ∀ line ∈ lines, '\n' ∉ line) : splitLines (['\n'].intercalate lines) = lines := by
  induction lines with
  | nil => exact absurd rfl nonempty
  | cons line rest ih =>
    have first := oneLine line List.mem_cons_self
    cases rest with
    | nil => simpa using splitLines_single first
    | cons next rest =>
      have others := ih nofun fun other there => oneLine other (List.mem_cons_of_mem _ there)
      rw [List.intercalate_cons_cons, List.append_assoc, List.singleton_append,
        splitLines_append first, others]

theorem newline_not_mem_splitLines (s : List Char) : ∀ line ∈ splitLines s, '\n' ∉ line := by
  induction s with
  | nil => simp [splitLines]
  | cons c s ih =>
    by_cases newline : c = '\n'
    · subst newline
      rw [splitLines_newline]
      simpa using ih
    · cases rest : splitLines s with
      | nil => simp [splitLines, rest, Ne.symm newline]
      | cons line more =>
        rw [rest] at ih
        rw [splitLines_cons_ne newline rest]
        rw [List.forall_mem_cons] at ih ⊢
        constructor
        · simp [Ne.symm newline, ih.1]
        · exact ih.2

end Lines

section Entries

/-- One line that is a comment from its first character on. -/
def IsComment (line : String) : Prop := OneLine line ∧ line.toList.head? = some ';'

theorem IsComment.append {line text : String} (start : IsComment line) (rest : OneLine text) :
    IsComment (line ++ text) := by
  obtain ⟨oneLine, front⟩ := start
  constructor
  · exact oneLine.append rest
  · rw [String.toList_append, List.head?_append, front]
    rfl

theorem IsComment.skipped {line : String} (h : IsComment line) : skip false line.toList = [] := by
  obtain ⟨oneLine, front⟩ := h
  unfold OneLine at oneLine
  cases text : line.toList with
  | nil => rfl
  | cons c rest =>
    rw [text] at oneLine front
    cases front
    have bare : '\n' ∉ rest := fun there => oneLine (List.mem_cons_of_mem _ there)
    exact Script.skip_comment bare

theorem isSymbol_oneLine {name : String} (symbol : isSymbol name = true) : OneLine name := by
  have letter : isLetter '\n' = false := by decide
  unfold isSymbol at symbol
  unfold OneLine
  split at symbol
  · cases symbol
  · next first rest text =>
    rw [text, List.mem_cons, not_or]
    simp only [Bool.and_eq_true, List.all_eq_true] at symbol
    constructor
    · rintro rfl
      simp [letter] at symbol
    · intro there
      have inner := symbol.2 _ there
      simp [letter] at inner

theorem signature_oneLine {tool : ToolDefinition} (symbol : isSymbol tool.name = true)
    (plain : ∀ name ∈ shownTypeNames tool, OneLine name) : OneLine (signature tool) := by
  have hints : ∀ property ∈ tool.properties.filter (fun property => isSymbol property.1),
      OneLine property.1 ∧ OneLine (typeHint property.2) := by
    intro property there
    constructor
    · exact isSymbol_oneLine (List.mem_filter.mp there).2
    · refine typeHint_oneLine property.2 fun name named => plain name ?_
      rw [shownTypeNames, if_pos symbol]
      exact List.mem_flatMap.mpr ⟨property, there, named⟩
  have space : OneLine " " := by simp [OneLine]
  have opens : OneLine ":" := by simp [OneLine]
  have hint : OneLine " <" := by simp [OneLine]
  have marked : OneLine "? <" := by simp [OneLine]
  have closes : OneLine ">" := by simp [OneLine]
  unfold signature
  dsimp only
  rw [List.partition_eq_filter_filter]
  refine OneLine.intercalate space ?_
  intro text there
  rcases List.mem_append.mp there with there | there
  · obtain ⟨property, member, rfl⟩ := List.mem_map.mp there
    obtain ⟨name, schema⟩ := hints property (List.mem_filter.mp member).1
    exact ((((opens.append name).append hint).append schema).append closes)
  · obtain ⟨property, member, rfl⟩ := List.mem_map.mp there
    obtain ⟨name, schema⟩ := hints property (List.mem_filter.mp member).1
    exact ((((opens.append name).append marked).append schema).append closes)

theorem describe_isComment (description : String) : ∀ line ∈ describe description, IsComment line := by
  intro line there
  unfold describe at there
  split at there
  · rw [List.mem_singleton.mp there]
    constructor
    · simp [OneLine]
    · simp
  · obtain ⟨cut, member, rfl⟩ := List.mem_map.mp there
    have oneLine := newline_not_mem_splitLines _ cut member
    have kept : OneLine (String.ofList (Text.trimRight cut)) := by
      intro there
      rw [String.toList_ofList] at there
      exact oneLine ((Text.trimRight_prefix cut).subset there)
    have indent : IsComment ";   " := by simp [IsComment, OneLine]
    exact indent.append kept

theorem entry_isComment {tool : ToolDefinition} (symbol : isSymbol tool.name = true)
    (plain : ∀ name ∈ shownTypeNames tool, OneLine name) : ∀ line ∈ entry tool, IsComment line := by
  have name := isSymbol_oneLine symbol
  have shown := signature_oneLine symbol plain
  have opens : IsComment "; (" := by simp [IsComment, OneLine]
  have space : OneLine " " := by simp [OneLine]
  have closes : OneLine ")" := by simp [OneLine]
  intro line there
  unfold entry at there
  rcases List.mem_cons.mp there with rfl | there
  · split
    · exact (opens.append name).append closes
    · exact (((opens.append name).append space).append shown).append closes
  · exact describe_isComment _ line there

end Entries

section Preambles

def lines (tools : List ToolDefinition) : List String :=
  let shown := tools.filter fun tool => isSymbol tool.name
  header ++ if shown.isEmpty then ["; (no tools available)"] else shown.flatMap entry

theorem build_toList (tools : List ToolDefinition) :
    (build tools).toList = ['\n'].intercalate ((lines tools).map String.toList) :=
  String.toList_intercalate

variable {tools : List ToolDefinition}

theorem lines_isComment (plain : ∀ tool ∈ tools, ∀ name ∈ shownTypeNames tool, OneLine name) :
    ∀ line ∈ lines tools, IsComment line := by
  intro line there
  unfold lines at there
  rcases List.mem_append.mp there with there | there
  · simp only [header, List.mem_cons, List.not_mem_nil, or_false] at there
    rcases there with rfl | rfl | rfl | rfl <;> simp [IsComment, OneLine]
  · split at there
    · rw [List.mem_singleton.mp there]
      simp [IsComment, OneLine]
    · obtain ⟨tool, shown, member⟩ := List.mem_flatMap.mp there
      obtain ⟨offered, symbol⟩ := List.mem_filter.mp shown
      exact entry_isComment symbol (plain tool offered) line member

theorem skip_build (all : ∀ line ∈ lines tools, IsComment line) :
    skip false (build tools).toList = [] := by
  rw [build_toList]
  refine Script.skip_lines ?_
  intro text there
  obtain ⟨line, member, rfl⟩ := List.mem_map.mp there
  exact (all line member).skipped

theorem splitLines_build (all : ∀ line ∈ lines tools, IsComment line) :
    splitLines (build tools).toList = (lines tools).map String.toList := by
  have nonempty : lines tools ≠ [] := List.append_ne_nil_of_left_ne_nil (List.cons_ne_nil _ _) _
  rw [build_toList]
  refine splitLines_intercalate (by simpa using nonempty) ?_
  intro text there
  obtain ⟨line, member, rfl⟩ := List.mem_map.mp there
  exact (all line member).1

theorem join_toList {preamble code : String} (shown : Text.trimmed preamble ≠ "")
    (given : code ≠ "") :
    (join preamble code).toList = Text.trim preamble.toList ++ '\n' :: '\n' :: code.toList := by
  have both : [Text.trimmed preamble, code].filter (!·.isEmpty) = [Text.trimmed preamble, code] := by
    simp [shown, given]
  rw [join, both]
  simp [Text.trimmed]

theorem skip_join {preamble : String} (blank : skip false preamble.toList = []) (code : String) :
    skip false (join preamble code).toList = skip false code.toList := by
  have passed := Script.skip_trim blank
  by_cases nothing : code = ""
  · subst nothing
    by_cases bare : Text.trimmed preamble = ""
    · simp [join, bare]
    · have alone : [Text.trimmed preamble, ""].filter (!·.isEmpty) = [Text.trimmed preamble] := by
        simp [bare]
      rw [join, alone, String.intercalate_singleton, Text.trimmed, String.toList_ofList]
      exact passed
  · by_cases bare : Text.trimmed preamble = ""
    · simp [join, bare, nothing]
    · rw [join_toList bare nothing, Script.skip_newline passed]
      rfl

/-- No tool adds, removes or changes a form of the program, and every line is a comment, as long as
no type that a signature shows has a line break in its name. -/
theorem build_inert (tools : List ToolDefinition)
    (plain : ∀ tool ∈ tools, ∀ name ∈ shownTypeNames tool, OneLine name) :
    (∀ code forms, Script.parse (join (build tools) code) = .ok forms ↔
        Script.parse code = .ok forms) ∧
      ∀ line ∈ splitLines (build tools).toList, line.head? = some ';' := by
  have all := lines_isComment plain
  constructor
  · intro code forms
    exact Script.parseChars_skip (skip_join (skip_build all) code) forms
  · rw [splitLines_build all]
    intro text there
    obtain ⟨line, member, rfl⟩ := List.mem_map.mp there
    exact (all line member).2

def searching : ToolDefinition where
  name := "search"
  description := "Finds a page.\n(boom)"
  parameters := .object [("properties", .object [("query", .object [("type", .string "string")])])]

theorem build_inert_searching :
    (∀ tool ∈ [searching], ∀ name ∈ shownTypeNames tool, OneLine name) ∧
      (∀ code forms, Script.parse (join (build [searching]) code) = .ok forms ↔
          Script.parse code = .ok forms) ∧
        ∀ line ∈ splitLines (build [searching]).toList, line.head? = some ';' := by
  have names : shownTypeNames searching = ["string"] := by decide
  have plain : ∀ tool ∈ [searching], ∀ name ∈ shownTypeNames tool, OneLine name := by
    simp [names, OneLine]
  exact ⟨plain, build_inert [searching] plain⟩

/-- The name of a type that ends the line, and a form behind it. -/
def leaking : ToolDefinition where
  name := "t"
  parameters := .object [("properties", .object [("a", .object [("type", .string "x\n(boom) ;")])])]

theorem typeName_adds_form :
    (Script.parse (join (build [leaking]) "1")).toOption.map List.length = some 2 ∧
      (Script.parse "1").toOption.map List.length = some 1 ∧
        ∃ line ∈ splitLines (build [leaking]).toList, line.head? = some '(' := by
  have text : (join (build [leaking]) "1").toList =
      Text.trim (['\n'].intercalate ((lines [leaking]).map String.toList)) ++ ['\n', '\n', '1'] := by
    have bare : Text.trimmed (build [leaking]) ≠ "" := by
      rw [Text.trimmed, build_toList]
      decide +kernel
    rw [join_toList bare (by decide), build_toList]
    rfl
  refine ⟨?_, by decide +kernel, ?_⟩
  · rw [Script.parse, text]
    decide +kernel
  · rw [build_toList]
    decide +kernel

end Preambles

end ResumableScript.Preamble
