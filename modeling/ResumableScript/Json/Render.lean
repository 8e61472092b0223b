import ResumableScript.Json.Printer

/-! Values as text for people: nothing for `null`, strings as they are, the items of an array joined
by commas, and objects as compact JSON. -/
namespace ResumableScript.Json

mutual

def render : Json → String
  | null => ""
  | string text => text
  | array items => String.intercalate ", " (renderItems items)
  | value => value.compact

def renderItems : List Json → List String
  | [] => []
  | item :: rest => item.render :: renderItems rest

end

end ResumableScript.Json
