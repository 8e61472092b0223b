import ResumableScript.Run.Plan
import ResumableScript.Text.Uppercase

/-! The tools that scripts can call when they are run from the command line. -/
namespace ResumableScript.DemoTools

def schema (properties : Json.Members) (required : Json.Members) : Json :=
  .object ([("type", .string "object"), ("properties", .object properties)] ++ required)

def text : Json := .object [("type", .string "string")]

def definitions : List ToolDefinition :=
  [{ name := "echo"
     description := "Return the arguments unchanged."
     parameters := schema [] [] },
   { name := "upper"
     description := "Uppercase a string."
     parameters := schema [("text", text)] [("required", .array [.string "text"])] },
   { name := "fail"
     description := "Always fails with the given message."
     parameters := schema [("message", text)] [] }]

def argument (call : Invocation) (name : String) : String :=
  ((call.arguments.lookup name).bind Json.asString?).getD ""

def execute (call : Invocation) : Except ExecutorError ToolOutcome :=
  match call.name with
  | "echo" => .ok (.ofValue (.object call.arguments))
  | "upper" => .ok (.ofText (Text.upper (argument call "text")))
  | "fail" => .ok (.ofError (argument call "message"))
  | other => .error ⟨.message s!"no such tool: {other}", []⟩

end ResumableScript.DemoTools
