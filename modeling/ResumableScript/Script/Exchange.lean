import ResumableScript.Json.Basic

/-! What a script and its host exchange: exceptions, prints, answers to calls, and the budget of a
step. -/
namespace ResumableScript

structure ScriptException where
  kind : String
  message : String
  deriving DecidableEq, Repr

/-- The values of one print, and the text that ends it. -/
structure Emission where
  values : List Json
  ending : String

inductive Instruction where
  | returnValue (value : Json)
  | exception (exception : ScriptException)

/-- The answer to a call that was in flight when the host stopped. -/
def Instruction.restarted : Instruction :=
  .exception ⟨"RuntimeError", "Process was restarted"⟩

/-- The budget of one step; the time in milliseconds. -/
structure Limits where
  maxSteps : UInt64 := 1000000
  maxDepth : UInt64 := 100
  maxDurationMs : UInt64 := 30000
  deriving DecidableEq, Repr

structure JournalEntry where
  functionName : String
  instruction : Instruction

end ResumableScript
