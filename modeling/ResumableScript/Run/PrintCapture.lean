import ResumableScript.Json.Render
import ResumableScript.Script.Exchange

/-! Prints gathered into lines. Complete lines are kept as soon as their newline comes; what
follows the last newline waits until it is completed or flushed. -/
namespace ResumableScript

structure PrintCapture where
  /-- What follows the last newline. -/
  buffer : List Char := []
  lines : List String := []
  deriving DecidableEq, Repr

def Emission.text (emission : Emission) : String :=
  String.intercalate " " (emission.values.map Json.render) ++ emission.ending

namespace PrintCapture

def seeded (lines : List String) : PrintCapture := { lines }

def withoutReturn (line : List Char) : List Char :=
  match line.getLast? with
  | some '\r' => line.dropLast
  | _ => line

def lineText (line : List Char) : String := String.ofList (withoutReturn line)

def splitComplete : List Char → List (List Char) × List Char
  | [] => ([], [])
  | c :: rest =>
    let (complete, partialLine) := splitComplete rest
    if c = '\n' then ([] :: complete, partialLine)
    else match complete with
      | [] => ([], c :: partialLine)
      | line :: more => ((c :: line) :: more, partialLine)

def feed (capture : PrintCapture) (text : List Char) : PrintCapture :=
  let (complete, partialLine) := splitComplete (capture.buffer ++ text)
  ⟨partialLine, capture.lines ++ complete.map lineText⟩

def append (capture : PrintCapture) (emission : Emission) : PrintCapture :=
  capture.feed emission.text.toList

def extend (capture : PrintCapture) (emissions : List Emission) : PrintCapture :=
  emissions.foldl append capture

/-- Takes what waits in the buffer, if anything, for a line. -/
def flushTrailing (capture : PrintCapture) : PrintCapture :=
  match capture.buffer with
  | [] => capture
  | buffer => ⟨[], capture.lines ++ [lineText buffer]⟩

theorem lines_extend (capture : PrintCapture) (emissions : List Emission) :
    capture.lines <+: (capture.extend emissions).lines := by
  induction emissions generalizing capture with
  | nil => exact List.prefix_rfl
  | cons emission rest ih => exact (List.prefix_append _ _).trans (ih (capture.append emission))

theorem lines_flushTrailing (capture : PrintCapture) :
    capture.lines <+: capture.flushTrailing.lines := by
  unfold flushTrailing
  split
  · exact List.prefix_rfl
  · exact List.prefix_append _ _

theorem flushTrailing_eq (capture : PrintCapture) :
    capture.flushTrailing = seeded capture.flushTrailing.lines := by
  obtain ⟨buffer, lines⟩ := capture
  cases buffer <;> rfl

end PrintCapture

end ResumableScript
