import Mathlib.Data.List.Basic
import ResumableScript.Run.PrintCapture

/-! Captured prints are the lines of the printed text. What a capture holds can be read off the text
between one flush and the next, so it does not matter in what pieces that text has come, nor where
its newlines and carriage returns were cut apart. -/
namespace ResumableScript

inductive Printing where
  | append (emission : Emission)
  | flush

namespace PrintCapture

def perform (capture : PrintCapture) : Printing → PrintCapture
  | .append emission => capture.append emission
  | .flush => capture.flushTrailing

def play (capture : PrintCapture) (acts : List Printing) : PrintCapture := acts.foldl perform capture

/-- The texts that are flushed, one for each flush, and the text behind the last flush. `carried`
has been printed since the flush before. -/
def stretches (carried : List Char) : List Printing → List (List Char) × List Char
  | [] => ([], carried)
  | .append emission :: rest =>
    let printed := String.intercalate " " (emission.values.map Json.render) ++ emission.ending
    stretches (carried ++ printed.toList) rest
  | .flush :: rest =>
    let (flushed, unfinished) := stretches [] rest
    (carried :: flushed, unfinished)

/-- The lines of a flushed text. Nothing is left to flush behind a newline at its end. -/
def flushedLines (text : List Char) : List String :=
  let pieces := text.splitOn '\n'
  (if pieces.getLast? = some [] then pieces.dropLast else pieces).map lineText

theorem withoutReturn_return (line : List Char) : withoutReturn (line ++ ['\r']) = line := by
  simp [withoutReturn]

theorem withoutReturn_other {line : List Char} (other : line.getLast? ≠ some '\r') :
    withoutReturn line = line := by
  unfold withoutReturn
  split
  · next ends => exact absurd ends other
  · rfl

theorem splitOn_eq (text : List Char) :
    text.splitOn '\n' = (splitComplete text).1 ++ [(splitComplete text).2] := by
  induction text with
  | nil => rfl
  | cons c rest ih =>
    unfold List.splitOn at ih ⊢
    rw [List.splitOnP_cons_eq_if_modifyHead, ih, splitComplete]
    by_cases newline : c = '\n'
    · simp [newline]
    · cases complete : (splitComplete rest).1 <;> simp [newline, complete]

theorem newline_not_mem_rest (text : List Char) : '\n' ∉ (splitComplete text).2 := by
  induction text with
  | nil => simp [splitComplete]
  | cons c rest ih =>
    unfold splitComplete
    by_cases newline : c = '\n'
    · simpa [newline] using ih
    · cases complete : (splitComplete rest).1 <;> simp [newline, complete, ih, Ne.symm newline]

/-- What follows the last newline is cut on with the text that comes. -/
theorem splitComplete_append (text more : List Char) :
    splitComplete (text ++ more) =
      ((splitComplete text).1 ++ (splitComplete ((splitComplete text).2 ++ more)).1,
        (splitComplete ((splitComplete text).2 ++ more)).2) := by
  induction text with
  | nil => simp [splitComplete]
  | cons c rest ih =>
    rw [List.cons_append, splitComplete, splitComplete, ih]
    by_cases newline : c = '\n'
    · simp [newline]
    · generalize splitComplete rest = cut
      obtain ⟨complete, waiting⟩ := cut
      cases complete with
      | nil => simp [newline, splitComplete]
      | cons line lines => simp [newline]

theorem feed_feed (capture : PrintCapture) (text more : List Char) :
    (capture.feed text).feed more = capture.feed (text ++ more) := by
  have cut := splitComplete_append (capture.buffer ++ text) more
  rw [List.append_assoc] at cut
  simp [feed, cut]

def holding (lines : List String) (text : List Char) : PrintCapture := (seeded lines).feed text

theorem holding_nil (lines : List String) : holding lines [] = seeded lines := by
  simp [holding, feed, seeded, splitComplete]

theorem lines_holding (lines : List String) (text : List Char) :
    (holding lines text).lines = lines ++ (text.splitOn '\n').dropLast.map lineText := by
  simp [holding, feed, seeded, splitOn_eq]

theorem buffer_holding (lines : List String) (text : List Char) :
    (text.splitOn '\n').getLast? = some (holding lines text).buffer := by
  simp [holding, feed, seeded, splitOn_eq]

theorem append_holding (lines : List String) (text : List Char) (emission : Emission) :
    (holding lines text).append emission = holding lines (text ++ emission.text.toList) :=
  feed_feed (seeded lines) text emission.text.toList

theorem flushTrailing_holding (lines : List String) (text : List Char) :
    (holding lines text).flushTrailing = holding (lines ++ flushedLines text) [] := by
  rw [holding_nil]
  unfold holding flushTrailing flushedLines
  cases waiting : (splitComplete text).2 <;> simp [feed, seeded, splitOn_eq, waiting]

theorem play_holding (lines : List String) (text : List Char) (acts : List Printing) :
    (holding lines text).play acts =
      holding (lines ++ (stretches text acts).1.flatMap flushedLines) (stretches text acts).2 := by
  induction acts generalizing lines text with
  | nil => simp [play, stretches]
  | cons act rest ih =>
    cases act with
    | append emission =>
      have next := ih lines (text ++ emission.text.toList)
      rw [← append_holding] at next
      exact next
    | flush =>
      have next := ih (lines ++ flushedLines text) []
      rw [← flushTrailing_holding, List.append_assoc] at next
      exact next

theorem play_seeded (seed : List String) (acts : List Printing) :
    (seeded seed).play acts =
      holding (seed ++ (stretches [] acts).1.flatMap flushedLines) (stretches [] acts).2 := by
  rw [← play_holding, holding_nil]

theorem lines_perform (capture : PrintCapture) (act : Printing) :
    capture.lines <+: (capture.perform act).lines := by
  cases act with
  | append emission => exact List.prefix_append _ _
  | flush => exact lines_flushTrailing capture

theorem lines_play (capture : PrintCapture) (acts : List Printing) :
    capture.lines <+: (capture.play acts).lines := by
  induction acts generalizing capture with
  | nil => exact List.prefix_rfl
  | cons act rest ih => exact (lines_perform capture act).trans (ih (capture.perform act))

/-- The lines are those of the seed, and of each stretch of printed text the pieces between newlines,
each without one carriage return at its end. Of a flushed stretch the last piece counts unless it is
empty; of the unfinished one it is the buffer. So only the text of each stretch matters, lines stay
as they are, and there is nothing to flush twice. -/
theorem captured_lines (seed : List String) (acts : List Printing) :
    let capture := (seeded seed).play acts
    let (flushed, unfinished) := stretches [] acts
    let pieces := unfinished.splitOn '\n'
    '\n' ∉ capture.buffer ∧ pieces.getLast? = some capture.buffer ∧
      capture.lines = seed ++ flushed.flatMap flushedLines ++ pieces.dropLast.map lineText ∧
      (∀ line, lineText (line ++ ['\r']) = String.ofList line) ∧
      (∀ line, line.getLast? ≠ some '\r' → lineText line = String.ofList line) ∧
      (∀ acts', stretches [] acts' = stretches [] acts → (seeded seed).play acts' = capture) ∧
      (∀ more, capture.lines <+: (capture.play more).lines) ∧
      capture.flushTrailing.flushTrailing = capture.flushTrailing := by
  intro capture
  have played : capture = _ := play_seeded seed acts
  refine ⟨?newline, ?buffer, ?lines, ?ending, ?other, ?text, lines_play capture, ?twice⟩
  case newline =>
    rw [played]
    exact newline_not_mem_rest _
  case buffer =>
    rw [played]
    exact buffer_holding _ _
  case lines =>
    rw [played]
    exact lines_holding _ _
  case ending =>
    intro line
    rw [lineText, withoutReturn_return]
  case other =>
    intro line other
    rw [lineText, withoutReturn_other other]
  case text =>
    intro acts' same
    rw [played, play_seeded, same]
  case twice =>
    rw [flushTrailing_eq capture]
    rfl

/-- A newline inside a value, a carriage return that is cut from its newline, a flush, and a list. -/
theorem captured_lines_cut :
    let acts : List Printing :=
      [.append ⟨[.ofInt64 1, .string "a\nb"], "\r"⟩, .append ⟨[], "\nc"⟩, .flush,
        .append ⟨[.array [.string "d", .bool true], .null], "\r\n\r"⟩]
    let capture := (seeded ["before"]).play acts
    stretches [] acts = (["1 a\nb\r\nc".toList], "d, true \r\n\r".toList) ∧
      capture.lines = ["before", "1 a", "b", "c", "d, true "] ∧ capture.buffer = ['\r'] := by
  intro acts capture
  have texts : stretches [] acts = (["1 a\nb\r\nc".toList], "d, true \r\n\r".toList) := by
    decide +kernel
  have captured := captured_lines ["before"] acts
  rw [texts] at captured
  obtain ⟨-, buffer, lines, -⟩ := captured
  refine ⟨texts, lines.trans (by decide +kernel), ?_⟩
  exact Option.some.inj (buffer.symm.trans (by decide +kernel))

end PrintCapture

end ResumableScript
