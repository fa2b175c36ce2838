import LivePage.EventStream.Decoder

/-!
# Decoders over several lines
-/

namespace LivePage
namespace EventStream
namespace Decoder

/-- A decoder after it has taken in some lines. -/
def feed (d : Decoder) (lines : List (List Char)) : Decoder :=
  lines.foldl (fun d line => (d.line line).2) d

@[simp] theorem feed_nil (d : Decoder) : d.feed [] = d :=
  rfl

@[simp] theorem feed_cons (d : Decoder) (line : List Char) (lines : List (List Char)) :
    d.feed (line :: lines) = (d.line line).2.feed lines :=
  rfl

theorem feed_append (d : Decoder) (lines more : List (List Char)) :
    d.feed (lines ++ more) = (d.feed lines).feed more :=
  List.foldl_append

/-- The frames that some lines give, each with the event id in force after it. -/
def frames (d : Decoder) (lines : List (List Char)) : List (Frame × Option String) :=
  (d.lines lines).filterMap fun step => step.1.map fun frame => (frame, step.2)

theorem frames_cons_of_none {d : Decoder} {line : List Char}
    (h : (d.line line).1 = none) (lines : List (List Char)) :
    d.frames (line :: lines) = (d.line line).2.frames lines := by
  simp [frames, Decoder.lines, h]

theorem frames_cons_of_some {d : Decoder} {line : List Char} {frame : Frame}
    (h : (d.line line).1 = some frame) (lines : List (List Char)) :
    d.frames (line :: lines) =
      (frame, (d.line line).2.lastEventId) :: (d.line line).2.frames lines := by
  simp [frames, Decoder.lines, h]

end Decoder
end EventStream
end LivePage
