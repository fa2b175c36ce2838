import LivePage.Proofs.EventStream.Ids

/-!
# Cutting at event boundaries

A blank line leaves a decoder as it was made, except for the event id.  So a stream can be
cut after its blank lines and read part by part, each part by a fresh decoder that
continues from the id in force, and nothing is lost or read twice.
-/

namespace LivePage
namespace EventStream
namespace Decoder

theorem lines_append (d : Decoder) (lines more : List (List Char)) :
    d.lines (lines ++ more) = d.lines lines ++ (d.feed lines).lines more := by
  induction lines generalizing d with
  | nil => rfl
  | cons line lines ih =>
      rw [List.cons_append, Decoder.lines, Decoder.lines, ih, feed_cons]
      rfl

/-- Whatever an event has put into a decoder, its blank line puts the id buffer in force
and empties all else. -/
theorem feed_concat_blank (d : Decoder) (lines : List (List Char)) :
    d.feed (lines ++ [[]]) = resume (idBuffer d.pendingId lines) := by
  rw [feed_append, feed_cons, feed_nil, line_blank, pendingId_feed]

theorem lines_append_blank (d : Decoder) (lines more : List (List Char)) :
    d.lines (lines ++ [] :: more) =
      d.lines (lines ++ [[]]) ++ (resume (idBuffer d.pendingId lines)).lines more := by
  rw [← feed_concat_blank, ← lines_append, List.append_assoc]
  rfl

/-! ## Streams in several parts -/

/-- The id in force after parts of a stream that each end with a blank line. -/
def idAfterParts (id : Option String) (parts : List (List (List Char))) : Option String :=
  parts.foldl idBuffer id

/-- What parts of a stream give, each ended by a blank line and read by a fresh decoder
that continues from the id in force. -/
def linesOfParts (id : Option String) :
    List (List (List Char)) → List (Option Frame × Option String)
  | [] => []
  | part :: parts =>
      (resume id).lines (part ++ [[]]) ++ linesOfParts (idBuffer id part) parts

/-- However many blank lines a stream is cut at, the parts give what the whole gives. -/
theorem lines_flatMap_parts (id : Option String) (parts : List (List (List Char)))
    (rest : List (List Char)) :
    (resume id).lines (parts.flatMap (· ++ [[]]) ++ rest) =
      linesOfParts id parts ++ (resume (idAfterParts id parts)).lines rest := by
  induction parts generalizing id with
  | nil => rfl
  | cons part parts ih =>
      have hcut := lines_append_blank (resume id) part (parts.flatMap (· ++ [[]]) ++ rest)
      rw [List.flatMap_cons, List.append_assoc, List.append_assoc, List.singleton_append,
        hcut, linesOfParts, List.append_assoc]
      exact congrArg _ (ih (idBuffer id part))

/-- A stream that is cut at a blank line and resumed there with the id in force gives, line
by line, the frames and ids that it gives as a whole. -/
theorem lines_of_resumed_stream (lastEventId : Option String)
    (before after : List (List Char)) :
    let cut := (resume lastEventId).feed (before ++ [[]])
    (resume lastEventId).lines (before ++ [] :: after) =
        (resume lastEventId).lines (before ++ [[]]) ++
          (resume cut.lastEventId).lines after ∧
      cut.lastEventId = idBuffer lastEventId before := by
  intro cut
  have hcut : cut = resume (idBuffer lastEventId before) := feed_concat_blank _ before
  have hid : cut.lastEventId = idBuffer lastEventId before := by
    rw [hcut]
    rfl
  refine ⟨?_, hid⟩
  rw [hid]
  exact lines_append_blank _ before after

end Decoder
end EventStream
end LivePage
