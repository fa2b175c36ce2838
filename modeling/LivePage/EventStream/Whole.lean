import LivePage.EventStream.Reader

/-!
# Whole streams

What a stream delivers, told from all of its octets at once: they are decoded as
one text, the text is cut into lines, and the lines are given to a decoder.
-/

namespace LivePage
namespace EventStream

/-- The complete lines of a text, after the characters of a line that has begun,
latest first.  A line ends with a carriage return, a line feed, or both. -/
def linesAfter (begun : List Char) : List Char → List (List Char)
  | [] => []
  | '\r' :: '\n' :: cs => begun.reverse :: linesAfter [] cs
  | '\r' :: cs => begun.reverse :: linesAfter [] cs
  | '\n' :: cs => begun.reverse :: linesAfter [] cs
  | c :: cs => linesAfter (c :: begun) cs

def completeLines (cs : List Char) : List (List Char) :=
  linesAfter [] cs

/-- A text without the mark that may open it. -/
def dropMark : List Char → List Char
  | [] => []
  | c :: cs => if c = byteOrderMark then cs else c :: cs

/-- The lines of a stream. -/
def streamLines (octets : List UInt8) : List (List Char) :=
  completeLines (dropMark (Utf8.decodeLossy octets))

namespace Reader

/-- The frames up to the first report that the input has ended or failed, each
with the event id in force after it, and the reader then. -/
def readAll (r : Reader) : List (Frame × Option String) × Reader :=
  match _h : r.next with
  | (.frame f, after) => ((f, after.lastEventId) :: after.readAll.1, after.readAll.2)
  | (_, after) => ([], after)
termination_by inputSize r.input
decreasing_by
  all_goals
    have := inputSize_next_lt r (by rw [_h])
    rwa [_h] at this

end Reader
end EventStream
end LivePage
