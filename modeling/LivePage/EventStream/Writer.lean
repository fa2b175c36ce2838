import LivePage.EventStream.Frame
import LivePage.Text.Cut
import LivePage.Text.Utf8

/-!
# Writing messages

A message is written as a line for its name, a line for its event id, a line for
each line of its payload, and a blank line.  A message that can be written reads
back as itself.
-/

namespace LivePage
namespace EventStream

/-- How the lines of a stream end. -/
inductive LineEnd where
  | lineFeed
  | carriageReturn
  | both
  deriving DecidableEq, Repr

/-- The characters at the end of a line. -/
def LineEnd.text : LineEnd → List Char
  | .lineFeed => ['\n']
  | .carriageReturn => ['\r']
  | .both => ['\r', '\n']

def isLineEnd (c : Char) : Bool :=
  c = '\n' || c = '\r'

/-- Whether a text can be an event name. -/
def isEventName (s : String) : Bool :=
  !s.isEmpty && !s.toList.any isLineEnd

/-- Whether a text can be an event id. -/
def isEventId (s : String) : Bool :=
  !s.isEmpty && !s.toList.any fun c => c = '\x00' || isLineEnd c

namespace Message

def isWritable (m : Message) : Bool :=
  isEventName m.event && m.lastEventId.all isEventId && !m.data.toList.contains '\r'

/-- The lines of a message, the blank one included. -/
def lines (m : Message) : List (List Char) :=
  let id :=
    match m.lastEventId with
    | none => "id".toList
    | some id => "id: ".toList ++ id.toList
  ("event: ".toList ++ m.event.toList) :: id ::
    (Text.cutAll (· = '\n') m.data.toList).map ("data: ".toList ++ ·) ++ [[]]

def encodeAll (e : LineEnd) (ms : List Message) : List UInt8 :=
  Utf8.encode ((ms.flatMap lines).flatMap (· ++ e.text))

end Message
end EventStream
end LivePage
