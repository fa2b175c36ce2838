import LivePage.EventStream.Frame
import LivePage.Text.Digits

/-!
# Lines to frames

A stream is read line by line.  A blank line ends an event, a line that starts
with a colon is a comment, and any other line is a field: a name, and a value
after the first colon, less one leading space.  Four field names are known.
An event id takes effect only at the blank line that ends its event.
-/

namespace LivePage
namespace EventStream

/-- A field line's name and value. -/
structure Field where
  name : List Char
  value : List Char
  deriving DecidableEq, Repr

def Field.ofLine (line : List Char) : Field where
  name := line.takeWhile (· ≠ ':')
  value :=
    match line.dropWhile (· ≠ ':') with
    | ':' :: ' ' :: value => value
    | ':' :: value => value
    | _ => []

/-- The delay that the value of a `retry` field asks for.  A number of
milliseconds that is too large counts as the largest there is. -/
def retryDelay? (value : List Char) : Option Duration :=
  if Digits.isNumeral value then
    some (.ofMillis (UInt64.ofNat (min (Digits.value value) (UInt64.size - 1))))
  else none

/-- What a decoder knows between two lines. -/
structure Decoder where
  /-- The payload of the event being read, each line followed by a newline. -/
  data : List Char
  /-- The name of the event being read; empty if none was given. -/
  event : List Char
  /-- The id that takes effect at the next blank line. -/
  pendingId : Option String
  /-- The id in force. -/
  lastEventId : Option String
  deriving DecidableEq, Repr

namespace Decoder

/-- A decoder that continues from the event id of an earlier stream. -/
def resume (lastEventId : Option String) : Decoder where
  data := []
  event := []
  pendingId := lastEventId
  lastEventId := lastEventId

def initial : Decoder := resume none

/-- A payload without the newline after its last line. -/
def chomp (data : List Char) : List Char :=
  if data.getLast? = some '\n' then data.dropLast else data

/-- The name of the event being read, and what is left in the buffer that it is taken from. -/
def takeEvent (d : Decoder) : String × List Char :=
  if d.event = [] then (defaultEvent, d.event) else (String.ofList d.event, [])

/-- Puts the id buffer in force and ends the event being read.  Without payload it is no
message, and only its name is cleared; otherwise its payload and its name are taken out of
their buffers. -/
def dispatch (d : Decoder) : Option Frame × Decoder :=
  let d := { d with lastEventId := d.pendingId }
  if d.data = [] then (none, { d with event := [] })
  else
    let (event, left) := d.takeEvent
    (some (.message { event, data := String.ofList (chomp d.data), lastEventId := d.lastEventId }),
      { d with data := [], event := left })

def field (d : Decoder) (f : Field) : Option Frame × Decoder :=
  if f.name = "event".toList then (none, { d with event := f.value })
  else if f.name = "data".toList then (none, { d with data := d.data ++ f.value ++ ['\n'] })
  else if f.name = "id".toList then
    if '\x00' ∈ f.value then (none, d)
    else if f.value = [] then (none, { d with pendingId := none })
    else (none, { d with pendingId := some (String.ofList f.value) })
  else if f.name = "retry".toList then ((retryDelay? f.value).map .retry, d)
  else (none, d)

/-- Takes in one line, without its terminator. -/
def line (d : Decoder) : List Char → Option Frame × Decoder
  | [] => d.dispatch
  | ':' :: _ => (none, d)
  | c :: cs => d.field (Field.ofLine (c :: cs))

/-- The frames that a list of lines gives, each with the event id in force
after it. -/
def lines (d : Decoder) : List (List Char) → List (Option Frame × Option String)
  | [] => []
  | l :: ls => ((d.line l).1, (d.line l).2.lastEventId) :: (d.line l).2.lines ls

end Decoder
end EventStream
end LivePage
