import LivePage.Duration

/-!
# Frames of an event stream

A stream carries messages and, between them, requests to change the delay
before the next reconnection.
-/

namespace LivePage
namespace EventStream

/-- The event name of a message that names none. -/
def defaultEvent : String := "message"

/-- A message: its event name, its payload, and the event id in force when it
was dispatched. -/
structure Message where
  event : String
  data : String
  lastEventId : Option String
  deriving DecidableEq, Repr

/-- A message without an event name of its own. -/
def Message.isPlain (m : Message) : Bool :=
  m.event = defaultEvent

/-- One thing that a stream delivers. -/
inductive Frame where
  | message (m : Message)
  /-- The server asks for this delay before a reconnection. -/
  | retry (delay : Duration)
  deriving DecidableEq, Repr

/-- What asking a stream for its next frame gives. -/
inductive Pull (ε : Type) where
  | frame (f : Frame)
  | failed (cause : ε)
  | finished
  deriving DecidableEq, Repr

/-- Restates the cause of a failure. -/
def Pull.mapCause {ε δ : Type} (f : ε → δ) : Pull ε → Pull δ
  | .frame fr => .frame fr
  | .failed cause => .failed (f cause)
  | .finished => .finished

end EventStream
end LivePage
