import LivePage.Http.Exchange
import LivePage.LiveReload.Source

/-!
# Event streams over HTTP

A source requests a stream from a server and reads it from the body of the
response.  It knows the event id that was in force when one of its connections
was last read, and sends it along with the next request, so that the server can
resume the stream.
-/

namespace LivePage
namespace Http

open EventStream LiveReload

/-- The content type of an event stream. -/
def eventStreamType : String := "text/event-stream"

/-- Whether a content type is that of an event stream, its parameters aside. -/
def isEventStream (contentType : List Char) : Bool :=
  (Text.trim (contentType.takeWhile (· ≠ ';'))).map Char.toLower = eventStreamType.toList

/-- The content type that headers give.  One that is no text counts as empty. -/
def contentType (headers : List Header) : List Char :=
  ((header? headers "content-type").bind headerText?).getD []

/-- Whether a text can be sent as the value of a header. -/
def isHeaderValue (cs : List Char) : Bool :=
  cs.all fun c => c = '\t' || 0x20 ≤ c.toNat && c.toNat ≠ 0x7F

/-- Why a stream could not be opened or read. -/
inductive StreamFault where
  /-- The request got no answer. -/
  | request (cause : RequestFault)
  /-- The answer tells no success. -/
  | status (code : UInt16) (reason : String)
  /-- The answer is no event stream. -/
  | contentType (value : String)
  /-- Reading failed. -/
  | io (message : String)
  deriving DecidableEq, Repr

namespace StreamFault

def text : StreamFault → String
  | .request _ => "HTTP request failed"
  | .status code reason => "HTTP error: " ++ toString code.toNat ++ " " ++ reason
  | .contentType value => "unexpected content type: " ++ value
  | .io _ => "I/O error"

/-- A fault as a client is told about it. -/
def toFault : StreamFault → Fault
  | .request cause => ⟨.connect, cause.text⟩
  | .status code reason => ⟨.status code, reason⟩
  | .contentType value => ⟨.protocol, "unexpected content type: " ++ value⟩
  | .io message => ⟨.read, message⟩

end StreamFault

/-- A source of event streams from one server. -/
structure Source where
  /-- The address of the server, without a slash at its end. -/
  base : List Char
  /-- The event id of the stream read last. -/
  lastEventId : Option String
  server : Server
  deriving DecidableEq, Repr

/-- A stream being read, until it is closed. -/
structure Connection where
  reader : Option Reader
  /-- The failure of all reading after the reader's input; without one, the stream
  has ended. -/
  lasting : Option BodyFault := none
  deriving DecidableEq, Repr

/-- What reading gives where the end of the input may be a failure. -/
def endPull (lasting : Option BodyFault) : Pull String → Pull StreamFault
  | .finished => lasting.elim .finished fun fault => .failed (.io fault.text)
  | .failed cause => .failed (.io cause)
  | .frame f => .frame f

namespace Source

/-- The number of redirects that a request follows. -/
def maxRedirects : Nat := 10

/-- A source that has read nothing. -/
def new (base : List Char) (server : Server) : Source where
  base := Text.dropEndWhile (· = '/') base
  lastEventId := none
  server := server

def headers (s : Source) : List (String × String) :=
  [("accept", eventStreamType), ("cache-control", "no-cache")] ++
    s.lastEventId.toList.map fun id => ("last-event-id", id)

def request (s : Source) (endpoint : String) : Except RequestFault Response × Server :=
  match Address.ofText (s.base ++ endpoint.toList) with
  | .error fault => (.error (.badAddress fault), s.server)
  | .ok a =>
    if s.headers.all fun h => isHeaderValue h.2.toList then
      Server.get s.headers maxRedirects s.server a
    else (.error .badHeaderValue, s.server)

/-- The stream in a response, continued from an event id. -/
def openResponse (lastEventId : Option String) (r : Response) : Except StreamFault Connection :=
  if !isSuccess r.status then .error (.status (UInt16.ofNat r.status) (reason r.status))
  else if isEventStream (contentType r.headers) then
    .ok ⟨some (.resume lastEventId r.content.fills), r.content.lasting⟩
  else .error (.contentType (String.ofList (contentType r.headers)))

/-- Requests a stream and opens it. -/
def connect (s : Source) (endpoint : String) : Except StreamFault Connection × Source :=
  let (result, server) := s.request endpoint
  ((result.mapError .request).bind (openResponse s.lastEventId), { s with server })

/-- Reads the next frame of a connection.  The event id of the source becomes
that of the connection. -/
def next (s : Source) (c : Connection) : Pull StreamFault × Connection × Source :=
  match c.reader with
  | none => (.finished, c, s)
  | some reader =>
    let (pull, reader) := reader.next
    (endPull c.lasting pull, { c with reader := some reader },
      { s with lastEventId := reader.lastEventId })

/-- Closes a connection.  The source stays as it is. -/
def close (s : Source) (_ : Connection) : Connection × Source :=
  ({ reader := none }, s)

end Source

/-- A bound on the number of frames left in a connection. -/
def Connection.backlog (c : Connection) : Nat :=
  c.reader.elim 0 fun reader => inputSize reader.input

instance : LiveReload.Outside Source Connection where
  connect source endpoint :=
    ((source.connect endpoint).1.mapError StreamFault.toFault, (source.connect endpoint).2)
  next source connection :=
    ((source.next connection).1.mapCause StreamFault.toFault, (source.next connection).2)
  close := Source.close
  backlog := Connection.backlog
  stock source := source.server.replies.length
  backlog_lt source connection frame h := by
    obtain ⟨_ | reader, lasting⟩ := connection
    · simp [Source.next, Pull.mapCause] at h
    · simp only [Source.next] at h ⊢
      refine @EventStream.Reader.inputSize_next_lt reader frame ?_
      revert h
      cases reader.next.1 <;> cases lasting <;> simp [endPull, Pull.mapCause]
  reload source := source
  sleep source _ := source

end Http
end LivePage
