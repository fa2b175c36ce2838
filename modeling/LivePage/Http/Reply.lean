import LivePage.Http.Head

/-!
# Replies

What a server sends to answer a request with an event stream.  These are replies to
try a source on.  A source gets any octets, and nothing in the program refers to replies.
-/

namespace LivePage
namespace Http

open EventStream

/-- How a server marks the end of a body. -/
inductive Framing where
  /-- With the end of the connection. -/
  | close
  /-- With its length in front. -/
  | length
  /-- In chunks. -/
  | chunked
  /-- With a length in front that is seven too large. -/
  | short
  deriving DecidableEq, Repr

/-- A response as a server makes it. -/
structure Reply where
  status : Nat := 200
  contentType : Option (List UInt8) := some (ascii "text/event-stream")
  body : List UInt8 := []
  framing : Framing := .close
  deriving DecidableEq, Repr

def Reply.octets (r : Reply) : List UInt8 :=
  let line (s : String) : List UInt8 := ascii s ++ [carriageReturn, lineFeed]
  let size : Nat := r.body.length
  let (frame, body) :=
    match r.framing with
    | .close => ([], r.body)
    | .length => (line ("Content-Length: " ++ toString size), r.body)
    | .short => (line ("Content-Length: " ++ toString (size + 7)), r.body)
    | .chunked =>
      (line "Transfer-Encoding: chunked",
        (if size = 0 then []
          else line (String.ofList (Nat.toDigits 16 size)) ++ r.body ++ line "") ++
        line "0" ++ line "")
  line ("HTTP/1.1 " ++ toString r.status ++ " ") ++
    (match r.contentType with
      | none => []
      | some value => ascii "Content-Type: " ++ value ++ line "") ++
    frame ++ line "Connection: close" ++ line "" ++ body

end Http
end LivePage
