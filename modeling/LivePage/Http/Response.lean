import LivePage.Http.Body

/-!
# Responses

A response is a head and a body.  Interim heads may come before it.
-/

namespace LivePage
namespace Http

open EventStream

/-- Why octets are no response. -/
inductive ResponseFault where
  | head (fault : HeadFault)
  /-- An interim head that has headers. -/
  | interimHeaders
  /-- The head goes on after so many octets. -/
  | headTooLong (octets : Nat)
  | extent (fault : ExtentFault)
  deriving DecidableEq, Repr

def maxHeadLength : Nat := 65536

def ResponseFault.text : ResponseFault → String
  | .head fault => fault.text
  | .interimHeaders => "protocol: received headers with 100-continue response"
  | .headTooLong octets =>
    "response header is too big: " ++ toString octets ++ " > " ++ toString maxHeadLength
  | .extent fault => "protocol: " ++ fault.text

/-- A response. -/
structure Response where
  status : Nat
  headers : List Header
  body : Body
  deriving DecidableEq, Repr

/-- The greatest number of octets that are looked at for a head. -/
def maxLookahead : Nat := 131072

/-- The fault of octets in front of which a head takes the given number of them. -/
def lengthFault? (bs : List UInt8) (length : Nat) : Option ResponseFault :=
  if maxHeadLength < length then some (.headTooLong (min bs.length maxLookahead)) else none

/-- What a fault of the head in octets is for a response. -/
def headFault (bs : List UInt8) : HeadFault → ResponseFault
  | .incomplete => (lengthFault? bs bs.length).getD (.head .incomplete)
  | fault => .head fault

/-- Whether a head says enough without its end: that it is of a redirect, and where
to. -/
def isEnough (h : Head) : Bool :=
  isRedirect h.status && (header? h.headers "location").isSome

/-- Reads one head and gives what follows it.  With `allowsCut`, a head that says
enough may end too early. -/
def readWholeHead (allowsCut : Bool) (bs : List UInt8) :
    Except ResponseFault (Head × List UInt8) := do
  let (head, rest) ← (readHead bs).mapError (headFault bs)
  let rest ←
    match rest with
    | .ok rest => pure rest
    | .error fault =>
      if fault = .incomplete && allowsCut && isEnough head then pure []
      else throw (headFault bs fault)
  match lengthFault? bs (bs.length - rest.length) with
  | some fault => throw fault
  | none =>
    if head.status < 100 then throw (.head .unknownStatus) else return (head, rest)

/-- Reads the head that answers a request, after at most the given number of interim
ones, and gives what follows it. -/
def readFinalHead (allowsCut : Bool) : Nat → List UInt8 →
    Except ResponseFault (Head × List UInt8)
  | 0, _ => .error (.head .incomplete)
  | limit + 1, bs => do
    let (head, rest) ← readWholeHead allowsCut bs
    if !head.isInterim then return (head, rest)
    else if head.status = 100 && !head.headers.isEmpty then throw .interimHeaders
    else readFinalHead allowsCut limit rest

/-- Reads a response from everything that a connection sent. -/
def Response.ofOctets (allowsCut : Bool) (bs : List UInt8) : Except ResponseFault Response := do
  let (head, rest) ← readFinalHead allowsCut (bs.length + 1) bs
  let extent ← (extent head).mapError .extent
  return { status := head.status, headers := head.headers, body := .ofExtent rest extent }

/-- Whether headers tell that a body is compressed. -/
def isCompressed (headers : List Header) : Bool :=
  (header? headers "content-encoding").bind headerText? = some "gzip".toList

/-- What the body of a response stands for. -/
def Response.content (r : Response) : Body :=
  if isCompressed r.headers then r.body.decompressed else r.body

end Http
end LivePage
