import LivePage.Gzip.Stream
import LivePage.Http.Chunks

/-!
# Bodies of responses

A body ends where its length or its last chunk says, or with the connection.  A
connection that ends before that is a failure of reading, after everything that was
sent has been read.  Octets that are no chunks fail every time they are read.  What
a body holds may be compressed.
-/

namespace LivePage
namespace Http

open EventStream

/-! ## Where a body ends -/

/-- What marks the end of a body. -/
inductive Extent where
  | length (octets : Nat)
  | chunks
  | connection
  deriving DecidableEq, Repr

/-- Why headers do not tell where a body ends. -/
inductive ExtentFault where
  | badLength
  | differentLengths
  deriving DecidableEq, Repr

def ExtentFault.text : ExtentFault → String
  | .badLength => "content-length header not a number"
  | .differentLengths => "conflicting content-length headers"

/-- Reads one length after others, all of which must be equal. -/
def addLength (before : Option Nat) (digits : List Char) : Except ExtentFault (Option Nat) :=
  if Digits.isNumeral digits ∧ Digits.value digits < UInt64.size then
    if before.all (· = Digits.value digits) then .ok (some (Digits.value digits))
    else .error .differentLengths
  else .error .badLength

/-- The lengths that a header value lists. -/
def lengthsIn (value : List UInt8) : List (List Char) :=
  (headerText? value).elim [[]] listParts

/-- The length that headers give, if they give one. -/
def contentLength? (headers : List Header) : Except ExtentFault (Option Nat) :=
  ((headerValues headers "content-length").flatMap lengthsIn).foldlM addLength none

/-- Whether headers tell that a body is in chunks. -/
def isChunked (headers : List Header) : Bool :=
  (headerValues headers "transfer-encoding").any fun value =>
    ((headerText? value).elim [] listParts).any fun part =>
      part.map Char.toLower = "chunked".toList

/-- Where the body of a response ends, if it has one. -/
def extent (h : Head) : Except ExtentFault Extent := do
  let length? ← contentLength? h.headers
  if isBodiless h.status then return .length 0
  else if isChunked h.headers && !h.isOld then return .chunks
  else return length?.elim .connection .length

/-! ## What is read -/

/-- Why a body cannot be read. -/
inductive BodyFault where
  /-- The connection ended too early. -/
  | disconnected
  /-- What was sent last is no complete line. -/
  | stalled
  | badChunk (fault : ChunkFault)
  /-- What was sent cannot be decompressed. -/
  | badStream (fault : Gzip.Fault)
  /-- What should be decompressed cannot be read. -/
  | compressed (cause : BodyFault)
  deriving DecidableEq, Repr

def BodyFault.text : BodyFault → String
  | .disconnected => disconnectedText
  | .stalled => "body data reading stalled"
  | .badChunk fault => "protocol: " ++ fault.text
  | .badStream fault => "gzip decompression failed: " ++ fault.text
  | .compressed cause => "gzip decompression failed: " ++ cause.text

/-- A body as it is read. -/
structure Body where
  octets : List UInt8
  /-- Failures of reading after the octets, each of them once. -/
  failures : List BodyFault := []
  /-- The failure of all reading after that; without one, the body has ended. -/
  lasting : Option BodyFault := none
  deriving DecidableEq, Repr

/-- The greatest number of octets that are read at a time. -/
def blockSize : Nat := 8192

namespace Body

/-- The body of so many octets, as far as it was sent. -/
def ofLength (size : Nat) (bs : List UInt8) : Body :=
  let octets := bs.take size
  { octets, failures := if octets.length < size then [.disconnected] else [] }

/-- The body in chunks, as far as it was sent.  Octets that are read together with
something malformed are lost. -/
def ofChunks (bs : List UInt8) : Body :=
  let (octets, chunkEnd) := readChunks bs
  match chunkEnd with
  | .complete => { octets }
  | .missing => { octets, failures := [.disconnected] }
  | .unfinished => { octets, lasting := some .stalled }
  | .malformed fault =>
    { octets := octets.take ((octets.length - 1) / blockSize * blockSize)
      lasting := some (.badChunk fault) }

/-- The body that ends at the given place, from everything that was sent. -/
def ofExtent (bs : List UInt8) : Extent → Body
  | .length size => ofLength size bs
  | .chunks => ofChunks bs
  | .connection => { octets := bs }

/-- The first failure of reading. -/
def fault? (b : Body) : Option BodyFault :=
  b.failures.head?.or b.lasting

/-- What a compressed body stands for. -/
def decompressed (b : Body) : Body :=
  let failures := b.failures.map .compressed
  let lasting := b.lasting.map .compressed
  let (octets, streamEnd) := Gzip.readStream b.octets
  match streamEnd with
  | .complete => { octets, failures, lasting }
  | .shortHeader =>
    { octets, failures := [(failures.head?.or lasting).getD (.badStream .short)] }
  | .short => { octets, failures, lasting := some (lasting.getD (.badStream .short)) }
  | .failed fault => { octets, failures := [.badStream fault] }
  | .stuck fault => { octets, lasting := some (.badStream fault) }

/-- The input of a reader, up to where reading fails for good. -/
def fills (b : Body) : List Fill :=
  (if b.octets = [] then [] else [.chunk b.octets]) ++ b.failures.map (.failure ·.text)

end Body
end Http
end LivePage
