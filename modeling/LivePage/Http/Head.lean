import LivePage.EventStream.Reader
import LivePage.Http.Status
import LivePage.Text.Blank
import LivePage.Text.Cut

/-!
# Heads of responses

A head is a status line, header lines and a blank line.  A line ends with a line
feed that may have a carriage return before it, and may not be folded.  What does
not fit is noticed at the first octet that is out of place, also where the end of
its line has not been sent.
-/

namespace LivePage
namespace Http

open EventStream

/-! ## Octets -/

/-- The octets of a text of ASCII characters. -/
def ascii (s : String) : List UInt8 :=
  s.toList.map fun c => UInt8.ofNat c.toNat

/-- Octets as ASCII text, as far as they are in range. -/
def asciiText (bs : List UInt8) : List Char :=
  bs.map fun b => Char.ofNat b.toNat

/-- A space or a tab. -/
def isPadding (b : UInt8) : Bool :=
  b = 0x20 || b = 0x09

/-- Octets without the spaces and tabs at their ends. -/
def unpad (bs : List UInt8) : List UInt8 :=
  ((bs.dropWhile isPadding).reverse.dropWhile isPadding).reverse

/-- Whether an octet is visible in ASCII, a space or a tab. -/
def isVisible (b : UInt8) : Bool :=
  b = 0x09 || (0x20 ≤ b && b < 0x7F)

/-- Whether an octet may stand in a reason or the value of a header. -/
def isTextOctet (b : UInt8) : Bool :=
  isVisible b || 0x80 ≤ b

/-- Whether an octet may stand in the name of a header. -/
def isNameOctet (b : UInt8) : Bool :=
  let c := Char.ofNat b.toNat
  c.isAlphanum || "!#$%&'*+-.^_\x60|~".toList.contains c

/-! ## Headers -/

/-- A header: its name in lower case, and its value without the spaces and tabs at
its ends. -/
structure Header where
  name : List Char
  value : List UInt8
  deriving DecidableEq, Repr

/-- The values of the headers with a name. -/
def headerValues (headers : List Header) (name : String) : List (List UInt8) :=
  (headers.filter (·.name = name.toList)).map (·.value)

/-- The value of the first header with a name. -/
def header? (headers : List Header) (name : String) : Option (List UInt8) :=
  (headerValues headers name).head?

/-- The text of a header value, if it has one. -/
def headerText? (value : List UInt8) : Option (List Char) :=
  if value.all isVisible then some (asciiText value) else none

/-- The parts of a text that commas separate, without the blanks at their ends. -/
def listParts (cs : List Char) : List (List Char) :=
  (Text.cutAll (· = ',') cs).map Text.trim

/-! ## Reading -/

/-- Why octets are no head. -/
inductive HeadFault where
  /-- They end before the blank line. -/
  | incomplete
  | badVersion
  | badStatus
  | badHeaderName
  | badHeaderValue
  | badLineEnd
  | tooManyHeaders
  /-- The status is below all that there are. -/
  | unknownStatus
  deriving DecidableEq, Repr

/-- The text of a connection that ended too early. -/
def disconnectedText : String := "Peer disconnected"

def HeadFault.text : HeadFault → String
  | .incomplete => "io: " ++ disconnectedText
  | .badVersion => "protocol: http parse fail: invalid HTTP version"
  | .badStatus => "protocol: http parse fail: invalid response status"
  | .badHeaderName => "protocol: http parse fail: invalid header name"
  | .badHeaderValue => "protocol: http parse fail: invalid header value"
  | .badLineEnd => "protocol: http parse fail: invalid new line"
  | .tooManyHeaders => "protocol: http parse resulted in too many headers"
  | .unknownStatus => "protocol: http response invalid status"

/-- What reading a part of a head gives. -/
abbrev HeadRead := Except HeadFault

def skipOctet (octet : UInt8) (fault : HeadFault) : List UInt8 → HeadRead (List UInt8)
  | [] => .error .incomplete
  | b :: bs => if b = octet then .ok bs else .error fault

/-- Skips the line ends in front of a head. -/
def skipLineEnds : List UInt8 → HeadRead (List UInt8)
  | [] => .error .incomplete
  | 0x0A :: bs => skipLineEnds bs
  | 0x0D :: 0x0A :: bs => skipLineEnds bs
  | [0x0D] => .error .incomplete
  | 0x0D :: _ => .error .badLineEnd
  | bs => .ok bs

/-- Reads octets that satisfy `p` up to the end of their line. -/
def readLineOf (p : UInt8 → Bool) (fault : HeadFault) (bs : List UInt8) :
    HeadRead (List UInt8 × List UInt8) :=
  match bs.dropWhile p with
  | [] => .error .incomplete
  | b :: rest =>
    if b = lineFeed then .ok (bs.takeWhile p, rest)
    else if b = carriageReturn then (skipOctet lineFeed fault rest).map (bs.takeWhile p, ·)
    else .error fault

/-- Skips the protocol and tells whether it is the older one, which knows no
chunks. -/
def readVersion (bs : List UInt8) : HeadRead (Bool × List UInt8) :=
  if (bs.take 8).length < 8 then
    if bs.isPrefixOf (ascii "HTTP/1.") then .error .incomplete else .error .badVersion
  else if bs.take 8 = ascii "HTTP/1.0" then .ok (true, bs.drop 8)
  else if bs.take 8 = ascii "HTTP/1.1" then .ok (false, bs.drop 8)
  else .error .badVersion

/-- Reads a number of the given number of digits, behind those read before. -/
def readDigits : Nat → Nat → List UInt8 → HeadRead (Nat × List UInt8)
  | 0, n, bs => .ok (n, bs)
  | _ + 1, _, [] => .error .incomplete
  | count + 1, n, b :: bs =>
    if 0x30 ≤ b ∧ b ≤ 0x39 then readDigits count (n * 10 + (b.toNat - 0x30)) bs
    else .error .badStatus

/-- Skips the reason behind a status, which a space sets off. -/
def skipReason : List UInt8 → HeadRead (List UInt8)
  | 0x20 :: bs => (readLineOf isTextOctet .badStatus bs).map (·.2)
  | bs => (readLineOf (fun _ => false) .badStatus bs).map (·.2)

def readHeader (bs : List UInt8) : HeadRead (Header × List UInt8) := do
  let name := bs.takeWhile isNameOctet
  let rest := bs.dropWhile isNameOctet
  if name = [] then throw .badHeaderName
  let (value, rest) ← readLineOf isTextOctet .badHeaderValue (← skipOctet 0x3A .badHeaderName rest)
  return ({ name := (asciiText name).map Char.toLower, value := unpad value }, rest)

/-- Reads at most the given number of header lines, up to the blank line: the
headers, and what follows the blank line. -/
def readHeaders (limit : Nat) (bs : List UInt8) : List Header × HeadRead (List UInt8) :=
  match bs with
  | [] => ([], .error .incomplete)
  | b :: rest =>
    if b = lineFeed then ([], .ok rest)
    else if b = carriageReturn then ([], skipOctet lineFeed .badLineEnd rest)
    else
      match readHeader bs, limit with
      | .error fault, _ => ([], .error fault)
      | .ok _, 0 => ([], .error .tooManyHeaders)
      | .ok (header, rest), limit + 1 =>
        let after := readHeaders limit rest
        (header :: after.1, after.2)

def maxHeaders : Nat := 128

/-- A head. -/
structure Head where
  /-- Whether the response is one of the older protocol, which knows no chunks. -/
  isOld : Bool
  status : Nat
  headers : List Header
  deriving DecidableEq, Repr

/-- Reads a head.  The second part tells what follows it; a head that goes on is
read as far as it was sent. -/
def readHead (bs : List UInt8) : HeadRead (Head × HeadRead (List UInt8)) := do
  let (isOld, bs) ← readVersion (← skipLineEnds bs)
  let (status, bs) ← readDigits 3 0 (← skipOctet 0x20 .badVersion bs)
  let (headers, rest) := readHeaders maxHeaders (← skipReason bs)
  return (⟨isOld, status, headers⟩, rest)

/-- Whether a head is only a sign that the response will come. -/
def Head.isInterim (h : Head) : Bool :=
  isInformational h.status && h.status ≠ 101

end Http
end LivePage
