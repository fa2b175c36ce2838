import LivePage.Gzip.Checksum
import LivePage.Gzip.Deflate

/-!
# Compressed streams

A stream is a sequence of members.  Each has a header, compressed data, and the
checksum and the number of the octets that the data stands for.
-/

namespace LivePage
namespace Gzip

/-- Why octets are no stream. -/
inductive Fault where
  /-- They end too early. -/
  | short
  | badHeader
  /-- A text in a header goes on for too long. -/
  | longText
  | badData
  /-- The checksum or the number of octets is another one. -/
  | badChecksum
  deriving DecidableEq, Repr

def Fault.text : Fault → String
  | .short => "unexpected end of file"
  | .badHeader => "invalid gzip header"
  | .longText => "gzip header field too long"
  | .badData => "corrupt deflate stream"
  | .badChecksum => "corrupt gzip stream does not have a matching checksum"

/-! ## Headers -/

def take (count : Nat) (bs : List UInt8) : Except Fault (List UInt8 × List UInt8) :=
  let taken := bs.take count
  if taken.length < count then .error .short else .ok (taken, bs.drop count)

/-- The number that octets denote, the least first. -/
def number (bs : List UInt8) : Nat :=
  bs.foldr (fun b n => b.toNat + 256 * n) 0

/-- The greatest length of a text in a header. -/
def maxTextLength : Nat := 65535

/-- Skips a text up to the zero at its end. -/
def skipText (bs : List UInt8) : Except Fault (List UInt8) :=
  let text := bs.takeWhile (· ≠ 0)
  if maxTextLength < text.length then .error .longText
  else
    match bs.dropWhile (· ≠ 0) with
    | [] => .error .short
    | _ :: rest => .ok rest

/-- Skips an addition, which its length comes before. -/
def skipAddition (bs : List UInt8) : Except Fault (List UInt8) := do
  let (length, bs) ← take 2 bs
  let (_, bs) ← take (number length) bs
  return bs

/-- Skips one part of a header if it is there. -/
def skipIf (isThere : Bool) (skip : List UInt8 → Except Fault (List UInt8)) (bs : List UInt8) :
    Except Fault (List UInt8) :=
  if isThere then skip bs else .ok bs

/-- Skips a header.  The fourth octet tells what follows the first ten: an addition, a
name, a comment, and a part of the checksum of all before. -/
def skipHeader (bs : List UInt8) : Except Fault (List UInt8) := do
  let (first, rest) ← take 10 bs
  let flags := (first.getD 3 0).toNat
  if first.take 3 ≠ [0x1F, 0x8B, 8] || 0x20 ≤ flags then throw .badHeader
  let rest ← skipIf (flags.testBit 2) skipAddition rest
  let rest ← skipIf (flags.testBit 3) skipText rest
  let rest ← skipIf (flags.testBit 4) skipText rest
  if flags.testBit 1 then
    let (sum, after) ← take 2 rest
    let header := bs.take (bs.length - rest.length)
    if number sum = (checksum header).toNat % UInt16.size then return after else throw .badChecksum
  else return rest

/-! ## Members -/

/-- How a stream ends. -/
inductive StreamEnd where
  /-- After a member. -/
  | complete
  /-- In the first header. -/
  | shortHeader
  /-- In another place within a member. -/
  | short
  /-- Reading fails once and then has ended. -/
  | failed (fault : Fault)
  /-- Reading fails each time. -/
  | stuck (fault : Fault)
  deriving DecidableEq, Repr

/-- How a stream ends whose header has a fault. -/
def headerEnd (isFirst : Bool) : Fault → StreamEnd
  | .short => if isFirst then .shortHeader else .short
  | fault => if isFirst then .failed fault else .stuck fault

/-- The number of octets that are decompressed at a time.  Those decompressed together
with something malformed are lost. -/
def windowSize : Nat := 32768

/-- Skips the checksum and the number of the octets of a member. -/
def skipTrailer (octets bs : List UInt8) : Except Fault (List UInt8) := do
  let (sum, bs) ← take 4 bs
  let (count, bs) ← take 4 bs
  if number sum = (checksum octets).toNat && number count = octets.length % UInt32.size then return bs
  else throw .badChecksum

/-- Reads at most the given number of members, and tells how they end. -/
def readMembers (isFirst : Bool) : Nat → List UInt8 → List UInt8 × StreamEnd
  | 0, _ => ([], .short)
  | limit + 1, bs =>
    match skipHeader bs with
    | .error fault => ([], headerEnd isFirst fault)
    | .ok bs =>
      match inflate bs with
      | (octets, .error .short) => (octets, .short)
      | (octets, .error .malformed) =>
        (octets.take (octets.length / windowSize * windowSize), .stuck .badData)
      | (octets, .ok bs) =>
        match skipTrailer octets bs with
        | .error .short => (octets, .short)
        | .error fault => (octets, .failed fault)
        | .ok [] => (octets, .complete)
        | .ok bs =>
          let after := readMembers false limit bs
          (octets ++ after.1, after.2)

/-- The octets that a stream stands for, and how it ends. -/
def readStream (bs : List UInt8) : List UInt8 × StreamEnd :=
  readMembers true (bs.length + 1) bs

end Gzip
end LivePage
