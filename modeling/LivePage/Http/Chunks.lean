import LivePage.Http.Head
import LivePage.Text.Utf8

/-!
# Chunks

A body in chunks is a sequence of them, each behind a line with its size and before
a line end.  A chunk of size zero is the last one.  Lines up to a blank one may
follow it, and what comes after that is not looked at.
-/

namespace LivePage
namespace Http

open EventStream

/-- Why octets are no chunk. -/
inductive ChunkFault where
  /-- A line end is missing where one must be. -/
  | missingLineEnd
  | badSize
  /-- The line of a size is no text. -/
  | badText
  deriving DecidableEq, Repr

def ChunkFault.text : ChunkFault → String
  | .missingLineEnd => "chunk expected crlf as next character"
  | .badSize => "chunk length cannot be read as a number"
  | .badText => "chunk length is not ascii"

/-- How a sequence of chunks ends. -/
inductive ChunkEnd where
  /-- After the last chunk. -/
  | complete
  /-- Before the last chunk, with nothing sent that has not been read. -/
  | missing
  /-- In the middle of a line. -/
  | unfinished
  | malformed (fault : ChunkFault)
  deriving DecidableEq, Repr

/-- Cuts octets at their first carriage return, if a line feed follows it. -/
def cutLine (bs : List UInt8) : Option (List UInt8 × List UInt8) :=
  match bs.dropWhile (· ≠ carriageReturn) with
  | _ :: b :: rest =>
    if b = lineFeed then some (bs.takeWhile (· ≠ carriageReturn), rest) else none
  | _ => none

theorem length_lt_of_cutLine {bs line rest : List UInt8} (h : cutLine bs = some (line, rest)) :
    rest.length < bs.length := by
  have hlength := (List.dropWhile_suffix (l := bs) (· ≠ carriageReturn)).length_le
  unfold cutLine at h
  split at h
  · rename_i heq
    split at h
    · simp only [Option.some.injEq, Prod.mk.injEq] at h
      rw [heq] at hlength
      rw [← h.2]
      simp only [List.length_cons] at hlength
      omega
    · simp at h
  · simp at h

/-- The value of a digit in base sixteen. -/
def hexValue? (c : Char) : Option Nat :=
  if c.isDigit then some (c.toNat - '0'.toNat)
  else if 'a' ≤ c.toLower ∧ c.toLower ≤ 'f' then some (c.toLower.toNat - 'a'.toNat + 10)
  else none

/-- Reads the size of a chunk, which may have a plus sign. -/
def readSize? (cs : List Char) : Option Nat :=
  let digits := if cs.head? = some '+' then cs.tail else cs
  if digits = [] then none
  else
    (digits.foldlM (fun n c => (hexValue? c).map (n * 16 + ·)) 0).filter (· < UInt64.size)

/-- The size in the line in front of a chunk.  What follows a semicolon is not
looked at. -/
def chunkSize (line : List UInt8) : Except ChunkFault Nat :=
  match Utf8.decode? (line.takeWhile (· ≠ 0x3B)) with
  | none => .error .badText
  | some cs =>
    match readSize? (Text.trim cs) with
    | none => .error .badSize
    | some size => .ok size

/-- The greatest length of the line in front of a chunk, its end counted. -/
def maxSizeLine : Nat := 20

/-- How chunks end where no line end comes next. -/
def endWithin (bs : List UInt8) : ChunkEnd :=
  if bs = [] then .missing else .unfinished

/-- Skips the lines after the last chunk. -/
def readTrailer (bs : List UInt8) : ChunkEnd :=
  match _h : cutLine bs with
  | some ([], _) => .complete
  | some (_, rest) => readTrailer rest
  | none => if bs = [] then .complete else .unfinished
termination_by bs.length
decreasing_by exact length_lt_of_cutLine _h

/-- The octets in chunks, and how the chunks end. -/
def readChunks (bs : List UInt8) : List UInt8 × ChunkEnd :=
  match _h₁ : cutLine (bs.take maxSizeLine) with
  | none =>
    if (bs.take maxSizeLine).length < maxSizeLine then ([], endWithin bs)
    else ([], .malformed .missingLineEnd)
  | some (line, _) =>
    let content := bs.drop (line.length + 2)
    match chunkSize line with
    | .error fault => ([], .malformed fault)
    | .ok 0 => ([], readTrailer content)
    | .ok size =>
      let chunk := content.take size
      if chunk.length < size then (chunk, .missing)
      else
        match _h₂ : cutLine (content.drop size) with
        | none => (chunk, endWithin (content.drop size))
        | some ([], rest) =>
          let after := readChunks rest
          (chunk ++ after.1, after.2)
        | some _ => (chunk, .malformed .missingLineEnd)
termination_by bs.length
decreasing_by
  have := length_lt_of_cutLine _h₂
  simp only [List.length_drop, content] at this
  omega

end Http
end LivePage
