import LivePage.EventStream.Decoder
import LivePage.Text.Utf8

/-!
# Octets to frames

A reader asks its input for one buffer fill after another and delivers each
frame as soon as the terminator of its last line has been read.  A line feed
that follows a carriage return belongs to the same terminator; it is skipped
when it comes, so that no input is awaited after a carriage return.  Where the
input ends or fails, the line begun before is lost and all else is kept, and
reading may go on.
-/

namespace LivePage
namespace EventStream

def lineFeed : UInt8 := 0x0A

def carriageReturn : UInt8 := 0x0D

/-- The mark that may open a stream and is no part of its first line. -/
def byteOrderMark : Char := '\uFEFF'

/-- What one request for more input gives.  A chunk without octets reports the
end of the input. -/
inductive Fill where
  | chunk (octets : List UInt8)
  | failure (cause : String)
  deriving DecidableEq, Repr

/-- How far a chunk took the line being read. -/
inductive LineScan where
  /-- All octets are read; the line goes on, its octets so far latest first. -/
  | unfinished (skipLineFeed : Bool) (pending : List UInt8)
  /-- The line is complete, and this is left of the chunk. -/
  | complete (line : List UInt8) (skipLineFeed : Bool) (rest : List UInt8)
  deriving DecidableEq, Repr

/-- Reads octets up to the end of the line being read. -/
def scanLine (skipLineFeed : Bool) (pending : List UInt8) : List UInt8 → LineScan
  | [] => .unfinished skipLineFeed pending
  | b :: bs =>
    if b = lineFeed then
      if skipLineFeed then scanLine false pending bs else .complete pending.reverse false bs
    else if b = carriageReturn then .complete pending.reverse true bs
    else scanLine false (b :: pending) bs

/-- What reading one line gives. -/
inductive LineRead where
  | line (octets : List UInt8)
  | failed (cause : String)
  | finished
  deriving DecidableEq, Repr

/-- Puts what is left of a chunk back in front of the input. -/
def unread (rest : List UInt8) (input : List Fill) : List Fill :=
  if rest = [] then input else .chunk rest :: input

/-- Reads one line: what was read, whether a line feed is to be skipped next,
and the input left. -/
def readLine (skipLineFeed : Bool) (pending : List UInt8) :
    List Fill → LineRead × Bool × List Fill
  | [] => (.finished, skipLineFeed, [])
  | .failure cause :: input => (.failed cause, skipLineFeed, input)
  | .chunk [] :: input => (.finished, skipLineFeed, input)
  | .chunk (b :: bs) :: input =>
    match scanLine skipLineFeed pending (b :: bs) with
    | .unfinished skip pending => readLine skip pending input
    | .complete line skip rest => (.line line, skip, unread rest input)

/-- A bound on the number of lines and interruptions left in an input. -/
def inputSize : List Fill → Nat
  | [] => 0
  | .failure _ :: input => inputSize input + 1
  | .chunk octets :: input => inputSize input + octets.length + 1

theorem inputSize_unread_le (rest : List UInt8) (input : List Fill) :
    inputSize (unread rest input) ≤ inputSize input + rest.length + 1 := by
  unfold unread
  split
  · omega
  · simp only [inputSize]
    omega

theorem length_of_scanLine_complete (skip : Bool) (pending octets : List UInt8)
    {line : List UInt8} {skip' : Bool} {rest : List UInt8}
    (h : scanLine skip pending octets = .complete line skip' rest) :
    rest.length < octets.length := by
  induction octets generalizing skip pending with
  | nil => simp [scanLine] at h
  | cons b bs ih =>
    simp only [scanLine] at h
    split at h
    · split at h
      · have := ih _ _ h
        simp only [List.length_cons]
        omega
      · simp only [LineScan.complete.injEq] at h
        simp [h.2.2]
    · split at h
      · simp only [LineScan.complete.injEq] at h
        simp [h.2.2]
      · have := ih _ _ h
        simp only [List.length_cons]
        omega

theorem inputSize_of_readLine_line (skip : Bool) (pending : List UInt8) (input : List Fill)
    {line : List UInt8} {skip' : Bool} {rest : List Fill}
    (h : readLine skip pending input = (.line line, skip', rest)) :
    inputSize rest < inputSize input := by
  fun_induction readLine skip pending input with
  | case1 => simp at h
  | case2 => simp at h
  | case3 => simp at h
  | case4 skip pending b bs input skip₁ pending₁ hs ih =>
    have := ih h
    simp only [inputSize]
    omega
  | case5 skip pending b bs input line₁ skip₁ rest₁ hs =>
    simp only [Prod.mk.injEq] at h
    obtain ⟨-, -, rfl⟩ := h
    have h₁ := length_of_scanLine_complete _ _ _ hs
    have h₂ := inputSize_unread_le rest₁ input
    have h₃ : inputSize (.chunk (b :: bs) :: input) =
        inputSize input + (b :: bs).length + 1 := rfl
    omega

/-- A reader and the input it has yet to read. -/
structure Reader where
  decoder : Decoder
  /-- Whether the last line ended with a carriage return. -/
  skipLineFeed : Bool
  /-- Whether no line has been completed. -/
  atStart : Bool
  input : List Fill
  deriving DecidableEq, Repr

namespace Reader

/-- A reader that continues from the event id of an earlier stream. -/
def resume (lastEventId : Option String) (input : List Fill) : Reader where
  decoder := .resume lastEventId
  skipLineFeed := false
  atStart := true
  input := input

/-- The event id in force. -/
def lastEventId (r : Reader) : Option String :=
  r.decoder.lastEventId

/-- Reads the octets of a line as text.  The first line of a stream may open
with a byte order mark. -/
def lineText (atStart : Bool) (octets : List UInt8) : List Char :=
  match atStart, Utf8.decodeLossy octets with
  | true, c :: cs => if c = byteOrderMark then cs else c :: cs
  | _, cs => cs

/-- Reads up to the next frame, the end of the input, or a failure. -/
def next (r : Reader) : Pull String × Reader :=
  match _h : readLine r.skipLineFeed [] r.input with
  | (.finished, skipLineFeed, input) => (.finished, { r with skipLineFeed, input })
  | (.failed cause, skipLineFeed, input) => (.failed cause, { r with skipLineFeed, input })
  | (.line octets, skipLineFeed, input) =>
    let step := r.decoder.line (lineText r.atStart octets)
    let after : Reader := { decoder := step.2, skipLineFeed, atStart := false, input }
    match step.1 with
    | some frame => (.frame frame, after)
    | none => after.next
termination_by inputSize r.input
decreasing_by exact inputSize_of_readLine_line _ _ _ _h

/-- A frame uses up a part of the input. -/
theorem inputSize_next_lt (r : Reader) {frame : Frame} (h : r.next.1 = .frame frame) :
    inputSize r.next.2.input < inputSize r.input := by
  fun_induction next r with
  | case1 => simp at h
  | case2 => simp at h
  | case3 r octets skipLineFeed input hread step after frame' hstep =>
    exact inputSize_of_readLine_line _ _ _ hread
  | case4 r octets skipLineFeed input hread step after hstep ih =>
    have h₁ := ih h
    have h₂ := inputSize_of_readLine_line _ _ _ hread
    exact Nat.lt_trans h₁ h₂

end Reader
end EventStream
end LivePage
