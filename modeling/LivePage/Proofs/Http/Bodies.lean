import Mathlib.Data.List.Basic
import LivePage.Http.Response

/-!
# Bodies that are sent whole

Whichever way a server marks the end of a body, a body that it sends whole is read as it is,
and whatever is sent after the end is not looked at.
-/

namespace LivePage
namespace Http

open EventStream

/-! ## Chunks -/

def lineEnd : List UInt8 := [carriageReturn, lineFeed]

/-- A chunk as it is sent: the line in front of it, and its octets. -/
structure Chunk where
  line : List UInt8
  octets : List UInt8
  deriving DecidableEq

namespace Chunk

/-- The line of a chunk gives its size, and is short enough to be read. -/
structure IsWritten (c : Chunk) : Prop where
  size : chunkSize c.line = .ok c.octets.length
  nonempty : c.octets ≠ []
  lineEnd_not_mem : carriageReturn ∉ c.line
  length_le : c.line.length + 2 ≤ maxSizeLine

def sent (c : Chunk) : List UInt8 :=
  c.line ++ lineEnd ++ c.octets ++ lineEnd

end Chunk

/-- The octets that a server sends for chunks. -/
def sendChunks (cs : List Chunk) : List UInt8 :=
  cs.flatMap Chunk.sent ++ ascii "0" ++ lineEnd ++ lineEnd

theorem cutLine_append {line : List UInt8} (hline : carriageReturn ∉ line)
    (rest : List UInt8) : cutLine (line ++ lineEnd ++ rest) = some (line, rest) := by
  have hall : ∀ b ∈ line, decide (b ≠ carriageReturn) = true := by
    intro b hb
    exact decide_eq_true fun heq => hline (heq ▸ hb)
  have hdrop : (line ++ lineEnd ++ rest).dropWhile (· ≠ carriageReturn) =
      carriageReturn :: lineFeed :: rest := by
    rw [List.append_assoc, List.dropWhile_append_of_pos hall]
    rfl
  have htake : (line ++ lineEnd ++ rest).takeWhile (· ≠ carriageReturn) = line := by
    rw [List.append_assoc, List.takeWhile_append_of_pos hall]
    exact List.append_nil line
  rw [cutLine, hdrop, htake]
  rfl

theorem cutLine_take {line : List UInt8} (hline : carriageReturn ∉ line)
    (hlength : line.length + 2 ≤ maxSizeLine) (rest : List UInt8) :
    ∃ more, cutLine ((line ++ lineEnd ++ rest).take maxSizeLine) = some (line, more) := by
  have hwhole : (line ++ lineEnd).length ≤ maxSizeLine := by
    rw [List.length_append]
    exact hlength
  rw [List.take_append, List.take_of_length_le hwhole]
  exact ⟨_, cutLine_append hline _⟩

theorem drop_line (line rest : List UInt8) :
    (line ++ lineEnd ++ rest).drop (line.length + 2) = rest := by
  have hlength : line.length + 2 = (line ++ lineEnd).length := by
    rw [List.length_append]
    rfl
  rw [hlength, List.drop_left]

theorem readTrailer_lineEnd (rest : List UInt8) : readTrailer (lineEnd ++ rest) = .complete := by
  have hcut : cutLine (lineEnd ++ rest) = some ([], rest) :=
    cutLine_append List.not_mem_nil rest
  rw [readTrailer]
  split <;> simp_all

theorem readChunks_last (rest : List UInt8) :
    readChunks (ascii "0" ++ lineEnd ++ lineEnd ++ rest) = ([], .complete) := by
  have hline : carriageReturn ∉ ascii "0" := by decide
  rw [List.append_assoc]
  obtain ⟨more, hcut⟩ := cutLine_take hline (by decide) (lineEnd ++ rest)
  have hsize : chunkSize (ascii "0") = .ok 0 := by decide +kernel
  have hdrop := drop_line (ascii "0") (lineEnd ++ rest)
  rw [readChunks]
  split
  · simp_all
  · rename_i hcut'
    rw [hcut] at hcut'
    cases hcut'
    simp only [hsize, hdrop, readTrailer_lineEnd]

theorem readChunks_cons {c : Chunk} (hc : c.IsWritten) (rest : List UInt8) :
    readChunks (c.sent ++ rest) =
      (c.octets ++ (readChunks rest).1, (readChunks rest).2) := by
  have hsent : c.sent ++ rest = c.line ++ lineEnd ++ (c.octets ++ (lineEnd ++ rest)) := by
    simp [Chunk.sent]
  obtain ⟨more, hcut⟩ := cutLine_take hc.lineEnd_not_mem hc.length_le
    (c.octets ++ (lineEnd ++ rest))
  have hdrop := drop_line c.line (c.octets ++ (lineEnd ++ rest))
  have hend : cutLine (((c.line ++ lineEnd ++ (c.octets ++ (lineEnd ++ rest))).drop
      (c.line.length + 2)).drop c.octets.length) = some ([], rest) := by
    rw [hdrop, List.drop_left]
    exact cutLine_append List.not_mem_nil rest
  have hpos : c.octets.length ≠ 0 := mt List.length_eq_zero_iff.mp hc.nonempty
  rw [hsent, readChunks]
  split <;> rename_i hcut'
  · rw [hcut] at hcut'
    cases hcut'
  · rw [hcut] at hcut'
    cases hcut'
    simp only [hc.size, hdrop, List.take_left, Nat.lt_irrefl, if_false]
    split
    · rename_i hend'
      rw [hend] at hend'
      cases hend'
    · rename_i hend'
      rw [hend] at hend'
      cases hend'
      rfl
    · rename_i hother hend'
      rw [hend] at hend'
      cases hend'
      exact (hother rest rfl).elim

/-- Chunks are read as they are sent. -/
theorem readChunks_sendChunks {cs : List Chunk} (hcs : ∀ c ∈ cs, c.IsWritten)
    (rest : List UInt8) :
    readChunks (sendChunks cs ++ rest) = (cs.flatMap Chunk.octets, .complete) := by
  induction cs with
  | nil => exact readChunks_last rest
  | cons c cs ih =>
      obtain ⟨hc, hcs⟩ := List.forall_mem_cons.mp hcs
      have hsend : sendChunks (c :: cs) ++ rest = c.sent ++ (sendChunks cs ++ rest) := by
        simp [sendChunks]
      rw [hsend, readChunks_cons hc, ih hcs]
      rfl

/-! ## Bodies -/

/-- What a server sends so that a body of given octets ends where it should, with anything
after the end that is not taken for a part of it. -/
inductive IsSent (bs : List UInt8) : Extent → List UInt8 → Prop where
  | connection : IsSent bs .connection bs
  | length (more : List UInt8) : IsSent bs (.length bs.length) (bs ++ more)
  | chunks {cs : List Chunk} (hcs : ∀ c ∈ cs, c.IsWritten)
      (hbs : cs.flatMap Chunk.octets = bs) (more : List UInt8) :
      IsSent bs .chunks (sendChunks cs ++ more)

/-- The octets of a body that was sent whole are read as they are, without a failure. -/
theorem ofExtent_of_isSent {bs sent : List UInt8} {extent : Extent}
    (h : IsSent bs extent sent) : Body.ofExtent sent extent = { octets := bs } := by
  cases h with
  | connection => rfl
  | length more => simp [Body.ofExtent, Body.ofLength]
  | chunks hcs hbs more =>
      simp only [Body.ofExtent, Body.ofChunks, readChunks_sendChunks hcs more, hbs]

/-- A size may be written with leading zeros, and something else may follow it. -/
example :
    readChunks (ascii "004;x\r\ndata\r\n" ++ ascii "0\r\n\r\n") =
      (ascii "data", .complete) := by
  decide +kernel

end Http
end LivePage
