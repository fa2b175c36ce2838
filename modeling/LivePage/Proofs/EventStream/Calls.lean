import LivePage.Proofs.EventStream.Chunking

/-!
# Single calls on a stream

A call reads lines up to the first one that gives a frame.  Where no line gives one,
it reads all of them, and the end of the input or a failure is next.
-/

namespace LivePage
namespace EventStream

/-- How many of some lines a call reads: those up to the first one that gives a frame,
or all of them. -/
def Decoder.callLength (d : Decoder) : List (List Char) → Nat
  | [] => 0
  | line :: lines =>
      if (d.line line).1.isSome then 1 else (d.line line).2.callLength lines + 1

/-- The rest of an input that delivers nothing but failures. -/
def failureFills (causes : List String) : List Fill :=
  causes.map .failure

namespace Reader

/-- A reader that has some complete lines yet to read, and only failures after the
octets. -/
def HasLinesThenFailures (r : Reader) (lines : List (List Char)) : Prop :=
  ∃ causes, r.HasLines lines (failureFills causes)

theorem HasLinesThenFailures.next_nil {r : Reader} (h : r.HasLinesThenFailures []) :
    r.next.2.decoder = r.decoder ∧ r.next.2.HasLinesThenFailures [] := by
  obtain ⟨causes, hlines⟩ := h
  obtain ⟨skip, pending, hread⟩ := hlines.readLine_nil
  have hnone (left : List Fill) (causes : List String) (hleft : left = failureFills causes) :
      HasLinesThenFailures { r with skipLineFeed := skip, input := left } [] :=
    ⟨causes, [], List.forall_mem_nil _, hleft, rfl⟩
  cases causes with
  | nil =>
      rw [next_of_readLine_finished hread]
      exact ⟨rfl, hnone [] [] rfl⟩
  | cons cause causes =>
      rw [next_of_readLine_failed hread]
      exact ⟨rfl, hnone _ causes rfl⟩

/-- A call takes in the lines that it reads, and leaves the others. -/
theorem HasLinesThenFailures.next {r : Reader} {lines : List (List Char)}
    (h : r.HasLinesThenFailures lines) :
    r.next.2.decoder = r.decoder.feed (lines.take (r.decoder.callLength lines)) ∧
      r.next.2.HasLinesThenFailures (lines.drop (r.decoder.callLength lines)) := by
  induction lines generalizing r with
  | nil => simpa using h.next_nil
  | cons line lines ih =>
      obtain ⟨causes, hlines⟩ := h
      cases hframe : (r.decoder.line line).1 with
      | some frame =>
          obtain ⟨after, hnext, hdecoder, hleft⟩ := hlines.next_cons_of_some hframe
          simp only [hnext, Decoder.callLength, hframe, Option.isSome_some, if_true]
          exact ⟨hdecoder, causes, hleft⟩
      | none =>
          obtain ⟨after, hnext, hdecoder, hleft⟩ := hlines.next_cons_of_none hframe
          have hafter := ih ⟨causes, hleft⟩
          rw [hdecoder, ← hnext] at hafter
          simpa [Decoder.callLength, hframe] using hafter

end Reader
end EventStream
end LivePage
