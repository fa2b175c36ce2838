import LivePage.Proofs.EventStream.Decoding
import LivePage.Proofs.EventStream.Lines

/-!
# Streams that come in pieces

A reader sees its input one fill at a time and decodes it one line at a time.  What
it delivers depends on the octets alone, and it is what the lines of the whole
stream give.
-/

namespace LivePage
namespace EventStream

/-! ## Scanning for the end of a line -/

theorem scanLine_append (skip : Bool) (pending octets more : List UInt8) :
    scanLine skip pending (octets ++ more) =
      match scanLine skip pending octets with
      | .unfinished skip pending => scanLine skip pending more
      | .complete line skip rest => .complete line skip (rest ++ more) := by
  induction octets generalizing skip pending with
  | nil => rfl
  | cons b octets ih =>
      simp only [List.cons_append, scanLine]
      split_ifs
      · exact ih false pending
      · rfl
      · rfl
      · exact ih false (b :: pending)

theorem cutLines_of_scanLine_unfinished {skip : Bool} {pending octets : List UInt8}
    {skip' : Bool} {pending' : List UInt8}
    (h : scanLine skip pending octets = .unfinished skip' pending') :
    cutLines lineFeed carriageReturn skip pending octets = [] := by
  induction octets generalizing skip pending with
  | nil => rfl
  | cons b octets ih =>
      simp only [scanLine, cutLines] at h ⊢
      split_ifs at h ⊢
      · exact ih h
      · exact ih h

theorem cutLines_of_scanLine_complete {skip : Bool} {pending octets : List UInt8}
    {line : List UInt8} {skip' : Bool} {rest : List UInt8}
    (h : scanLine skip pending octets = .complete line skip' rest) :
    cutLines lineFeed carriageReturn skip pending octets =
      line :: octetLines skip' rest := by
  induction octets generalizing skip pending with
  | nil => cases h
  | cons b octets ih =>
      simp only [scanLine, cutLines] at h ⊢
      split_ifs at h ⊢
      · exact ih h
      · cases h
        rfl
      · cases h
        rfl
      · exact ih h

/-- A scan completes a line with its terminator, and not before. -/
structure CompletesWith (skip : Bool) (pending begun : List UInt8) (terminator : UInt8)
    (line : List UInt8) (skip' : Bool) : Prop where
  isTerminator : terminator = lineFeed ∨ terminator = carriageReturn
  skips : skip' = decide (terminator = carriageReturn)
  unfinished : ∃ skip₁ pending₁, scanLine skip pending begun = .unfinished skip₁ pending₁
  complete : scanLine skip pending (begun ++ [terminator]) = .complete line skip' []

/-- Octets without a line end come in front of what has begun. -/
theorem CompletesWith.append {skip skip₁ skip' : Bool} {pending pending₁ : List UInt8}
    {earlier begun line : List UInt8} {terminator : UInt8}
    (h : CompletesWith skip₁ pending₁ begun terminator line skip')
    (hearlier : scanLine skip pending earlier = .unfinished skip₁ pending₁) :
    CompletesWith skip pending (earlier ++ begun) terminator line skip' where
  isTerminator := h.isTerminator
  skips := h.skips
  unfinished := by
    rw [scanLine_append, hearlier]
    exact h.unfinished
  complete := by
    rw [List.append_assoc, scanLine_append, hearlier]
    exact h.complete

theorem exists_completesWith_of_scanLine {skip skip' : Bool}
    {pending octets line rest : List UInt8}
    (h : scanLine skip pending octets = .complete line skip' rest) :
    ∃ begun terminator, octets = begun ++ terminator :: rest ∧
      CompletesWith skip pending begun terminator line skip' := by
  induction octets generalizing skip pending with
  | nil => cases h
  | cons b octets ih =>
      have hgo {skip₁ : Bool} {pending₁ : List UInt8}
          (hb : scanLine skip pending [b] = .unfinished skip₁ pending₁)
          (h : scanLine skip₁ pending₁ octets = .complete line skip' rest) :
          ∃ begun terminator, b :: octets = begun ++ terminator :: rest ∧
            CompletesWith skip pending begun terminator line skip' := by
        obtain ⟨begun, terminator, hoctets, hline⟩ := ih h
        exact ⟨[b] ++ begun, terminator, by rw [hoctets]; rfl, hline.append hb⟩
      simp only [scanLine] at h hgo
      split_ifs at h hgo with hlf hskip hcr
      · exact hgo rfl h
      · cases h
        refine ⟨[], b, rfl, Or.inl hlf, ?_, ⟨_, _, rfl⟩, ?_⟩
        · rw [hlf]
          rfl
        · rw [List.nil_append, scanLine, if_pos hlf, if_neg hskip]
      · cases h
        refine ⟨[], b, rfl, Or.inr hcr, ?_, ⟨_, _, rfl⟩, ?_⟩
        · rw [hcr]
          rfl
        · rw [List.nil_append, scanLine, if_neg hlf, if_pos hcr]
      · exact hgo rfl h

/-! ## Reading a line from pieces -/

/-- The fills of an input that comes in pieces. -/
def chunkFills (cuts : List (List UInt8)) : List Fill :=
  cuts.map .chunk

/-- No piece is empty, so that none reports the end of the input. -/
def AreChunks (cuts : List (List UInt8)) : Prop :=
  ∀ cut ∈ cuts, cut ≠ []

theorem readLine_of_scanLine_unfinished {cuts : List (List UInt8)}
    (hcuts : AreChunks cuts) {skip : Bool} {pending : List UInt8} {skip' : Bool}
    {pending' : List UInt8}
    (h : scanLine skip pending cuts.flatten = .unfinished skip' pending')
    (tail : List Fill) :
    readLine skip pending (chunkFills cuts ++ tail) =
      readLine skip' pending' tail := by
  induction cuts generalizing skip pending with
  | nil =>
      cases h
      rfl
  | cons cut cuts ih =>
      obtain ⟨hcut, hrest⟩ := List.forall_mem_cons.mp hcuts
      obtain ⟨b, bs, rfl⟩ := List.exists_cons_of_ne_nil hcut
      rw [List.flatten_cons, scanLine_append] at h
      simp only [chunkFills, List.map_cons, List.cons_append, readLine]
      cases hscan : scanLine skip pending (b :: bs) with
      | unfinished skip pending =>
          rw [hscan] at h
          exact ih hrest h
      | complete line skip rest =>
          rw [hscan] at h
          cases h

theorem readLine_of_scanLine_complete {cuts : List (List UInt8)}
    (hcuts : AreChunks cuts) {skip : Bool} {pending line : List UInt8} {skip' : Bool}
    {rest : List UInt8}
    (h : scanLine skip pending cuts.flatten = .complete line skip' rest)
    (tail : List Fill) :
    ∃ left, AreChunks left ∧ left.flatten = rest ∧
      readLine skip pending (chunkFills cuts ++ tail) =
        (.line line, skip', chunkFills left ++ tail) := by
  induction cuts generalizing skip pending with
  | nil => cases h
  | cons cut cuts ih =>
      obtain ⟨hcut, hrest⟩ := List.forall_mem_cons.mp hcuts
      obtain ⟨b, bs, rfl⟩ := List.exists_cons_of_ne_nil hcut
      rw [List.flatten_cons, scanLine_append] at h
      simp only [chunkFills, List.map_cons, List.cons_append, readLine]
      cases hscan : scanLine skip pending (b :: bs) with
      | unfinished skip pending =>
          rw [hscan] at h
          exact ih hrest h
      | complete line skip left =>
          rw [hscan] at h
          cases h
          by_cases hleft : left = []
          · exact ⟨cuts, hrest, by simp [hleft], by simp [unread, hleft]⟩
          · exact ⟨left :: cuts, List.forall_mem_cons.mpr ⟨hleft, hrest⟩, rfl,
              by simp [unread, hleft]⟩

/-! ## Lines that are yet to be read -/

/-- The texts of lines, the first of which may open the stream. -/
def lineTexts (atStart : Bool) : List (List UInt8) → List (List Char)
  | [] => []
  | line :: lines => Reader.lineText atStart line :: lines.map Utf8.decodeLossy

theorem lineText_true (line : List UInt8) :
    Reader.lineText true line = dropMark (Utf8.decodeLossy line) := by
  unfold Reader.lineText
  cases Utf8.decodeLossy line <;> rfl

theorem lineTexts_false (lines : List (List UInt8)) :
    lineTexts false lines = lines.map Utf8.decodeLossy := by
  cases lines <;> rfl

theorem lineTexts_true_octetLines (octets : List UInt8) :
    lineTexts true (octetLines false octets) = streamLines octets := by
  rw [streamLines_eq_octetLines]
  cases octetLines false octets with
  | nil => rfl
  | cons line lines => simp [lineTexts, lineText_true]

namespace Reader

/-- What a reader has yet to read: first the octets of some complete lines and of a
line that stays unfinished, and then the rest of the input. -/
def HasLines (r : Reader) (lines : List (List Char)) (tail : List Fill) : Prop :=
  ∃ cuts, AreChunks cuts ∧ r.input = chunkFills cuts ++ tail ∧
    lineTexts r.atStart (octetLines r.skipLineFeed cuts.flatten) = lines

theorem hasLines_resume {cuts : List (List UInt8)} (hcuts : AreChunks cuts)
    (lastEventId : Option String) (tail : List Fill) :
    (resume lastEventId (chunkFills cuts ++ tail)).HasLines
      (streamLines cuts.flatten) tail :=
  ⟨cuts, hcuts, rfl, lineTexts_true_octetLines _⟩

/-- The reader after a line of which the given parts of the input are left. -/
def afterLine (r : Reader) (line : List Char) (skipLineFeed : Bool)
    (input : List Fill) : Reader where
  decoder := (r.decoder.line line).2
  skipLineFeed := skipLineFeed
  atStart := false
  input := input

theorem next_eq (r : Reader) :
    r.next =
      match readLine r.skipLineFeed [] r.input with
      | (.finished, skip, input) => (.finished, { r with skipLineFeed := skip, input })
      | (.failed cause, skip, input) =>
        (.failed cause, { r with skipLineFeed := skip, input })
      | (.line octets, skip, input) =>
        match (r.decoder.line (lineText r.atStart octets)).1 with
        | some frame => (.frame frame, r.afterLine (lineText r.atStart octets) skip input)
        | none => (r.afterLine (lineText r.atStart octets) skip input).next := by
  rw [next]
  split <;> rename_i hread <;> rw [hread]
  rfl

theorem next_of_readLine_line {r : Reader} {octets : List UInt8} {skip : Bool}
    {input : List Fill} (h : readLine r.skipLineFeed [] r.input = (.line octets, skip, input)) :
    r.next =
      match (r.decoder.line (lineText r.atStart octets)).1 with
      | some frame => (.frame frame, r.afterLine (lineText r.atStart octets) skip input)
      | none => (r.afterLine (lineText r.atStart octets) skip input).next := by
  rw [next_eq, h]

theorem next_of_line_some {r : Reader} {octets : List UInt8} {skip : Bool} {input : List Fill}
    (h : readLine r.skipLineFeed [] r.input = (.line octets, skip, input)) {frame : Frame}
    (hframe : (r.decoder.line (lineText r.atStart octets)).1 = some frame) :
    r.next = (.frame frame, r.afterLine (lineText r.atStart octets) skip input) := by
  rw [next_of_readLine_line h, hframe]

theorem next_of_line_none {r : Reader} {octets : List UInt8} {skip : Bool} {input : List Fill}
    (h : readLine r.skipLineFeed [] r.input = (.line octets, skip, input))
    (hframe : (r.decoder.line (lineText r.atStart octets)).1 = none) :
    r.next = (r.afterLine (lineText r.atStart octets) skip input).next := by
  rw [next_of_readLine_line h, hframe]

theorem next_of_readLine_finished {r : Reader} {skip : Bool} {input : List Fill}
    (h : readLine r.skipLineFeed [] r.input = (.finished, skip, input)) :
    r.next = (.finished, { r with skipLineFeed := skip, input }) := by
  rw [next_eq, h]

theorem next_of_readLine_failed {r : Reader} {cause : String} {skip : Bool}
    {input : List Fill}
    (h : readLine r.skipLineFeed [] r.input = (.failed cause, skip, input)) :
    r.next = (.failed cause, { r with skipLineFeed := skip, input }) := by
  rw [next_eq, h]

/-- Without a complete line, what comes next is up to the rest of the input. -/
theorem HasLines.readLine_nil {r : Reader} {tail : List Fill}
    (h : r.HasLines [] tail) :
    ∃ skip pending, readLine r.skipLineFeed [] r.input = readLine skip pending tail := by
  obtain ⟨cuts, hcuts, hinput, hlines⟩ := h
  rw [hinput]
  cases hscan : scanLine r.skipLineFeed [] cuts.flatten with
  | unfinished skip pending =>
      exact ⟨skip, pending, readLine_of_scanLine_unfinished hcuts hscan tail⟩
  | complete line skip rest =>
      rw [octetLines, cutLines_of_scanLine_complete hscan] at hlines
      cases hlines

/-- The first of the complete lines is read, and the others are left. -/
theorem HasLines.readLine_cons {r : Reader} {line : List Char}
    {lines : List (List Char)} {tail : List Fill} (h : r.HasLines (line :: lines) tail) :
    ∃ octets skip input,
      readLine r.skipLineFeed [] r.input = (.line octets, skip, input) ∧
        lineText r.atStart octets = line ∧
        (r.afterLine line skip input).HasLines lines tail := by
  obtain ⟨cuts, hcuts, hinput, hlines⟩ := h
  rw [hinput]
  cases hscan : scanLine r.skipLineFeed [] cuts.flatten with
  | unfinished skip pending =>
      rw [octetLines, cutLines_of_scanLine_unfinished hscan] at hlines
      cases hlines
  | complete octets skip rest =>
      rw [octetLines, cutLines_of_scanLine_complete hscan] at hlines
      obtain ⟨left, hleft, hflatten, hread⟩ :=
        readLine_of_scanLine_complete hcuts hscan tail
      obtain ⟨rfl, rfl⟩ := List.cons.inj hlines
      exact ⟨octets, skip, _, hread, rfl, left, hleft, rfl,
        by rw [hflatten]; exact lineTexts_false _⟩

theorem HasLines.next_cons_of_some {r : Reader} {line : List Char}
    {lines : List (List Char)} {tail : List Fill} (h : r.HasLines (line :: lines) tail)
    {frame : Frame} (hframe : (r.decoder.line line).1 = some frame) :
    ∃ after, r.next = (.frame frame, after) ∧
      after.decoder = (r.decoder.line line).2 ∧ after.HasLines lines tail := by
  obtain ⟨octets, skip, input, hread, rfl, hlines⟩ := h.readLine_cons
  exact ⟨_, next_of_line_some hread hframe, rfl, hlines⟩

theorem HasLines.next_cons_of_none {r : Reader} {line : List Char}
    {lines : List (List Char)} {tail : List Fill} (h : r.HasLines (line :: lines) tail)
    (hframe : (r.decoder.line line).1 = none) :
    ∃ after : Reader, r.next = after.next ∧
      after.decoder = (r.decoder.line line).2 ∧ after.HasLines lines tail := by
  obtain ⟨octets, skip, input, hread, rfl, hlines⟩ := h.readLine_cons
  exact ⟨_, next_of_line_none hread hframe, rfl, hlines⟩

theorem HasLines.next_nil {r : Reader} (h : r.HasLines [] []) :
    ∃ after, r.next = (.finished, after) ∧ after.decoder = r.decoder := by
  obtain ⟨skip, pending, hread⟩ := h.readLine_nil
  exact ⟨_, next_of_readLine_finished hread, rfl⟩

/-- The reader after some calls. -/
def after (r : Reader) : Nat → Reader
  | 0 => r
  | n + 1 => r.next.2.after n

/-! ## All calls up to the end of the stream -/

/-- What calls give up to the first one that gives no frame, each with the event id
in force after it. -/
def calls (r : Reader) : List (Pull String × Option String) :=
  match _h : r.next with
  | (.frame frame, after) => (.frame frame, after.lastEventId) :: after.calls
  | (pull, after) => [(pull, after.lastEventId)]
termination_by inputSize r.input
decreasing_by
  have := inputSize_next_lt r (by rw [_h])
  rwa [_h] at this

theorem calls_of_next_frame {r after : Reader} {frame : Frame}
    (h : r.next = (.frame frame, after)) :
    r.calls = (.frame frame, after.lastEventId) :: after.calls := by
  rw [calls]
  split
  · rename_i heq
    rw [h] at heq
    cases heq
    rfl
  · rename_i hno heq
    rw [h] at heq
    cases heq
    exact (hno frame rfl).elim

theorem calls_of_next_finished {r after : Reader} (h : r.next = (.finished, after)) :
    r.calls = [(.finished, after.lastEventId)] := by
  rw [calls]
  split <;> rename_i heq <;> rw [h] at heq <;> cases heq
  rfl

theorem calls_congr {r s : Reader} (h : r.next = s.next) : r.calls = s.calls := by
  rw [calls, calls, h]

end Reader

/-- What calls give for a list of lines: its frames and then the end, each with the
event id in force after it. -/
def Decoder.calls (d : Decoder) (lines : List (List Char)) :
    List (Pull String × Option String) :=
  (d.frames lines).map (fun step => (.frame step.1, step.2)) ++
    [(.finished, (d.feed lines).lastEventId)]

theorem Reader.HasLines.calls_eq {r : Reader} {lines : List (List Char)}
    (h : r.HasLines lines []) : r.calls = r.decoder.calls lines := by
  induction lines generalizing r with
  | nil =>
      obtain ⟨after, hnext, hdecoder⟩ := h.next_nil
      rw [Reader.calls_of_next_finished hnext, Reader.lastEventId, hdecoder]
      rfl
  | cons line lines ih =>
      cases hframe : (r.decoder.line line).1 with
      | none =>
          obtain ⟨after, hnext, hdecoder, hlines⟩ := h.next_cons_of_none hframe
          rw [Reader.calls_congr hnext, ih hlines, Decoder.calls, Decoder.calls,
            Decoder.frames_cons_of_none hframe, Decoder.feed_cons, hdecoder]
      | some frame =>
          obtain ⟨after, hnext, hdecoder, hlines⟩ := h.next_cons_of_some hframe
          rw [Reader.calls_of_next_frame hnext, ih hlines, Decoder.calls, Decoder.calls,
            Decoder.frames_cons_of_some hframe, Decoder.feed_cons, Reader.lastEventId,
            hdecoder]
          rfl

/-- However a stream is cut into pieces, its calls are those of its lines. -/
theorem calls_of_pieces (octets : List UInt8) (cuts : List (List UInt8))
    (hcuts : AreChunks cuts) (hoctets : cuts.flatten = octets)
    (lastEventId : Option String) :
    (Reader.resume lastEventId (chunkFills cuts)).calls =
      (Decoder.resume lastEventId).calls (streamLines octets) := by
  subst hoctets
  have h := Reader.hasLines_resume hcuts lastEventId []
  rw [List.append_nil] at h
  exact h.calls_eq

/-- A mark, a character and a line end that are each cut in two. -/
theorem calls_of_four_pieces :
    let octets : List UInt8 :=
      [0xEF, 0xBB, 0xBF, 0x64, 0x61, 0x74, 0x61, 0x3A, 0xC3, 0xA9, 0x0D, 0x0A, 0x0D]
    let cuts : List (List UInt8) :=
      [[0xEF], [0xBB, 0xBF, 0x64, 0x61, 0x74, 0x61, 0x3A, 0xC3], [0xA9, 0x0D],
        [0x0A, 0x0D]]
    AreChunks cuts ∧ cuts.flatten = octets ∧
      (Reader.resume (some "7") (chunkFills cuts)).calls =
        (Decoder.resume (some "7")).calls (streamLines octets) ∧
      (Decoder.resume (some "7")).calls (streamLines octets) =
        [(.frame (.message ⟨"message", "é", some "7"⟩), some "7"),
          (.finished, some "7")] :=
  ⟨by simp [AreChunks], rfl,
    calls_of_pieces _ _ (by simp [AreChunks]) rfl _, by decide +kernel⟩

end EventStream
end LivePage
