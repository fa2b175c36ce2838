import LivePage.Proofs.EventStream.Boundaries
import LivePage.Proofs.EventStream.Interruptions

/-!
# Frames as soon as they are complete

A call that gives a frame stops right behind the line end that completes it.  It asks for
no fill after the one that holds this octet, and a carriage return ends a line without a
look at what follows it.  So the frames of a stream do not depend on what comes later, and
those that some fills complete are delivered before the next fill is asked for.
-/

namespace LivePage
namespace EventStream

/-! ## Octets taken off an input -/

/-- Takes octets off an input.  What is left of the fill that holds the last one is put
back, and no fill after it is touched. -/
inductive Takes : List UInt8 → List Fill → List Fill → Prop
  | last {octets : List UInt8} (hoctets : octets ≠ []) (rest : List UInt8)
      (later : List Fill) :
      Takes octets (.chunk (octets ++ rest) :: later) (unread rest later)
  | whole {fill octets : List UInt8} {later left : List Fill} (hfill : fill ≠ [])
      (hlater : Takes octets later left) :
      Takes (fill ++ octets) (.chunk fill :: later) left

namespace Takes

variable {octets more : List UInt8} {input left left' : List Fill}

theorem ne_nil (h : Takes octets input left) : octets ≠ [] := by
  induction h with
  | last hoctets rest later => exact hoctets
  | whole hfill hlater ih => exact List.append_ne_nil_of_left_ne_nil hfill _

theorem trans (h : Takes octets input left) (h' : Takes more left left') :
    Takes (octets ++ more) input left' := by
  induction h with
  | @last octets hoctets rest later =>
      by_cases hrest : rest = []
      · subst hrest
        rw [List.append_nil]
        exact .whole hoctets h'
      · rw [unread, if_neg hrest] at h'
        cases h' with
        | last hmore rest' later' =>
            rw [← List.append_assoc]
            exact .last (List.append_ne_nil_of_left_ne_nil hoctets more) rest' _
        | whole hfill hlater =>
            rw [← List.append_assoc]
            exact .whole (List.append_ne_nil_of_left_ne_nil hoctets rest) hlater
  | whole hfill hlater ih =>
      rw [List.append_assoc]
      exact .whole hfill (ih h')

/-- Octets can be taken off in two goes. -/
theorem split (hoctets : octets ≠ []) (hmore : more ≠ [])
    (h : Takes (octets ++ more) input left) :
    ∃ middle, Takes octets input middle ∧ Takes more middle left := by
  generalize htaken : octets ++ more = taken at h
  induction h generalizing octets with
  | last _ rest later =>
      subst htaken
      have hput : unread (more ++ rest) later = .chunk (more ++ rest) :: later :=
        if_neg (List.append_ne_nil_of_left_ne_nil hmore rest)
      refine ⟨unread (more ++ rest) later, ?_, ?_⟩
      · rw [List.append_assoc]
        exact .last hoctets (more ++ rest) later
      · rw [hput]
        exact .last hmore rest later
  | @whole fill tail later left hfill hlater ih =>
      have hfits : Takes fill (.chunk fill :: later) later := by
        have hlast := Takes.last hfill [] later
        rwa [List.append_nil] at hlast
      rcases List.append_eq_append_iff.mp htaken with ⟨c, rfl, rfl⟩ | ⟨c, rfl, rfl⟩
      · by_cases hc : c = []
        · subst hc
          rw [List.append_nil] at hfits
          exact ⟨later, by rwa [List.append_nil], hlater⟩
        · refine ⟨unread c later, .last hoctets c later, ?_⟩
          rw [unread, if_neg hc]
          exact .whole hc hlater
      · by_cases hc : c = []
        · subst hc
          exact ⟨later, by rwa [List.append_nil], hlater⟩
        · obtain ⟨middle, hfirst, hsecond⟩ := ih hc rfl
          exact ⟨middle, .whole hfill hfirst, hsecond⟩

end Takes

section Lines

variable {skip skip' : Bool} {pending begun line : List UInt8} {terminator : UInt8}
  {input left : List Fill}

/-- A line that is read is taken off the input up to its terminator. -/
theorem exists_takes_of_readLine
    (h : readLine skip pending input = (.line line, skip', left)) :
    ∃ begun terminator, Takes (begun ++ [terminator]) input left ∧
      CompletesWith skip pending begun terminator line skip' := by
  fun_induction readLine skip pending input with
  | case1 | case2 | case3 => cases h
  | case4 skip pending b bs input skip₁ pending₁ hscan ih =>
      obtain ⟨begun, terminator, htakes, hline⟩ := ih h
      refine ⟨(b :: bs) ++ begun, terminator, ?_, hline.append hscan⟩
      rw [List.append_assoc]
      exact .whole (List.cons_ne_nil b bs) htakes
  | case5 skip pending b bs input line₁ skip₁ rest hscan =>
      cases h
      obtain ⟨begun, terminator, hoctets, hline⟩ := exists_completesWith_of_scanLine hscan
      refine ⟨begun, terminator, ?_, hline⟩
      rw [hoctets, List.append_cons begun terminator rest]
      exact .last (List.concat_ne_nil terminator begun) rest input

/-- A line is read off every input that begins with its octets. -/
theorem readLine_of_takes {octets : List UInt8} (h : Takes octets input left)
    (hline : scanLine skip pending octets = .complete line skip' []) :
    readLine skip pending input = (.line line, skip', left) := by
  induction h generalizing skip pending with
  | @last octets hoctets rest later =>
      obtain ⟨b, bs, rfl⟩ := List.exists_cons_of_ne_nil hoctets
      rw [List.cons_append, readLine, ← List.cons_append, scanLine_append, hline]
      rfl
  | @whole fill octets later left hfill hlater ih =>
      obtain ⟨b, bs, rfl⟩ := List.exists_cons_of_ne_nil hfill
      rw [scanLine_append] at hline
      rw [readLine]
      cases hscan : scanLine skip pending (b :: bs) with
      | unfinished skip₁ pending₁ =>
          rw [hscan] at hline
          exact ih hline
      | complete line₁ skip₁ rest =>
          rw [hscan, LineScan.complete.injEq] at hline
          exact absurd (List.append_eq_nil_iff.mp hline.2.2).2 hlater.ne_nil

end Lines

/-! ## Where a call stops -/

namespace Reader

/-- The complete lines among the octets that are read next. -/
def linesOf (r : Reader) (octets : List UInt8) : List (List Char) :=
  lineTexts r.atStart (octetLines r.skipLineFeed octets)

/-- A call that gives a frame ends right behind the terminator of the frame's line. -/
structure StopsBehind (r : Reader) (begun : List UInt8) (terminator : UInt8) (frame : Frame)
    (after : Reader) : Prop where
  isTerminator : terminator = lineFeed ∨ terminator = carriageReturn
  skips : after.skipLineFeed = decide (terminator = carriageReturn)
  /-- The lines that are complete before the terminator give no frame. -/
  silent : r.decoder.frames (r.linesOf begun) = []
  /-- The terminator completes one more line, and this one gives the frame. -/
  line : ∃ line, r.linesOf (begun ++ [terminator]) = r.linesOf begun ++ [line] ∧
    (r.decoder.feed (r.linesOf begun)).line line = (some frame, after.decoder)
  /-- The octets up to the terminator are taken off the input, and no more. -/
  taken : Takes (begun ++ [terminator]) r.input after.input
  /-- Nothing behind the terminator matters, nor how the octets come in fills. -/
  frame_of_takes : ∀ {input left : List Fill}, Takes (begun ++ [terminator]) input left →
    Reader.next { r with input } = (.frame frame, { after with input := left })

variable {r after : Reader}

section LinesOf

variable {skip : Bool} {begun octets line : List UInt8} {terminator : UInt8}

theorem linesOf_of_unfinished {pending : List UInt8}
    (h : scanLine r.skipLineFeed [] begun = .unfinished skip pending) :
    r.linesOf begun = [] := by
  rw [linesOf, octetLines, cutLines_of_scanLine_unfinished h]
  rfl

theorem linesOf_append (h : scanLine r.skipLineFeed [] octets = .complete line skip [])
    (more : List UInt8) (input : List Fill) :
    r.linesOf (octets ++ more) = lineText r.atStart line ::
      (r.afterLine (lineText r.atStart line) skip input).linesOf more := by
  have hscan : scanLine r.skipLineFeed [] (octets ++ more) = .complete line skip more := by
    rw [scanLine_append, h]
    rfl
  rw [linesOf, octetLines, cutLines_of_scanLine_complete hscan]
  exact congrArg _ (lineTexts_false _).symm

theorem linesOf_of_complete (h : scanLine r.skipLineFeed [] octets = .complete line skip []) :
    r.linesOf octets = [lineText r.atStart line] := by
  have happend := linesOf_append h [] []
  rwa [List.append_nil] at happend

end LinesOf

/-- A line that gives the frame itself. -/
theorem stopsBehind_of_line {begun line : List UInt8} {terminator : UInt8} {skip : Bool}
    {left : List Fill} {frame : Frame}
    (htakes : Takes (begun ++ [terminator]) r.input left)
    (hline : CompletesWith r.skipLineFeed [] begun terminator line skip)
    (hframe : (r.decoder.line (lineText r.atStart line)).1 = some frame) :
    r.StopsBehind begun terminator frame
      (r.afterLine (lineText r.atStart line) skip left) := by
  obtain ⟨skip₁, pending₁, hbegun⟩ := hline.unfinished
  have hnone := linesOf_of_unfinished hbegun
  refine ⟨hline.isTerminator, hline.skips, ?_, ?_, htakes, ?_⟩
  · rw [hnone]
    rfl
  · refine ⟨lineText r.atStart line, ?_, ?_⟩
    · rw [hnone, linesOf_of_complete hline.complete]
      rfl
    · rw [hnone, Decoder.feed_nil, ← hframe]
      rfl
  · intro input left' htakes'
    exact next_of_line_some (r := { r with input })
      (readLine_of_takes htakes' hline.complete) hframe

/-- A line without a frame, and then a call that gives one. -/
theorem StopsBehind.after_line {begun line : List UInt8} {terminator : UInt8} {skip : Bool}
    {left : List Fill} {frame : Frame} {begun' : List UInt8} {terminator' : UInt8}
    (htakes : Takes (begun ++ [terminator]) r.input left)
    (hline : CompletesWith r.skipLineFeed [] begun terminator line skip)
    (hframe : (r.decoder.line (lineText r.atStart line)).1 = none)
    (h : (r.afterLine (lineText r.atStart line) skip left).StopsBehind begun' terminator'
      frame after) :
    r.StopsBehind (begun ++ [terminator] ++ begun') terminator' frame after := by
  have hlines (more : List UInt8) := linesOf_append hline.complete more left
  refine ⟨h.isTerminator, h.skips, ?_, ?_, ?_, ?_⟩
  · rw [hlines, Decoder.frames_cons_of_none hframe]
    exact h.silent
  · obtain ⟨line', hlast, hgives⟩ := h.line
    refine ⟨line', ?_, ?_⟩
    · rw [List.append_assoc (begun ++ [terminator]), hlines, hlines, hlast]
      rfl
    · rw [hlines, Decoder.feed_cons]
      exact hgives
  · rw [List.append_assoc (begun ++ [terminator])]
    exact htakes.trans h.taken
  · intro input left' htakes'
    rw [List.append_assoc (begun ++ [terminator])] at htakes'
    obtain ⟨middle, hfirst, hsecond⟩ := htakes'.split
      (List.concat_ne_nil terminator begun) (List.concat_ne_nil terminator' begun')
    have hnext := next_of_line_none (r := { r with input })
      (readLine_of_takes hfirst hline.complete) hframe
    exact hnext.trans (h.frame_of_takes hsecond)

/-- Every call that gives a frame stops at once. -/
theorem exists_stopsBehind {frame : Frame} (h : r.next = (.frame frame, after)) :
    ∃ begun terminator, r.StopsBehind begun terminator frame after := by
  fun_induction next r with
  | case1 | case2 => cases h
  | case3 r octets skip input hread step after' frame' hstep =>
      obtain ⟨hframe, rfl⟩ := Prod.mk.inj h
      obtain rfl := Pull.frame.inj hframe
      obtain ⟨begun, terminator, htakes, hline⟩ := exists_takes_of_readLine hread
      exact ⟨begun, terminator, stopsBehind_of_line htakes hline hstep⟩
  | case4 r octets skip input hread step after' hstep ih =>
      obtain ⟨begun, terminator, htakes, hline⟩ := exists_takes_of_readLine hread
      obtain ⟨begun', terminator', hstops⟩ := ih h
      exact ⟨begun ++ [terminator] ++ begun', terminator',
        StopsBehind.after_line htakes hline hstep hstops⟩

/-! ## Fills that come later -/

/-- A reader with more fills behind its input. -/
def extend (r : Reader) (later : List Fill) : Reader :=
  { r with input := r.input ++ later }

end Reader

theorem unread_append (rest : List UInt8) (input later : List Fill) :
    unread rest input ++ later = unread rest (input ++ later) := by
  unfold unread
  split <;> rfl

/-- Either all of the input is used up, or what comes later makes no difference. -/
theorem readLine_append (skip : Bool) (pending : List UInt8) (input : List Fill) :
    (∃ skip', readLine skip pending input = (.finished, skip', [])) ∨
      ∃ read skip' left, readLine skip pending input = (read, skip', left) ∧
        ∀ later, readLine skip pending (input ++ later) = (read, skip', left ++ later) := by
  fun_induction readLine skip pending input with
  | case1 skip pending => exact Or.inl ⟨skip, rfl⟩
  | case2 | case3 => exact Or.inr ⟨_, _, _, rfl, fun later => rfl⟩
  | case4 skip pending b bs input skip₁ pending₁ hscan ih =>
      rcases ih with hend | ⟨read, skip', left, hread, hlater⟩
      · exact Or.inl hend
      · refine Or.inr ⟨read, skip', left, hread, ?_⟩
        intro later
        rw [List.cons_append, readLine, hscan]
        exact hlater later
  | case5 skip pending b bs input line skip₁ rest hscan =>
      refine Or.inr ⟨_, _, _, rfl, ?_⟩
      intro later
      rw [List.cons_append, readLine, hscan, unread_append]

namespace Reader

variable {r : Reader}

/-- So it is with a call. -/
theorem next_extend (r : Reader) :
    (r.next.1 = .finished ∧ r.next.2.input = []) ∨
      ∀ later, (r.extend later).next = (r.next.1, r.next.2.extend later) := by
  induction hsize : inputSize r.input using Nat.strongRecOn generalizing r with
  | ind size ih =>
      rcases readLine_append r.skipLineFeed [] r.input with
        ⟨skip, hend⟩ | ⟨read, skip, left, hread, hlater⟩
      · rw [next_of_readLine_finished hend]
        exact Or.inl ⟨rfl, rfl⟩
      · cases read with
        | finished =>
            rw [next_of_readLine_finished hread]
            exact Or.inr fun later => next_of_readLine_finished (hlater later)
        | failed cause =>
            rw [next_of_readLine_failed hread]
            exact Or.inr fun later => next_of_readLine_failed (hlater later)
        | line octets =>
            cases hframe : (r.decoder.line (lineText r.atStart octets)).1 with
            | some frame =>
                rw [next_of_line_some hread hframe]
                exact Or.inr fun later => next_of_line_some (hlater later) hframe
            | none =>
                have hless : inputSize left < size :=
                  hsize ▸ inputSize_of_readLine_line _ _ _ hread
                rw [next_of_line_none hread hframe]
                refine (ih _ hless _ rfl).imp id ?_
                intro hafter later
                rw [← hafter later]
                exact next_of_line_none (hlater later) hframe

theorem call_of_input_nil (h : r.input = []) (n : Nat) : (r.call n).1 = .finished := by
  have hread : readLine r.skipLineFeed [] r.input = (.finished, r.skipLineFeed, []) := by
    rw [h]
    rfl
  have hnext := next_of_readLine_finished hread
  induction n with
  | zero => rw [call_zero, hnext]
  | succ n ih =>
      rw [call_succ, hnext]
      rw [← h]
      exact ih

/-- A frame that some fills complete is given before any later fill is asked for. -/
theorem call_extend {n : Nat} {frame : Frame} (h : (r.call n).1 = .frame frame)
    (later : List Fill) :
    (r.extend later).call n = r.call n ∧
      (r.extend later).after (n + 1) = (r.after (n + 1)).extend later := by
  induction n generalizing r with
  | zero =>
      rcases r.next_extend with ⟨hend, -⟩ | hextend
      · rw [call_zero, hend] at h
        cases h
      · constructor
        · rw [call_zero, call_zero, hextend later]
          rfl
        · rw [after, after, hextend later]
          rfl
  | succ n ih =>
      rw [call_succ] at h
      rcases r.next_extend with ⟨-, hinput⟩ | hextend
      · rw [call_of_input_nil hinput] at h
        cases h
      · obtain ⟨hcall, hafter⟩ := ih h
        rw [call_succ, after, hextend later]
        exact ⟨hcall, hafter⟩

/-! ## Whole streams -/

theorem readAll_of_next_frame {frame : Frame} {after : Reader}
    (h : r.next = (.frame frame, after)) :
    r.readAll.1 = (frame, after.lastEventId) :: after.readAll.1 := by
  rw [readAll]
  split
  · rename_i heq
    rw [h] at heq
    cases heq
    rfl
  · rename_i hno heq
    rw [h] at heq
    cases heq
    exact (hno frame rfl).elim

theorem readAll_of_next_finished {after : Reader} (h : r.next = (.finished, after)) :
    r.readAll.1 = [] := by
  rw [readAll]
  split
  · rename_i heq
    rw [h] at heq
    cases heq
  · rfl

theorem readAll_congr {s : Reader} (h : r.next = s.next) : r.readAll = s.readAll := by
  rw [readAll, readAll, h]

theorem HasLines.readAll_eq {lines : List (List Char)} (h : r.HasLines lines []) :
    r.readAll.1 = r.decoder.frames lines := by
  induction lines generalizing r with
  | nil =>
      obtain ⟨after, hnext, -⟩ := h.next_nil
      rw [readAll_of_next_finished hnext]
      rfl
  | cons line lines ih =>
      cases hframe : (r.decoder.line line).1 with
      | none =>
          obtain ⟨after, hnext, hdecoder, hlines⟩ := h.next_cons_of_none hframe
          rw [readAll_congr hnext, ih hlines, hdecoder, Decoder.frames_cons_of_none hframe]
      | some frame =>
          obtain ⟨after, hnext, hdecoder, hlines⟩ := h.next_cons_of_some hframe
          rw [readAll_of_next_frame hnext, ih hlines, lastEventId, hdecoder,
            Decoder.frames_cons_of_some hframe]

end Reader

theorem isPrefix_cutLines {α : Type} [DecidableEq α] (lf cr : α) (skip : Bool)
    (begun l more : List α) :
    cutLines lf cr skip begun l <+: cutLines lf cr skip begun (l ++ more) := by
  induction l generalizing skip begun with
  | nil => exact List.nil_prefix
  | cons a l ih =>
      rw [List.cons_append, cutLines, cutLines]
      split_ifs
      · exact ih false begun
      · exact (List.prefix_cons_inj _).mpr (ih false [])
      · exact (List.prefix_cons_inj _).mpr (ih true [])
      · exact ih false (a :: begun)

/-- Octets that come later complete more lines and change none. -/
theorem isPrefix_streamLines (octets more : List UInt8) :
    streamLines octets <+: streamLines (octets ++ more) := by
  obtain ⟨lines, hlines⟩ := isPrefix_cutLines lineFeed carriageReturn false [] octets more
  rw [← lineTexts_true_octetLines, ← lineTexts_true_octetLines, octetLines, octetLines,
    ← hlines]
  cases cutLines lineFeed carriageReturn false [] octets with
  | nil => exact List.nil_prefix
  | cons line rest =>
      rw [List.cons_append, lineTexts, lineTexts, List.map_append]
      exact List.prefix_append _ _

theorem Decoder.isPrefix_frames (d : Decoder) {lines more : List (List Char)}
    (h : lines <+: more) : d.frames lines <+: d.frames more := by
  obtain ⟨rest, rfl⟩ := h
  rw [frames, frames, lines_append, List.filterMap_append]
  exact List.prefix_append _ _

namespace Reader

/-- Frames are delivered as soon as they are complete. -/
structure HoldsNothingBack (lastEventId : Option String) : Prop where
  /-- At any point of a run, a call that gives a frame stops right behind the terminator of
  the frame's line. -/
  stops : ∀ (input : List Fill) (n : Nat) (frame : Frame) (left : Reader),
    ((resume lastEventId input).after n).next = (.frame frame, left) →
      ∃ begun terminator,
        ((resume lastEventId input).after n).StopsBehind begun terminator frame left
  /-- More octets give more frames behind those that are given without them. -/
  grows : ∀ (octets more : List UInt8) (cuts cuts' : List (List UInt8)),
    AreChunks cuts → AreChunks cuts' → cuts.flatten = octets →
      cuts'.flatten = octets ++ more →
        (resume lastEventId (chunkFills cuts)).readAll.1 <+:
          (resume lastEventId (chunkFills cuts')).readAll.1
  /-- The frames that the first fills of an input complete are given while all other fills
  are untouched. -/
  prompt : ∀ (input : List Fill) (k n : Nat) (frame : Frame) (decoder : Decoder),
    ((Decoder.resume lastEventId).reports (encounters (input.take k)))[n]? =
        some (.frame frame, decoder) →
      (resume lastEventId input).call n = (.frame frame, decoder) ∧
        input.drop k <:+ ((resume lastEventId input).after (n + 1)).input

theorem frames_grow (lastEventId : Option String) {cuts cuts' : List (List UInt8)}
    (hcuts : AreChunks cuts) (hcuts' : AreChunks cuts')
    (h : cuts.flatten <+: cuts'.flatten) :
    (resume lastEventId (chunkFills cuts)).readAll.1 <+:
      (resume lastEventId (chunkFills cuts')).readAll.1 := by
  have hread {cuts : List (List UInt8)} (hcuts : AreChunks cuts) :
      (resume lastEventId (chunkFills cuts)).readAll.1 =
        (Decoder.resume lastEventId).frames (streamLines cuts.flatten) := by
    have hlines := hasLines_resume hcuts lastEventId []
    rw [List.append_nil] at hlines
    exact hlines.readAll_eq
  obtain ⟨more, hmore⟩ := h
  rw [hread hcuts, hread hcuts', ← hmore]
  exact Decoder.isPrefix_frames _ (isPrefix_streamLines _ _)

/-- Whatever comes later, the frames of some fills are the ones that these fills give on
their own. -/
theorem call_of_reports (lastEventId : Option String) (fills later : List Fill) {n : Nat}
    {frame : Frame} {decoder : Decoder}
    (h : ((Decoder.resume lastEventId).reports (encounters fills))[n]? =
      some (.frame frame, decoder)) :
    (resume lastEventId (fills ++ later)).call n = (.frame frame, decoder) ∧
      later <:+ ((resume lastEventId (fills ++ later)).after (n + 1)).input := by
  have hcall : (resume lastEventId fills).call n = (.frame frame, decoder) := by
    have hreport := (awaits_resume lastEventId fills).call_eq n
    rw [List.getD_eq_getElem?_getD] at hreport
    rw [hreport]
    exact congrArg (Option.getD · _) h
  obtain ⟨hsame, hafter⟩ := call_extend (by rw [hcall]) later
  refine ⟨hsame.trans hcall, ?_⟩
  exact ⟨_, congrArg Reader.input hafter.symm⟩

/-- No frame is held back: a call stops at the line end that completes its frame, and
neither the frame nor what is left depends on anything behind it. -/
theorem holdsNothingBack_resume (lastEventId : Option String) :
    HoldsNothingBack lastEventId where
  stops _ _ _ _ := exists_stopsBehind
  grows octets more cuts cuts' hcuts hcuts' hoctets hmore := by
    refine frames_grow lastEventId hcuts hcuts' ?_
    rw [hoctets, hmore]
    exact List.prefix_append octets more
  prompt input k n frame decoder h := by
    have hcall := call_of_reports lastEventId (input.take k) (input.drop k) h
    rwa [List.take_append_drop] at hcall

end Reader

/-- An event that ends with a carriage return is given before the next fill, which fails,
and the line feed after that belongs to the same line end. -/
example :
    let r := Reader.resume none [.chunk "data:1\r\r".toUTF8.toList, .failure "reset",
      .chunk "\ndata:2\n\n".toUTF8.toList]
    (r.call 0).1 = .frame (.message ⟨"message", "1", none⟩) ∧
      (r.after 1).input = r.input.tail ∧
      (r.call 2).1 = .frame (.message ⟨"message", "2", none⟩) := by
  decide +kernel

end EventStream
end LivePage
