import LivePage.Proofs.EventStream.Chunking

/-!
# Streams that are interrupted

An input may end or fail and yet go on afterwards.  Its octets between two
interruptions are a stretch, and the lines of a stream are the complete lines of its
stretches: a line that an interruption cuts in two is lost, both halves of it.  Three
things outlast an interruption: whether the octet consumed last was a carriage return,
whether a line has been completed at all, and the decoder.

`encounters` tells from the input alone what a reader comes upon.  The main statement is
that single calls report just that, one thing after another.
-/

namespace LivePage
namespace EventStream

/-! ## Interruptions and stretches -/

/-- What stops a reader although it may go on. -/
inductive Interruption where
  | ended
  | failed (cause : String)
  deriving DecidableEq, Repr

/-- How a call reports an interruption. -/
def Interruption.pull : Interruption → Pull String
  | .ended => .finished
  | .failed cause => .failed cause

/-- The fill that is an interruption. -/
def Interruption.fill : Interruption → Fill
  | .ended => .chunk []
  | .failed cause => .failure cause

def Pull.interruption? : Pull String → Option Interruption
  | .frame _ => none
  | .finished => some .ended
  | .failed cause => some (.failed cause)

def Pull.frame? : Pull String → Option Frame
  | .frame f => some f
  | _ => none

def Fill.interruption? : Fill → Option Interruption
  | .chunk [] => some .ended
  | .chunk (_ :: _) => none
  | .failure cause => some (.failed cause)

def Fill.octets : Fill → List UInt8
  | .chunk octets => octets
  | .failure _ => []

@[simp] theorem Interruption.interruption?_pull (i : Interruption) :
    i.pull.interruption? = some i := by
  cases i <;> rfl

@[simp] theorem Interruption.frame?_pull (i : Interruption) : i.pull.frame? = none := by
  cases i <;> rfl

@[simp] theorem Pull.interruption?_frame (f : Frame) :
    (.frame f : Pull String).interruption? = none :=
  rfl

@[simp] theorem Pull.frame?_frame (f : Frame) : (.frame f : Pull String).frame? = some f :=
  rfl

@[simp] theorem Interruption.interruption?_fill (i : Interruption) :
    i.fill.interruption? = some i := by
  cases i <;> rfl

/-- Octets that no interruption cuts. -/
structure Stretch where
  /-- All octets of the input before these. -/
  earlier : List UInt8
  octets : List UInt8
  /-- What ends it, unless the input ends with it. -/
  interruption? : Option Interruption
  deriving DecidableEq, Repr

/-- The stretches of an input, after the octets of a stretch that has begun. -/
def stretchesAfter (earlier begun : List UInt8) : List Fill → List Stretch
  | [] => [⟨earlier, begun, none⟩]
  | fill :: input =>
      match fill.interruption? with
      | some i => ⟨earlier, begun, some i⟩ :: stretchesAfter (earlier ++ begun) [] input
      | none => stretchesAfter earlier (begun ++ fill.octets) input

def stretches (input : List Fill) : List Stretch :=
  stretchesAfter [] [] input

def endsInReturn (octets : List UInt8) : Bool :=
  octets.getLast? = some carriageReturn

/-- Octets without the line feed that belongs to a line end before them. -/
def dropLineFeed (earlier octets : List UInt8) : List UInt8 :=
  if endsInReturn earlier ∧ octets.head? = some lineFeed then octets.tail else octets

/-- The complete lines of a stretch. -/
def Stretch.lines (s : Stretch) : List (List Char) :=
  completeLines (Utf8.decodeLossy (dropLineFeed s.earlier s.octets))

/-! ## What a reader comes upon -/

inductive Encounter where
  | line (text : List Char)
  | interruption (i : Interruption)
  deriving DecidableEq, Repr

namespace Encounter

def line? : Encounter → Option (List Char)
  | .line text => some text
  | .interruption _ => none

def interruption? : Encounter → Option Interruption
  | .line _ => none
  | .interruption i => some i

/-- The lines among some encounters. -/
def lines (encounters : List Encounter) : List (List Char) :=
  encounters.filterMap line?

def interruptions (encounters : List Encounter) : List Interruption :=
  encounters.filterMap interruption?

@[simp] theorem lines_cons_line (text : List Char) (es : List Encounter) :
    lines (.line text :: es) = text :: lines es :=
  rfl

@[simp] theorem lines_cons_interruption (i : Interruption) (es : List Encounter) :
    lines (.interruption i :: es) = lines es :=
  rfl

@[simp] theorem interruptions_cons_line (text : List Char) (es : List Encounter) :
    interruptions (.line text :: es) = interruptions es :=
  rfl

@[simp] theorem interruptions_cons_interruption (i : Interruption) (es : List Encounter) :
    interruptions (.interruption i :: es) = i :: interruptions es :=
  rfl

/-- Encounters without the mark that may open the first line. -/
def dropFirstMark : List Encounter → List Encounter
  | [] => []
  | .line text :: es => .line (dropMark text) :: es
  | .interruption i :: es => .interruption i :: dropFirstMark es

theorem lines_dropFirstMark (es : List Encounter) :
    lines (dropFirstMark es) = (lines es).modifyHead dropMark := by
  induction es with
  | nil => rfl
  | cons e es ih =>
      cases e with
      | line text => rfl
      | interruption i => exact ih

theorem interruptions_dropFirstMark (es : List Encounter) :
    interruptions (dropFirstMark es) = interruptions es := by
  induction es with
  | nil => rfl
  | cons e es ih =>
      cases e with
      | line text => rfl
      | interruption i => exact congrArg (i :: ·) ih

end Encounter

/-- The lines of a stretch, and what ends it. -/
def Stretch.encounters (s : Stretch) : List Encounter :=
  s.lines.map .line ++ s.interruption?.toList.map .interruption

/-- All that a reader comes upon in an input. -/
def encounters (input : List Fill) : List Encounter :=
  Encounter.dropFirstMark ((stretches input).flatMap Stretch.encounters)

theorem Stretch.lines_encounters (s : Stretch) : Encounter.lines s.encounters = s.lines := by
  simp [Encounter.lines, Stretch.encounters, List.filterMap_map, Function.comp_def,
    Encounter.line?]

theorem Stretch.interruptions_encounters (s : Stretch) :
    Encounter.interruptions s.encounters = s.interruption?.toList := by
  simp [Encounter.interruptions, Stretch.encounters, List.filterMap_map, Function.comp_def,
    Encounter.interruption?]

/-- The lines of an input, told from its stretches. -/
theorem lines_encounters (input : List Fill) :
    Encounter.lines (encounters input) =
      ((stretches input).flatMap Stretch.lines).modifyHead dropMark := by
  rw [encounters, Encounter.lines_dropFirstMark]
  congr 1
  induction stretches input with
  | nil => rfl
  | cons s ss ih =>
      rw [List.flatMap_cons, List.flatMap_cons, ← ih, ← s.lines_encounters]
      exact List.filterMap_append

theorem interruptions_stretchesAfter (earlier begun : List UInt8) (input : List Fill) :
    (stretchesAfter earlier begun input).flatMap (·.interruption?.toList) =
      input.filterMap Fill.interruption? := by
  induction input generalizing earlier begun with
  | nil => rfl
  | cons fill input ih =>
      cases hfill : fill.interruption? with
      | none => simp only [stretchesAfter, hfill, List.filterMap_cons, ih]
      | some i => simp [stretchesAfter, hfill, ih]

/-- A reader comes upon every interruption of its input, once and in order. -/
theorem interruptions_encounters (input : List Fill) :
    Encounter.interruptions (encounters input) = input.filterMap Fill.interruption? := by
  rw [encounters, Encounter.interruptions_dropFirstMark, Encounter.interruptions,
    List.filterMap_flatMap, ← interruptions_stretchesAfter [] [] input]
  exact congrArg (List.flatMap · (stretches input))
    (funext Stretch.interruptions_encounters)

/-- What some encounters give: each frame with the decoder after it, and each interruption
with the decoder that it leaves as it is. -/
def Decoder.reports (d : Decoder) : List Encounter → List (Pull String × Decoder)
  | [] => []
  | .line text :: es =>
      match (d.line text).1 with
      | some frame => (.frame frame, (d.line text).2) :: (d.line text).2.reports es
      | none => (d.line text).2.reports es
  | .interruption i :: es => (i.pull, d) :: d.reports es

namespace Decoder

theorem interruptions_reports (d : Decoder) (es : List Encounter) :
    (d.reports es).filterMap (fun report => report.1.interruption?) =
      Encounter.interruptions es := by
  induction es generalizing d with
  | nil => rfl
  | cons e es ih =>
      cases e with
      | interruption i => simp [reports, ih]
      | line text =>
          cases hframe : (d.line text).1 with
          | none => simp [reports, hframe, ih]
          | some frame => simp [reports, hframe, List.filterMap_cons, ih]

/-- The frames among the reports are those of the lines alone. -/
theorem frames_reports (d : Decoder) (es : List Encounter) :
    (d.reports es).filterMap
        (fun report => report.1.frame?.map fun frame => (frame, report.2.lastEventId)) =
      d.frames (Encounter.lines es) := by
  induction es generalizing d with
  | nil => rfl
  | cons e es ih =>
      cases e with
      | interruption i => simp [reports, ih]
      | line text =>
          cases hframe : (d.line text).1 with
          | none => simp [reports, hframe, frames_cons_of_none hframe, ih]
          | some frame =>
              simp [reports, hframe, frames_cons_of_some hframe, ih]

end Decoder

/-! ## What a scan has consumed -/

theorem endsInReturn_concat (octets : List UInt8) (b : UInt8) :
    endsInReturn (octets ++ [b]) = decide (b = carriageReturn) := by
  simp [endsInReturn]

/-- The flag that a scan leaves says whether it stopped behind a carriage return. -/
theorem endsInReturn_of_scanLine_unfinished {earlier pending octets : List UInt8}
    {skip : Bool} {pending' : List UInt8}
    (h : scanLine (endsInReturn earlier) pending octets = .unfinished skip pending') :
    skip = endsInReturn (earlier ++ octets) := by
  induction octets generalizing earlier pending with
  | nil =>
      cases h
      rw [List.append_nil]
  | cons b octets ih =>
      have hb := endsInReturn_concat earlier b
      rw [List.append_cons]
      simp only [scanLine] at h
      split_ifs at h with hlf hskip hcr
      · exact ih (by rw [hb, hlf]; exact h)
      · exact ih (by rw [hb, decide_eq_false hcr]; exact h)

theorem endsInReturn_of_scanLine_complete {earlier pending octets line : List UInt8}
    {skip : Bool} {rest : List UInt8}
    (h : scanLine (endsInReturn earlier) pending octets = .complete line skip rest) :
    ∃ consumed, octets = consumed ++ rest ∧ skip = endsInReturn (earlier ++ consumed) := by
  obtain ⟨begun, terminator, hoctets, hline⟩ := exists_completesWith_of_scanLine h
  refine ⟨begun ++ [terminator], ?_, ?_⟩
  · rw [hoctets, List.append_assoc, List.singleton_append]
  · rw [← List.append_assoc, endsInReturn_concat]
    exact hline.skips

/-- The lines of a stretch, told from its octets. -/
theorem Stretch.lines_eq_octetLines (s : Stretch) :
    s.lines = (octetLines (endsInReturn s.earlier) s.octets).map Utf8.decodeLossy := by
  have htext (octets : List UInt8) : completeLines (Utf8.decodeLossy octets) =
      (octetLines false octets).map Utf8.decodeLossy := by
    rw [map_decodeLossy_octetLines, completeLines, linesAfter_eq_cutLines]
  rw [Stretch.lines, dropLineFeed, htext]
  congr 1
  split_ifs with hdrop
  · obtain ⟨hend, hhead⟩ := hdrop
    obtain ⟨rest, hoctets⟩ := List.head?_eq_some_iff.mp hhead
    rw [hend, hoctets]
    exact (cutLines_skip_lf [] rest).symm
  · cases hend : endsInReturn s.earlier with
    | false => rfl
    | true =>
        refine (cutLines_skip_of_ne ?_ []).symm
        intro rest hoctets
        exact hdrop ⟨hend, by rw [hoctets]; rfl⟩

/-! ## What a reader has yet to come upon -/

theorem stretchesAfter_fill (earlier begun : List UInt8) (i : Interruption)
    (input : List Fill) :
    stretchesAfter earlier begun (i.fill :: input) =
      ⟨earlier, begun, some i⟩ :: stretchesAfter (earlier ++ begun) [] input := by
  rw [stretchesAfter, i.interruption?_fill]

/-- Pieces in front of an input belong to its first stretch. -/
theorem stretchesAfter_chunkFills {cuts : List (List UInt8)} (hcuts : AreChunks cuts)
    (earlier begun : List UInt8) (tail : List Fill) :
    stretchesAfter earlier begun (chunkFills cuts ++ tail) =
      stretchesAfter earlier (begun ++ cuts.flatten) tail := by
  induction cuts generalizing begun with
  | nil => rw [List.flatten_nil, List.append_nil]; rfl
  | cons cut cuts ih =>
      obtain ⟨hcut, hrest⟩ := List.forall_mem_cons.mp hcuts
      obtain ⟨b, bs, rfl⟩ := List.exists_cons_of_ne_nil hcut
      rw [List.flatten_cons, ← List.append_assoc, ← ih hrest]
      rfl

/-- Every input begins with the pieces of its first stretch. -/
theorem exists_chunkFills (input : List Fill) :
    ∃ cuts tail, AreChunks cuts ∧ input = chunkFills cuts ++ tail ∧
      (tail = [] ∨ ∃ i rest, tail = Interruption.fill i :: rest) := by
  induction input with
  | nil => exact ⟨[], [], List.forall_mem_nil _, rfl, Or.inl rfl⟩
  | cons fill input ih =>
      cases fill with
      | failure cause =>
          exact ⟨[], _, List.forall_mem_nil _, rfl, Or.inr ⟨.failed cause, input, rfl⟩⟩
      | chunk octets =>
          by_cases hoctets : octets = []
          · subst hoctets
            exact ⟨[], _, List.forall_mem_nil _, rfl, Or.inr ⟨.ended, input, rfl⟩⟩
          · obtain ⟨cuts, tail, hcuts, rfl, htail⟩ := ih
            exact ⟨octets :: cuts, tail, List.forall_mem_cons.mpr ⟨hoctets, hcuts⟩, rfl,
              htail⟩

theorem Stretch.encounters_nil (earlier : List UInt8) (i? : Option Interruption) :
    Stretch.encounters ⟨earlier, [], i?⟩ = i?.toList.map .interruption := by
  rw [Stretch.encounters, Stretch.lines_eq_octetLines]
  rfl

theorem flatMap_stretchesAfter_nil (earlier : List UInt8) :
    (stretchesAfter earlier [] []).flatMap Stretch.encounters = [] := by
  simp [stretchesAfter, Stretch.encounters_nil]

theorem flatMap_stretchesAfter_fill (earlier : List UInt8) (i : Interruption)
    (input : List Fill) :
    (stretchesAfter earlier [] (i.fill :: input)).flatMap Stretch.encounters =
      .interruption i :: (stretchesAfter earlier [] input).flatMap Stretch.encounters := by
  simp [stretchesAfter_fill, Stretch.encounters_nil]

/-- The lines of the first stretch come first. -/
theorem flatMap_stretchesAfter_chunkFills {cuts : List (List UInt8)} (hcuts : AreChunks cuts)
    {tail : List Fill} (htail : tail = [] ∨ ∃ i rest, tail = Interruption.fill i :: rest)
    (earlier : List UInt8) :
    (stretchesAfter earlier [] (chunkFills cuts ++ tail)).flatMap Stretch.encounters =
      (octetLines (endsInReturn earlier) cuts.flatten).map
          (fun line => .line (Utf8.decodeLossy line)) ++
        (stretchesAfter (earlier ++ cuts.flatten) [] tail).flatMap Stretch.encounters := by
  have hlines (i? : Option Interruption) : Stretch.encounters ⟨earlier, cuts.flatten, i?⟩ =
      (octetLines (endsInReturn earlier) cuts.flatten).map
          (fun line => .line (Utf8.decodeLossy line)) ++ i?.toList.map .interruption := by
    rw [Stretch.encounters, Stretch.lines_eq_octetLines, List.map_map]
    rfl
  rw [stretchesAfter_chunkFills hcuts, List.nil_append]
  rcases htail with rfl | ⟨i, rest, rfl⟩
  · simp [stretchesAfter, hlines, Stretch.encounters_nil]
  · simp [stretchesAfter_fill, hlines, Stretch.encounters_nil]

namespace Reader

/-- The encounters of which the first line may open the stream. -/
def openingEncounters (atStart : Bool) (es : List Encounter) : List Encounter :=
  if atStart then Encounter.dropFirstMark es else es

theorem openingEncounters_nil (atStart : Bool) : openingEncounters atStart [] = [] := by
  cases atStart <;> rfl

theorem openingEncounters_line (atStart : Bool) (octets : List UInt8) (es : List Encounter) :
    openingEncounters atStart (.line (Utf8.decodeLossy octets) :: es) =
      .line (lineText atStart octets) :: es := by
  cases atStart with
  | false => rfl
  | true =>
      rw [lineText_true]
      rfl

theorem openingEncounters_interruption (atStart : Bool) (i : Interruption)
    (es : List Encounter) :
    openingEncounters atStart (.interruption i :: es) =
      .interruption i :: openingEncounters atStart es := by
  cases atStart <;> rfl

/-- What a reader has yet to come upon: of the octets before its input only the last one
matters, and that only for a line feed in front. -/
def Awaits (r : Reader) (es : List Encounter) : Prop :=
  ∃ earlier, r.skipLineFeed = endsInReturn earlier ∧
    es = openingEncounters r.atStart
      ((stretchesAfter earlier [] r.input).flatMap Stretch.encounters)

theorem awaits_resume (lastEventId : Option String) (input : List Fill) :
    (resume lastEventId input).Awaits (encounters input) :=
  ⟨[], rfl, rfl⟩

/-- What a reader comes upon first, and what it awaits then. -/
inductive Meets (r : Reader) : List Encounter → Prop
  | line {octets : List UInt8} {skip : Bool} {input : List Fill} {es : List Encounter}
      (hread : readLine r.skipLineFeed [] r.input = (.line octets, skip, input))
      (hrest : (r.afterLine (lineText r.atStart octets) skip input).Awaits es) :
      Meets r (.line (lineText r.atStart octets) :: es)
  | interruption {i : Interruption} {after : Reader} {es : List Encounter}
      (hnext : r.next = (i.pull, after)) (hdecoder : after.decoder = r.decoder)
      (hrest : after.Awaits es) : Meets r (.interruption i :: es)
  | finished {after : Reader} (hnext : r.next = (.finished, after))
      (hdecoder : after.decoder = r.decoder) (hrest : after.Awaits []) : Meets r []

theorem Awaits.meets {r : Reader} {es : List Encounter} (h : r.Awaits es) : r.Meets es := by
  obtain ⟨earlier, hskip, rfl⟩ := h
  obtain ⟨cuts, tail, hcuts, hinput, htail⟩ := exists_chunkFills r.input
  rw [hinput, flatMap_stretchesAfter_chunkFills hcuts htail]
  cases hscan : scanLine (endsInReturn earlier) [] cuts.flatten with
  | complete line skip rest =>
      obtain ⟨left, hleft, hflatten, hread⟩ := readLine_of_scanLine_complete hcuts hscan tail
      obtain ⟨consumed, hconsumed, hend⟩ := endsInReturn_of_scanLine_complete hscan
      have hrest := flatMap_stretchesAfter_chunkFills hleft htail (earlier ++ consumed)
      rw [hflatten, ← hend, List.append_assoc, ← hconsumed] at hrest
      rw [octetLines, cutLines_of_scanLine_complete hscan, List.map_cons, List.cons_append,
        openingEncounters_line]
      exact .line (by rw [hinput, hskip, hread]) ⟨earlier ++ consumed, hend, hrest.symm⟩
  | unfinished skip pending =>
      have hread := readLine_of_scanLine_unfinished hcuts hscan tail
      rw [← hskip, ← hinput] at hread
      have hend := endsInReturn_of_scanLine_unfinished hscan
      rw [octetLines, cutLines_of_scanLine_unfinished hscan, List.map_nil, List.nil_append]
      rcases htail with rfl | ⟨i, rest, rfl⟩
      · rw [flatMap_stretchesAfter_nil, openingEncounters_nil]
        refine .finished (next_of_readLine_finished hread) rfl
          ⟨earlier ++ cuts.flatten, hend, ?_⟩
        rw [flatMap_stretchesAfter_nil, openingEncounters_nil]
      · rw [flatMap_stretchesAfter_fill, openingEncounters_interruption]
        cases i with
        | ended =>
            exact .interruption (next_of_readLine_finished hread) rfl
              ⟨earlier ++ cuts.flatten, hend, rfl⟩
        | failed cause =>
            exact .interruption (next_of_readLine_failed hread) rfl
              ⟨earlier ++ cuts.flatten, hend, rfl⟩

/-! ## Single calls -/

/-- What a call gives, and the decoder after it. -/
def call (r : Reader) (n : Nat) : Pull String × Decoder :=
  ((r.after n).next.1, (r.after n).next.2.decoder)

theorem call_zero (r : Reader) : r.call 0 = (r.next.1, r.next.2.decoder) :=
  rfl

theorem call_succ (r : Reader) (n : Nat) : r.call (n + 1) = r.next.2.call n :=
  rfl

/-- A call gives the first report, and the other reports are left. -/
theorem Awaits.next {r : Reader} {es : List Encounter} (h : r.Awaits es) :
    (r.next.1 = .finished ∧ r.decoder.reports es = [] ∧
        r.decoder.feed (Encounter.lines es) = r.next.2.decoder ∧ r.next.2.Awaits []) ∨
      ∃ es', r.decoder.reports es =
          (r.next.1, r.next.2.decoder) :: r.next.2.decoder.reports es' ∧
        r.decoder.feed (Encounter.lines es) =
          r.next.2.decoder.feed (Encounter.lines es') ∧
        r.next.2.Awaits es' := by
  induction es generalizing r with
  | nil =>
      cases h.meets with
      | finished hnext hdecoder hrest =>
          rw [hnext]
          exact Or.inl ⟨rfl, rfl, hdecoder.symm, hrest⟩
  | cons e es ih =>
      cases h.meets with
      | interruption hnext hdecoder hrest =>
          rw [hnext]
          refine Or.inr ⟨es, ?_, ?_, hrest⟩
          · rw [Decoder.reports, hdecoder]
          · rw [Encounter.lines_cons_interruption, hdecoder]
      | @line octets skip input _ hread hrest =>
          cases hframe : (r.decoder.line (lineText r.atStart octets)).1 with
          | some frame =>
              rw [next_of_line_some hread hframe]
              refine Or.inr ⟨es, ?_, rfl, hrest⟩
              rw [Decoder.reports, hframe]
              rfl
          | none =>
              have hreports :
                  r.decoder.reports (.line (lineText r.atStart octets) :: es) =
                    (r.decoder.line (lineText r.atStart octets)).2.reports es := by
                rw [Decoder.reports, hframe]
              rw [next_of_line_none hread hframe, hreports]
              exact ih hrest

/-- Calls give the reports one after another, and no more than the end after them. -/
theorem Awaits.call_eq {r : Reader} {es : List Encounter} (h : r.Awaits es) (n : Nat) :
    r.call n =
      (r.decoder.reports es).getD n (.finished, r.decoder.feed (Encounter.lines es)) := by
  induction n generalizing r es with
  | zero =>
      rcases h.next with ⟨hpull, hreports, hfeed, -⟩ | ⟨es', hreports, -, -⟩
      · rw [hreports, hfeed, call_zero, hpull]
        rfl
      · rw [hreports]
        rfl
  | succ n ih =>
      rw [call_succ]
      rcases h.next with ⟨-, hreports, hfeed, hrest⟩ | ⟨es', hreports, hfeed, hrest⟩
      · rw [ih hrest, hreports, hfeed]
        rfl
      · rw [ih hrest, hreports, hfeed]
        rfl

/-- What interruptions do to a reader, and what outlasts them. -/
structure OutlastsInterruptions (lastEventId : Option String) (input : List Fill) : Prop where
  /-- Each call gives the next report, and nothing but the end comes after the last one. -/
  calls : ∀ n, (resume lastEventId input).call n =
    ((Decoder.resume lastEventId).reports (encounters input)).getD n
      (.finished, (Decoder.resume lastEventId).feed (Encounter.lines (encounters input)))
  /-- The lines are those of the stretches, and only the first one may lose a mark. -/
  lines : Encounter.lines (encounters input) =
    ((stretches input).flatMap Stretch.lines).modifyHead dropMark
  /-- Every fill that is an interruption is reported, once and in order. -/
  interruptions : ((Decoder.resume lastEventId).reports (encounters input)).filterMap
      (fun report => report.1.interruption?) =
    input.filterMap Fill.interruption?
  /-- The frames are those of one decoder that takes in all lines. -/
  frames : ((Decoder.resume lastEventId).reports (encounters input)).filterMap
      (fun report => report.1.frame?.map fun frame => (frame, report.2.lastEventId)) =
    (Decoder.resume lastEventId).frames (Encounter.lines (encounters input))

/-- Whatever fills an input is made of, every interruption is reported in its place and
costs no more than the line that it cuts. -/
theorem outlastsInterruptions_resume (lastEventId : Option String) (input : List Fill) :
    OutlastsInterruptions lastEventId input where
  calls := (awaits_resume lastEventId input).call_eq
  lines := lines_encounters input
  interruptions := by
    rw [Decoder.interruptions_reports, interruptions_encounters]
  frames := Decoder.frames_reports _ _

end Reader

/-- Interruptions between the two octets of a line end, inside a line, and between the
lines of an event: the first mark is dropped, half a line is lost, the event is whole. -/
example :
    encounters [.chunk [0xEF, 0xBB, 0xBF, 0x64, 0x61, 0x74, 0x61, 0x0D], .failure "reset",
        .chunk [], .chunk [0x0A, 0x69, 0x64], .chunk [], .chunk [0x0D]] =
      [.line "data".toList, .interruption (.failed "reset"), .interruption .ended,
        .interruption .ended, .line []] := by
  decide +kernel

end EventStream
end LivePage
